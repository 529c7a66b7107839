import LitearmDriver.Outcome.Diagnostics
import LitearmDriver.Services

/-!
# How the call of a service ends

One statement for the whole surface: what every handler sends, what it leaves in the node and
what it replies. Everything said about an arbitrary service is read off these exits.
-/

namespace LitearmDriver

open Interaction Program

variable {σ : Type} {env : Environment σ} {g : World σ}

/-- The service a command belongs to. Opening and closing the session and reading the
licence record belong to none. -/
def Command.owner : Command → Option Service
  | .connect | .close | .license => none
  | .reconnect => some .reconnect
  | .enable _ => some .enable
  | .disable => some .disable
  | .reset => some .reset
  | .clearFaults => some .clearFaults
  | .emergencyStop => some .emergencyStop
  | .park => some .park
  | .saveParams => some .saveParams
  | .resetFactory => some .resetFactoryParams
  | .enterDfu => some .enterDfu
  | .zeroGStart _ | .zeroGStop _ => some .zeroG
  | .getStatusNow _ => some .getStatus
  | .setSpeed _ => some .setSpeedScaling
  | .setMotionMode _ => some .setMotionMode
  | .setPayload .. => some .setPayload
  | .setFfMask _ => some .setFeedforwardMask
  | .ffPreset _ => some .setFeedforwardPreset
  | .setFfScalar .. => some .setFeedforwardScalar
  | .setFfVec .. => some .setFeedforwardVector
  | .getFfScalar .. => some .getFeedforwardScalar
  | .getFfVec _ => some .getFeedforwardVector
  | .getFfMask => some .getFeedforwardMask
  | .setGravityScale _ => some .setGravityScale
  | .setInertiaScale _ => some .setInertiaScale
  | .setGravityVector _ => some .setGravityVector
  | .allJointParams | .getJointParam _ => some .getJointParams
  | .setJointParam .. => some .setJointGains
  | .setJointLimits .. => some .setJointLimits
  | .movej .. => some .moveJ
  | .movejSync .. => some .moveJSync
  | .moveP .. => some .moveP
  | .moveJs .. => some .moveJs
  | .sendMit .. => some .sendMit
  | .sendMitAll .. => some .sendMitAll
  | .home => some .home
  | .moveL .. => some .moveL
  | .moveC .. => some .moveC
  | .movePath .. => some .movePath
  | .pollCart => some .pollCart
  | .ik .. => some .inverseKinematics
  | .modelProbe => some .probeModel
  | .modelGetBody _ => some .getModelBody
  | .modelSetBody .. => some .setModelBody
  | .modelGetJm => some .getModelJm
  | .modelSetJm _ => some .setModelJm
  | .modelCommit _ => some .commitModel
  | .modelRevert => some .revertModel
  | .modelStatus => some .getModelStatus
  | .getTcp => some .getTcp
  | .kinBench _ => some .kinBench
  | .logStart _ => some .logStart
  | .logStop => some .logStop
  | .logDump .. => some .logDump

/-- How the call of a service ends. -/
inductive ServiceExit (env : Environment σ) (g : World σ) :
    (s : Service) → Except Abort s.Response → World σ → Prop where
  | declined {s : Service} {response : s.Response} {g' : World σ} (hlog : Log [] g g')
      (hshared : g'.shared = g.shared) (hmessage : response.message ≠ "")
      (hfailed : s ≠ .getFeedforwardCatalog → s ≠ .getDiagnostics →
        response.success = false) :
    ServiceExit env g s (.ok response) g'
  | issued {s : Service} {response : s.Response} {c : Command} {x : Except String c.Answer}
      {g' : World σ} (hs : s ≠ .reconnect) (howner : c.owner = some s)
      (hlog : Log [⟨c, x⟩] g g') (hshared : g'.shared = c.effect x g.shared)
      (hmessage : response.message ≠ "") (hsuccess : response.success = true ↔ c.Accepted x) :
    ServiceExit env g s (.ok response) g'
  | reconnected {response : Reply Unit} {g' : World σ} (hmessage : response.message ≠ "")
      (hexit : ReconnectExit env g response g') :
    ServiceExit env g .reconnect (.ok response) g'

lemma exit_of_decides {s : Service} {c : Command} {G : Prop} {p : Code s.Response}
    (hs : s ≠ .reconnect) (hc : c.owner = some s) (h : Decides env g c G p) :
    p.wp env (ServiceExit env g s) g := by
  refine wp_mono h fun r g' hd => ?_
  by_cases hG : G
  · obtain ⟨x, response, hlog, hshared, rfl, hmessage, hsuccess⟩ := hd.issued hG
    exact .issued hs hc hlog hshared hmessage hsuccess
  · obtain ⟨hlog, hshared, response, rfl, hfailed, hmessage⟩ := hd.refused hG
    exact .declined hlog hshared hmessage fun _ _ => hfailed

lemma exit_of_reads {s : Service} {p : Code s.Response}
    (hs : s = .getFeedforwardCatalog ∨ s = .getDiagnostics) (h : p.wp env (Reads g) g) :
    p.wp env (ServiceExit env g s) g := by
  refine wp_mono h ?_
  rintro r g' ⟨hquiet, response, rfl, hmessage⟩
  refine .declined hquiet.log hquiet.shared hmessage fun hcatalog hdiagnostics => ?_
  rcases hs with hs | hs
  · exact absurd hs hcatalog
  · exact absurd hs hdiagnostics

lemma exit_reconnect (response : Reply Unit) :
    (handleReconnect response).wp env (ServiceExit env g .reconnect) g := by
  refine wp_mono (reconnect_exit response) ?_
  rintro r g' ⟨response', rfl, hmessage, hexit⟩
  exact .reconnected hmessage hexit

/-- Every handler ends in one of these ways, whatever response it starts from. -/
theorem handle_exit (s : Service) (request : s.Request) (response : s.Response) :
    (s.handle request response).wp env (ServiceExit env g s) g := by
  by_cases hs : s = .reconnect
  · subst hs
    exact exit_reconnect _
  cases s with
  | reconnect => exact absurd rfl hs
  | home => exact exit_of_decides hs rfl (decides_handleHome _)
  | revertModel => exact exit_of_decides hs rfl (decides_handleRevertModel _)
  | logStop => exact exit_of_decides hs rfl (decides_handleLogStop _)
  | enable => exact exit_of_decides hs rfl (decides_handleEnable _)
  | disable => exact exit_of_decides hs rfl (decides_handleDisable _)
  | reset => exact exit_of_decides hs rfl (decides_handleReset _)
  | clearFaults => exact exit_of_decides hs rfl (decides_handleClearFaults _)
  | emergencyStop => exact exit_of_decides hs rfl (decides_handleEmergencyStop _)
  | park => exact exit_of_decides hs rfl (decides_handlePark _)
  | saveParams => exact exit_of_decides hs rfl (decides_handleSaveParams _)
  | resetFactoryParams => exact exit_of_decides hs rfl (decides_handleResetFactoryParams _)
  | enterDfu => exact exit_of_decides hs rfl (decides_handleEnterDfu _)
  | zeroG =>
    by_cases hdata : request.data = true
    · exact exit_of_decides hs rfl (decides_handleZeroG_start hdata _)
    · have hfalse : request.data = false := by simpa using hdata
      exact exit_of_decides hs rfl (decides_handleZeroG_stop hfalse _)
  | getTcp => exact exit_of_decides hs rfl (decides_handleGetTcp _)
  | getDiagnostics => exact exit_of_reads (.inr rfl) (reads_handleGetDiagnostics _)
  | kinBench => exact exit_of_decides hs rfl (decides_handleKinBench _ _)
  | moveJ => exact exit_of_decides hs rfl (decides_handleMoveJ _ _)
  | moveJSync => exact exit_of_decides hs rfl (decides_handleMoveJSync _ _)
  | moveP => exact exit_of_decides hs rfl (decides_handleMoveP _ _)
  | moveJs => exact exit_of_decides hs rfl (decides_handleMoveJs _ _)
  | sendMit => exact exit_of_decides hs rfl (decides_handleSendMit _ _)
  | sendMitAll => exact exit_of_decides hs rfl (decides_handleSendMitAll _ _)
  | moveL => exact exit_of_decides hs rfl (decides_handleMoveL _ _)
  | moveC => exact exit_of_decides hs rfl (decides_handleMoveC _ _)
  | movePath => exact exit_of_decides hs rfl (decides_handleMovePath _ _)
  | pollCart => exact exit_of_decides hs rfl (decides_handlePollCart _)
  | inverseKinematics => exact exit_of_decides hs rfl (decides_handleInverseKinematics _ _)
  | getFeedforwardVector => exact exit_of_decides hs rfl (decides_handleGetFeedforwardVector _ _)
  | getFeedforwardMask => exact exit_of_decides hs rfl (decides_handleGetFeedforwardMask _)
  | getFeedforwardCatalog =>
    exact exit_of_reads (.inl rfl) (reads_handleGetFeedforwardCatalog response)
  | setGravityScale => exact exit_of_decides hs rfl (decides_handleSetGravityScale _ _)
  | setInertiaScale => exact exit_of_decides hs rfl (decides_handleSetInertiaScale _ _)
  | setGravityVector => exact exit_of_decides hs rfl (decides_handleSetGravityVector _ _)
  | probeModel => exact exit_of_decides hs rfl (decides_handleProbeModel _)
  | getModelBody => exact exit_of_decides hs rfl (decides_handleGetModelBody _ _)
  | setModelBody => exact exit_of_decides hs rfl (decides_handleSetModelBody _ _)
  | getModelJm => exact exit_of_decides hs rfl (decides_handleGetModelJm _)
  | setModelJm => exact exit_of_decides hs rfl (decides_handleSetModelJm _ _)
  | commitModel => exact exit_of_decides hs rfl (decides_handleCommitModel _ _)
  | getModelStatus => exact exit_of_decides hs rfl (decides_handleGetModelStatus _)
  | logStart => exact exit_of_decides hs rfl (decides_handleLogStart _ _)
  | logDump => exact exit_of_decides hs rfl (decides_handleLogDump _ _)
  | getStatus => exact exit_of_decides hs rfl (decides_handleGetStatus _ _)
  | setSpeedScaling => exact exit_of_decides hs rfl (decides_handleSetSpeedScaling _ _)
  | setMotionMode => exact exit_of_decides hs rfl (decides_handleSetMotionMode _ _)
  | setPayload => exact exit_of_decides hs rfl (decides_handleSetPayload _ _)
  | setFeedforwardMask => exact exit_of_decides hs rfl (decides_handleSetFeedforwardMask _ _)
  | setFeedforwardPreset => exact exit_of_decides hs rfl (decides_handleSetFeedforwardPreset _ _)
  | setFeedforwardScalar => exact exit_of_decides hs rfl (decides_handleSetFeedforwardScalar _ _)
  | setFeedforwardVector => exact exit_of_decides hs rfl (decides_handleSetFeedforwardVector _ _)
  | getFeedforwardScalar => exact exit_of_decides hs rfl (decides_handleGetFeedforwardScalar _ _)
  | getJointParams =>
    by_cases hjoint : 0 ≤ request.joint.toInt
    · exact exit_of_decides hs rfl (decides_handleGetJointParams_one hjoint _)
    · exact exit_of_decides hs rfl (decides_handleGetJointParams_all hjoint _)
  | setJointGains => exact exit_of_decides hs rfl (decides_handleSetJointGains _ _)
  | setJointLimits => exact exit_of_decides hs rfl (decides_handleSetJointLimits _ _)

end LitearmDriver
