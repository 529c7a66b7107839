import LitearmDriver.Outcome.Basic
import LitearmDriver.Reporting

/-!
# Outcomes of the state, safety, status and parameter handlers

For each handler the command it issues, and the condition under which it issues it.
-/

namespace LitearmDriver

open Interaction Program

variable {σ Body : Type} {env : Environment σ} {g : World σ} {c : Command}

/-! ### State and safety -/

lemma decides_handleEnable (response : Reply Unit) :
    Decides env g (.enable g.shared.enableAttempts.toInt) (LinkUp env g)
      (handleEnable response) :=
  decides_runCommand fun _ => sends_command (fun _ => rfl) fun _ _ => ⟨⟨_, rfl⟩, .refl _, rfl⟩

lemma decides_handleDisable (response : Reply Unit) :
    Decides env g .disable (LinkUp env g) (handleDisable response) :=
  decides_command (fun _ => rfl) fun _ _ => rfl

lemma decides_handleReset (response : Reply Unit) :
    Decides env g .reset (LinkUp env g) (handleReset response) :=
  decides_command (fun _ => rfl) fun _ _ => rfl

lemma decides_handleClearFaults (response : Reply Unit) :
    Decides env g .clearFaults (LinkUp env g) (handleClearFaults response) :=
  decides_command (fun _ => rfl) fun _ _ => rfl

lemma decides_handleEmergencyStop (response : Reply Unit) :
    Decides env g .emergencyStop (LinkUp env g) (handleEmergencyStop response) :=
  .map (Reply.keeps_onSuccess _) (decides_command (fun _ => rfl) fun _ _ => rfl)

lemma decides_handlePark (response : Reply Unit) :
    Decides env g .park (LinkUp env g) (handlePark response) :=
  decides_command (fun _ => rfl) fun _ _ => rfl

/-! ### The interlock -/

/-- What a state read says about the motors: a read that fails says nothing. -/
def reportsEnabled : Except String (Message (Option RobotState)) → Bool
  | .ok ⟨some state, _⟩ => state.enabled
  | _                   => false

/-- The SDK's cached frame reports the motors enabled. -/
def MotorsReported (env : Environment σ) (g : World σ) : Bool :=
  g.shared.arm.isSome && reportsEnabled (g.answer env (.query .getState))

lemma wp_motorsEnabled {Q : Except Abort Bool → World σ → Prop} :
    motorsEnabled.wp env Q g ↔
      if g.shared.arm.isNone then Q (.ok (MotorsReported env g)) g
      else Q (.ok (MotorsReported env g)) (g.after env (.query .getState)) := by
  rw [motorsEnabled, wp_bind, wp_self]
  dsimp only
  cases harm : g.shared.arm with
  | none => simp [MotorsReported, harm]
  | some arm =>
    rw [if_neg (by simp), if_neg (by simp), wp_bind, wp_query]
    have hreported : MotorsReported env g = reportsEnabled (g.answer env (.query .getState)) := by
      simp [MotorsReported, harm]
    rw [hreported]
    rcases g.answer env (.query .getState) with what | ⟨_ | state, stamp⟩
    · rfl
    · rfl
    · rfl

/-- A service that reads the motors first and passes the reading, through `b`, to its gate.
The link is looked at after the reading. -/
theorem decides_interlocked (b : Bool → Bool) {operation : String} {response : Reply Body}
    {rest : Code (Reply Body)}
    (h : ∀ g' : World σ, g'.shared = g.shared → Decides env g' c (LinkUp env g') rest) :
    Decides env g c
      (b (MotorsReported env g) = false ∧ LinkUp env (g.after env (.query .getState)))
      (motorsEnabled >>= fun enabled =>
        refuseUnless (checkRequiresDisabled (b enabled) operation) response rest) := by
  have hgate : (checkRequiresDisabled (b (MotorsReported env g)) operation).ok = true ↔
      b (MotorsReported env g) = false := by
    cases b (MotorsReported env g) <;> simp [checkRequiresDisabled]
  rw [← hgate]
  by_cases harm : g.shared.arm.isNone = true
  · have hdown : ∀ g' : World σ, g'.shared = g.shared → ¬ LinkUp env g' := by
      intro g' hshared hlink
      have hsome := hlink.1
      rw [hshared] at hsome
      simp [Option.isSome_iff_ne_none.mp hsome] at harm
    refine Decides.of_reading (w := g) (a := MotorsReported env g) ?_ (.refl g) rfl ?_
    · rw [wp_motorsEnabled, if_pos harm]
      exact ⟨rfl, rfl⟩
    · refine decides_refuseUnless (explained_checkRequiresDisabled _ _) ?_
      exact (h g rfl).congr (iff_of_false (hdown g rfl) (hdown _ rfl))
  · refine Decides.of_reading (w := g.after env (.query .getState))
      (a := MotorsReported env g) ?_ (.query _ g) rfl ?_
    · rw [wp_motorsEnabled, if_neg harm]
      exact ⟨rfl, rfl⟩
    · exact decides_refuseUnless (explained_checkRequiresDisabled _ _) (h _ rfl)

lemma decides_handleSaveParams (response : Reply Unit) :
    Decides env g .saveParams
      (MotorsReported env g = false ∧ LinkUp env (g.after env (.query .getState)))
      (handleSaveParams response) :=
  decides_interlocked id fun _ _ => decides_command (fun _ => rfl) fun _ _ => rfl

lemma decides_handleResetFactoryParams (response : Reply Unit) :
    Decides env g .resetFactory
      (MotorsReported env g = false ∧ LinkUp env (g.after env (.query .getState)))
      (handleResetFactoryParams response) :=
  decides_interlocked id fun _ _ => decides_command (fun _ => rfl) fun _ _ => rfl

/-! ### DFU and zero gravity -/

lemma decides_handleEnterDfu (response : Reply Unit) :
    Decides env g .enterDfu
      ((checkParameterAllows g.shared.parameters.allowDfu "allow_dfu").ok = true ∧ LinkUp env g)
      (handleEnterDfu response) := by
  refine decides_self (decides_refuseUnless (explained_checkParameterAllows _ _) ?_)
  exact .map (Reply.keeps_replaceOnSuccess (by simp))
    (decides_command (fun _ => rfl) fun _ _ => rfl)

lemma wp_startZeroG (h : g.shared.arm.isSome = true) (periodS : Double)
    {Q : Except Abort Unit → World σ → Prop} :
    (startZeroG periodS).wp env Q g ↔ (command (.zeroGStart periodS)).wp env Q g := by
  rw [startZeroG, wp_bind, wp_self]
  dsimp only
  rw [if_neg (by simpa [Option.isSome_iff_ne_none] using h), wp_armCommand h]

lemma wp_stopZeroG (h : g.shared.arm.isSome = true) {Q : Except Abort Unit → World σ → Prop} :
    stopZeroG.wp env Q g ↔ (command (.zeroGStop true)).wp env Q g := by
  rw [stopZeroG, wp_bind, wp_self]
  dsimp only
  rw [if_neg (by simpa [Option.isSome_iff_ne_none] using h), wp_armCommand h]

lemma decides_handleZeroG_start {request : SetBool.Request} (hdata : request.data = true)
    (response : Reply Unit) :
    Decides env g (.zeroGStart g.shared.parameters.zeroGKeepalivePeriodS)
      ((checkZeroGPeriod g.shared.parameters.zeroGKeepalivePeriodS).ok = true ∧ LinkUp env g)
      (handleZeroG request response) := by
  rw [handleZeroG, if_pos hdata]
  refine decides_self (decides_refuseUnless (explained_checkZeroGPeriod _) ?_)
  refine .map (Reply.keeps_replaceOnSuccess (by simp)) (decides_runCommand fun hlink => ?_)
  have harm : (g.after env (.query .isConnected)).shared.arm.isSome = true := hlink.1
  rw [wp_bind_congr fun R => wp_startZeroG harm _]
  exact sends_command (fun _ => rfl) fun _ _ => ⟨⟨_, rfl⟩, .refl _, rfl⟩

lemma decides_handleZeroG_stop {request : SetBool.Request} (hdata : request.data = false)
    (response : Reply Unit) :
    Decides env g (.zeroGStop true) (LinkUp env g) (handleZeroG request response) := by
  rw [handleZeroG, if_neg (by simp [hdata])]
  refine .map (Reply.keeps_replaceOnSuccess (by simp)) (decides_runCommand fun hlink => ?_)
  have harm : (g.after env (.query .isConnected)).shared.arm.isSome = true := hlink.1
  rw [wp_bind_congr fun R => wp_stopZeroG harm]
  exact sends_command (fun _ => rfl) fun _ _ => ⟨⟨_, rfl⟩, .refl _, rfl⟩

/-! ### Status -/

/-- The frame is held and the message built only after the firmware answered. -/
lemma decides_handleGetStatus (request : GetStatus.Request) (response : Reply LitearmStatus) :
    Decides env g (.getStatusNow request.timeout) (LinkUp env g)
      (handleGetStatus request response) := by
  refine decides_runCommand fun _ => sends_command (fun _ => rfl) fun message g' => ?_
  simp only [wp_bind, wp_assign]
  refine quiet_buildStatus fun m g'' _ hquiet => ?_
  exact ⟨⟨_, rfl⟩, hquiet.log, hquiet.shared⟩

/-- A reply that reports success carries a status built from the frame the firmware answered
with, after it was answered; a failed one carries the status it started from. -/
lemma builds_handleGetStatus (request : GetStatus.Request) (response : Reply LitearmStatus) :
    (handleGetStatus request response).wp env (fun r g' => ∃ reply, r = .ok reply ∧
      (reply.success = false ∧ reply.body = response.body ∨
        reply.success = true ∧ ∃ g₁ message later, Quiet g g₁ ∧
          g₁.answer env (.command (.getStatusNow request.timeout)) = .ok message ∧
          g'.history = later ++
            ⟨.command (.getStatusNow request.timeout), .ok message⟩ :: g₁.history ∧
          (∀ e ∈ later, e.1.isQuiet = true) ∧
          g'.shared = g.shared.holdFrame message.value message.timestamp ∧
          reply.body.BuiltFrom g'.shared (some message.value) later)) g := by
  rw [handleGetStatus, runCommand, wp_bind]
  refine quiet_connected fun link g₁ hquiet => ?_
  dsimp only
  rw [wp_refuseUnless]
  split
  case isFalse => exact ⟨_, rfl, .inl ⟨rfl, rfl⟩⟩
  rw [wp_catching, wp_bind, wp_bind, wp_command]
  cases hanswer : g₁.answer env (.command (.getStatusNow request.timeout)) with
  | error what => exact ⟨_, rfl, .inl ⟨rfl, rfl⟩⟩
  | ok message =>
    rw [wp_orThrow_ok]
    simp only [wp_bind, wp_assign]
    refine builds_buildStatus fun m later g₂ hshared hlater hall hm => ?_
    have hheld : g₂.shared = g.shared.holdFrame message.value message.timestamp := by
      rw [hshared, ← hquiet.shared]
      rfl
    refine ⟨_, rfl, .inr ⟨rfl, g₁, message, later, hquiet, hanswer, ?_, hall, hheld, ?_⟩⟩
    · rw [← hanswer]
      exact hlater
    · rw [← hshared] at hm
      exact hm

/-- The status in the reply is the one the handler was given, or a report on the node as the
call leaves it. -/
lemma reports_handleGetStatus (request : GetStatus.Request) (response : Reply LitearmStatus) :
    (handleGetStatus request response).wp env (fun r g' => ∀ reply, r = .ok reply →
      reply.body = response.body ∨ ∃ frame, reply.body.ReportOf g'.shared (some frame)) g := by
  apply wp_mono (builds_handleGetStatus request response)
  rintro r g' ⟨reply, rfl, h⟩ reply' hreply
  cases hreply
  rcases h with ⟨-, hbody⟩ | ⟨-, g₁, message, later, -, -, -, -, -, hbuilt⟩
  · exact .inl hbody
  · exact .inr ⟨message.value, hbuilt.reportOf⟩

/-! ### Motion configuration -/

lemma decides_handleSetSpeedScaling (request : SetSpeedScaling.Request)
    (response : Reply Unit) :
    Decides env g (.setSpeed request.percent.toNat)
      ((checkSpeedPercent request.percent.toNat).ok = true ∧ LinkUp env g)
      (handleSetSpeedScaling request response) := by
  refine decides_refuseUnless (explained_checkSpeedPercent _) (decides_runCommand fun _ => ?_)
  refine sends_command (fun _ => rfl) fun _ g' => ?_
  rw [wp_bind, wp_assign]
  exact ⟨⟨_, rfl⟩, .refl _, by simp [Command.effect]⟩

lemma decides_handleSetMotionMode (request : SetMotionMode.Request) (response : Reply Unit) :
    Decides env g (.setMotionMode request.mode.toInt) (LinkUp env g)
      (handleSetMotionMode request response) :=
  .map (Reply.keeps_onSuccess _) (decides_command (fun _ => rfl) fun _ _ => rfl)

lemma decides_handleSetPayload (request : SetPayload.Request) (response : Reply Unit) :
    Decides env g (.setPayload request.mass request.com)
      ((checkMass request.mass).ok = true ∧ (checkCom request.com).ok = true ∧ LinkUp env g)
      (handleSetPayload request response) := by
  refine decides_refuseUnless (explained_checkMass _) ?_
  refine decides_refuseUnless (explained_checkCom _) ?_
  exact .map (Reply.keeps_onSuccess _) (decides_command (fun _ => rfl) fun _ _ => rfl)

/-! ### Feedforward -/

lemma decides_handleSetFeedforwardMask (request : SetFeedforwardMask.Request)
    (response : Reply Unit) :
    Decides env g (.setFfMask request.mask) (LinkUp env g)
      (handleSetFeedforwardMask request response) :=
  decides_command (fun _ => rfl) fun _ _ => rfl

lemma decides_handleSetFeedforwardPreset (request : SetFeedforwardPreset.Request)
    (response : Reply Unit) :
    Decides env g (.ffPreset request.preset.toInt)
      ((checkFfPreset request.preset.toInt).ok = true ∧ LinkUp env g)
      (handleSetFeedforwardPreset request response) :=
  decides_refuseUnless (explained_checkFfPreset _) (decides_command (fun _ => rfl) fun _ _ => rfl)

lemma decides_handleSetFeedforwardScalar (request : SetFeedforwardScalar.Request)
    (response : Reply Unit) :
    Decides env g (.setFfScalar request.item.toInt request.sub.toInt request.value)
      (LinkUp env g) (handleSetFeedforwardScalar request response) :=
  decides_command (fun _ => rfl) fun _ _ => rfl

lemma decides_handleSetFeedforwardVector (request : SetFeedforwardVector.Request)
    (response : Reply Unit) :
    Decides env g (.setFfVec request.item.toInt request.values)
      ((checkFfValues request.values).ok = true ∧ LinkUp env g)
      (handleSetFeedforwardVector request response) :=
  decides_refuseUnless (explained_checkFfValues _) (decides_command (fun _ => rfl) fun _ _ => rfl)

lemma decides_handleGetFeedforwardScalar (request : GetFeedforwardScalar.Request)
    (response : Reply Double) :
    Decides env g (.getFfScalar request.item.toInt request.sub.toInt) (LinkUp env g)
      (handleGetFeedforwardScalar request response) :=
  decides_command (fun _ => rfl) fun _ _ => rfl

/-! ### Joint parameters -/

lemma refuseUnlessConnected_eq (response : Reply Body) (rest : Code (Reply Body)) :
    refuseUnlessConnected response rest =
      (connected >>= fun link => refuseUnless (checkConnected link) response rest) := by
  rw [refuseUnlessConnected]
  congr
  funext link
  cases link <;> rfl

/-- The axis count a joint handler checks against, read after the link check. -/
def axesSeen (env : Environment σ) (g : World σ) : Nat :=
  (g.after env (.query .isConnected)).answer env (.query .n)

/-- The configuration in which `runCommand` of a joint handler looks at the link again. -/
def afterAxes (env : Environment σ) (g : World σ) : World σ :=
  (g.after env (.query .isConnected)).after env (.query .n)

/-- The link check and the axis check of the joint handlers. -/
lemma decides_joint {joint : Int} {response : Reply Body} {rest : Code (Reply Body)}
    (h : Decides env (afterAxes env g) c (LinkUp env (afterAxes env g)) rest) :
    Decides env g c
      (LinkUp env g ∧ (checkJointIndex joint (axesSeen env g)).ok = true ∧
        LinkUp env (afterAxes env g))
      (refuseUnlessConnected response do
        let axes ← armQuery .n
        refuseUnless (checkJointIndex joint axes) response rest) := by
  rw [refuseUnlessConnected_eq]
  refine decides_connected fun hlink => ?_
  have hsome : (g.after env (.query .isConnected)).shared.arm.isSome = true := hlink.1
  refine Decides.of_reading (w := afterAxes env g) (a := axesSeen env g) ?_
    (.query _ _) rfl ?_
  · rw [wp_armQuery hsome]
    exact ⟨rfl, rfl⟩
  · exact decides_refuseUnless (explained_checkJointIndex _ _) h

lemma decides_handleGetJointParams_one {request : GetJointParams.Request}
    (hjoint : 0 ≤ request.joint.toInt) (response : Reply (List JointParam)) :
    Decides env g (.getJointParam request.joint.toInt)
      (LinkUp env g ∧ (checkJointIndex request.joint.toInt (axesSeen env g)).ok = true ∧
        LinkUp env (afterAxes env g))
      (handleGetJointParams request response) := by
  simp only [handleGetJointParams, if_pos hjoint]
  exact decides_joint (decides_command (fun _ => rfl) fun _ _ => rfl)

lemma decides_handleGetJointParams_all {request : GetJointParams.Request}
    (hjoint : ¬ 0 ≤ request.joint.toInt) (response : Reply (List JointParam)) :
    Decides env g .allJointParams
      (LinkUp env g ∧ LinkUp env (g.after env (.query .isConnected)))
      (handleGetJointParams request response) := by
  simp only [handleGetJointParams, if_neg hjoint]
  rw [refuseUnlessConnected_eq]
  exact decides_connected fun _ => decides_command (fun _ => rfl) fun _ _ => rfl

lemma decides_handleSetJointGains (request : SetJointGains.Request) (response : Reply Unit) :
    Decides env g
      (.setJointParam request.joint.toInt request.kp request.kd request.tauMax)
      (LinkUp env g ∧ (checkJointIndex request.joint.toInt (axesSeen env g)).ok = true ∧
        LinkUp env (afterAxes env g))
      (handleSetJointGains request response) :=
  decides_joint (decides_command (fun _ => rfl) fun _ _ => rfl)

lemma decides_handleSetJointLimits (request : SetJointLimits.Request)
    (response : Reply Unit) :
    Decides env g (.setJointLimits request.joint.toInt request.qMin request.qMax)
      (LinkUp env g ∧ (checkJointIndex request.joint.toInt (axesSeen env g)).ok = true ∧
        LinkUp env (afterAxes env g))
      (handleSetJointLimits request response) :=
  decides_joint (decides_command (fun _ => rfl) fun _ _ => rfl)

end LitearmDriver
