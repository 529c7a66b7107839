import LitearmDriver.System

/-!
# A bench

A simulated SDK and middleware to run the node against. The device that answers, the frame
it has sent and the outcome of a licence read and of ENABLE are scripted session by session;
everything else succeeds.
-/

namespace LitearmDriver

open Interaction

/-- A record of an activated licence. -/
def activatedLicense (uid : String) : LicenseInfo := ⟨2, "activated", uid, true⟩

/-- A frame of an arm whose motors are enabled or not, with no fault. -/
def steadyFrame (enabled : Bool) : RobotState :=
  { enabled := enabled, faulted := false, cartBusy := false, dropHoldInferred := false
    jointFault := 0, mode := 0, modeName := "HOLD", flags := 0, faultDetail := "", joints := [] }

/-- A frame with this number of joints. -/
def frameOfAxes (axes : Nat) : RobotState :=
  { steadyFrame true with joints := List.replicate axes ⟨0, 0, 0, 30, 30, 0⟩ }

/-- One session: what the device on the port reports. -/
structure Session where
  axes : Nat := 6
  frame : Option RobotState := none
  license : Except String LicenseInfo := .ok (activatedLicense "A1")
  enable : Except String Unit := .ok ()

/-- The bench: whether the link is up, the session, and the sessions to come. -/
structure Bench where
  connected : Bool := false
  current : Session := {}
  upcoming : List Session := []

/-- The next session of the script starts with a live link. -/
def Bench.openSession (b : Bench) : Bench :=
  { connected := true, current := b.upcoming.headD b.current, upcoming := b.upcoming.tail }

def Bench.closeSession (b : Bench) : Bench := { b with connected := false }

/-- What accessors answer. -/
def Bench.read (b : Bench) : (q : Query) → q.Answer
  | .isConnected => b.connected
  | .isInDfu => false
  | .firmware => "1.8.0"
  | .lastResetReason => "power on"
  | .zeroGActive => false
  | .zeroGErrorText => ""
  | .n => b.current.axes
  | .getState => .ok ⟨b.current.frame, 1⟩
  | .portString => "/dev/ttyACM0"
  | .hostStats => ⟨false, 0, 0, 0, 0, 0⟩
  | .bannerVersion => none
  | .cartSupported => true
  | .statusSeq => 0
  | .msgHz _ => 0
  | .ffVecItems | .ffScalarItems | .ffScalarRoItems => []
  | .responseId _ => 0
  | .sampleSize axes => 4 + 12 * axes
  | .kinBenchTimeout => 2

/-- What a command that nothing is scripted for answers. -/
def Bench.perform (b : Bench) : (c : Command) → Except String c.Answer
  | .license => b.current.license
  | .enable _ => b.current.enable
  | .getStatusNow _ => .ok ⟨b.current.frame.getD (steadyFrame false), 1⟩
  | .getFfScalar .. => .ok 0
  | .getFfVec _ | .modelGetBody _ | .modelGetJm | .ik .. => .ok []
  | .getFfMask => .ok 0
  | .allJointParams => .ok []
  | .getJointParam joint => .ok ⟨.ofInt joint, 0, 0, 0, 0, 0⟩
  | .moveL .. | .moveC .. | .movePath .. => .ok ⟨true, true, 0, 0, 0, 0, []⟩
  | .pollCart => .ok none
  | .modelProbe => .ok true
  | .modelStatus => .ok ⟨0, 0, 0⟩
  | .getTcp => .ok none
  | .kinBench _ => .ok ⟨"", [], 0, 0, 0, 0, 0, 0, 0, 0⟩
  | .logDump .. => .ok 0
  | .connect | .close | .reconnect | .disable | .reset | .clearFaults | .emergencyStop | .park
  | .saveParams | .resetFactory | .enterDfu | .zeroGStart _ | .zeroGStop _ | .setSpeed _
  | .setMotionMode _ | .setPayload .. | .setFfMask _ | .ffPreset _ | .setFfScalar ..
  | .setFfVec .. | .setGravityScale _ | .setInertiaScale _ | .setGravityVector _
  | .setJointParam .. | .setJointLimits .. | .movej .. | .movejSync .. | .moveP .. | .moveJs ..
  | .sendMit .. | .sendMitAll .. | .home | .modelSetBody .. | .modelSetJm _ | .modelCommit _
  | .modelRevert | .logStart _ | .logStop => .ok ()

/-- The bench as an environment of the node. -/
def bench : Environment Bench
  | .query q, b => (b.read q, b)
  | .command .connect, b => (.ok (), b.openSession)
  | .command .reconnect, b => (.ok (), b.openSession)
  | .command .close, b => (.ok (), b.closeSession)
  | .command c, b => (b.perform c, b)
  | .createArm _, b => (.ok true, b)
  | .destroyArm, b => ((), b.closeSession)
  | .create _, b => (.ok (), b)
  | .destroy _, b => ((), b)
  | .publish _, b => ((), b)
  | .steadyNow, b => (2, b)
  | .now, b => (0, b)
  | .getenvHome, b => (some "/root", b)
  | .createDirectories _, b => (.ok (), b)

/-- Run callbacks one after another on the bench, from a node that was just constructed. -/
def benchRun (p : Parameters) (sessions : List Session) (callbacks : List Callback) :
    World Bench :=
  callbacks.foldl (fun g cb => step bench cb g) (.fresh "litearm_driver" p { upcoming := sessions })

lemma reachable_benchRun (p : Parameters) (sessions : List Session) (callbacks : List Callback) :
    Reachable bench (benchRun p sessions callbacks) := by
  suffices h : ∀ g, Reachable bench g →
      Reachable bench (callbacks.foldl (fun g cb => step bench cb g) g) from h _ (.fresh _ _ _)
  induction callbacks with
  | nil => exact fun g hg => hg
  | cons cb callbacks ih => exact fun g hg => ih _ (.step cb trivial hg)

/-- A node in service on a six-axis arm. -/
def configuredBench : World Bench :=
  benchRun {} [{}] [.changeState .configure, .changeState .activate]

/-- The last event of a callback that has made a call is one of its own. -/
lemma mem_of_last {σ : Type} {env : Environment σ} {g : World σ} {cb : Callback}
    {e : Event Call.Answer} {new : List (Event Call.Answer)}
    (hnew : (step env cb g).history = new ++ g.history)
    (hlast : (step env cb g).history.head? = some e)
    (hgrown : (step env cb g).history.length ≠ g.history.length) : e ∈ new := by
  cases new with
  | nil => exact absurd (congrArg List.length hnew) hgrown
  | cons e' new =>
    rw [hnew] at hlast
    rw [← Option.some.inj hlast]
    exact List.mem_cons_self

end LitearmDriver
