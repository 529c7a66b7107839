import LitearmDriver.Services

/-!
# Lifecycle

The transition callbacks of the node, and the state machine of `rclcpp_lifecycle` that runs
them: a callback that throws counts as `ERROR`, `ERROR` is handled by `on_error`, and a
success of `on_error` leads to `unconfigured`.
-/

namespace LitearmDriver

open Interaction

inductive CallbackReturn where
  | success
  | failure
  | error
  deriving DecidableEq

/-! ### Parameters -/

/-- The members `read_parameters` copies from the parameter storage. -/
def Node.readParameters (home : Option String) (node : Node) : Node :=
  let p := node.parameters
  { node with
    port := p.port
    jointNames := p.jointNames
    autoEnable := p.autoEnable
    enableAttempts := p.enableAttempts.toInt32
    statusRateHz := p.statusRateHz
    publishJointStates := p.publishJointStates
    jointStatesTopic := p.jointStatesTopic
    publishDiagnostics := p.publishDiagnostics
    diagnosticsRateHz := p.diagnosticsRateHz
    frameId := p.frameId
    logDir := if p.logDir = "" then home.getD "." ++ "/.ros/litearm" else p.logDir }

/-- `HOME` is consulted only when `log_dir` is empty. -/
def readParameters : Code Unit := do
  let node ← self
  if node.parameters.logDir = "" then
    let home ← ask .getenvHome
    assign (.readParameters home)
  else assign (.readParameters none)

/-! ### The session -/

/-- `arm_.reset()`: destroying the SDK object closes the link. -/
def resetArm : Code Unit := do
  ask .destroyArm
  assign fun node => { node with arm := none }

/-- `arm_ = create_arm(options)`: the object held before is destroyed. -/
def replaceArm (options : ArmOptions) : Code Unit := do
  let created ← ask (.createArm options)
  let exists_ ← orThrow created
  let node ← self
  if node.arm.isSome then ask .destroyArm else pure ()
  assign fun node => { node with arm := if exists_ then some ⟨options⟩ else none }

/-- The members a new session starts from. -/
def Node.beginSession (node : Node) : Node :=
  { node with haveState := false, licenseValid := false, speedScaling := 100,
              lastStateStamp := 0 }

/-- The members a closed session leaves. -/
def Node.endSession (node : Node) : Node :=
  { node with haveState := false, licenseValid := false, lastStateStamp := 0 }

/-- `joint1` to `jointN`. -/
def derivedNames (axes : Nat) : List String :=
  (List.range axes).map fun i => "joint" ++ toString (i + 1)

/-! ### Entities -/

/-- Create an entity; a failure is thrown. -/
def create (e : Entity) : Code Unit := do
  let created ← ask (.create e)
  orThrow created

/-- One server per service; each enters the list when it exists. -/
def createServers : List Service → Code Unit
  | []      => return ()
  | s :: ss => do
    create (.service s.name)
    assign fun node => { node with services := node.services ++ [s.name] }
    createServers ss

def createServiceServers : Code Unit := createServers Service.all

def destroyServiceServers : Code Unit := do
  ask (.destroy .services)
  assign fun node => { node with services := [] }

/-- Switch every publisher the node holds on or off. -/
def Node.switchPublishers (on : Bool) (node : Node) : Node :=
  let switch := Option.map fun publisher : Publisher => { publisher with activated := on }
  { node with
    statusPublisher := switch node.statusPublisher
    jointStatePublisher := switch node.jointStatePublisher
    diagnosticsPublisher := switch node.diagnosticsPublisher }

def activatePublishers : Code Unit := assign (.switchPublishers true)

def deactivatePublishers : Code Unit := assign (.switchPublishers false)

def resetPublishers : Code Unit := do
  ask (.destroy .publishers)
  assign fun node => { node with
    statusPublisher := none, jointStatePublisher := none, diagnosticsPublisher := none }

def createStatusPublisher : Code Unit := do
  create (.publisher .status "status")
  assign fun node => { node with statusPublisher := some ⟨"status", false⟩ }

def createJointStatePublisher : Code Unit := do
  let node ← self
  if node.publishJointStates then
    create (.publisher .jointState node.jointStatesTopic)
    assign fun n => { n with jointStatePublisher := some ⟨node.jointStatesTopic, false⟩ }
  else return ()

def createDiagnosticsPublisher : Code Unit := do
  let node ← self
  if node.publishDiagnostics then
    create (.publisher .diagnostics "/diagnostics")
    assign fun n => { n with diagnosticsPublisher := some ⟨"/diagnostics", false⟩ }
  else return ()

/-- The publishers the parameters ask for. One that is not asked for is not dropped. -/
def createPublishers : Code Unit := do
  createStatusPublisher
  createJointStatePublisher
  createDiagnosticsPublisher

def startStatusTimer : Code Unit := do
  let node ← self
  if 0 < node.statusRateHz then
    create (.timer .status (1 / node.statusRateHz))
    assign fun n => { n with statusTimer := some ⟨1 / node.statusRateHz⟩ }
  else return ()

def startDiagnosticsTimer : Code Unit := do
  let node ← self
  if node.diagnosticsPublisher.isSome ∧ 0 < node.diagnosticsRateHz then
    create (.timer .diagnostics (1 / node.diagnosticsRateHz))
    assign fun n => { n with diagnosticsTimer := some ⟨1 / node.diagnosticsRateHz⟩ }
  else return ()

def startTimers : Code Unit := do
  startStatusTimer
  startDiagnosticsTimer

def stopTimers : Code Unit := do
  ask (.destroy .timers)
  assign fun node => { node with statusTimer := none, diagnosticsTimer := none }

/-! ### Transition callbacks -/

/-- The axis names are derived from the firmware, or checked against it. -/
def establishNames (axes : Nat) : Code Bool := do
  let node ← self
  if node.jointNames.isEmpty then
    assign fun node => { node with jointNames := derivedNames axes }
    return true
  else return node.jointNames.length = axes

/-- Open the session; on failure the object is dropped. -/
def openArm : Code Bool :=
  catching
    (do
      armCommand .connect
      return true)
    fun _ => do
      resetArm
      return false

def onConfigure : Code CallbackReturn := do
  readParameters
  assign .beginSession
  let node ← self
  replaceArm { port := if node.port = "" then none else some node.port }
  let node ← self
  if node.arm.isNone then return .error
  let opened ← openArm
  if !opened then return .error
  let axes ← armQuery .n
  let named ← establishNames axes
  if !named then
    resetArm
    return .error
  -- A record that cannot be read is not fatal: the flag stays as `beginSession` left it.
  catching refreshLicenseRecord fun _ => return ()
  createPublishers
  let _ ← armQuery .isConnected
  let _ ← armQuery .firmware
  return .success

/-- Whether the motors are as `auto_enable` asks: false when ENABLE was refused. -/
def enableOnActivation : Code Bool := do
  let node ← self
  if node.autoEnable then
    catching
      (do
        armCommand (.enable node.enableAttempts.toInt)
        return true)
      fun _ => return false
  else return true

def onActivate : Code CallbackReturn := do
  let node ← self
  if node.arm.isNone then return .error
  let enabled ← enableOnActivation
  if !enabled then return .error
  createServiceServers
  activatePublishers
  startTimers
  let node ← self
  if node.statusPublisher.isNone then .throw .undefined else return .success

/-- Leave zero gravity; a failure is logged and nothing more. -/
def leaveZeroG : Code Unit := do
  let active ← queryOr .zeroGActive false
  if active then catching (armCommand (.zeroGStop true)) fun _ => return () else return ()

def onDeactivate : Code CallbackReturn := do
  leaveZeroG
  stopTimers
  destroyServiceServers
  deactivatePublishers
  return .success

/-- Close the link and destroy the session; an error while closing is ignored. -/
def closeArm : Code Unit := do
  let node ← self
  if node.arm.isNone then return ()
  catching (armCommand .close) fun _ => return ()
  resetArm

def onCleanup : Code CallbackReturn := do
  stopTimers
  destroyServiceServers
  deactivatePublishers
  resetPublishers
  closeArm
  assign .endSession
  return .success

def onShutdown : Code CallbackReturn := onCleanup

/-- Only reports whether the link is up. -/
def onError : Code CallbackReturn := do
  let _ ← connected
  return .success

/-! ### The state machine -/

inductive Transition where
  | configure
  | activate
  | deactivate
  | cleanup
  | shutdown
  deriving DecidableEq

/-- The state a transition leads to when its callback succeeds; none when the transition is
not available. -/
def Transition.goal : Transition → PrimaryState → Option PrimaryState
  | .configure, .unconfigured => some .inactive
  | .activate, .inactive => some .active
  | .deactivate, .active => some .inactive
  | .cleanup, .inactive => some .unconfigured
  | .shutdown, .unconfigured | .shutdown, .inactive | .shutdown, .active => some .finalized
  | _, _ => none

def Transition.callback : Transition → Code CallbackReturn
  | .configure => onConfigure
  | .activate => onActivate
  | .deactivate => onDeactivate
  | .cleanup => onCleanup
  | .shutdown => onShutdown

/-- A callback that throws returns `ERROR`. -/
def executeCallback (callback : Code CallbackReturn) : Code CallbackReturn :=
  catching callback fun _ => return .error

def enterState (state : PrimaryState) : Code Unit :=
  assign fun node => { node with currentState := state }

/-- A `change_state` request. -/
def changeState (t : Transition) : Code Unit := do
  let node ← self
  match t.goal node.currentState with
  | none => return ()
  | some goal =>
    let result ← executeCallback t.callback
    match result with
    | .success => enterState goal
    | .failure => return ()
    | .error =>
      let handled ← executeCallback onError
      match handled with
      | .success => enterState .unconfigured
      | .failure | .error => enterState .finalized

end LitearmDriver
