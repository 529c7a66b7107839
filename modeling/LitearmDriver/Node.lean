import LitearmDriver.Interaction.Program
import LitearmDriver.Sdk

/-!
# The node

The fields of `LitearmDriverNode`, the calls its code makes, and the helpers every service
handler is built from.
-/

namespace LitearmDriver

open Interaction

/-! ### Fields -/

/-- The parameters of the node, with their declared defaults. -/
structure Parameters where
  port : String := ""
  jointNames : List String := []
  autoEnable : Bool := true
  enableAttempts : Int64 := 12
  statusRateHz : Double := 10
  publishJointStates : Bool := false
  jointStatesTopic : String := "/joint_states"
  publishDiagnostics : Bool := true
  diagnosticsRateHz : Double := 1
  zeroGKeepalivePeriodS : Double := 0.04
  allowDfu : Bool := false
  allowMotion : Bool := false
  logDir : String := ""
  frameId : String := ""

/-- The primary states of a lifecycle node. -/
inductive PrimaryState where
  | unconfigured
  | inactive
  | active
  | finalized
  deriving DecidableEq

/-- A publisher the node holds: its topic, and whether it is activated. -/
structure Publisher where
  topic : String
  activated : Bool := false
  deriving DecidableEq

/-- A wall timer the node holds, with its period in seconds. -/
structure Timer where
  period : Double
  deriving DecidableEq

/-- The members of the node. `parameters` is the parameter storage and `currentState` the
lifecycle state of the base class; `services` lists the names of the servers. -/
structure Node where
  name : String := "litearm_driver"
  parameters : Parameters := {}
  currentState : PrimaryState := .unconfigured
  port : String := ""
  jointNames : List String := []
  autoEnable : Bool := true
  enableAttempts : Int32 := 12
  statusRateHz : Double := 10
  publishJointStates : Bool := false
  jointStatesTopic : String := "/joint_states"
  publishDiagnostics : Bool := true
  diagnosticsRateHz : Double := 1
  frameId : String := ""
  logDir : String := ""
  arm : Option Arm := none
  services : List String := []
  statusPublisher : Option Publisher := none
  jointStatePublisher : Option Publisher := none
  diagnosticsPublisher : Option Publisher := none
  statusTimer : Option Timer := none
  diagnosticsTimer : Option Timer := none
  licenseValid : Bool := false
  license : LicenseInfo := ⟨0, "", "", false⟩
  speedScaling : UInt8 := 100
  lastState : RobotState := ⟨false, false, false, false, 0, 0, "", 0, "", []⟩
  haveState : Bool := false
  lastStateStamp : Double := 0

/-- The number of axes this session was configured with. -/
def Node.jointCount (node : Node) : Nat := node.jointNames.length

/-! ### Calls -/

inductive TimerKind where
  | status
  | diagnostics
  deriving DecidableEq

inductive PublisherKind where
  | status
  | jointState
  | diagnostics
  deriving DecidableEq

/-- A ROS entity to be created. -/
inductive Entity where
  | publisher (kind : PublisherKind) (topic : String)
  | service (name : String)
  | timer (kind : TimerKind) (period : Double)
  deriving DecidableEq

/-- The groups of entities the node destroys together. -/
inductive EntityGroup where
  | publishers
  | services
  | timers
  deriving DecidableEq

/-- What the publishers hand to the middleware. -/
inductive Publication where
  | status (message : LitearmStatus)
  | jointState (message : JointState)
  | diagnostics (message : DiagnosticArray)

/-- Everything the node asks of the outside. -/
inductive Call where
  | query (q : Query)
  | command (c : Command)
  | createArm (options : ArmOptions)
  | destroyArm
  | create (e : Entity)
  | destroy (g : EntityGroup)
  | publish (p : Publication)
  | steadyNow
  | now
  | getenvHome
  | createDirectories (path : String)

/-- `createArm` answers whether the factory returned an object; creating an entity may
throw. -/
abbrev Call.Answer : Call → Type
  | .query q => q.Answer
  | .command c => Except String c.Answer
  | .createArm _ => Except String Bool
  | .destroyArm => Unit
  | .create _ => Except String Unit
  | .destroy _ => Unit
  | .publish _ => Unit
  | .steadyNow => Double
  | .now => Int
  | .getenvHome => Option String
  | .createDirectories _ => Except String Unit

/-- How a callback ends when it does not return: an exception, or undefined behaviour (a
null session or publisher was dereferenced), which no handler catches. -/
inductive Abort where
  | exception (what : String)
  | undefined
  deriving DecidableEq

/-- The code of the node. -/
abbrev Code (α : Type) := Program Node Call Call.Answer Abort α

/-- The node in its environment. -/
abbrev World (σ : Type) := Config Node Call.Answer σ

/-- An environment of the node: SDK, middleware, clock and file system. -/
abbrev Environment (σ : Type) := Responder Call.Answer σ

/-! ### Primitives -/

/-- Read the members of the node. -/
def self : Code Node := .read .pure

/-- Assign members of the node. -/
def assign (f : Node → Node) : Code Unit := .write f (.pure ())

/-- Make a call that does not throw. -/
def ask (c : Call) : Code c.Answer := .call c .pure

/-- An SDK accessor. -/
def query (q : Query) : Code q.Answer := .call (.query q) .pure

/-- Pass a returned value on, and a thrown one up. -/
def orThrow {α : Type} : Except String α → Code α
  | .ok a       => .pure a
  | .error what => .throw (.exception what)

/-- An SDK command. -/
def command (c : Command) : Code c.Answer := .call (.command c) orThrow

/-- `arm_->`: using a null session is undefined behaviour. -/
def derefArm : Code Unit := do
  let node ← self
  if node.arm.isNone then .throw .undefined else .pure ()

/-- `arm_->accessor()`. -/
def armQuery (q : Query) : Code q.Answer := do
  derefArm
  query q

/-- `arm_->command()`. -/
def armCommand (c : Command) : Code c.Answer := do
  derefArm
  command c

/-- `catch (const std::exception & error)`. -/
def catching {α : Type} (p : Code α) (handler : String → Code α) : Code α :=
  p.tryCatch fun
    | .exception what => handler what
    | .undefined      => .throw .undefined

/-! ### Helpers of the service handlers -/

/-- `if (!gate.ok) { fill_failure(response, gate); return; }`. -/
def refuseUnless {Body : Type} (gate : GateResult) (response : Reply Body)
    (rest : Code (Reply Body)) : Code (Reply Body) :=
  if gate.ok then rest else .pure (response.fillFailure gate)

/-- The SDK is reachable and must be used now. -/
def connected : Code Bool := do
  let node ← self
  if node.arm.isNone then return false else query .isConnected

/-- Run one SDK call and fill the response from its outcome. `fn` works on the response and
is run only on a live link; what it wrote to the response before throwing is dropped, and
every `fn` below writes to it only after its last call that may throw. -/
def runCommand {Body : Type} (what : String) (response : Reply Body)
    (fn : Reply Body → Code (Reply Body)) : Code (Reply Body) := do
  let link ← connected
  refuseUnless (checkConnected link) response <|
    catching
      (do
        let response ← fn response
        return { response with
          success := true
          message := if response.message = "" then what ++ ": ok" else response.message })
      fun error => return { response with
        success := false
        message := what ++ " failed: " ++ error }

/-- Every motion service sits behind `allow_motion`, read at call time. -/
def requireMotionAllowed {Body : Type} (response : Reply Body) (rest : Code (Reply Body)) :
    Code (Reply Body) := do
  let node ← self
  refuseUnless (checkParameterAllows node.parameters.allowMotion "allow_motion") response rest

/-- Age of the last status frame in seconds, or -1 when none arrived yet. -/
def frameAge (stampS : Double) : Code Double :=
  if stampS ≤ 0 then return -1 else do
    let now ← ask .steadyNow
    return now - stampS

/-! ### Integer conversions -/

/-- `static_cast<uint8_t>` of an `int`. -/
def toUInt8 (i : Int) : UInt8 := .ofNat (i % 256).toNat

/-- `static_cast<uint16_t>` of an `int`. -/
def toUInt16 (i : Int) : UInt16 := .ofNat (i % 65536).toNat

/-- `static_cast<uint32_t>` of an `int`. -/
def toUInt32 (i : Int) : UInt32 := .ofNat (i % 4294967296).toNat

end LitearmDriver
