import LitearmDriver.SafetyGates

/-!
# Service and topic messages

The interfaces of `litearm_msgs` and the standard messages the node fills. Every service
response carries `success` and `message`; `Reply` adds the fields of one service to them.
-/

namespace LitearmDriver

/-- A service response: the outcome every service reports, and the service's own fields. -/
structure Reply (Body : Type) where
  success : Bool := false
  message : String := ""
  body : Body

/-- The default-constructed response a handler starts from. -/
instance {Body : Type} [Inhabited Body] : Inhabited (Reply Body) := ⟨{ body := default }⟩

/-- Copy a rejected gate into a service response. -/
def Reply.fillFailure {Body : Type} (response : Reply Body) (gate : GateResult) : Reply Body :=
  { response with success := false, message := gate.message }

/-- Text added to the message of a successful call. -/
def Reply.onSuccess {Body : Type} (response : Reply Body) (text : String) : Reply Body :=
  if response.success then { response with message := response.message ++ text } else response

/-- Text that replaces the message of a successful call. -/
def Reply.replaceOnSuccess {Body : Type} (response : Reply Body) (text : String) : Reply Body :=
  if response.success then { response with message := text } else response

/-! ### Topics -/

structure Header where
  stamp : Int := 0
  frameId : String := ""
  deriving Inhabited

/-- One snapshot of the arm as the driver sees it. -/
structure LitearmStatus where
  header : Header := {}
  connected : Bool := false
  inDfu : Bool := false
  enabled : Bool := false
  faulted : Bool := false
  cartBusy : Bool := false
  jointFault : UInt16 := 0
  dropHoldInferred : Bool := false
  firmware : String := ""
  mode : UInt16 := 0
  modeName : String := ""
  flags : UInt16 := 0
  lastResetReason : String := ""
  speedScaling : UInt8 := 0
  zeroGActive : Bool := false
  zeroGError : String := ""
  jointNames : List String := []
  temperatureMos : List Double := []
  temperatureCoil : List Double := []
  jointErrorCode : List UInt8 := []
  feedbackAge : Double := 0
  licenseValid : Bool := false
  licenseState : UInt8 := 0
  licenseStateName : String := ""
  licenseUid : String := ""

instance : Inhabited LitearmStatus := ⟨{}⟩

structure JointState where
  header : Header
  name : List String
  position : List Double
  velocity : List Double
  effort : List Double

/-- The severities of `diagnostic_msgs`, in their order. -/
inductive Level where
  | ok
  | warn
  | error
  deriving DecidableEq

structure DiagnosticStatus where
  level : Level
  name : String
  message : String
  hardwareId : String
  values : List (String × String)

structure DiagnosticArray where
  header : Header
  status : List DiagnosticStatus

/-! ### Requests and responses -/

/-- `std_srvs/SetBool`. -/
structure SetBool.Request where
  data : Bool

structure GetStatus.Request where
  timeout : Double

structure SetSpeedScaling.Request where
  percent : UInt8

structure SetMotionMode.Request where
  mode : Int32

structure SetPayload.Request where
  mass : Double
  com : Vector3

structure SetFeedforwardMask.Request where
  mask : UInt32

structure SetFeedforwardPreset.Request where
  preset : Int32

structure SetFeedforwardScalar.Request where
  item : Int32
  sub : Int32
  value : Double

structure SetFeedforwardVector.Request where
  item : Int32
  values : List Double

structure GetFeedforwardScalar.Request where
  item : Int32
  sub : Int32

structure GetJointParams.Request where
  joint : Int32

/-- One axis of the firmware's joint parameter table. -/
structure JointParam where
  index : Int32
  kp : Double
  kd : Double
  tauMax : Double
  qMin : Double
  qMax : Double

structure SetJointGains.Request where
  joint : Int32
  kp : Double
  kd : Double
  tauMax : Double

structure SetJointLimits.Request where
  joint : Int32
  qMin : Double
  qMax : Double

structure GetTcp.Body where
  pose : Pose := Vector.replicate 6 0
  deriving Inhabited

structure GetDiagnostics.Body where
  connected : Bool := false
  inDfu : Bool := false
  cartSupported : Bool := false
  cartProbeSilent : Bool := false
  jointCount : Int32 := 0
  statusSeq : UInt64 := 0
  port : String := ""
  firmware : String := ""
  bannerVersion : String := ""
  lastResetReason : String := ""
  dropped : UInt64 := 0
  badStatusFrames : UInt64 := 0
  flushFailures : UInt64 := 0
  cartEvictedUnclaimed : UInt64 := 0
  cartExtraReplies : UInt64 := 0
  msgIds : List UInt8 := []
  msgHz : List Double := []
  deriving Inhabited

structure KinBench.Request where
  timeout : Double

structure KinBench.Body where
  raw : String := ""
  timings : List String := []
  crcErrors : Int64 := 0
  replyDropped : Int64 := 0
  canTxFail : Int64 := 0
  loopMaxKcycle : Int64 := 0
  loopOverruns : Int64 := 0
  rxFifoLostMotor : Int64 := 0
  rxFifoLostBridge : Int64 := 0
  gsusbRingDrops : Int64 := 0
  deriving Inhabited

structure MoveJ.Request where
  q : List Double
  speed : Double

structure MoveJSync.Request where
  q : List Double
  speed : Double

structure MoveP.Request where
  pose : Pose
  speed : Double
  wait : Bool

structure MoveJs.Request where
  q : List Double
  dq : List Double
  tauFf : List Double

structure SendMit.Request where
  joint : Int32
  q : Double
  dq : Double
  kp : Double
  kd : Double
  tau : Double

structure SendMitAll.Request where
  q : List Double
  dq : List Double
  kp : List Double
  kd : List Double
  tau : List Double

structure MoveL.Request where
  pose : Pose
  speed : Double
  wait : Bool

structure MoveC.Request where
  start : Pose
  via : Pose
  «end» : Pose
  speed : Double
  wait : Bool

structure MovePath.Request where
  poses : List Double
  speed : Double
  wait : Bool

/-- The plan report of the cartesian motion services. -/
structure PlanReport where
  settled : Bool := false
  err : Int32 := 0
  waypoints : Int32 := 0
  planUs : UInt32 := 0
  settleErrRad : Double := 0
  qFinal : List Double := []
  deriving Inhabited

structure PollCart.Body extends PlanReport where
  pending : Bool := false
  deriving Inhabited

structure InverseKinematics.Request where
  pose : Pose
  seed : List Double
  timeout : Double

structure GetFeedforwardVector.Request where
  item : Int32

structure GetFeedforwardCatalog.Body where
  vectorItems : List String := []
  scalarItems : List String := []
  scalarReadOnlyItems : List String := []
  deriving Inhabited

structure SetGravityScale.Request where
  values : List Double

structure SetInertiaScale.Request where
  values : List Double

structure SetGravityVector.Request where
  g : Vector3

structure GetModelBody.Request where
  body : Int32

structure SetModelBody.Request where
  body : Int32
  values : List Double

structure SetModelJm.Request where
  values : List Double

structure CommitModel.Request where
  expectedMask : UInt32

structure GetModelStatus.Body where
  overrideLevel : Int32 := 0
  stagedMask : UInt32 := 0
  dirty : Int32 := 0
  deriving Inhabited

structure LogStart.Request where
  ticks : Int32

structure LogDump.Request where
  filename : String
  wait : Bool
  timeout : Double

structure LogDump.Body where
  path : String := ""
  bytes : Int32 := 0
  samples : Int32 := 0
  deriving Inhabited

end LitearmDriver
