import LitearmDriver.Messages

/-!
# The SDK as the node sees it

The litearm SDK is not part of this repository. What the node relies on is its interface:
accessors, which are answered on the host, and commands, which talk to the device and either
return or throw. The values the SDK computes from a frame or a licence record (`enabled()`,
`state_name()` and so on) are fields of the record.
-/

namespace LitearmDriver

/-! ### Data -/

/-- One axis of a status frame. -/
structure JointFeedback where
  q : Double
  dq : Double
  tau : Double
  tMos : Double
  tCoil : Double
  err : UInt8

/-- A decoded status frame. -/
structure RobotState where
  enabled : Bool
  faulted : Bool
  cartBusy : Bool
  dropHoldInferred : Bool
  jointFault : UInt16
  mode : Int
  modeName : String
  flags : UInt16
  faultDetail : String
  joints : List JointFeedback

/-- A value with its arrival time in the SDK's own seconds. -/
structure Message (α : Type) where
  value : α
  timestamp : Double

structure LicenseInfo where
  state : Int
  stateName : String
  uidHex : String
  activated : Bool
  deriving DecidableEq

structure CartPlan where
  ok : Bool
  settled : Bool
  err : Int32
  nWp : Int32
  planUs : UInt32
  settleErrRad : Double
  qFinal : List Double

structure ModelStatus where
  overrideLevel : Int32
  stagedMask : UInt32
  dirty : Int32

structure HostStats where
  cartProbeSilent : Bool
  dropped : UInt64
  badStatusFrames : UInt64
  flushFailures : UInt64
  cartEvictedUnclaimed : UInt64
  cartExtraReplies : UInt64

structure KinBenchResult where
  raw : String
  timings : List (String × List Int)
  crcErrors : Int64
  replyDropped : Int64
  canTxFail : Int64
  loopMaxKcycle : Int64
  loopOverruns : Int64
  rxFifoLostMotor : Int64
  rxFifoLostBridge : Int64
  gsusbRingDrops : Int64

/-- How the node opens the SDK: an explicit port, or auto-discovery. -/
structure ArmOptions where
  port : Option String := none
  deriving DecidableEq

/-- The SDK object, identified by the options it was built with. -/
structure Arm where
  options : ArmOptions
  deriving DecidableEq

/-- The firmware response ids `get_diagnostics` reports a rate for. -/
inductive RateId where
  | status
  | ack
  | err
  | firmware
  | detail
  | modelStatus
  | logData
  deriving DecidableEq

/-! ### Accessors -/

/-- What the SDK answers on the host, without sending a frame. The last group are
compile-time tables and constants. -/
inductive Query where
  | isConnected
  | isInDfu
  | firmware
  | lastResetReason
  | zeroGActive
  | zeroGErrorText
  | n
  | getState
  | portString
  | hostStats
  | bannerVersion
  | cartSupported
  | statusSeq
  | msgHz (id : UInt8)
  | ffVecItems
  | ffScalarItems
  | ffScalarRoItems
  | responseId (id : RateId)
  | sampleSize (axes : Nat)
  | kinBenchTimeout

/-- `get_state(false)` is the one accessor that may throw. -/
abbrev Query.Answer : Query → Type
  | .isConnected | .isInDfu | .zeroGActive | .cartSupported => Bool
  | .firmware | .lastResetReason | .zeroGErrorText | .portString => String
  | .n => Nat
  | .getState => Except String (Message (Option RobotState))
  | .hostStats => HostStats
  | .bannerVersion => Option String
  | .statusSeq => UInt64
  | .msgHz _ => Double
  | .ffVecItems | .ffScalarItems | .ffScalarRoItems => List (Int × String)
  | .responseId _ => UInt8
  | .sampleSize _ => Int
  | .kinBenchTimeout => Double

/-! ### Commands -/

/-- What the SDK does to the device or to the session. -/
inductive Command where
  | connect
  | close
  | reconnect
  | license
  | enable (attempts : Int)
  | disable
  | reset
  | clearFaults
  | emergencyStop
  | park
  | saveParams
  | resetFactory
  | enterDfu
  | zeroGStart (periodS : Double)
  | zeroGStop (raiseOnLost : Bool)
  | getStatusNow (timeout : Double)
  | setSpeed (percent : Int)
  | setMotionMode (mode : Int)
  | setPayload (mass : Double) (com : Vector3)
  | setFfMask (mask : UInt32)
  | ffPreset (preset : Int)
  | setFfScalar (item sub : Int) (value : Double)
  | setFfVec (item : Int) (values : List Double)
  | getFfScalar (item sub : Int)
  | getFfVec (item : Int)
  | getFfMask
  | setGravityScale (values : List Double)
  | setInertiaScale (values : List Double)
  | setGravityVector (g : Vector3)
  | allJointParams
  | getJointParam (joint : Int)
  | setJointParam (joint : Int) (kp kd tauMax : Double)
  | setJointLimits (joint : Int) (qMin qMax : Double)
  | movej (q : List Double) (speed : Double)
  | movejSync (q : List Double) (speed : Double)
  | moveP (pose : Pose) (speed : Double) (wait : Bool)
  | moveJs (q dq tauFf : List Double)
  | sendMit (joint : Int) (q dq kp kd tau : Double)
  | sendMitAll (q dq kp kd tau : List Double)
  | home
  | moveL (pose : Pose) (speed : Double) (wait : Bool)
  | moveC (start via «end» : Pose) (speed : Double) (wait : Bool)
  | movePath (poses : List Pose) (speed : Double) (wait : Bool)
  | pollCart
  | ik (pose : Pose) (seed : List Double) (timeout : Double)
  | modelProbe
  | modelGetBody (body : Int)
  | modelSetBody (body : Int) (values : List Double)
  | modelGetJm
  | modelSetJm (values : List Double)
  | modelCommit (mask : UInt16)
  | modelRevert
  | modelStatus
  | getTcp
  | kinBench (timeout : Double)
  | logStart (ticks : Int)
  | logStop
  | logDump (path : String) (wait : Bool) (timeoutS : Double) (retries : Int) (waitS : Double)
  deriving DecidableEq

/-- What a command returns when it does not throw. -/
abbrev Command.Answer : Command → Type
  | .license => LicenseInfo
  | .getStatusNow _ => Message RobotState
  | .getFfScalar .. => Double
  | .getFfVec _ | .modelGetBody _ | .modelGetJm | .ik .. => List Double
  | .getFfMask => Int
  | .allJointParams => List JointParam
  | .getJointParam _ => JointParam
  | .moveL .. | .moveC .. | .movePath .. => CartPlan
  | .pollCart => Option CartPlan
  | .modelProbe => Bool
  | .modelStatus => ModelStatus
  | .getTcp => Option Pose
  | .kinBench _ => KinBenchResult
  | .logDump .. => Nat
  | _ => Unit

/-- The commands that can energise the motors and move the arm. -/
def Command.isMotion : Command → Bool
  | .movej .. | .movejSync .. | .moveP .. | .moveJs .. | .sendMit .. | .sendMitAll .. | .home
  | .moveL .. | .moveC .. | .movePath .. => true
  | _ => false

end LitearmDriver
