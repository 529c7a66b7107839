import LitearmDriver.Handlers.Diagnostics

/-!
# The service surface

The services the node advertises, the type of each, and the handler each is bound to.
-/

namespace LitearmDriver

/-- The services, in the order in which `create_service_servers` creates them. -/
inductive Service where
  | reconnect
  | home
  | revertModel
  | logStop
  | enable
  | disable
  | reset
  | clearFaults
  | emergencyStop
  | park
  | saveParams
  | resetFactoryParams
  | enterDfu
  | zeroG
  | getTcp
  | getDiagnostics
  | kinBench
  | moveJ
  | moveJSync
  | moveP
  | moveJs
  | sendMit
  | sendMitAll
  | moveL
  | moveC
  | movePath
  | pollCart
  | inverseKinematics
  | getFeedforwardVector
  | getFeedforwardMask
  | getFeedforwardCatalog
  | setGravityScale
  | setInertiaScale
  | setGravityVector
  | probeModel
  | getModelBody
  | setModelBody
  | getModelJm
  | setModelJm
  | commitModel
  | getModelStatus
  | logStart
  | logDump
  | getStatus
  | setSpeedScaling
  | setMotionMode
  | setPayload
  | setFeedforwardMask
  | setFeedforwardPreset
  | setFeedforwardScalar
  | setFeedforwardVector
  | getFeedforwardScalar
  | getJointParams
  | setJointGains
  | setJointLimits
  deriving DecidableEq

namespace Service

/-- The name a service is advertised under, relative to the node's namespace. -/
def name : Service → String
  | reconnect => "reconnect"
  | home => "home"
  | revertModel => "revert_model"
  | logStop => "log_stop"
  | enable => "enable"
  | disable => "disable"
  | reset => "reset"
  | clearFaults => "clear_faults"
  | emergencyStop => "emergency_stop"
  | park => "park"
  | saveParams => "save_params"
  | resetFactoryParams => "reset_factory_params"
  | enterDfu => "enter_dfu"
  | zeroG => "zero_g"
  | getTcp => "get_tcp"
  | getDiagnostics => "get_diagnostics"
  | kinBench => "kin_bench"
  | moveJ => "move_j"
  | moveJSync => "move_j_sync"
  | moveP => "move_p"
  | moveJs => "move_js"
  | sendMit => "send_mit"
  | sendMitAll => "send_mit_all"
  | moveL => "move_l"
  | moveC => "move_c"
  | movePath => "move_path"
  | pollCart => "poll_cart"
  | inverseKinematics => "inverse_kinematics"
  | getFeedforwardVector => "get_feedforward_vector"
  | getFeedforwardMask => "get_feedforward_mask"
  | getFeedforwardCatalog => "get_feedforward_catalog"
  | setGravityScale => "set_gravity_scale"
  | setInertiaScale => "set_inertia_scale"
  | setGravityVector => "set_gravity_vector"
  | probeModel => "probe_model"
  | getModelBody => "get_model_body"
  | setModelBody => "set_model_body"
  | getModelJm => "get_model_jm"
  | setModelJm => "set_model_jm"
  | commitModel => "commit_model"
  | getModelStatus => "get_model_status"
  | logStart => "log_start"
  | logDump => "log_dump"
  | getStatus => "get_status"
  | setSpeedScaling => "set_speed_scaling"
  | setMotionMode => "set_motion_mode"
  | setPayload => "set_payload"
  | setFeedforwardMask => "set_feedforward_mask"
  | setFeedforwardPreset => "set_feedforward_preset"
  | setFeedforwardScalar => "set_feedforward_scalar"
  | setFeedforwardVector => "set_feedforward_vector"
  | getFeedforwardScalar => "get_feedforward_scalar"
  | getJointParams => "get_joint_params"
  | setJointGains => "set_joint_gains"
  | setJointLimits => "set_joint_limits"

/-- Every service, in creation order. -/
def all : List Service :=
  [reconnect, home, revertModel, logStop, enable, disable, reset, clearFaults, emergencyStop,
    park, saveParams, resetFactoryParams, enterDfu, zeroG, getTcp, getDiagnostics, kinBench,
    moveJ, moveJSync, moveP, moveJs, sendMit, sendMitAll, moveL, moveC, movePath, pollCart,
    inverseKinematics, getFeedforwardVector, getFeedforwardMask, getFeedforwardCatalog,
    setGravityScale, setInertiaScale, setGravityVector, probeModel, getModelBody,
    setModelBody, getModelJm, setModelJm, commitModel, getModelStatus, logStart, logDump,
    getStatus, setSpeedScaling, setMotionMode, setPayload, setFeedforwardMask,
    setFeedforwardPreset, setFeedforwardScalar, setFeedforwardVector, getFeedforwardScalar,
    getJointParams, setJointGains, setJointLimits]

lemma mem_all (s : Service) : s ∈ all := by
  cases s <;> decide

/-- The request type of a service; a trigger carries nothing. -/
abbrev Request : Service → Type
  | zeroG => SetBool.Request
  | kinBench => KinBench.Request
  | moveJ => MoveJ.Request
  | moveJSync => MoveJSync.Request
  | moveP => MoveP.Request
  | moveJs => MoveJs.Request
  | sendMit => SendMit.Request
  | sendMitAll => SendMitAll.Request
  | moveL => MoveL.Request
  | moveC => MoveC.Request
  | movePath => MovePath.Request
  | inverseKinematics => InverseKinematics.Request
  | getFeedforwardVector => GetFeedforwardVector.Request
  | setGravityScale => SetGravityScale.Request
  | setInertiaScale => SetInertiaScale.Request
  | setGravityVector => SetGravityVector.Request
  | getModelBody => GetModelBody.Request
  | setModelBody => SetModelBody.Request
  | setModelJm => SetModelJm.Request
  | commitModel => CommitModel.Request
  | logStart => LogStart.Request
  | logDump => LogDump.Request
  | getStatus => GetStatus.Request
  | setSpeedScaling => SetSpeedScaling.Request
  | setMotionMode => SetMotionMode.Request
  | setPayload => SetPayload.Request
  | setFeedforwardMask => SetFeedforwardMask.Request
  | setFeedforwardPreset => SetFeedforwardPreset.Request
  | setFeedforwardScalar => SetFeedforwardScalar.Request
  | setFeedforwardVector => SetFeedforwardVector.Request
  | getFeedforwardScalar => GetFeedforwardScalar.Request
  | getJointParams => GetJointParams.Request
  | setJointGains => SetJointGains.Request
  | setJointLimits => SetJointLimits.Request
  | _ => Unit

/-- The fields a service's response adds to its outcome. -/
abbrev Body : Service → Type
  | getTcp => GetTcp.Body
  | getDiagnostics => GetDiagnostics.Body
  | kinBench => KinBench.Body
  | moveL | moveC | movePath => PlanReport
  | pollCart => PollCart.Body
  | inverseKinematics | getFeedforwardVector | getModelBody | getModelJm => List Double
  | getFeedforwardMask => UInt32
  | getFeedforwardCatalog => GetFeedforwardCatalog.Body
  | probeModel => Bool
  | getModelStatus => GetModelStatus.Body
  | logDump => LogDump.Body
  | getStatus => LitearmStatus
  | getFeedforwardScalar => Double
  | getJointParams => List JointParam
  | _ => Unit

/-- The response type of a service. -/
abbrev Response (s : Service) : Type := Reply s.Body

instance instInhabitedBody : (s : Service) → Inhabited s.Body := fun s => by
  cases s <;> exact inferInstance

/-- The handler a service is bound to. -/
def handle : (s : Service) → s.Request → s.Response → Code s.Response
  | reconnect, _ => handleReconnect
  | home, _ => handleHome
  | revertModel, _ => handleRevertModel
  | logStop, _ => handleLogStop
  | enable, _ => handleEnable
  | disable, _ => handleDisable
  | reset, _ => handleReset
  | clearFaults, _ => handleClearFaults
  | emergencyStop, _ => handleEmergencyStop
  | park, _ => handlePark
  | saveParams, _ => handleSaveParams
  | resetFactoryParams, _ => handleResetFactoryParams
  | enterDfu, _ => handleEnterDfu
  | zeroG, request => handleZeroG request
  | getTcp, _ => handleGetTcp
  | getDiagnostics, _ => handleGetDiagnostics
  | kinBench, request => handleKinBench request
  | moveJ, request => handleMoveJ request
  | moveJSync, request => handleMoveJSync request
  | moveP, request => handleMoveP request
  | moveJs, request => handleMoveJs request
  | sendMit, request => handleSendMit request
  | sendMitAll, request => handleSendMitAll request
  | moveL, request => handleMoveL request
  | moveC, request => handleMoveC request
  | movePath, request => handleMovePath request
  | pollCart, _ => handlePollCart
  | inverseKinematics, request => handleInverseKinematics request
  | getFeedforwardVector, request => handleGetFeedforwardVector request
  | getFeedforwardMask, _ => handleGetFeedforwardMask
  | getFeedforwardCatalog, _ => handleGetFeedforwardCatalog
  | setGravityScale, request => handleSetGravityScale request
  | setInertiaScale, request => handleSetInertiaScale request
  | setGravityVector, request => handleSetGravityVector request
  | probeModel, _ => handleProbeModel
  | getModelBody, request => handleGetModelBody request
  | setModelBody, request => handleSetModelBody request
  | getModelJm, _ => handleGetModelJm
  | setModelJm, request => handleSetModelJm request
  | commitModel, request => handleCommitModel request
  | getModelStatus, _ => handleGetModelStatus
  | logStart, request => handleLogStart request
  | logDump, request => handleLogDump request
  | getStatus, request => handleGetStatus request
  | setSpeedScaling, request => handleSetSpeedScaling request
  | setMotionMode, request => handleSetMotionMode request
  | setPayload, request => handleSetPayload request
  | setFeedforwardMask, request => handleSetFeedforwardMask request
  | setFeedforwardPreset, request => handleSetFeedforwardPreset request
  | setFeedforwardScalar, request => handleSetFeedforwardScalar request
  | setFeedforwardVector, request => handleSetFeedforwardVector request
  | getFeedforwardScalar, request => handleGetFeedforwardScalar request
  | getJointParams, request => handleGetJointParams request
  | setJointGains, request => handleSetJointGains request
  | setJointLimits, request => handleSetJointLimits request

end Service

end LitearmDriver
