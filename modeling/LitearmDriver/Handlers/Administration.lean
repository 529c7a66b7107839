import LitearmDriver.Status

/-!
# Handlers for state, safety, status and parameters

The service handlers of `litearm_driver_node.cpp`.
-/

namespace LitearmDriver

open Interaction

/-! ### Zero gravity -/

/-- The SDK owns the keep-alive thread; the node only decides when it runs. -/
def startZeroG (periodS : Double) : Code Unit := do
  let node ← self
  if node.arm.isNone then return () else armCommand (.zeroGStart periodS)

/-- A keep-alive that died is reported, because the arm already fell out of zero gravity. -/
def stopZeroG : Code Unit := do
  let node ← self
  if node.arm.isNone then return () else armCommand (.zeroGStop true)

/-! ### State and safety -/

def handleEnable (response : Reply Unit) : Code (Reply Unit) :=
  runCommand "enable" response fun response => do
    let node ← self
    command (.enable node.enableAttempts.toInt)
    return response

def handleDisable (response : Reply Unit) : Code (Reply Unit) :=
  runCommand "disable" response fun response => do
    command .disable
    return response

def handleReset (response : Reply Unit) : Code (Reply Unit) :=
  runCommand "reset" response fun response => do
    command .reset
    return response

def handleClearFaults (response : Reply Unit) : Code (Reply Unit) :=
  runCommand "clear_faults" response fun response => do
    command .clearFaults
    return response

def handleEmergencyStop (response : Reply Unit) : Code (Reply Unit) := do
  let response ← runCommand "emergency_stop" response fun response => do
    command .emergencyStop
    return response
  return response.onSuccess
    " (software request; the hardware emergency stop remains the authority)"

def handlePark (response : Reply Unit) : Code (Reply Unit) :=
  runCommand "park" response fun response => do
    command .park
    return response

def handleSaveParams (response : Reply Unit) : Code (Reply Unit) := do
  let enabled ← motorsEnabled
  refuseUnless (checkRequiresDisabled enabled "save_params") response <|
    runCommand "save_params" response fun response => do
      command .saveParams
      return response

def handleResetFactoryParams (response : Reply Unit) : Code (Reply Unit) := do
  let enabled ← motorsEnabled
  refuseUnless (checkRequiresDisabled enabled "reset_factory_params") response <|
    runCommand "reset_factory_params" response fun response => do
      command .resetFactory
      return response

def handleEnterDfu (response : Reply Unit) : Code (Reply Unit) := do
  let node ← self
  refuseUnless (checkParameterAllows node.parameters.allowDfu "allow_dfu") response do
    let response ← runCommand "enter_dfu" response fun response => do
      command .enterDfu
      return response
    return response.replaceOnSuccess
      ("device entered DFU: the CDC link is gone and this node is unusable until it is " ++
        "reconfigured with a new link")

def handleZeroG (request : SetBool.Request) (response : Reply Unit) : Code (Reply Unit) :=
  if request.data then do
    let node ← self
    let periodS := node.parameters.zeroGKeepalivePeriodS
    refuseUnless (checkZeroGPeriod periodS) response do
      let response ← runCommand "zero_g" response fun response => do
        startZeroG periodS
        return response
      return response.replaceOnSuccess
        ("zero gravity entered; push the arm by hand, and leave the service (data=false) " ++
          "before any other motion command")
  else do
    let response ← runCommand "zero_g" response fun response => do
      stopZeroG
      return response
    return response.replaceOnSuccess "zero gravity left"

/-! ### Status -/

def handleGetStatus (request : GetStatus.Request) (response : Reply LitearmStatus) :
    Code (Reply LitearmStatus) :=
  runCommand "get_status" response fun response => do
    let message ← command (.getStatusNow request.timeout)
    assign (.holdFrame message.value message.timestamp)
    let status ← buildStatus (some message.value)
    return { response with body := status, message := "status taken from the firmware" }

/-! ### Motion configuration -/

def handleSetSpeedScaling (request : SetSpeedScaling.Request) (response : Reply Unit) :
    Code (Reply Unit) :=
  refuseUnless (checkSpeedPercent request.percent.toNat) response <|
    runCommand "set_speed_scaling" response fun response => do
      command (.setSpeed request.percent.toNat)
      assign fun node => { node with speedScaling := request.percent }
      return { response with
        message := "global speed governor set to " ++ toString request.percent.toNat ++ "%" }

def handleSetMotionMode (request : SetMotionMode.Request) (response : Reply Unit) :
    Code (Reply Unit) := do
  let response ← runCommand "set_motion_mode" response fun response => do
    command (.setMotionMode request.mode.toInt)
    return response
  return response.onSuccess
    (" (this firmware recognises mode 0 only, which is park(); the SDK rejects other " ++
      "values rather than ACKing a mode change that does not happen)")

def handleSetPayload (request : SetPayload.Request) (response : Reply Unit) :
    Code (Reply Unit) :=
  refuseUnless (checkMass request.mass) response <|
  refuseUnless (checkCom request.com) response do
    let response ← runCommand "set_payload" response fun response => do
      command (.setPayload request.mass request.com)
      return response
    return response.onSuccess
      (" (read it back with get_feedforward_scalar item 4 before trusting it: the " ++
        "firmware clamps silently)")

/-! ### Feedforward -/

def handleSetFeedforwardMask (request : SetFeedforwardMask.Request) (response : Reply Unit) :
    Code (Reply Unit) :=
  runCommand "set_feedforward_mask" response fun response => do
    command (.setFfMask request.mask)
    return response

def handleSetFeedforwardPreset (request : SetFeedforwardPreset.Request)
    (response : Reply Unit) : Code (Reply Unit) :=
  refuseUnless (checkFfPreset request.preset.toInt) response <|
    runCommand "set_feedforward_preset" response fun response => do
      command (.ffPreset request.preset.toInt)
      return response

def handleSetFeedforwardScalar (request : SetFeedforwardScalar.Request)
    (response : Reply Unit) : Code (Reply Unit) :=
  runCommand "set_feedforward_scalar" response fun response => do
    command (.setFfScalar request.item.toInt request.sub.toInt request.value)
    return { response with
      message := "scalar written; read it back with get_feedforward_scalar, because the " ++
        "firmware clamps silently" }

def handleSetFeedforwardVector (request : SetFeedforwardVector.Request)
    (response : Reply Unit) : Code (Reply Unit) :=
  refuseUnless (checkFfValues request.values) response <|
    runCommand "set_feedforward_vector" response fun response => do
      command (.setFfVec request.item.toInt request.values)
      return response

def handleGetFeedforwardScalar (request : GetFeedforwardScalar.Request)
    (response : Reply Double) : Code (Reply Double) :=
  runCommand "get_feedforward_scalar" response fun response => do
    let value ← command (.getFfScalar request.item.toInt request.sub.toInt)
    return { response with body := value, message := "value read back from the firmware" }

/-! ### Joint parameters -/

/-- `if (!connected()) { fill_failure(*response, check_connected(false)); return; }`. -/
def refuseUnlessConnected {Body : Type} (response : Reply Body) (rest : Code (Reply Body)) :
    Code (Reply Body) := do
  let link ← connected
  if link then rest else return response.fillFailure (checkConnected false)

/-- A negative joint reads the whole table. -/
def handleGetJointParams (request : GetJointParams.Request)
    (response : Reply (List JointParam)) : Code (Reply (List JointParam)) :=
  refuseUnlessConnected response do
    let joint := request.joint.toInt
    if 0 ≤ joint then
      let axes ← armQuery .n
      refuseUnless (checkJointIndex joint axes) response <|
        runCommand "get_joint_params" response fun response => do
          let param ← command (.getJointParam joint)
          return { response with body := [param] }
    else
      runCommand "get_joint_params" response fun response => do
        let params ← command .allJointParams
        return { response with body := params }

def handleSetJointGains (request : SetJointGains.Request) (response : Reply Unit) :
    Code (Reply Unit) :=
  refuseUnlessConnected response do
    let axes ← armQuery .n
    refuseUnless (checkJointIndex request.joint.toInt axes) response <|
      runCommand "set_joint_gains" response fun response => do
        command (.setJointParam request.joint.toInt request.kp request.kd request.tauMax)
        return response

def handleSetJointLimits (request : SetJointLimits.Request) (response : Reply Unit) :
    Code (Reply Unit) :=
  refuseUnlessConnected response do
    let axes ← armQuery .n
    refuseUnless (checkJointIndex request.joint.toInt axes) response <|
      runCommand "set_joint_limits" response fun response => do
        command (.setJointLimits request.joint.toInt request.qMin request.qMax)
        return response

end LitearmDriver
