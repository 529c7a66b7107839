import LitearmDriver.Handlers.Administration

/-!
# Handlers for the motion surface

The service handlers of `litearm_driver_motion.cpp`. Every one that can energise the motors
sits behind `allow_motion`; `poll_cart` and `inverse_kinematics` do not move the arm.
-/

namespace LitearmDriver

open Interaction

/-- Fill a cartesian plan report from what the firmware answered. -/
def fillPlan (plan : CartPlan) : PlanReport :=
  { settled := plan.settled
    err := plan.err
    waypoints := plan.nWp
    planUs := plan.planUs
    settleErrRad := plan.settleErrRad
    qFinal := plan.qFinal }

/-- The six values from index `i` on; none when one of the reads is outside the list. -/
def poseAt (flat : List Double) (i : Nat) : Option Pose := do
  let x ← flat[i]?
  let y ← flat[i + 1]?
  let z ← flat[i + 2]?
  let roll ← flat[i + 3]?
  let pitch ← flat[i + 4]?
  let yaw ← flat[i + 5]?
  return #v[x, y, z, roll, pitch, yaw]

/-- The indices `i = 0; i < size; i += 6`. -/
def poseIndices (size : Nat) : List Nat := (List.range ((size + 5) / 6)).map (6 * ·)

/-- A flat array of six values per waypoint turned into the SDK's pose list. Reading outside
the array is undefined behaviour. -/
def readPoses (flat : List Double) : Code (Except GateResult (List Pose)) :=
  let gate := checkFiniteValues flat "poses"
  if !gate.ok then
    return .error gate
  else if flat.length % 6 ≠ 0 then
    return .error (fail ("poses must hold six values per waypoint; got " ++
      toString flat.length ++ ", which is not a multiple of six"))
  else
    match (poseIndices flat.length).mapM (poseAt flat) with
    | some poses => return .ok poses
    | none       => .throw .undefined

def handleMoveJ (request : MoveJ.Request) (response : Reply Unit) : Code (Reply Unit) :=
  requireMotionAllowed response do
    let node ← self
    refuseUnless (checkFiniteValuesN request.q node.jointCount "q") response <|
    refuseUnless (checkSpeedFraction request.speed) response do
      let response ← runCommand "move_j" response fun response => do
        command (.movej request.q request.speed)
        return response
      return response.onSuccess " (blocks until the firmware reports the move finished)"

def handleMoveJSync (request : MoveJSync.Request) (response : Reply Unit) :
    Code (Reply Unit) :=
  requireMotionAllowed response do
    let node ← self
    refuseUnless (checkFiniteValuesN request.q node.jointCount "q") response <|
    refuseUnless (checkSpeedFraction request.speed) response <|
      runCommand "move_j_sync" response fun response => do
        command (.movejSync request.q request.speed)
        return response

def handleMoveP (request : MoveP.Request) (response : Reply Unit) : Code (Reply Unit) :=
  requireMotionAllowed response <|
    refuseUnless (checkFinitePose request.pose) response <|
    refuseUnless (checkSpeedFraction request.speed) response do
      let response ← runCommand "move_p" response fun response => do
        command (.moveP request.pose request.speed request.wait)
        return response
      return if request.wait then response else
        response.onSuccess " (wait=false: the plan is in flight; poll_cart reports it)"

/-- An optional joint array: empty, or checked like `q`. -/
def checkOptionalValues (values : List Double) (expected : Nat) (what : String) : GateResult :=
  if values.isEmpty then .pass else checkFiniteValuesN values expected what

def handleMoveJs (request : MoveJs.Request) (response : Reply Unit) : Code (Reply Unit) :=
  requireMotionAllowed response do
    let node ← self
    refuseUnless (checkFiniteValuesN request.q node.jointCount "q") response <|
    refuseUnless (checkOptionalValues request.dq node.jointCount "dq") response <|
    refuseUnless (checkOptionalValues request.tauFf node.jointCount "tau_ff") response do
      let response ← runCommand "move_js" response fun response => do
        command (.moveJs request.q request.dq request.tauFf)
        return response
      let response := response.onSuccess
        (" (one frame only: the firmware's 100 ms watchdog takes the arm back to its hold " ++
          "unless a caller keeps re-sending, which is what the ros2_control component does)")
      return if request.tauFf.isEmpty then response else
        response.onSuccess
          (" (a tau_ff section switches the firmware's built-in feedforward off for this " ++
            "frame)")

def handleSendMit (request : SendMit.Request) (response : Reply Unit) : Code (Reply Unit) :=
  requireMotionAllowed response do
    let node ← self
    refuseUnless (checkJointIndex request.joint.toInt node.jointCount) response <|
    refuseUnless (checkFiniteValues
      [request.q, request.dq, request.kp, request.kd, request.tau] "q/dq/kp/kd/tau")
      response <|
      runCommand "send_mit" response fun response => do
        command (.sendMit request.joint.toInt request.q request.dq request.kp request.kd
          request.tau)
        return response

/-- The first refusal among gates checked in order. -/
def firstRefusal : List GateResult → GateResult
  | []            => .pass
  | gate :: gates => if gate.ok then firstRefusal gates else gate

def handleSendMitAll (request : SendMitAll.Request) (response : Reply Unit) :
    Code (Reply Unit) :=
  requireMotionAllowed response do
    let node ← self
    let arrays := [("q", request.q), ("dq", request.dq), ("kp", request.kp),
      ("kd", request.kd), ("tau", request.tau)]
    refuseUnless (firstRefusal (arrays.map fun entry =>
      checkFiniteValuesN entry.2 node.jointCount entry.1)) response do
      let response ← runCommand "send_mit_all" response fun response => do
        command (.sendMitAll request.q request.dq request.kp request.kd request.tau)
        return response
      return response.onSuccess (" (raw gains for one frame: the firmware adds no " ++
        "feedforward of its own on this path)")

def handleHome (response : Reply Unit) : Code (Reply Unit) :=
  requireMotionAllowed response do
    let response ← runCommand "home" response fun response => do
      command .home
      return response
    return response.onSuccess (" (the firmware walks to the URDF zero pose at its own low " ++
      "speed; support the arm first)")

def handleMoveL (request : MoveL.Request) (response : Reply PlanReport) :
    Code (Reply PlanReport) :=
  requireMotionAllowed response <|
    refuseUnless (checkFinitePose request.pose) response <|
    refuseUnless (checkSpeedFraction request.speed) response <|
      runCommand "move_l" response fun response => do
        let plan ← command (.moveL request.pose request.speed request.wait)
        return { response with body := fillPlan plan }

/-- A pose gate whose message is prefixed with the name of the pose. -/
def checkNamedPose (name : String) (pose : Pose) : GateResult :=
  let gate := checkFinitePose pose
  if gate.ok then gate else { gate with message := name ++ ": " ++ gate.message }

def handleMoveC (request : MoveC.Request) (response : Reply PlanReport) :
    Code (Reply PlanReport) :=
  requireMotionAllowed response <|
    refuseUnless (firstRefusal [checkNamedPose "start" request.start,
      checkNamedPose "via" request.via, checkNamedPose "end" request.end]) response <|
    refuseUnless (checkSpeedFraction request.speed) response <|
      runCommand "move_c" response fun response => do
        let plan ← command (.moveC request.start request.via request.end request.speed
          request.wait)
        return { response with body := fillPlan plan }

def handleMovePath (request : MovePath.Request) (response : Reply PlanReport) :
    Code (Reply PlanReport) :=
  requireMotionAllowed response do
    let read ← readPoses request.poses
    match read with
    | .error gate => return response.fillFailure gate
    | .ok poses =>
      refuseUnless (checkSpeedFraction request.speed) response <|
        runCommand "move_path" response fun response => do
          let plan ← command (.movePath poses request.speed request.wait)
          return { response with body := fillPlan plan }

def handlePollCart (response : Reply PollCart.Body) : Code (Reply PollCart.Body) :=
  runCommand "poll_cart" response fun response => do
    let plan ← command .pollCart
    match plan with
    | none =>
      return { response with
        body := { response.body with pending := true }
        message := "no cartesian plan has been reported yet" }
    | some plan =>
      return { response with
        body := { fillPlan plan with pending := false }
        message := if plan.ok then "cartesian plan finished" else "cartesian plan was refused" }

/-- A deadline that is zero stands for the default. -/
def orDefault (timeout default : Double) : Double := if 0 < timeout then timeout else default

def handleInverseKinematics (request : InverseKinematics.Request)
    (response : Reply (List Double)) : Code (Reply (List Double)) :=
  refuseUnless (checkFinitePose request.pose) response <|
  refuseUnless (checkOptionalValues request.seed 7 "seed") response <|
  refuseUnless (checkTimeout request.timeout "timeout") response <|
    runCommand "inverse_kinematics" response fun response => do
      let q ← command (.ik request.pose request.seed (orDefault request.timeout 3))
      return { response with body := q }

end LitearmDriver
