import LitearmDriver.Node

/-!
# Status and publishing

What the node reports: the cached frame and licence record, the status message, and the two
publishers. The code of the timers reads only accessors of the SDK.
-/

namespace LitearmDriver

open Interaction

/-! ### Cached state -/

/-- `arm_ != nullptr ? arm_->accessor() : otherwise`. -/
def queryOr (q : Query) (otherwise : q.Answer) : Code q.Answer := do
  let node ← self
  if node.arm.isNone then return otherwise else query q

/-- True when the firmware currently reports the motors enabled. A read that fails is not
evidence of enablement. -/
def motorsEnabled : Code Bool := do
  let node ← self
  if node.arm.isNone then return false
  let answer ← query .getState
  match answer with
  | .ok message =>
    match message.value with
    | some state => return state.enabled
    | none       => return false
  | .error _ => return false

/-- A frame enters the cache together with its arrival time. -/
def Node.holdFrame (state : RobotState) (stamp : Double) (node : Node) : Node :=
  { node with lastState := state, lastStateStamp := stamp, haveState := true }

/-- A licence record enters the cache. -/
def Node.holdLicense (license : LicenseInfo) (node : Node) : Node :=
  { node with license := license, licenseValid := true }

/-- The frame the SDK holds, copied into the cache. A read that fails changes nothing. -/
def updateCache : Code Unit := do
  let node ← self
  if node.arm.isNone then return ()
  let answer ← query .getState
  match answer with
  | .ok message =>
    match message.value with
    | some state => assign (.holdFrame state message.timestamp)
    | none => return ()
  | .error _ => return ()

/-- The frame in the cache, if there is one. -/
def Node.cached (node : Node) : Option RobotState :=
  if node.haveState then some node.lastState else none

/-- Cached frame, or none when this session has not seen one yet. -/
def cachedState : Code (Option RobotState) := do
  updateCache
  let node ← self
  return node.cached

/-- Fill the cached licence record by reading the device. -/
def refreshLicenseRecord : Code Unit := do
  let node ← self
  if node.arm.isNone then return ()
  let license ← command .license
  assign (.holdLicense license)

/-! ### The status message -/

/-- Fill the fields a frame determines. -/
def LitearmStatus.withFrame (status : LitearmStatus) (state : RobotState) : LitearmStatus :=
  { status with
    enabled := state.enabled
    faulted := state.faulted
    cartBusy := state.cartBusy
    jointFault := state.jointFault
    dropHoldInferred := state.dropHoldInferred
    mode := toUInt16 state.mode
    modeName := state.modeName
    flags := state.flags }

/-- One value per name: that of the frame where it covers the axis, `missing` elsewhere. -/
def perAxis {α : Type} (count : Nat) (joints : List JointFeedback) (f : JointFeedback → α)
    (missing : α) : List α :=
  (List.range count).map fun i => (joints[i]?.map f).getD missing

/-- The per-axis diagnostics, in the order of the names. -/
def LitearmStatus.withAxes (status : LitearmStatus) (names : List String)
    (joints : List JointFeedback) : LitearmStatus :=
  { status with
    jointNames := names
    temperatureMos := perAxis names.length joints JointFeedback.tMos .nan
    temperatureCoil := perAxis names.length joints JointFeedback.tCoil .nan
    jointErrorCode := perAxis names.length joints JointFeedback.err 0 }

/-- The licence fields stay empty while no record is held. -/
def LitearmStatus.withLicense (status : LitearmStatus) (valid : Bool) (license : LicenseInfo) :
    LitearmStatus :=
  if valid then
    { status with
      licenseValid := true
      licenseState := toUInt8 license.state
      licenseStateName := license.stateName
      licenseUid := license.uidHex }
  else { status with licenseValid := false }

/-- Fill everything a frame determines; without one the flags keep their defaults. -/
def LitearmStatus.withState (status : LitearmStatus) (names : List String) :
    Option RobotState → LitearmStatus
  | some state => (status.withFrame state).withAxes names state.joints
  | none       => status.withAxes names []

/-- Build a status message from `fresh` when it is given, and from the cached frame
otherwise. -/
def buildStatus (fresh : Option RobotState) : Code LitearmStatus := do
  let stamp ← ask .now
  let node ← self
  let link ← connected
  let inDfu ← queryOr .isInDfu false
  let firmware ← queryOr .firmware ""
  let lastResetReason ← queryOr .lastResetReason ""
  let zeroGActive ← queryOr .zeroGActive false
  let zeroGError ← queryOr .zeroGErrorText ""
  let feedbackAge ← frameAge node.lastStateStamp
  let status : LitearmStatus :=
    { header := ⟨stamp, node.frameId⟩
      connected := link
      inDfu := inDfu
      firmware := firmware
      lastResetReason := lastResetReason
      speedScaling := node.speedScaling
      zeroGActive := zeroGActive
      zeroGError := zeroGError
      feedbackAge := feedbackAge }
  let status := status.withState node.jointNames (fresh <|> node.cached)
  return status.withLicense node.licenseValid node.license

/-! ### Publishing -/

/-- A lifecycle publisher drops what it is given while it is not activated. -/
def publishOn (publisher : Publisher) (p : Publication) : Code Unit :=
  if publisher.activated then ask (.publish p) else .pure ()

/-- The joint states of a frame: every name, and the values of the axes both lists have. -/
def jointStateOf (header : Header) (names : List String) (state : RobotState) : JointState :=
  let joints := state.joints.take (min names.length state.joints.length)
  { header := header
    name := names
    position := joints.map JointFeedback.q
    velocity := joints.map JointFeedback.dq
    effort := joints.map JointFeedback.tau }

/-- `if (status_publisher_) status_publisher_->publish(build_status(state))`. -/
def publishStatusMessage (state : Option RobotState) : Code Unit := do
  let node ← self
  match node.statusPublisher with
  | some publisher =>
    let status ← buildStatus state
    publishOn publisher (.status status)
  | none => return ()

/-- The optional joint states, published only when there is a frame. -/
def publishJointStateMessage (state : Option RobotState) : Code Unit := do
  let node ← self
  match node.jointStatePublisher, state with
  | some publisher, some state =>
    let stamp ← ask .now
    publishOn publisher (.jointState (jointStateOf ⟨stamp, node.frameId⟩ node.jointNames state))
  | _, _ => return ()

/-- The status timer. -/
def publishStatus : Code Unit := do
  let state ← cachedState
  publishStatusMessage state
  publishJointStateMessage state

/-- A finding on `/diagnostics`: what it raises the level to, and its text. -/
structure Finding where
  level : Level
  text : String

/-- The level of a report: an error outranks a warning. -/
def levelOf (findings : List Finding) : Level :=
  findings.foldl (fun level finding => match finding.level, level with
    | .error, _ => .error
    | .warn, .ok => .warn
    | _, level => level) .ok

/-- The texts of the findings, separated by semicolons. -/
def problemsOf (findings : List Finding) : String :=
  "; ".intercalate (findings.map Finding.text)

/-- What a diagnostics report reads from the SDK and the clocks, in this order. -/
structure DiagnosticReadings where
  stamp : Int
  firmware : String
  link : Bool
  inDfu : Bool
  zeroG : Bool
  linkAgain : Bool
  zeroGAgain : Bool
  age : Double

/-- The report on the members and the readings. -/
def diagnosticsOf (node : Node) (r : DiagnosticReadings) : DiagnosticArray :=
  let findings : List Finding :=
    (if !r.link then [⟨.error, "link down"⟩] else []) ++
    (if r.inDfu then [⟨.error, "in DFU"⟩] else []) ++
    (if node.haveState && node.lastState.faulted then
      [⟨.error, "faulted: " ++ node.lastState.faultDetail⟩] else []) ++
    (if node.haveState && node.lastState.dropHoldInferred then
      [⟨.warn, "rigid-hold latch inferred (reset or clear_faults to release)"⟩] else []) ++
    (if node.licenseValid && !node.license.activated then
      [⟨.warn, "licence not activated: ENABLE will be refused"⟩] else []) ++
    (if r.zeroG then [⟨.ok, "zero gravity active"⟩] else [])
  let bool (b : Bool) : String := if b then "true" else "false"
  let status : DiagnosticStatus :=
    { level := levelOf findings
      name := node.name ++ ": litearm link"
      message := if problemsOf findings = "" then "ok" else problemsOf findings
      hardwareId := r.firmware
      values :=
        [("connected", bool r.linkAgain),
         ("enabled", bool (node.haveState && node.lastState.enabled)),
         ("mode", if node.haveState then node.lastState.modeName else "unknown"),
         ("joint_fault", toString (if node.haveState then node.lastState.jointFault.toNat else 0)),
         ("speed_scaling_percent", toString node.speedScaling.toNat),
         ("zero_g_active", bool r.zeroGAgain),
         ("feedback_age_s", r.age.toDecimal),
         ("license_state", if node.licenseValid then node.license.stateName else "unknown")] }
  ⟨⟨r.stamp, ""⟩, [status]⟩

/-- The diagnostics timer. -/
def publishDiagnostics : Code Unit := do
  let node ← self
  match node.diagnosticsPublisher with
  | none => return ()
  | some publisher =>
    let stamp ← ask .now
    let firmware ← queryOr .firmware ""
    let link ← connected
    let inDfu ← queryOr .isInDfu false
    let zeroG ← queryOr .zeroGActive false
    let linkAgain ← connected
    let zeroGAgain ← queryOr .zeroGActive false
    let age ← frameAge node.lastStateStamp
    publishOn publisher (.diagnostics (diagnosticsOf node
      ⟨stamp, firmware, link, inDfu, zeroG, linkAgain, zeroGAgain, age⟩))

end LitearmDriver
