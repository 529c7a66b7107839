import LitearmDriver.Double

/-!
# Argument validation

The rules of `safety_gates.cpp`. A gate either passes, or refuses with the text the service
response carries.
-/

namespace LitearmDriver

/-- Pass or fail, plus the text a service response carries on failure. -/
structure GateResult where
  ok : Bool := true
  message : String := ""
  deriving DecidableEq

/-- A refusal. -/
def fail (message : String) : GateResult := { ok := false, message := message }

/-- The outcome of a gate whose checks all passed. -/
def GateResult.pass : GateResult := {}

/-- A gate that refuses says why. -/
def GateResult.Explained (gate : GateResult) : Prop := gate.ok = false → gate.message ≠ ""

@[simp] lemma GateResult.pass_ok : GateResult.pass.ok = true := rfl
@[simp] lemma fail_ok (message : String) : (fail message).ok = false := rfl
@[simp] lemma fail_message (message : String) : (fail message).message = message := rfl

lemma GateResult.explained_pass : GateResult.pass.Explained := by
  intro h
  simp at h

lemma GateResult.explained_fail {message : String} (h : message ≠ "") :
    (fail message).Explained := fun _ => h

lemma GateResult.Explained.ite {p : Prop} [Decidable p] {a b : GateResult} (ha : a.Explained)
    (hb : b.Explained) : (if p then a else b).Explained := by
  split
  · exact ha
  · exact hb

/-! ### Scalars -/

/-- The speed governor is an integer percentage. -/
def checkSpeedPercent (percent : Int) : GateResult :=
  if percent < 0 ∨ percent > 100 then
    fail ("percent must be 0..100; it is an integer percentage, so 1 means one percent of " ++
      "full speed, not full speed")
  else .pass

def checkFfPreset (preset : Int) : GateResult :=
  if preset < 0 ∨ preset > 2 then
    fail "preset must be 0 (all off), 1 (factory) or 2 (all on)"
  else .pass

/-- The SDK contract on the zero-gravity keep-alive period is `[0.005, 0.10)`. -/
def checkZeroGPeriod (periodS : Double) : GateResult :=
  if !periodS.isFinite then
    fail "zero-gravity keep-alive period must be finite"
  else if periodS < 0.005 ∨ 0.10 ≤ periodS then
    fail ("zero-gravity keep-alive period must be in [0.005, 0.10) seconds; the firmware " ++
      "command watchdog trips at 0.10 s")
  else .pass

/-- An axis index has to address an axis the firmware actually reported. -/
def checkJointIndex (index jointCount : Int) : GateResult :=
  if jointCount ≤ 0 then
    fail "the firmware has not reported any axes yet; connect first"
  else if index < 0 ∨ jointCount ≤ index then
    fail ("axis index must be 0.." ++ toString (jointCount - 1) ++ " (the firmware " ++
      "reports " ++ toString jointCount ++ " axes)")
  else .pass

/-- The firmware clamps mass into `[0, 20]` kg silently. -/
def checkMass (mass : Double) : GateResult :=
  if !mass.isFinite then
    fail "mass must be finite"
  else if mass < 0 ∨ 20 < mass then
    fail ("mass must be in [0, 20] kg; the firmware clamps silently outside that range, so " ++
      "the stored value would differ from the one requested")
  else .pass

/-- Speeds of the motion services are fractions of full speed. -/
def checkSpeedFraction (speed : Double) : GateResult :=
  if !speed.isFinite then
    fail "speed must be finite"
  else if speed ≤ 0 ∨ 1 < speed then
    fail ("speed is a fraction of full speed: 0 < speed <= 1 (30 means 30x, " ++
      "not 30 percent; set_speed_scaling takes percent)")
  else .pass

def checkTimeout (timeout : Double) (what : String) : GateResult :=
  if !timeout.isFinite then
    fail (what ++ " must be finite")
  else if timeout < 0 then
    fail (what ++ " must not be negative; 0 means \"use the " ++
      "SDK default\" where the service documents it")
  else .pass

/-! ### Switches -/

/-- Flash writes and the joint parameter reset require the motors to be disabled. -/
def checkRequiresDisabled (enabled : Bool) (operation : String) : GateResult :=
  if enabled then
    fail (operation ++ " requires the motors to be disabled; call disable first " ++
      "(the SDK and the firmware both refuse while enabled)")
  else .pass

/-- Some services are dangerous enough that a parameter has to opt in explicitly. -/
def checkParameterAllows (allowed : Bool) (parameterName : String) : GateResult :=
  if !allowed then
    fail ("refused: set the parameter " ++ parameterName ++ " to true to allow this service")
  else .pass

def checkConnected (connected : Bool) : GateResult :=
  if !connected then
    fail ("the arm is not connected: check the USB cable and the 24 V supply, and make sure " ++
      "the ros2_control stack is not holding the port")
  else .pass

/-! ### Arrays and names -/

/-- A fixed array of three values. -/
abbrev Vector3 := Vector Double 3

/-- A pose `[x, y, z, roll, pitch, yaw]`. -/
abbrev Pose := Vector Double 6

def checkCom (com : Vector3) : GateResult :=
  if com.toList.any (!·.isFinite) then
    fail "centre of mass must be finite in all three components"
  else .pass

def checkFfValues (values : List Double) : GateResult :=
  if values.isEmpty then
    fail "values must not be empty"
  else if values.any (!·.isFinite) then
    fail "every feedforward value must be finite"
  else .pass

/-- Non-empty, of the expected length unless that is zero, and finite throughout. -/
def checkFiniteValuesImpl (values : List Double) (expected : Nat) (what : String) :
    GateResult :=
  if values.isEmpty then
    fail (what ++ " must not be empty")
  else if 0 < expected ∧ values.length ≠ expected then
    fail (what ++ " has " ++ toString values.length ++ " values; the firmware reports " ++
      toString expected ++ " axes")
  else
    match values.findIdx? (!·.isFinite) with
    | some i => fail (what ++ "[" ++ toString i ++ "] is not finite")
    | none   => .pass

/-- The two-argument form checks only finiteness. -/
def checkFiniteValues (values : List Double) (what : String) : GateResult :=
  checkFiniteValuesImpl values 0 what

/-- The three-argument form also requires an exact length. -/
def checkFiniteValuesN (values : List Double) (expected : Nat) (what : String) : GateResult :=
  checkFiniteValuesImpl values expected what

def checkFinitePose (pose : Pose) : GateResult := checkFiniteValuesImpl pose.toList 6 "pose"

def checkFiniteVector3 (values : Vector3) : GateResult :=
  checkFiniteValuesImpl values.toList 3 "vector"

/-- A log dump file name is a plain name, never a path. -/
def checkLogFilename (filename : String) : GateResult :=
  if filename = "" then
    fail "filename must not be empty"
  else if filename.toList.contains '/' ∨ filename.toList.contains '\\' ∨
      filename = "." ∨ filename = ".." then
    fail ("filename is a plain file name: it is written inside the node's " ++
      "log_dir, so a path is not accepted")
  else .pass

/-! ### Every refusal is explained -/

open GateResult

lemma explained_checkSpeedPercent (percent : Int) : (checkSpeedPercent percent).Explained :=
  .ite (explained_fail (by simp)) explained_pass

lemma explained_checkFfPreset (preset : Int) : (checkFfPreset preset).Explained :=
  .ite (explained_fail (by simp)) explained_pass

lemma explained_checkZeroGPeriod (periodS : Double) : (checkZeroGPeriod periodS).Explained :=
  .ite (explained_fail (by simp)) (.ite (explained_fail (by simp)) explained_pass)

lemma explained_checkJointIndex (index jointCount : Int) :
    (checkJointIndex index jointCount).Explained :=
  .ite (explained_fail (by simp)) (.ite (explained_fail (by simp)) explained_pass)

lemma explained_checkMass (mass : Double) : (checkMass mass).Explained :=
  .ite (explained_fail (by simp)) (.ite (explained_fail (by simp)) explained_pass)

lemma explained_checkSpeedFraction (speed : Double) : (checkSpeedFraction speed).Explained :=
  .ite (explained_fail (by simp)) (.ite (explained_fail (by simp)) explained_pass)

lemma explained_checkTimeout (timeout : Double) (what : String) :
    (checkTimeout timeout what).Explained :=
  .ite (explained_fail (by simp)) (.ite (explained_fail (by simp)) explained_pass)

lemma explained_checkRequiresDisabled (enabled : Bool) (operation : String) :
    (checkRequiresDisabled enabled operation).Explained :=
  .ite (explained_fail (by simp)) explained_pass

lemma explained_checkParameterAllows (allowed : Bool) (parameterName : String) :
    (checkParameterAllows allowed parameterName).Explained :=
  .ite (explained_fail (by simp)) explained_pass

lemma explained_checkCom (com : Vector3) : (checkCom com).Explained :=
  .ite (explained_fail (by simp)) explained_pass

lemma explained_checkFfValues (values : List Double) : (checkFfValues values).Explained :=
  .ite (explained_fail (by simp)) (.ite (explained_fail (by simp)) explained_pass)

lemma explained_checkFiniteValuesImpl (values : List Double) (expected : Nat)
    (what : String) : (checkFiniteValuesImpl values expected what).Explained := by
  refine .ite (explained_fail (by simp)) (.ite (explained_fail (by simp)) ?_)
  split
  · exact explained_fail (by simp)
  · exact explained_pass

lemma explained_checkFiniteValues (values : List Double) (what : String) :
    (checkFiniteValues values what).Explained :=
  explained_checkFiniteValuesImpl values 0 what

lemma explained_checkFiniteValuesN (values : List Double) (expected : Nat) (what : String) :
    (checkFiniteValuesN values expected what).Explained :=
  explained_checkFiniteValuesImpl values expected what

lemma explained_checkFinitePose (pose : Pose) : (checkFinitePose pose).Explained :=
  explained_checkFiniteValuesImpl _ _ _

lemma explained_checkFiniteVector3 (values : Vector3) :
    (checkFiniteVector3 values).Explained :=
  explained_checkFiniteValuesImpl _ _ _

lemma explained_checkLogFilename (filename : String) : (checkLogFilename filename).Explained :=
  .ite (explained_fail (by simp)) (.ite (explained_fail (by simp)) explained_pass)

/-! ### What the gates accept -/

/-- Every value is a finite number. -/
def AllFinite (values : List Double) : Prop := ∀ x ∈ values, x.isFinite = true

lemma checkFiniteValuesImpl_ok_iff (values : List Double) (expected : Nat) (what : String) :
    (checkFiniteValuesImpl values expected what).ok = true ↔
      values ≠ [] ∧ (expected = 0 ∨ values.length = expected) ∧ AllFinite values := by
  rw [checkFiniteValuesImpl]
  by_cases hempty : values = []
  · simp [hempty]
  rw [if_neg (by simpa using hempty)]
  by_cases hlength : 0 < expected ∧ values.length ≠ expected
  · rw [if_pos hlength]
    simp only [fail_ok, Bool.false_eq_true, false_iff]
    rintro ⟨-, hzero | hsame, -⟩
    · omega
    · exact hlength.2 hsame
  rw [if_neg hlength]
  have hexpected : expected = 0 ∨ values.length = expected := by omega
  cases hfind : values.findIdx? (!·.isFinite) with
  | none =>
    have hall : AllFinite values := by
      simpa [AllFinite, List.findIdx?_eq_none_iff] using hfind
    simp [hempty, hexpected, hall]
  | some i =>
    simp only [fail_ok, Bool.false_eq_true, false_iff]
    rintro ⟨-, -, hall⟩
    have hnone : values.findIdx? (!·.isFinite) = none := by
      simpa [AllFinite, List.findIdx?_eq_none_iff] using hall
    simp [hnone] at hfind

lemma checkFiniteValues_ok_iff (values : List Double) (what : String) :
    (checkFiniteValues values what).ok = true ↔ values ≠ [] ∧ AllFinite values := by
  rw [checkFiniteValues, checkFiniteValuesImpl_ok_iff]
  simp

/-- With a positive length the three-argument form asks for exactly that many values. -/
lemma checkFiniteValuesN_ok_iff {expected : Nat} (h : 0 < expected) (values : List Double)
    (what : String) :
    (checkFiniteValuesN values expected what).ok = true ↔
      values.length = expected ∧ AllFinite values := by
  rw [checkFiniteValuesN, checkFiniteValuesImpl_ok_iff]
  constructor
  · rintro ⟨-, hzero | hlength, hall⟩
    · omega
    · exact ⟨hlength, hall⟩
  · rintro ⟨hlength, hall⟩
    refine ⟨?_, .inr hlength, hall⟩
    rintro rfl
    simp at hlength
    omega

lemma checkFinitePose_ok_iff (pose : Pose) :
    (checkFinitePose pose).ok = true ↔ AllFinite pose.toList := by
  have h := checkFiniteValuesN_ok_iff (by decide : 0 < 6) pose.toList "pose"
  rw [checkFiniteValuesN] at h
  rw [checkFinitePose, h]
  simp

lemma checkSpeedFraction_ok_iff (speed : Double) :
    (checkSpeedFraction speed).ok = true ↔ speed.isFinite = true ∧ 0 < speed ∧ speed ≤ 1 := by
  rw [checkSpeedFraction]
  by_cases hfinite : speed.isFinite = true
  · have hlow : ¬ speed ≤ 0 ↔ 0 < speed := Double.not_le_iff_lt hfinite rfl
    have hhigh : ¬ speed ≤ 1 ↔ 1 < speed := Double.not_le_iff_lt hfinite rfl
    rw [if_neg (by simpa using hfinite)]
    by_cases h : speed ≤ 0 ∨ 1 < speed
    · rw [if_pos h]
      simp only [fail_ok, Bool.false_eq_true, false_iff]
      tauto
    · rw [if_neg h]
      simp only [GateResult.pass_ok, true_iff]
      tauto
  · rw [if_pos (by simpa using hfinite)]
    simp [hfinite]

lemma checkSpeedPercent_ok_iff (percent : Int) :
    (checkSpeedPercent percent).ok = true ↔ 0 ≤ percent ∧ percent ≤ 100 := by
  rw [checkSpeedPercent]
  split
  case isTrue h =>
    simp only [fail_ok, Bool.false_eq_true, false_iff]
    omega
  case isFalse h =>
    simp only [GateResult.pass_ok, true_iff]
    omega

lemma checkJointIndex_ok_iff (index jointCount : Int) :
    (checkJointIndex index jointCount).ok = true ↔ 0 ≤ index ∧ index < jointCount := by
  rw [checkJointIndex]
  split
  case isTrue h =>
    simp only [fail_ok, Bool.false_eq_true, false_iff]
    omega
  case isFalse h =>
    split
    case isTrue h' =>
      simp only [fail_ok, Bool.false_eq_true, false_iff]
      omega
    case isFalse h' =>
      simp only [GateResult.pass_ok, true_iff]
      omega

@[simp] lemma checkParameterAllows_ok (allowed : Bool) (parameterName : String) :
    (checkParameterAllows allowed parameterName).ok = allowed := by
  cases allowed <;> rfl

end LitearmDriver
