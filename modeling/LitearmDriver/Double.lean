import Mathlib.Data.Rat.Defs
import Mathlib.Algebra.Order.Ring.Rat
import Mathlib.Tactic.NormNum

/-!
# Double-precision numbers

A double is a finite number, one of the two infinities, or a NaN. Comparisons follow
IEEE 754: every comparison with a NaN is false. A finite number is represented by its exact
value; the difference of two finite numbers is exact, so rounding is not modelled.
-/

/-- A double-precision floating-point number. -/
inductive Double where
  | finite (value : ℚ)
  | inf (negative : Bool)
  | nan
  deriving DecidableEq

namespace Double

instance (n : ℕ) : OfNat Double n := ⟨.finite n⟩

instance : OfScientific Double := ⟨fun m s e => .finite (OfScientific.ofScientific m s e)⟩

instance : Neg Double where
  neg
    | .finite q => .finite (-q)
    | .inf b    => .inf !b
    | .nan      => .nan

instance : Inhabited Double := ⟨0⟩

/-- `std::isfinite`. -/
def isFinite : Double → Bool
  | .finite _ => true
  | .inf _    => false
  | .nan      => false

/-- `a < b` as the hardware answers it. -/
def ltb : Double → Double → Bool
  | .finite a, .finite b => decide (a < b)
  | .finite _, .inf b    => !b
  | .inf a, .finite _    => a
  | .inf a, .inf b       => a && !b
  | .nan, _ | _, .nan    => false

/-- `a <= b` as the hardware answers it. -/
def leb : Double → Double → Bool
  | .finite a, .finite b => decide (a ≤ b)
  | .finite _, .inf b    => !b
  | .inf a, .finite _    => a
  | .inf a, .inf b       => a || !b
  | .nan, _ | _, .nan    => false

instance : LT Double := ⟨fun a b => ltb a b = true⟩
instance : LE Double := ⟨fun a b => leb a b = true⟩

instance (a b : Double) : Decidable (a < b) := inferInstanceAs (Decidable (ltb a b = true))
instance (a b : Double) : Decidable (a ≤ b) := inferInstanceAs (Decidable (leb a b = true))

/-- Subtraction, exact on finite numbers; the difference of two equal infinities is a NaN. -/
def sub : Double → Double → Double
  | .finite a, .finite b => .finite (a - b)
  | .finite _, .inf b    => .inf !b
  | .inf a, .finite _    => .inf a
  | .inf a, .inf b       => if a = b then .nan else .inf a
  | .nan, _ | _, .nan    => .nan

instance : Sub Double := ⟨sub⟩

/-- Division; only the cases with a finite divisor other than zero are exact. -/
def div : Double → Double → Double
  | .finite a, .finite b =>
    if b = 0 then (if a = 0 then .nan else .inf (a < 0)) else .finite (a / b)
  | .finite _, .inf _    => 0
  | .inf a, .finite b    => .inf (xor a (b < 0))
  | .inf _, .inf _       => .nan
  | .nan, _ | _, .nan    => .nan

instance : Div Double := ⟨div⟩

/-- `q` in millionths, rounded to the nearest integer, ties to even. -/
def millionths (q : ℚ) : ℤ :=
  let f := (q * 1000000).floor
  let r := q * 1000000 - f
  if r < 1 / 2 ∨ (r = 1 / 2 ∧ f % 2 = 0) then f else f + 1

/-- `std::to_string`: six decimals. -/
def toDecimal : Double → String
  | .finite q =>
    let m := (millionths q).natAbs
    let fraction := toString (m % 1000000)
    (if q < 0 then "-" else "") ++ toString (m / 1000000) ++ "." ++
      String.ofList (List.replicate (6 - fraction.length) '0') ++ fraction
  | .inf b => if b then "-inf" else "inf"
  | .nan => "nan"

@[simp] lemma isFinite_finite (q : ℚ) : (Double.finite q).isFinite = true := rfl
@[simp] lemma isFinite_inf (b : Bool) : (Double.inf b).isFinite = false := rfl
@[simp] lemma isFinite_nan : Double.nan.isFinite = false := rfl

@[simp] lemma finite_lt_finite (a b : ℚ) : Double.finite a < .finite b ↔ a < b := by
  simp [LT.lt, ltb]

@[simp] lemma finite_le_finite (a b : ℚ) : Double.finite a ≤ .finite b ↔ a ≤ b := by
  simp [LE.le, leb]

/-- On finite numbers the two comparisons are complementary. -/
lemma not_le_iff_lt {a b : Double} (ha : a.isFinite = true) (hb : b.isFinite = true) :
    ¬ a ≤ b ↔ b < a := by
  cases a with
  | finite a =>
    cases b with
    | finite b => simp
    | inf b => simp at hb
    | nan => simp at hb
  | inf a => simp at ha
  | nan => simp at ha

/-- A double below another is not above it, whatever the two are. -/
lemma not_le_of_lt {a b : Double} (h : a < b) : ¬ b ≤ a := by
  simp only [LT.lt, ltb] at h
  simp only [LE.le, leb]
  split at h
  · simpa using h
  · simpa using h
  · simpa using h
  · rename_i a b
    cases a <;> cases b <;> simp_all
  · cases h
  · cases h

end Double
