import Mathlib.Tactic.Common

/-!
# What cannot be avoided

A system whose steps are a relation gets to `P` whatever steps it takes: `P` holds already, or
a step is possible and each one leads closer.
-/

namespace Interaction

variable {α : Type} {r : α → α → Prop} {P I : α → Prop} {a : α}

/-- Every way that `r` can take from here leads to `P`. -/
inductive Inevitably (r : α → α → Prop) (P : α → Prop) : α → Prop where
  | now {a : α} (h : P a) : Inevitably r P a
  | later {a : α} (hstep : ∃ b, r a b) (h : ∀ b, r a b → Inevitably r P b) : Inevitably r P a

/-- What an invariant keeps possible and a measure brings closer cannot be avoided. -/
theorem Inevitably.of_measure (m : α → Nat)
    (hstep : ∀ a, I a → ¬ P a → (∃ b, r a b) ∧ ∀ b, r a b → I b ∧ m b < m a) (h : I a) :
    Inevitably r P a := by
  induction hm : m a using Nat.strongRecOn generalizing a with
  | ind n ih =>
    by_cases ha : P a
    · exact .now ha
    · obtain ⟨hex, hall⟩ := hstep a h ha
      refine .later hex fun b hb => ?_
      obtain ⟨hI, hlt⟩ := hall b hb
      exact ih (m b) (hm ▸ hlt) hI rfl

end Interaction
