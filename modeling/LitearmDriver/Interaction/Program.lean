import Mathlib.Logic.Basic
import Mathlib.Tactic.Common

/-!
# Interactive programs

A `Program` is the code of one callback of a reactive component: it reads and writes a
shared state, fails with an error, and suspends at calls into an environment it does not
control. Nothing is assumed of the environment; it is a function `respond` from calls to
answers with a hidden state of its own, so quantifying over `respond` quantifies over every
behaviour the environment can show.

`run` executes a program without interruption and records the calls together with their
answers, most recent first. `wp` is the corresponding weakest precondition.
-/

namespace Interaction

/-- Code over a shared state `S`, calls `C` answered in `Ans`, and failures `ε`. -/
inductive Program (S C : Type) (Ans : C → Type) (ε α : Type) where
  | pure (a : α)
  | throw (e : ε)
  | read (k : S → Program S C Ans ε α)
  | write (f : S → S) (k : Program S C Ans ε α)
  | call (c : C) (k : Ans c → Program S C Ans ε α)

/-- A call together with the answer it received. -/
abbrev Event {C : Type} (Ans : C → Type) := Sigma Ans

variable {S C : Type} {Ans : C → Type} {ε α β γ σ : Type}

namespace Program

/-! ### Sequencing and failure -/

/-- Sequential composition; a failure skips what follows. -/
protected def bind : Program S C Ans ε α → (α → Program S C Ans ε β) → Program S C Ans ε β
  | .pure a, f    => f a
  | .throw e, _   => .throw e
  | .read k, f    => .read fun s => (k s).bind f
  | .write g k, f => .write g (k.bind f)
  | .call c k, f  => .call c fun x => (k x).bind f

/-- Run a handler in place of a failure. -/
protected def tryCatch :
    Program S C Ans ε α → (ε → Program S C Ans ε α) → Program S C Ans ε α
  | .pure a, _    => .pure a
  | .throw e, h   => h e
  | .read k, h    => .read fun s => (k s).tryCatch h
  | .write g k, h => .write g (k.tryCatch h)
  | .call c k, h  => .call c fun x => (k x).tryCatch h

instance : Monad (Program S C Ans ε) where
  pure := .pure
  bind := .bind

@[simp] lemma pure_bind' (a : α) (f : α → Program S C Ans ε β) :
    (Program.pure a : Program S C Ans ε α) >>= f = f a := rfl

@[simp] lemma read_bind (k : S → Program S C Ans ε α) (f : α → Program S C Ans ε β) :
    Program.read k >>= f = .read fun s => k s >>= f := rfl

@[simp] lemma write_bind (g : S → S) (k : Program S C Ans ε α)
    (f : α → Program S C Ans ε β) : Program.write g k >>= f = .write g (k >>= f) := rfl

@[simp] lemma call_bind (c : C) (k : Ans c → Program S C Ans ε α)
    (f : α → Program S C Ans ε β) : Program.call c k >>= f = .call c fun x => k x >>= f := rfl

/-- Sequencing is associative. -/
lemma bind_assoc' (p : Program S C Ans ε α) (f : α → Program S C Ans ε β)
    (h : β → Program S C Ans ε γ) : p >>= f >>= h = p >>= fun a => f a >>= h := by
  induction p with
  | pure a => rfl
  | throw e => rfl
  | read k ih => simp only [read_bind, ih]
  | write g k ih => simp only [write_bind, ih]
  | call c k ih => simp only [call_bind, ih]

end Program

/-! ### Execution -/

/-- What a run works on: the shared state, the environment, and the calls made so far
with their answers, most recent first. -/
@[ext] structure Config (S : Type) {C : Type} (Ans : C → Type) (σ : Type) where
  shared : S
  outside : σ
  history : List (Event Ans)

/-- An environment: how a call is answered and what that does to the environment. -/
abbrev Responder {C : Type} (Ans : C → Type) (σ : Type) := (c : C) → σ → Ans c × σ

namespace Config

variable (respond : Responder Ans σ)

/-- The answer the environment would give now. -/
def answer (c : C) (g : Config S Ans σ) : Ans c := (respond c g.outside).1

/-- The configuration after a call. -/
def after (c : C) (g : Config S Ans σ) : Config S Ans σ :=
  ⟨g.shared, (respond c g.outside).2, ⟨c, g.answer respond c⟩ :: g.history⟩

@[simp] lemma after_shared (c : C) (g : Config S Ans σ) :
    (g.after respond c).shared = g.shared := rfl

@[simp] lemma after_history (c : C) (g : Config S Ans σ) :
    (g.after respond c).history = ⟨c, g.answer respond c⟩ :: g.history := rfl

/-- The configuration after a write. -/
def update (f : S → S) (g : Config S Ans σ) : Config S Ans σ := { g with shared := f g.shared }

@[simp] lemma update_shared (f : S → S) (g : Config S Ans σ) :
    (g.update f).shared = f g.shared := rfl

end Config

namespace Program

/-- Execute a program without interruption. -/
def run (respond : Responder Ans σ) :
    Program S C Ans ε α → Config S Ans σ → Except ε α × Config S Ans σ
  | .pure a, g    => (.ok a, g)
  | .throw e, g   => (.error e, g)
  | .read k, g    => (k g.shared).run respond g
  | .write f k, g => k.run respond (g.update f)
  | .call c k, g  => (k (g.answer respond c)).run respond (g.after respond c)

variable (respond : Responder Ans σ)

@[simp] lemma run_pure' (a : α) (g : Config S Ans σ) :
    (Pure.pure a : Program S C Ans ε α).run respond g = (.ok a, g) := rfl

/-- Running a sequence runs its first part, and the rest unless the first part failed. -/
lemma run_bind (p : Program S C Ans ε α) (f : α → Program S C Ans ε β) (g : Config S Ans σ) :
    (p >>= f).run respond g =
      match p.run respond g with
      | (.ok a, g')    => (f a).run respond g'
      | (.error e, g') => (.error e, g') := by
  induction p generalizing g with
  | pure a => rfl
  | throw e => rfl
  | read k ih => simp only [read_bind, run, ih]
  | write h k ih => simp only [write_bind, run, ih]
  | call c k ih => simp only [call_bind, run, ih]

lemma run_tryCatch (p : Program S C Ans ε α) (h : ε → Program S C Ans ε α)
    (g : Config S Ans σ) :
    (p.tryCatch h).run respond g =
      match p.run respond g with
      | (.ok a, g')    => (.ok a, g')
      | (.error e, g') => (h e).run respond g' := by
  induction p generalizing g with
  | pure a => rfl
  | throw e => rfl
  | read k ih => simp only [Program.tryCatch, run, ih]
  | write f k ih => simp only [Program.tryCatch, run, ih]
  | call c k ih => simp only [Program.tryCatch, run, ih]

/-! ### Weakest preconditions -/

/-- `Q` holds of the result and of the final configuration. -/
def wp (p : Program S C Ans ε α) (Q : Except ε α → Config S Ans σ → Prop)
    (g : Config S Ans σ) : Prop :=
  Q (p.run respond g).1 (p.run respond g).2

variable {respond} {Q : Except ε α → Config S Ans σ → Prop} {g : Config S Ans σ}

@[simp] lemma wp_pure (a : α) : (.pure a : Program S C Ans ε α).wp respond Q g ↔ Q (.ok a) g :=
  Iff.rfl

@[simp] lemma wp_pure' (a : α) : (Pure.pure a : Program S C Ans ε α).wp respond Q g ↔ Q (.ok a) g :=
  Iff.rfl

lemma wp_call (c : C) (k : Ans c → Program S C Ans ε α) :
    (Program.call c k).wp respond Q g ↔
      (k (g.answer respond c)).wp respond Q (g.after respond c) := Iff.rfl

lemma wp_bind (p : Program S C Ans ε β) (f : β → Program S C Ans ε α) :
    (p >>= f).wp respond Q g ↔
      p.wp respond (fun r g' => match r with
        | .ok a    => (f a).wp respond Q g'
        | .error e => Q (.error e) g') g := by
  simp only [wp, run_bind]
  rcases p.run respond g with ⟨_ | _, g'⟩ <;> rfl

lemma wp_tryCatch (p : Program S C Ans ε α) (h : ε → Program S C Ans ε α) :
    (p.tryCatch h).wp respond Q g ↔
      p.wp respond (fun r g' => match r with
        | .ok a    => Q (.ok a) g'
        | .error e => (h e).wp respond Q g') g := by
  simp only [wp, run_tryCatch]
  rcases p.run respond g with ⟨_ | _, g'⟩ <;> rfl

/-- A first part may be replaced by one with the same preconditions. -/
lemma wp_bind_congr {p q : Program S C Ans ε β}
    (h : ∀ R : Except ε β → Config S Ans σ → Prop, p.wp respond R g ↔ q.wp respond R g)
    (f : β → Program S C Ans ε α) : (p >>= f).wp respond Q g ↔ (q >>= f).wp respond Q g := by
  rw [wp_bind, wp_bind, h]

/-- A weaker postcondition may be proved in place of a stronger one. -/
lemma wp_mono {p : Program S C Ans ε α} {Q' : Except ε α → Config S Ans σ → Prop}
    (h : p.wp respond Q g) (hQ : ∀ r g', Q r g' → Q' r g') : p.wp respond Q' g :=
  hQ _ _ h

/-- What the rest establishes when it returns `b`, whatever it begins with, the whole does. -/
lemma wp_bind_ok {p : Program S C Ans ε β} {f : β → Program S C Ans ε α} {b : α}
    {I : Config S Ans σ → Prop}
    (h : ∀ a g', (f a).wp respond (fun r g' => r = .ok b → I g') g') :
    (p >>= f).wp respond (fun r g' => r = .ok b → I g') g := by
  rw [wp_bind, wp]
  cases (p.run respond g).1 with
  | error e => rintro ⟨⟩
  | ok a => exact h a _

end Program

end Interaction
