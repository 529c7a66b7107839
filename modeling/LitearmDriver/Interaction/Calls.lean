import LitearmDriver.Interaction.Program
import Mathlib.Logic.Relation

/-!
# What a program may call

`p.Calls P` bounds the calls of `p` whatever the environment answers. A bound is proved once
by the structure of the code, and every property of the environment or of the history that
the permitted calls preserve then holds after every run.
-/

namespace Interaction

variable {S C : Type} {Ans : C → Type} {ε α β σ : Type}

namespace Program

/-- Every call the program can make satisfies `P`. -/
def Calls (P : C → Prop) : Program S C Ans ε α → Prop
  | .pure _    => True
  | .throw _   => True
  | .read k    => ∀ s, (k s).Calls P
  | .write _ k => k.Calls P
  | .call c k  => P c ∧ ∀ x, (k x).Calls P

variable {P P' : C → Prop}

lemma Calls.bind {p : Program S C Ans ε α} {f : α → Program S C Ans ε β}
    (hp : p.Calls P) (hf : ∀ a, (f a).Calls P) : (p >>= f).Calls P := by
  induction p with
  | pure a => exact hf a
  | throw e => trivial
  | read k ih => exact fun s => ih s (hp s)
  | write g k ih => exact ih hp
  | call c k ih => exact ⟨hp.1, fun x => ih x (hp.2 x)⟩

lemma Calls.tryCatch {p : Program S C Ans ε α} {h : ε → Program S C Ans ε α}
    (hp : p.Calls P) (hh : ∀ e, (h e).Calls P) : (p.tryCatch h).Calls P := by
  induction p with
  | pure a => trivial
  | throw e => exact hh e
  | read k ih => exact fun s => ih s (hp s)
  | write g k ih => exact ih hp
  | call c k ih => exact ⟨hp.1, fun x => ih x (hp.2 x)⟩

lemma Calls.mono {p : Program S C Ans ε α} (hp : p.Calls P) (hP : ∀ c, P c → P' c) :
    p.Calls P' := by
  induction p with
  | pure a => trivial
  | throw e => trivial
  | read k ih => exact fun s => ih s (hp s)
  | write g k ih => exact ih hp
  | call c k ih => exact ⟨hP c hp.1, fun x => ih x (hp.2 x)⟩

/-- What every permitted call preserves, and no write can touch, a run preserves. -/
theorem Calls.preserves {p : Program S C Ans ε α} (hp : p.Calls P)
    (respond : Responder Ans σ) {I : Config S Ans σ → Prop}
    (hcall : ∀ c g, P c → I g → I (g.after respond c))
    (hwrite : ∀ (f : S → S) g, I g → I (g.update f)) {g : Config S Ans σ} (hg : I g) :
    I (p.run respond g).2 := by
  induction p generalizing g with
  | pure a => exact hg
  | throw e => exact hg
  | read k ih => exact ih g.shared (hp g.shared) hg
  | write f k ih => exact ih hp (hwrite f g hg)
  | call c k ih => exact ih _ (hp.2 _) (hcall c g hp.1 hg)

/-- The calls of a run are permitted ones, made on top of the history. -/
theorem Calls.history {p : Program S C Ans ε α} (hp : p.Calls P) (respond : Responder Ans σ)
    (g : Config S Ans σ) :
    ∃ new, (p.run respond g).2.history = new ++ g.history ∧ ∀ e ∈ new, P e.1 := by
  refine hp.preserves respond
    (I := fun g' => ∃ new, g'.history = new ++ g.history ∧ ∀ e ∈ new, P e.1) ?_ ?_
    ⟨[], rfl, by simp⟩
  · rintro c g' hc ⟨new, hnew, hall⟩
    refine ⟨⟨c, g'.answer respond c⟩ :: new, by simp [hnew], ?_⟩
    rintro e he
    rcases List.mem_cons.mp he with rfl | he
    · exact hc
    · exact hall e he
  · rintro f g' hg'
    exact hg'

/-- Whatever was added to the history in a run is a permitted call. -/
lemma Calls.permits {p : Program S C Ans ε α} (hp : p.Calls P) {respond : Responder Ans σ}
    {g : Config S Ans σ} {new : List (Event Ans)}
    (hnew : (p.run respond g).2.history = new ++ g.history) : ∀ e ∈ new, P e.1 := by
  obtain ⟨new', hnew', hall⟩ := hp.history respond g
  obtain rfl : new' = new := List.append_cancel_right (hnew'.symm.trans hnew)
  exact hall

/-- A bound that every call satisfies. -/
lemma calls_any (p : Program S C Ans ε α) : p.Calls fun _ => True := by
  induction p with
  | pure a => trivial
  | throw e => trivial
  | read k ih => exact ih
  | write g k ih => exact ih
  | call c k ih => exact ⟨trivial, ih⟩

/-- What every call preserves, and no write can touch, a run preserves. -/
theorem run_preserves (p : Program S C Ans ε α) (respond : Responder Ans σ)
    {I : Config S Ans σ → Prop} (hcall : ∀ c g, I g → I (g.after respond c))
    (hwrite : ∀ (f : S → S) g, I g → I (g.update f)) {g : Config S Ans σ} (hg : I g) :
    I (p.run respond g).2 :=
  (calls_any p).preserves respond (fun c g _ => hcall c g) hwrite hg

/-- A run adds to the history. -/
lemma run_history (p : Program S C Ans ε α) (respond : Responder Ans σ) (g : Config S Ans σ) :
    ∃ new, (p.run respond g).2.history = new ++ g.history := by
  obtain ⟨new, hnew, -⟩ := (calls_any p).history respond g
  exact ⟨new, hnew⟩

/-- The new events of a run carry answers of the environment. -/
theorem run_answered {p : Program S C Ans ε α} {respond : Responder Ans σ}
    {g : Config S Ans σ} {new : List (Event Ans)}
    (hnew : (p.run respond g).2.history = new ++ g.history) :
    ∀ e ∈ new, ∃ w, (respond e.1 w).1 = e.2 := by
  have hanswered : ∃ new, (p.run respond g).2.history = new ++ g.history ∧
      ∀ e ∈ new, ∃ w, (respond e.1 w).1 = e.2 := by
    apply run_preserves p respond
      (I := fun g' => ∃ new, g'.history = new ++ g.history ∧
        ∀ e ∈ new, ∃ w, (respond e.1 w).1 = e.2)
    · rintro c g' ⟨new, hnew, hall⟩
      refine ⟨⟨c, g'.answer respond c⟩ :: new, by simp [hnew], ?_⟩
      intro e he
      rcases List.mem_cons.mp he with rfl | he
      · exact ⟨g'.outside, rfl⟩
      · exact hall e he
    · intro f g' hg'
      exact hg'
    · exact ⟨[], rfl, by simp⟩
  obtain ⟨new', hnew', hall⟩ := hanswered
  obtain rfl : new' = new := List.append_cancel_right (hnew'.symm.trans hnew)
  exact hall

/-! ### The environment between two moments -/

/-- The environment moves by permitted calls. -/
def Evolves (respond : Responder Ans σ) (P : C → Prop) : σ → σ → Prop :=
  Relation.ReflTransGen fun w w' => ∃ c, P c ∧ (respond c w).2 = w'

lemma Evolves.mono {respond : Responder Ans σ} {w w' : σ} (h : Evolves respond P w w')
    (hP : ∀ c, P c → P' c) : Evolves respond P' w w' :=
  Relation.ReflTransGen.mono (fun _ _ ⟨c, hc, hw⟩ => ⟨c, hP c hc, hw⟩) _ _ h

/-- What every permitted call preserves is preserved. -/
lemma Evolves.invariant {respond : Responder Ans σ} {I : σ → Prop} {w w' : σ}
    (h : Evolves respond P w w') (hI : ∀ c w, P c → I w → I (respond c w).2) (hw : I w) :
    I w' := by
  induction h with
  | refl => exact hw
  | tail _ hstep ih =>
    obtain ⟨c, hc, rfl⟩ := hstep
    exact hI c _ hc ih

/-- The environment moves by the calls a run makes, and by nothing else. -/
theorem run_evolves (respond : Responder Ans σ) (p : Program S C Ans ε α)
    (g : Config S Ans σ) :
    ∃ new, (p.run respond g).2.history = new ++ g.history ∧
      Evolves respond (fun c => ∃ e ∈ new, e.1 = c) g.outside (p.run respond g).2.outside := by
  induction p generalizing g with
  | pure a => exact ⟨[], rfl, .refl⟩
  | throw e => exact ⟨[], rfl, .refl⟩
  | read k ih => exact ih g.shared g
  | write f k ih => exact ih (g.update f)
  | call c k ih =>
    obtain ⟨new, hnew, hevolves⟩ := ih (g.answer respond c) (g.after respond c)
    refine ⟨new ++ [⟨c, g.answer respond c⟩], by simp [run, hnew], ?_⟩
    refine .head ⟨c, ⟨⟨c, g.answer respond c⟩, by simp, rfl⟩, rfl⟩ (hevolves.mono ?_)
    rintro c' ⟨e, he, rfl⟩
    exact ⟨e, List.mem_append_left _ he, rfl⟩

/-- Under a bound on the calls the environment moves within the bound. -/
lemma Calls.evolves {p : Program S C Ans ε α} (hp : p.Calls P) (respond : Responder Ans σ)
    (g : Config S Ans σ) : Evolves respond P g.outside (p.run respond g).2.outside := by
  refine hp.preserves respond (I := fun g' => Evolves respond P g.outside g'.outside) ?_
    (fun _ _ hg => hg) .refl
  exact fun c g' hc hg' => hg'.tail ⟨c, hc, rfl⟩

end Program

end Interaction
