import LitearmDriver.Interaction.Calls

/-!
# Rely and guarantee

Code that is interrupted between any two of its steps. What the others may do to the shared
state meanwhile is a relation, the rely; what the code itself does to it stays within another,
the guarantee. `p.rg R Gu P Q s` says that `p`, begun in `s`, keeps the guarantee, makes only
calls in `P`, and ends with `Q`.
-/

namespace Interaction

variable {S C : Type} {Ans : C → Type} {ε α β : Type}

namespace Program

/-! ### Calls and writes -/

/-- Every call the program can make satisfies `P`, and every write `W`. -/
def Within (P : C → Prop) (W : (S → S) → Prop) : Program S C Ans ε α → Prop
  | .pure _    => True
  | .throw _   => True
  | .read k    => ∀ s, (k s).Within P W
  | .write f k => W f ∧ k.Within P W
  | .call c k  => P c ∧ ∀ x, (k x).Within P W

section Within

variable {P P' : C → Prop} {W W' : (S → S) → Prop}

lemma Within.bind {p : Program S C Ans ε α} {f : α → Program S C Ans ε β}
    (hp : p.Within P W) (hf : ∀ a, (f a).Within P W) : (p >>= f).Within P W := by
  induction p with
  | pure a => exact hf a
  | throw e => trivial
  | read k ih => exact fun s => ih s (hp s)
  | write g k ih => exact ⟨hp.1, ih hp.2⟩
  | call c k ih => exact ⟨hp.1, fun x => ih x (hp.2 x)⟩

lemma Within.tryCatch {p : Program S C Ans ε α} {h : ε → Program S C Ans ε α}
    (hp : p.Within P W) (hh : ∀ e, (h e).Within P W) : (p.tryCatch h).Within P W := by
  induction p with
  | pure a => trivial
  | throw e => exact hh e
  | read k ih => exact fun s => ih s (hp s)
  | write g k ih => exact ⟨hp.1, ih hp.2⟩
  | call c k ih => exact ⟨hp.1, fun x => ih x (hp.2 x)⟩

lemma Within.mono {p : Program S C Ans ε α} (hp : p.Within P W) (hP : ∀ c, P c → P' c)
    (hW : ∀ f, W f → W' f) : p.Within P' W' := by
  induction p with
  | pure a => trivial
  | throw e => trivial
  | read k ih => exact fun s => ih s (hp s)
  | write g k ih => exact ⟨hW g hp.1, ih hp.2⟩
  | call c k ih => exact ⟨hP c hp.1, fun x => ih x (hp.2 x)⟩

/-- A bound on the calls alone may be added. -/
lemma Within.and_calls {p : Program S C Ans ε α} (hp : p.Within P W) (hc : p.Calls P') :
    p.Within (fun c => P c ∧ P' c) W := by
  induction p with
  | pure a => trivial
  | throw e => trivial
  | read k ih => exact fun s => ih s (hp s) (hc s)
  | write g k ih => exact ⟨hp.1, ih hp.2 hc⟩
  | call c k ih => exact ⟨⟨hp.1, hc.1⟩, fun x => ih x (hp.2 x) (hc.2 x)⟩

lemma Calls.within {p : Program S C Ans ε α} (hp : p.Calls P) (hW : ∀ f, W f) :
    p.Within P W := by
  induction p with
  | pure a => trivial
  | throw e => trivial
  | read k ih => exact fun s => ih s (hp s)
  | write f k ih => exact ⟨hW f, ih hp⟩
  | call c k ih => exact ⟨hp.1, fun x => ih x (hp.2 x)⟩

end Within

/-! ### Interrupted execution -/

/-- Under interference within `R` the program writes within `Gu`, calls within `P`, and `Q`
holds of its result and of the state it ends in. -/
def rg (R Gu : S → S → Prop) (P : C → Prop) :
    Program S C Ans ε α → (Except ε α → S → Prop) → S → Prop
  | .pure a, Q, s    => Q (.ok a) s
  | .throw e, Q, s   => Q (.error e) s
  | .read k, Q, s    => ∀ s', R s s' → (k s').rg R Gu P Q s'
  | .write f k, Q, s => ∀ s', R s s' → Gu s' (f s') ∧ k.rg R Gu P Q (f s')
  | .call c k, Q, s  => P c ∧ ∀ x s', R s s' → (k x).rg R Gu P Q s'

variable {R Gu : S → S → Prop} {P P' : C → Prop} {Q Q' : Except ε α → S → Prop} {s s' : S}

/-- A sequence runs its first part, and the rest from whatever state that ended in. -/
lemma rg_bind (p : Program S C Ans ε β) (f : β → Program S C Ans ε α) :
    (p >>= f).rg R Gu P Q s ↔
      p.rg R Gu P (fun r s' => match r with
        | .ok a    => (f a).rg R Gu P Q s'
        | .error e => Q (.error e) s') s := by
  induction p generalizing s with
  | pure a => rfl
  | throw e => rfl
  | read k ih =>
    constructor
    · intro h s' hs
      exact (ih s').mp (h s' hs)
    · intro h s' hs
      exact (ih s').mpr (h s' hs)
  | write g k ih =>
    constructor
    · intro h s' hs
      exact ⟨(h s' hs).1, ih.mp (h s' hs).2⟩
    · intro h s' hs
      exact ⟨(h s' hs).1, ih.mpr (h s' hs).2⟩
  | call c k ih =>
    constructor
    · intro h
      exact ⟨h.1, fun x s' hs => (ih x).mp (h.2 x s' hs)⟩
    · intro h
      exact ⟨h.1, fun x s' hs => (ih x).mpr (h.2 x s' hs)⟩

lemma rg_tryCatch (p : Program S C Ans ε α) (h : ε → Program S C Ans ε α) :
    (p.tryCatch h).rg R Gu P Q s ↔
      p.rg R Gu P (fun r s' => match r with
        | .ok a    => Q (.ok a) s'
        | .error e => (h e).rg R Gu P Q s') s := by
  induction p generalizing s with
  | pure a => rfl
  | throw e => rfl
  | read k ih =>
    constructor
    · intro hk s' hs
      exact (ih s').mp (hk s' hs)
    · intro hk s' hs
      exact (ih s').mpr (hk s' hs)
  | write g k ih =>
    constructor
    · intro hk s' hs
      exact ⟨(hk s' hs).1, ih.mp (hk s' hs).2⟩
    · intro hk s' hs
      exact ⟨(hk s' hs).1, ih.mpr (hk s' hs).2⟩
  | call c k ih =>
    constructor
    · intro hk
      exact ⟨hk.1, fun x s' hs => (ih x).mp (hk.2 x s' hs)⟩
    · intro hk
      exact ⟨hk.1, fun x s' hs => (ih x).mpr (hk.2 x s' hs)⟩

lemma rg_mono {p : Program S C Ans ε α} (h : p.rg R Gu P Q s) (hP : ∀ c, P c → P' c)
    (hQ : ∀ r s', Q r s' → Q' r s') : p.rg R Gu P' Q' s := by
  induction p generalizing s with
  | pure a => exact hQ _ _ h
  | throw e => exact hQ _ _ h
  | read k ih => exact fun s' hs => ih s' (h s' hs)
  | write f k ih => exact fun s' hs => ⟨(h s' hs).1, ih (h s' hs).2⟩
  | call c k ih => exact ⟨hP c h.1, fun x s' hs => ih x (h.2 x s' hs)⟩

/-- Interference before the first step makes no difference to code with a stable
postcondition. -/
lemma rg_stable {p : Program S C Ans ε α} (hR : ∀ {a b c}, R a b → R b c → R a c)
    (hQ : ∀ r s s', Q r s → R s s' → Q r s') (h : p.rg R Gu P Q s) (hs : R s s') :
    p.rg R Gu P Q s' := by
  cases p with
  | pure a => exact hQ _ _ _ h hs
  | throw e => exact hQ _ _ _ h hs
  | read k => exact fun s'' hs' => h s'' (hR hs hs')
  | write f k => exact fun s'' hs' => h s'' (hR hs hs')
  | call c k => exact ⟨h.1, fun x s'' hs' => h.2 x s'' (hR hs hs')⟩

/-- What the first part keeps may be used by the rest. -/
lemma rg_seq {p : Program S C Ans ε β} {f : β → Program S C Ans ε α} {I : S → Prop}
    (hp : p.rg R Gu P (fun _ => I) s)
    (hf : ∀ a s', I s' → (f a).rg R Gu P (fun _ _ => True) s') :
    (p >>= f).rg R Gu P (fun _ _ => True) s := by
  rw [rg_bind]
  apply rg_mono hp (fun _ hc => hc)
  intro r s' hs'
  cases r with
  | ok a => exact hf a s' hs'
  | error e => trivial

/-- A bound that does not depend on the state holds under any interference, and what
neither interference nor a write can change is kept. -/
lemma Within.rg {p : Program S C Ans ε α} {I : S → Prop} (hR : ∀ s s', R s s' → I s → I s')
    (hp : p.Within P fun f => ∀ s, Gu s (f s) ∧ (I s → I (f s))) (hs : I s) :
    p.rg R Gu P (fun _ => I) s := by
  induction p generalizing s with
  | pure a => exact hs
  | throw e => exact hs
  | read k ih => exact fun s' hs' => ih s' (hp s') (hR s s' hs' hs)
  | write f k ih =>
    intro s' hs'
    exact ⟨(hp.1 s').1, ih hp.2 ((hp.1 s').2 (hR s s' hs' hs))⟩
  | call c k ih => exact ⟨hp.1, fun x s' hs' => ih x (hp.2 x) (hR s s' hs' hs)⟩

/-- Code whose calls are bounded, and of which nothing else is asked. -/
lemma Calls.rg {p : Program S C Ans ε α} (hp : p.Calls P) :
    p.rg R (fun _ _ => True) P (fun _ _ => True) s :=
  Within.rg (fun _ _ _ h => h) (hp.within fun _ _ => ⟨trivial, id⟩) trivial

end Program

end Interaction
