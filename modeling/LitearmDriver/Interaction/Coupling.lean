import LitearmDriver.Interaction.RelyGuarantee
import Mathlib.Data.List.Basic

/-!
# Two runs side by side

Code that is blind to a part of the state runs alike from two states that differ only there.
From what single callbacks keep, two whole runs that differ only in hidden callbacks are shown
to agree on everything that is observed of the visible ones.
-/

namespace Interaction

variable {S C : Type} {Ans : C → Type} {ε α β σ : Type}

/-- The write does the same whatever `m` leaves out of the state. -/
def Respects (m : S → S) (f : S → S) : Prop := ∀ s, m (f s) = m (f (m s))

namespace Program

/-! ### Blindness -/

/-- Every read sees only what `m` leaves of the state, every call satisfies `P` and every
write `W`. -/
def Blind (m : S → S) (P : C → Prop) (W : (S → S) → Prop) : Program S C Ans ε α → Prop
  | .pure _    => True
  | .throw _   => True
  | .read k    => (∀ s, k s = k (m s)) ∧ ∀ s, (k s).Blind m P W
  | .write f k => W f ∧ k.Blind m P W
  | .call c k  => P c ∧ ∀ x, (k x).Blind m P W

section Blind

variable {m : S → S} {P P' : C → Prop} {W W' : (S → S) → Prop}

lemma Blind.bind {p : Program S C Ans ε α} {f : α → Program S C Ans ε β}
    (hp : p.Blind m P W) (hf : ∀ a, (f a).Blind m P W) : (p >>= f).Blind m P W := by
  induction p with
  | pure a => exact hf a
  | throw e => trivial
  | read k ih => exact ⟨fun s => congrArg (· >>= f) (hp.1 s), fun s => ih s (hp.2 s)⟩
  | write g k ih => exact ⟨hp.1, ih hp.2⟩
  | call c k ih => exact ⟨hp.1, fun x => ih x (hp.2 x)⟩

lemma Blind.tryCatch {p : Program S C Ans ε α} {h : ε → Program S C Ans ε α}
    (hp : p.Blind m P W) (hh : ∀ e, (h e).Blind m P W) : (p.tryCatch h).Blind m P W := by
  induction p with
  | pure a => trivial
  | throw e => exact hh e
  | read k ih => exact ⟨fun s => congrArg (·.tryCatch h) (hp.1 s), fun s => ih s (hp.2 s)⟩
  | write g k ih => exact ⟨hp.1, ih hp.2⟩
  | call c k ih => exact ⟨hp.1, fun x => ih x (hp.2 x)⟩

lemma Blind.mono {p : Program S C Ans ε α} (hp : p.Blind m P W) (hP : ∀ c, P c → P' c)
    (hW : ∀ f, W f → W' f) : p.Blind m P' W' := by
  induction p with
  | pure a => trivial
  | throw e => trivial
  | read k ih => exact ⟨hp.1, fun s => ih s (hp.2 s)⟩
  | write g k ih => exact ⟨hW g hp.1, ih hp.2⟩
  | call c k ih => exact ⟨hP c hp.1, fun x => ih x (hp.2 x)⟩

/-- Code that sees little runs on what a finer view leaves of the state. -/
lemma Blind.refine {p : Program S C Ans ε α} {m' : S → S} (hp : p.Blind m P W)
    (hm : ∀ s, m (m' s) = m s) : p.Blind m' P W := by
  induction p with
  | pure a => trivial
  | throw e => trivial
  | read k ih => exact ⟨fun s => by rw [hp.1 s, hp.1 (m' s), hm], fun s => ih s (hp.2 s)⟩
  | write g k ih => exact ⟨hp.1, ih hp.2⟩
  | call c k ih => exact ⟨hp.1, fun x => ih x (hp.2 x)⟩

lemma Blind.within {p : Program S C Ans ε α} (hp : p.Blind m P W) : p.Within P W := by
  induction p with
  | pure a => trivial
  | throw e => trivial
  | read k ih => exact fun s => ih s (hp.2 s)
  | write g k ih => exact ⟨hp.1, ih hp.2⟩
  | call c k ih => exact ⟨hp.1, fun x => ih x (hp.2 x)⟩

end Blind

/-! ### Coupling -/

/-- Two results of the same kind: related values, or the same failure. -/
def Agree (A : α → β → Prop) : Except ε α → Except ε β → Prop
  | .ok a, .ok b        => A a b
  | .error e, .error e' => e = e'
  | _, _                => False

section Coupled

variable (respond : Responder Ans σ) (R : Config S Ans σ → Config S Ans σ → Prop)

/-- Started from related configurations the two programs agree and end in related ones. -/
def Coupled (A : α → β → Prop) (p : Program S C Ans ε α) (p' : Program S C Ans ε β) : Prop :=
  ∀ g g', R g g' → Agree A (p.run respond g).1 (p'.run respond g').1 ∧
    R (p.run respond g).2 (p'.run respond g').2

variable {respond R} {γ δ : Type} {A : α → β → Prop} {B : γ → δ → Prop}

lemma coupled_pure {a : α} {b : β} (h : A a b) :
    Coupled respond R A (.pure a : Program S C Ans ε α) (.pure b) :=
  fun _ _ hg => ⟨h, hg⟩

lemma coupled_throw (e : ε) : Coupled respond R A (.throw e : Program S C Ans ε α) (.throw e) :=
  fun _ _ hg => ⟨rfl, hg⟩

lemma Coupled.mono {A' : α → β → Prop} {p : Program S C Ans ε α} {p' : Program S C Ans ε β}
    (h : Coupled respond R A p p') (hA : ∀ a b, A a b → A' a b) : Coupled respond R A' p p' := by
  intro g g' hg
  obtain ⟨hagree, hR⟩ := h g g' hg
  refine ⟨?_, hR⟩
  revert hagree
  cases (p.run respond g).1 with
  | ok a =>
    cases (p'.run respond g').1 with
    | ok b => exact hA a b
    | error e => exact id
  | error e =>
    cases (p'.run respond g').1 with
    | ok b => exact id
    | error e' => exact id

lemma Coupled.bind {p : Program S C Ans ε α} {p' : Program S C Ans ε β}
    {f : α → Program S C Ans ε γ} {f' : β → Program S C Ans ε δ} (hp : Coupled respond R A p p')
    (hf : ∀ a b, A a b → Coupled respond R B (f a) (f' b)) :
    Coupled respond R B (p >>= f) (p' >>= f') := by
  intro g g' hg
  obtain ⟨hagree, hR⟩ := hp g g' hg
  rw [run_bind, run_bind]
  revert hagree hR
  rcases p.run respond g with ⟨e | a, g₁⟩ <;> rcases p'.run respond g' with ⟨e' | b, g₁'⟩
  · exact fun hagree hR => ⟨hagree, hR⟩
  · exact fun hagree => hagree.elim
  · exact fun hagree => hagree.elim
  · exact fun hagree hR => hf a b hagree g₁ g₁' hR

lemma Coupled.tryCatch {p : Program S C Ans ε α} {p' : Program S C Ans ε β}
    {h : ε → Program S C Ans ε α} {h' : ε → Program S C Ans ε β}
    (hp : Coupled respond R A p p') (hh : ∀ e, Coupled respond R A (h e) (h' e)) :
    Coupled respond R A (p.tryCatch h) (p'.tryCatch h') := by
  intro g g' hg
  obtain ⟨hagree, hR⟩ := hp g g' hg
  rw [run_tryCatch, run_tryCatch]
  revert hagree hR
  rcases p.run respond g with ⟨e | a, g₁⟩ <;> rcases p'.run respond g' with ⟨e' | b, g₁'⟩
  · rintro rfl hR
    exact hh e g₁ g₁' hR
  · exact fun hagree => hagree.elim
  · exact fun hagree => hagree.elim
  · exact fun hagree hR => ⟨hagree, hR⟩

/-- Blind code is coupled with itself by every relation that shows it the same state and is
kept by its calls and writes. -/
theorem Blind.coupled {m : S → S} {P : C → Prop} {W : (S → S) → Prop}
    {p : Program S C Ans ε α} (hp : p.Blind m P W)
    (hread : ∀ g g', R g g' → m g.shared = m g'.shared)
    (hwrite : ∀ f, W f → ∀ g g', R g g' → R (g.update f) (g'.update f))
    (hcall : ∀ c, P c → ∀ g g', R g g' →
      g.answer respond c = g'.answer respond c ∧ R (g.after respond c) (g'.after respond c)) :
    Coupled respond R Eq p p := by
  induction p with
  | pure a => exact coupled_pure rfl
  | throw e => exact coupled_throw e
  | read k ih =>
    intro g g' hg
    have hsame : k g.shared = k g'.shared := by
      rw [hp.1 g.shared, hread g g' hg, ← hp.1 g'.shared]
    simp only [run, hsame]
    exact ih g'.shared (hp.2 _) g g' hg
  | write f k ih =>
    intro g g' hg
    exact ih hp.2 _ _ (hwrite f hp.1 g g' hg)
  | call c k ih =>
    intro g g' hg
    obtain ⟨hanswer, hR⟩ := hcall c hp.1 g g' hg
    simp only [run, hanswer]
    exact ih _ (hp.2 _) _ _ hR

/-- Related runs end alike. -/
lemma Coupled.eq {p p' : Program S C Ans ε α} (h : Coupled respond R Eq p p')
    {g g' : Config S Ans σ} (hg : R g g') :
    (p.run respond g).1 = (p'.run respond g').1 ∧ R (p.run respond g).2 (p'.run respond g').2 := by
  obtain ⟨hagree, hR⟩ := h g g' hg
  refine ⟨?_, hR⟩
  revert hagree
  cases (p.run respond g).1 with
  | ok a =>
    cases (p'.run respond g').1 with
    | ok b => exact congrArg Except.ok
    | error e => exact False.elim
  | error e =>
    cases (p'.run respond g').1 with
    | ok b => exact False.elim
    | error e' => exact congrArg Except.error

end Coupled

/-- Two configurations that differ at most in what `m` leaves out of the state. -/
structure Alike (m : S → S) (g g' : Config S Ans σ) : Prop where
  shared : m g.shared = m g'.shared
  outside : g.outside = g'.outside
  history : g.history = g'.history

/-- Code that does not see a part of the state runs alike whatever that part holds. -/
theorem Blind.alike {m : S → S} {P : C → Prop} {W : (S → S) → Prop} {p : Program S C Ans ε α}
    (hp : p.Blind m P W) (hW : ∀ f, W f → Respects m f) (respond : Responder Ans σ) :
    Coupled respond (Alike m) Eq p p := by
  refine hp.coupled (fun g g' h => h.shared) ?_ ?_
  · intro f hf g g' h
    refine ⟨?_, h.outside, h.history⟩
    rw [Config.update_shared, Config.update_shared, hW f hf, h.shared, ← hW f hf]
  · intro c _ g g' h
    have hanswer : g.answer respond c = g'.answer respond c := by
      rw [Config.answer, Config.answer, h.outside]
    refine ⟨hanswer, h.shared, ?_, ?_⟩
    · rw [Config.after, Config.after, h.outside]
    · rw [Config.after_history, Config.after_history, hanswer, h.history]

/-- No run looks at the history it adds to. -/
theorem run_onto (respond : Responder Ans σ) (p : Program S C Ans ε α) (g : Config S Ans σ)
    (old : List (Event Ans)) :
    p.run respond { g with history := g.history ++ old } =
      ((p.run respond g).1,
        { (p.run respond g).2 with history := (p.run respond g).2.history ++ old }) := by
  induction p generalizing g with
  | pure a => rfl
  | throw e => rfl
  | read k ih => exact ih g.shared g
  | write f k ih => exact ih (g.update f)
  | call c k ih => exact ih (g.answer respond c) (g.after respond c)

end Program

/-! ### Visible and hidden callbacks -/

section Unwinding

variable {Cb O : Type} {Result : Cb → Type} (respond : Responder Ans σ)
  (code : (cb : Cb) → Program S C Ans ε (Result cb))

/-- The configuration after callbacks that run one after another. -/
def runAll (cbs : List Cb) (g : Config S Ans σ) : Config S Ans σ :=
  cbs.foldl (fun g cb => ((code cb).run respond g).2) g

/-- What is observed of the visible callbacks among them, in their order. -/
def observations (visible : Cb → Bool) (observe : (cb : Cb) → Except ε (Result cb) → O) :
    List Cb → Config S Ans σ → List O
  | [], _        => []
  | cb :: cbs, g =>
    let out := (code cb).run respond g
    let rest := observations visible observe cbs out.2
    if visible cb then observe cb out.1 :: rest else rest

variable {respond code} {visible : Cb → Bool} {observe : (cb : Cb) → Except ε (Result cb) → O}
  {R : Config S Ans σ → Config S Ans σ → Prop}

/-- Hidden callbacks may be left out of a run. -/
lemma observations_filter
    (hvisible : ∀ cb, visible cb = true → ∀ g g', R g g' →
      observe cb ((code cb).run respond g).1 = observe cb ((code cb).run respond g').1 ∧
        R ((code cb).run respond g).2 ((code cb).run respond g').2)
    (hhidden : ∀ cb, visible cb = false → ∀ g g', R g g' → R ((code cb).run respond g).2 g')
    (cbs : List Cb) {g g' : Config S Ans σ} (hg : R g g') :
    observations respond code visible observe cbs g =
        observations respond code visible observe (cbs.filter visible) g' ∧
      R (runAll respond code cbs g) (runAll respond code (cbs.filter visible) g') := by
  induction cbs generalizing g g' with
  | nil => exact ⟨rfl, hg⟩
  | cons cb cbs ih =>
    cases hcb : visible cb with
    | true =>
      obtain ⟨hobserve, hR⟩ := hvisible cb hcb g g' hg
      obtain ⟨hrest, hend⟩ := ih hR
      rw [List.filter_cons_of_pos hcb]
      refine ⟨?_, hend⟩
      simp only [observations, hcb, if_true, hobserve, hrest]
    | false =>
      obtain ⟨hrest, hend⟩ := ih (hhidden cb hcb g g' hg)
      rw [List.filter_cons_of_neg (by simp [hcb])]
      refine ⟨?_, hend⟩
      simp only [observations, hcb, Bool.false_eq_true, if_false, hrest]

/-- Two runs of the same visible callbacks agree on all that is observed of them. -/
theorem unwinding (hR : Equivalence R)
    (hvisible : ∀ cb, visible cb = true → ∀ g g', R g g' →
      observe cb ((code cb).run respond g).1 = observe cb ((code cb).run respond g').1 ∧
        R ((code cb).run respond g).2 ((code cb).run respond g').2)
    (hhidden : ∀ cb, visible cb = false → ∀ g, R ((code cb).run respond g).2 g)
    {cbs cbs' : List Cb} (hsame : cbs.filter visible = cbs'.filter visible)
    (g : Config S Ans σ) :
    observations respond code visible observe cbs g =
        observations respond code visible observe cbs' g ∧
      R (runAll respond code cbs g) (runAll respond code cbs' g) := by
  have hskip : ∀ cb, visible cb = false → ∀ g g', R g g' → R ((code cb).run respond g).2 g' :=
    fun cb hcb g g' hg => hR.trans (hhidden cb hcb g) hg
  obtain ⟨hobserve, hend⟩ := observations_filter hvisible hskip cbs (hR.refl g)
  obtain ⟨hobserve', hend'⟩ := observations_filter hvisible hskip cbs' (hR.refl g)
  rw [hsame] at hobserve hend
  exact ⟨hobserve.trans hobserve'.symm, hR.trans hend (hR.symm hend')⟩

/-- Two runs in lockstep: callbacks that keep a relation, and are observed alike wherever it
holds, are observed alike throughout. -/
theorem lockstep {T : Cb → Cb → Prop}
    (hstep : ∀ cb cb', T cb cb' → ∀ g g', R g g' →
      observe cb ((code cb).run respond g).1 = observe cb' ((code cb').run respond g').1 ∧
        R ((code cb).run respond g).2 ((code cb').run respond g').2)
    {cbs cbs' : List Cb} (hcbs : List.Forall₂ T cbs cbs') {g g' : Config S Ans σ}
    (hg : R g g') :
    observations respond code (fun _ => true) observe cbs g =
        observations respond code (fun _ => true) observe cbs' g' ∧
      R (runAll respond code cbs g) (runAll respond code cbs' g') := by
  induction hcbs generalizing g g' with
  | nil => exact ⟨rfl, hg⟩
  | cons hcb _ ih =>
    obtain ⟨hobserve, hR⟩ := hstep _ _ hcb g g' hg
    obtain ⟨hrest, hend⟩ := ih hR
    refine ⟨?_, hend⟩
    simp only [observations, if_true, hobserve, hrest]

end Unwinding

end Interaction
