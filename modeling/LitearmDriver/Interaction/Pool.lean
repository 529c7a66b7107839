import LitearmDriver.Interaction.RelyGuarantee

/-!
# A pool of callback groups

The executor of a reactive component. Every callback belongs to a group, a group runs one
callback at a time, and the groups run side by side: between two steps of a callback, and
while it waits for the answer to a call, the others move. A call is answered at any time and
by anything.

`Pool.no_clash` is the parallel rule: groups that rely on no more than the others guarantee
make no clashing calls at once, provided that callbacks whose bounds clash never overlap.
-/

namespace Interaction

/-- A callback together with the shared state it began in. -/
structure Task (L S : Type) where
  callback : L
  start : S

/-- What a callback group does: nothing, run the rest of a callback, or wait inside a call. -/
inductive Activity (L S C : Type) (Ans : C → Type) (ε : Type) where
  | idle
  | running (t : Task L S) (p : Program S C Ans ε Unit)
  | inside (t : Task L S) (c : C) (k : Ans c → Program S C Ans ε Unit)

/-- The shared state and what every group does. -/
structure Pool (G L S C : Type) (Ans : C → Type) (ε : Type) where
  shared : S
  activity : G → Activity L S C Ans ε

variable {G L S C ε σ : Type} {Ans : C → Type}

/-- The callback a group runs. -/
def Activity.task : Activity L S C Ans ε → Option (Task L S)
  | .idle         => none
  | .running t _  => some t
  | .inside t _ _ => some t

/-- The call a group waits in. -/
def Activity.waiting : Activity L S C Ans ε → Option C
  | .inside _ c _ => some c
  | _             => none

/-- What a group still has to do keeps the guarantee, and its calls are ones the callback
may make. -/
def Activity.Bounded (R Gu : S → S → Prop) (may : Task L S → C → Prop) :
    Activity L S C Ans ε → S → Prop
  | .idle, _         => True
  | .running t p, s  => p.rg R Gu (may t) (fun _ _ => True) s
  | .inside t c k, s => may t c ∧ ∀ x s', R s s' → (k x).rg R Gu (may t) (fun _ _ => True) s'

/-- What a group has to do does not depend on which state with `I` it is in. -/
lemma Activity.Bounded.moved {I : S → Prop} {Gu : S → S → Prop}
    {may : Task L S → C → Prop} {a : Activity L S C Ans ε} {s s' : S}
    (h : a.Bounded (fun _ => I) Gu may s) (hs : I s') : a.Bounded (fun _ => I) Gu may s' := by
  cases a with
  | idle => trivial
  | running t p => exact Program.rg_stable (fun _ h => h) (fun _ _ _ h _ => h) h hs
  | inside t c k => exact h

/-- A call in progress is one that the callback may make. -/
lemma Activity.Bounded.waiting {R Gu : S → S → Prop} {may : Task L S → C → Prop}
    {a : Activity L S C Ans ε} {s : S} (h : a.Bounded R Gu may s) {c : C}
    (hc : a.waiting = some c) : ∃ t, a.task = some t ∧ may t c := by
  cases a with
  | idle => cases hc
  | running t p => cases hc
  | inside t c' k =>
    obtain rfl : c' = c := by simpa [Activity.waiting] using hc
    exact ⟨t, rfl, h.1⟩

/-- Execute a program up to the first call at which to stop; its rest begins with that call,
or it has ended. -/
def Program.upTo {α : Type} (respond : Responder Ans σ) (stop : C → Bool) :
    Program S C Ans ε α → Config S Ans σ → Program S C Ans ε α × Config S Ans σ
  | .pure a, f    => (.pure a, f)
  | .throw e, f   => (.throw e, f)
  | .read k, f    => (k f.shared).upTo respond stop f
  | .write h k, f => k.upTo respond stop (f.update h)
  | .call c k, f  =>
    if stop c then (.call c k, f)
    else (k (f.answer respond c)).upTo respond stop (f.after respond c)

namespace Pool

/-- The pool after a write to the shared state. -/
def update (w : Pool G L S C Ans ε) (f : S → S) : Pool G L S C Ans ε :=
  { w with shared := f w.shared }

/-- A pool in which nothing runs. -/
def quiescent (s : S) : Pool G L S C Ans ε := ⟨s, fun _ => .idle⟩

@[simp] lemma update_shared (w : Pool G L S C Ans ε) (f : S → S) :
    (w.update f).shared = f w.shared := rfl

@[simp] lemma update_activity (w : Pool G L S C Ans ε) (f : S → S) :
    (w.update f).activity = w.activity := rfl

variable [DecidableEq G]

/-- The pool after a group turned to something else. -/
def turn (w : Pool G L S C Ans ε) (g : G) (a : Activity L S C Ans ε) : Pool G L S C Ans ε :=
  { w with activity := Function.update w.activity g a }

section Turn

variable (w : Pool G L S C Ans ε) (g : G) (a : Activity L S C Ans ε)

@[simp] lemma turn_shared : (w.turn g a).shared = w.shared := rfl

@[simp] lemma turn_activity_self : (w.turn g a).activity g = a := Function.update_self ..

@[simp] lemma turn_activity_of_ne {g' : G} (h : g' ≠ g) :
    (w.turn g a).activity g' = w.activity g' := Function.update_of_ne h ..

end Turn

/-! ### Steps -/

variable (group : L → G) (code : L → Program S C Ans ε Unit)
  (admitted : L → Pool G L S C Ans ε → Prop)

/-- One step of one group. -/
inductive Step : Pool G L S C Ans ε → Pool G L S C Ans ε → Prop where
  | begin {w : Pool G L S C Ans ε} (l : L) (hidle : w.activity (group l) = .idle)
      (hl : admitted l w) :
    Step w (w.turn (group l) (.running ⟨l, w.shared⟩ (code l)))
  | read {w : Pool G L S C Ans ε} {g : G} {t : Task L S} {k : S → Program S C Ans ε Unit}
      (h : w.activity g = .running t (.read k)) :
    Step w (w.turn g (.running t (k w.shared)))
  | write {w : Pool G L S C Ans ε} {g : G} {t : Task L S} {f : S → S}
      {k : Program S C Ans ε Unit} (h : w.activity g = .running t (.write f k)) :
    Step w ((w.turn g (.running t k)).update f)
  | call {w : Pool G L S C Ans ε} {g : G} {t : Task L S} {c : C}
      {k : Ans c → Program S C Ans ε Unit} (h : w.activity g = .running t (.call c k)) :
    Step w (w.turn g (.inside t c k))
  | answer {w : Pool G L S C Ans ε} {g : G} {t : Task L S} {c : C}
      {k : Ans c → Program S C Ans ε Unit} (x : Ans c) (h : w.activity g = .inside t c k) :
    Step w (w.turn g (.running t (k x)))
  | finish {w : Pool G L S C Ans ε} {g : G} {t : Task L S}
      (h : w.activity g = .running t (.pure ())) : Step w (w.turn g .idle)
  | fail {w : Pool G L S C Ans ε} {g : G} {t : Task L S} {e : ε}
      (h : w.activity g = .running t (.throw e)) : Step w (w.turn g .idle)

/-- The pools that steps lead to from one in which nothing runs, when each callback is
admitted in the pool it begins in. -/
inductive ReachableWhen (initial : S → Prop) : Pool G L S C Ans ε → Prop where
  | quiescent {s : S} (h : initial s) : ReachableWhen initial (.quiescent s)
  | step {w w' : Pool G L S C Ans ε} (h : ReachableWhen initial w)
      (hstep : Step group code admitted w w') : ReachableWhen initial w'

variable {group code admitted} {initial : S → Prop} {w w' : Pool G L S C Ans ε}

lemma ReachableWhen.mono {admitted' : L → Pool G L S C Ans ε → Prop}
    (h : ReachableWhen group code admitted initial w)
    (hadmitted : ∀ l w, admitted l w → admitted' l w) :
    ReachableWhen group code admitted' initial w := by
  induction h with
  | quiescent hs => exact .quiescent hs
  | step h hstep ih =>
    apply ih.step
    cases hstep with
    | begin l hidle hl => exact .begin l hidle (hadmitted _ _ hl)
    | read h => exact .read h
    | write h => exact .write h
    | call h => exact .call h
    | answer x h => exact .answer x h
    | finish h => exact .finish h
    | fail h => exact .fail h

/-! ### The parallel rule -/

/-- What each group relies on and guarantees, and the calls each callback may make. The
groups may be run side by side. -/
structure Bounds (group : L → G) (code : L → Program S C Ans ε Unit)
    (rely guarantee : G → S → S → Prop) (may : Task L S → C → Prop) : Prop where
  code : ∀ l s,
    (code l).rg (rely (group l)) (guarantee (group l)) (may ⟨l, s⟩) (fun _ _ => True) s
  refl : ∀ g s, rely g s s
  trans : ∀ g {s s' s''}, rely g s s' → rely g s' s'' → rely g s s''
  fits : ∀ {g g'} s s', g ≠ g' → guarantee g s s' → rely g' s s'

variable {rely guarantee : G → S → S → Prop} {may : Task L S → C → Prop}

omit [DecidableEq G] in
/-- A step of one group is interference to the others. -/
lemma Bounds.stable (hb : Bounds group code rely guarantee may) {g : G}
    {a : Activity L S C Ans ε} {s s' : S} (h : a.Bounded (rely g) (guarantee g) may s)
    (hs : rely g s s') : a.Bounded (rely g) (guarantee g) may s' := by
  cases a with
  | idle => trivial
  | running t p =>
    exact Program.rg_stable (fun h₁ h₂ => hb.trans g h₁ h₂) (fun _ _ _ h _ => h) h hs
  | inside t c k => exact ⟨h.1, fun x s'' hs' => h.2 x s'' (hb.trans g hs hs')⟩

/-- The activities of a pool stay bounded when one group turns to something bounded. -/
lemma bounded_turn (hw : ∀ g, (w.activity g).Bounded (rely g) (guarantee g) may w.shared)
    {g : G} {a : Activity L S C Ans ε} (ha : a.Bounded (rely g) (guarantee g) may w.shared)
    (g' : G) : ((w.turn g a).activity g').Bounded (rely g') (guarantee g') may w.shared := by
  by_cases hg : g' = g
  · subst hg
    simpa using ha
  · simpa [hg] using hw g'

/-- Whatever order the groups move in, each stays within its bounds. -/
theorem ReachableWhen.bounded (hb : Bounds group code rely guarantee may)
    (h : ReachableWhen group code admitted initial w) (g : G) :
    (w.activity g).Bounded (rely g) (guarantee g) may w.shared := by
  induction h generalizing g with
  | quiescent h => trivial
  | step h hstep ih =>
    cases hstep with
    | begin l hidle hl =>
      refine bounded_turn ih ?_ g
      exact hb.code l _
    | @read g₁ t k hrun =>
      have hg₁ := ih g₁
      rw [hrun] at hg₁
      refine bounded_turn ih ?_ g
      exact hg₁ _ (hb.refl g₁ _)
    | @write g₁ t f k hrun =>
      have hg₁ := ih g₁
      rw [hrun] at hg₁
      obtain ⟨hguarantee, hrest⟩ := hg₁ _ (hb.refl g₁ _)
      by_cases hg : g = g₁
      · subst hg
        simpa [Activity.Bounded] using hrest
      · simpa [hg] using hb.stable (ih g) (hb.fits _ _ (Ne.symm hg) hguarantee)
    | @call g₁ t c k hrun =>
      have hg₁ := ih g₁
      rw [hrun] at hg₁
      refine bounded_turn ih ?_ g
      exact hg₁
    | @answer g₁ t c k x hinside =>
      have hg₁ := ih g₁
      rw [hinside] at hg₁
      refine bounded_turn ih ?_ g
      exact hg₁.2 x _ (hb.refl g₁ _)
    | finish hrun =>
      refine bounded_turn ih ?_ g
      trivial
    | fail hrun =>
      refine bounded_turn ih ?_ g
      trivial

/-- A call in progress is one that its callback may make. -/
lemma ReachableWhen.may_waiting (hb : Bounds group code rely guarantee may)
    (h : ReachableWhen group code admitted initial w) {g : G} {c : C}
    (hc : (w.activity g).waiting = some c) :
    ∃ t, (w.activity g).task = some t ∧ may t c := (h.bounded hb g).waiting hc

/-- A step begins a callback, or no group runs another callback than before. -/
lemma Step.tasks (h : Step group code admitted w w') :
    (∃ l, admitted l w ∧ w' = w.turn (group l) (.running ⟨l, w.shared⟩ (code l))) ∨
      ∀ g t, (w'.activity g).task = some t → (w.activity g).task = some t := by
  have hturn : ∀ {g₁ : G} {a : Activity L S C Ans ε},
      (∀ t, a.task = some t → (w.activity g₁).task = some t) →
      ∀ g t, ((w.turn g₁ a).activity g).task = some t → (w.activity g).task = some t := by
    intro g₁ a ha g t ht
    by_cases hg : g = g₁
    · subst hg
      exact ha t (by simpa using ht)
    · simpa [hg] using ht
  cases h with
  | begin l hidle hl => exact .inl ⟨l, hl, rfl⟩
  | read hrun => exact .inr (hturn fun t ht => by rw [hrun]; exact ht)
  | write hrun => exact .inr (hturn fun t ht => by rw [hrun]; exact ht)
  | call hrun => exact .inr (hturn fun t ht => by rw [hrun]; exact ht)
  | answer x hinside => exact .inr (hturn fun t ht => by rw [hinside]; exact ht)
  | finish hrun => exact .inr (hturn nofun)
  | fail hrun => exact .inr (hturn nofun)

/-- What holds of two callbacks when the later one begins beside the earlier holds of any two
that run at the same time. -/
theorem ReachableWhen.overlap (apart : Task L S → Task L S → Prop)
    (hsymm : ∀ t t', apart t t' → apart t' t)
    (hadmitted : ∀ l w, admitted l w → ∀ g t, g ≠ group l → (w.activity g).task = some t →
      apart ⟨l, w.shared⟩ t)
    (h : ReachableWhen group code admitted initial w) {g g' : G} (hg : g ≠ g')
    {t t' : Task L S} (ht : (w.activity g).task = some t)
    (ht' : (w.activity g').task = some t') : apart t t' := by
  induction h generalizing g g' t t' with
  | quiescent h => cases ht
  | @step w w' h hstep ih =>
    rcases hstep.tasks with ⟨l, hl, rfl⟩ | htasks
    · by_cases hgl : g = group l
      · subst hgl
        obtain rfl : ⟨l, w.shared⟩ = t := by simpa [Activity.task] using ht
        rw [turn_activity_of_ne _ _ _ hg.symm] at ht'
        exact hadmitted l w hl g' t' hg.symm ht'
      · rw [turn_activity_of_ne _ _ _ hgl] at ht
        by_cases hgl' : g' = group l
        · subst hgl'
          obtain rfl : ⟨l, w.shared⟩ = t' := by simpa [Activity.task] using ht'
          exact hsymm _ _ (hadmitted l w hl g t hgl ht)
        · rw [turn_activity_of_ne _ _ _ hgl'] at ht'
          exact ih hg ht ht'
    · exact ih hg (htasks g t ht) (htasks g' t' ht')

/-- No two calls that clash are in progress at once, when no callback begins beside one
whose calls may clash with its own. -/
theorem ReachableWhen.no_clash {clash : C → C → Prop} (hsymm : ∀ c c', clash c c' → clash c' c)
    (hb : Bounds group code rely guarantee may)
    (hadmitted : ∀ l w, admitted l w → ∀ g t, g ≠ group l → (w.activity g).task = some t →
      ∀ c c', may ⟨l, w.shared⟩ c → may t c' → ¬ clash c c')
    (h : ReachableWhen group code admitted initial w) {g g' : G} (hg : g ≠ g') {c c' : C}
    (hc : (w.activity g).waiting = some c) (hc' : (w.activity g').waiting = some c') :
    ¬ clash c c' := by
  obtain ⟨t, ht, hmay⟩ := h.may_waiting hb hc
  obtain ⟨t', ht', hmay'⟩ := h.may_waiting hb hc'
  have hapart : ∀ c c', may t c → may t' c' → ¬ clash c c' := by
    refine h.overlap (fun t t' => ∀ c c', may t c → may t' c' → ¬ clash c c') ?_ hadmitted
      hg ht ht'
    intro t t' hapart c c' hmay hmay' hclash
    exact hapart c' c hmay' hmay (hsymm _ _ hclash)
  exact hapart c c' hmay hmay'

/-! ### While something holds of the state -/

/-- A step into a state of which `I` holds. -/
def StepInto (group : L → G) (code : L → Program S C Ans ε Unit)
    (admitted : L → Pool G L S C Ans ε → Prop) (I : S → Prop) (w w' : Pool G L S C Ans ε) : Prop :=
  Step group code admitted w w' ∧ I w'.shared

/-- As long as `I` holds of the state, a group that was idle at first makes only calls that its
callbacks may make under `I`. -/
theorem bounded_while {I : S → Prop} {may : L → C → Prop} {g : G}
    (hcode : ∀ l, group l = g → ∀ s, I s →
      (code l).rg (fun _ => I) (fun _ _ => True) (may l) (fun _ _ => True) s)
    (hidle : w.activity g = .idle) (hI : I w.shared)
    (h : Relation.ReflTransGen (StepInto group code admitted I) w w') :
    I w'.shared ∧ (w'.activity g).Bounded (fun _ => I) (fun _ _ => True)
      (fun t => may t.callback) w'.shared := by
  induction h with
  | refl =>
    rw [hidle]
    exact ⟨hI, trivial⟩
  | @tail w₁ w₂ _ hstep ih =>
    obtain ⟨hI₁, hg⟩ := ih
    obtain ⟨hstep, hI₂⟩ := hstep
    refine ⟨hI₂, ?_⟩
    have hturn {g₁ : G} {a : Activity L S C Ans ε}
        (ha : g = g₁ → a.Bounded (fun _ => I) (fun _ _ => True) (fun t => may t.callback)
          w₁.shared) :
        ((w₁.turn g₁ a).activity g).Bounded (fun _ => I) (fun _ _ => True)
          (fun t => may t.callback) w₁.shared := by
      by_cases hg₁ : g = g₁
      · subst hg₁
        simpa using ha rfl
      · simpa [hg₁] using hg
    cases hstep with
    | begin l hidle hl => exact hturn fun hl => hcode l hl.symm _ hI₁
    | read hrun =>
      refine hturn fun hg₁ => ?_
      subst hg₁
      rw [hrun] at hg
      exact hg _ hI₁
    | @write g₁ t f k hrun =>
      by_cases hg₁ : g = g₁
      · subst hg₁
        rw [hrun] at hg
        simpa [Activity.Bounded] using (hg _ hI₁).2
      · simpa [hg₁] using hg.moved hI₂
    | call hrun =>
      refine hturn fun hg₁ => ?_
      subst hg₁
      rw [hrun] at hg
      exact hg
    | answer x hinside =>
      refine hturn fun hg₁ => ?_
      subst hg₁
      rw [hinside] at hg
      exact hg.2 x _ hI₁
    | finish hrun => exact hturn fun _ => trivial
    | fail hrun => exact hturn fun _ => trivial

/-! ### One group moving alone -/

/-- The pool in which a group got to `a` and left the shared state at `s`. -/
def resume (w : Pool G L S C Ans ε) (g : G) (a : Activity L S C Ans ε) (s : S) :
    Pool G L S C Ans ε := ⟨s, Function.update w.activity g a⟩

lemma resume_self {g : G} {a : Activity L S C Ans ε} (h : w.activity g = a) :
    w.resume g a w.shared = w := by
  rw [← h, resume, Function.update_eq_self]

@[simp] lemma resume_turn (g : G) (a b : Activity L S C Ans ε) (s : S) :
    (w.turn g a).resume g b s = w.resume g b s := by
  simp [resume, turn]

@[simp] lemma resume_update (g : G) (a : Activity L S C Ans ε) (f : S → S) (s : S) :
    (w.update f).resume g a s = w.resume g a s := rfl

@[simp] lemma turn_resume (g : G) (a b : Activity L S C Ans ε) (s : S) :
    (w.resume g a s).turn g b = w.resume g b s := by
  simp [resume, turn]

/-- A group may move alone up to a call, in an environment that answers like any. -/
theorem ReachableWhen.upTo (respond : Responder Ans σ) (stop : C → Bool) {g : G}
    {t : Task L S} {p : Program S C Ans ε Unit}
    (h : ReachableWhen group code admitted initial w) (hrun : w.activity g = .running t p)
    (f : Config S Ans σ) (hf : f.shared = w.shared) :
    ReachableWhen group code admitted initial
      (w.resume g (.running t (p.upTo respond stop f).1) (p.upTo respond stop f).2.shared) := by
  induction p generalizing w f with
  | pure a =>
    rw [Program.upTo, hf, resume_self hrun]
    exact h
  | throw e =>
    rw [Program.upTo, hf, resume_self hrun]
    exact h
  | read k ih =>
    have hread := h.step (.read hrun)
    rw [← hf] at hread
    rw [Program.upTo]
    simpa using ih f.shared hread (turn_activity_self ..) f hf
  | write k p ih =>
    have hwrite := h.step (.write hrun)
    rw [Program.upTo]
    simpa using ih hwrite (turn_activity_self ..) (f.update k) (congrArg k hf)
  | call c k ih =>
    rw [Program.upTo]
    split
    · rw [hf, resume_self hrun]
      exact h
    · have hcall := h.step (.call hrun)
      have hanswer := hcall.step (.answer (f.answer respond c) (turn_activity_self ..))
      simpa using ih _ hanswer (turn_activity_self ..) (f.after respond c) hf

lemma upTo_never (respond : Responder Ans σ) (p : Program S C Ans ε Unit)
    (f : Config S Ans σ) :
    p.upTo respond (fun _ => false) f =
      ((match (p.run respond f).1 with
        | .ok a    => .pure a
        | .error e => .throw e), (p.run respond f).2) := by
  induction p generalizing f with
  | pure a => rfl
  | throw e => rfl
  | read k ih => exact ih f.shared f
  | write k p ih => exact ih (f.update k)
  | call c k ih => exact ih _ (f.after respond c)

/-- A group may run a callback to its end without interruption. -/
theorem ReachableWhen.run (respond : Responder Ans σ) {g : G} {t : Task L S}
    {p : Program S C Ans ε Unit} (h : ReachableWhen group code admitted initial w)
    (hrun : w.activity g = .running t p) (f : Config S Ans σ) (hf : f.shared = w.shared) :
    ReachableWhen group code admitted initial
      (w.resume g .idle (p.run respond f).2.shared) := by
  have hend := h.upTo respond (fun _ => false) hrun f hf
  rw [upTo_never] at hend
  rcases hr : (p.run respond f).1 with e | a
  · rw [hr] at hend
    simpa using hend.step (.fail (Function.update_self ..))
  · rw [hr] at hend
    simpa using hend.step (.finish (Function.update_self ..))

/-- A group that is idle may begin a callback and run it to its end without interruption. -/
lemma ReachableWhen.completes (respond : Responder Ans σ) {l : L}
    (h : ReachableWhen group code admitted initial w) (hidle : w.activity (group l) = .idle)
    (hl : admitted l w) (f : Config S Ans σ) (hf : f.shared = w.shared) :
    ReachableWhen group code admitted initial
      (w.resume (group l) .idle ((code l).run respond f).2.shared) := by
  have hbegin := h.step (.begin l hidle hl)
  simpa using hbegin.run respond (turn_activity_self ..) f hf

/-- A group that is idle may begin a callback and get into one of its calls. -/
lemma ReachableWhen.enters (respond : Responder Ans σ) (stop : C → Bool) {l : L}
    (h : ReachableWhen group code admitted initial w) (hidle : w.activity (group l) = .idle)
    (hl : admitted l w) {f f' : Config S Ans σ} (hf : f.shared = w.shared) {c : C}
    {k : Ans c → Program S C Ans ε Unit}
    (hcall : (code l).upTo respond stop f = (.call c k, f')) :
    ReachableWhen group code admitted initial
      (w.resume (group l) (.inside ⟨l, w.shared⟩ c k) f'.shared) := by
  have hbegin := h.step (.begin l hidle hl)
  have hreach := hbegin.upTo respond stop (turn_activity_self ..) f hf
  rw [hcall] at hreach
  simpa using hreach.step (.call (Function.update_self ..))

/-- A group inside a call may be answered and get into a later one. -/
lemma ReachableWhen.proceeds (respond : Responder Ans σ) (stop : C → Bool) {g : G}
    {t : Task L S} {c c' : C} {k : Ans c → Program S C Ans ε Unit}
    {k' : Ans c' → Program S C Ans ε Unit}
    (h : ReachableWhen group code admitted initial w) (hinside : w.activity g = .inside t c k)
    (x : Ans c) {f f' : Config S Ans σ} (hf : f.shared = w.shared)
    (hcall : (k x).upTo respond stop f = (.call c' k', f')) :
    ReachableWhen group code admitted initial
      (w.resume g (.inside t c' k') f'.shared) := by
  have hanswer := h.step (.answer x hinside)
  have hreach := hanswer.upTo respond stop (turn_activity_self ..) f hf
  rw [hcall] at hreach
  simpa using hreach.step (.call (Function.update_self ..))

end Pool

end Interaction
