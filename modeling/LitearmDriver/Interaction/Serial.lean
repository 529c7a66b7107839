import LitearmDriver.Interaction.Coupling
import LitearmDriver.Interaction.Pool
import Mathlib.Data.Fintype.EquivFin

/-!
# Serial executions

When the callbacks of a pool that do more than update a hidden part of the state never
overlap, what the pool does is what some run of one callback after another does: the same
calls with the same answers, and the same state in the end. An update may fall between any two
steps of another callback, as long as that one sees the hidden part only in its first step.
-/

namespace Interaction

variable {G L S C ε α σ : Type} {Ans : C → Type}

namespace Program

/-! ### Executions with given answers -/

/-- Executed from `s` with these events, in their order, the program ends with `r` in `s'`. -/
def Executes : Program S C Ans ε α → S → List (Event Ans) → Except ε α → S → Prop
  | .pure a, s, events, r, s'    => events = [] ∧ r = .ok a ∧ s' = s
  | .throw e, s, events, r, s'   => events = [] ∧ r = .error e ∧ s' = s
  | .read k, s, events, r, s'    => (k s).Executes s events r s'
  | .write f k, s, events, r, s' => k.Executes (f s) events r s'
  | .call c k, s, events, r, s'  =>
    ∃ x later, events = ⟨c, x⟩ :: later ∧ (k x).Executes s later r s'

/-- An update that the code does not see and its writes do not disturb may be left to the
end. -/
lemma Blind.executes_update {m : S → S} {P : C → Prop} {W : (S → S) → Prop}
    {p : Program S C Ans ε α} (hp : p.Blind m P W) {f : S → S} (hidden : ∀ s, m (f s) = m s)
    (hcommute : ∀ w, W w → ∀ s, f (w s) = w (f s)) {s s'' : S} {events : List (Event Ans)}
    {r : Except ε α} (h : p.Executes (f s) events r s'') :
    ∃ s', p.Executes s events r s' ∧ s'' = f s' := by
  induction p generalizing s events with
  | pure a =>
    obtain ⟨rfl, rfl, rfl⟩ := h
    exact ⟨s, ⟨rfl, rfl, rfl⟩, rfl⟩
  | throw e =>
    obtain ⟨rfl, rfl, rfl⟩ := h
    exact ⟨s, ⟨rfl, rfl, rfl⟩, rfl⟩
  | read k ih =>
    have hsame : k (f s) = k s := by rw [hp.1 (f s), hidden, ← hp.1 s]
    have hk : (k (f s)).Executes (f s) events r s'' := h
    rw [hsame] at hk
    exact ih s (hp.2 s) hk
  | write w k ih =>
    have hk : k.Executes (w (f s)) events r s'' := h
    rw [← hcommute w hp.1] at hk
    exact ih hp.2 hk
  | call c k ih =>
    obtain ⟨x, later, rfl, hk⟩ := h
    obtain ⟨s', hs', rfl⟩ := ih x (hp.2 x) hk
    exact ⟨s', ⟨x, later, rfl, hs'⟩, rfl⟩

/-- Only the first step may see what `m` hides. -/
def Glances (m : S → S) (P : C → Prop) (W : (S → S) → Prop) : Program S C Ans ε α → Prop
  | .read k => ∀ s, (k s).Blind m P W
  | p       => p.Blind m P W

lemma Blind.glances {m : S → S} {P : C → Prop} {W : (S → S) → Prop}
    {p : Program S C Ans ε α} (hp : p.Blind m P W) : p.Glances m P W := by
  cases p with
  | read k => exact hp.2
  | _ => exact hp

lemma Glances.within {m : S → S} {P : C → Prop} {W : (S → S) → Prop}
    {p : Program S C Ans ε α} (hp : p.Glances m P W) : p.Within P W := by
  cases p with
  | read k => exact fun s => (hp s).within
  | pure a => trivial
  | throw e => trivial
  | write f k => exact ⟨hp.1, hp.2.within⟩
  | call c k => exact ⟨hp.1, fun x => (hp.2 x).within⟩

lemma Glances.bind {m : S → S} {P : C → Prop} {W : (S → S) → Prop} {β : Type}
    {p : Program S C Ans ε α} {f : α → Program S C Ans ε β} (hp : p.Glances m P W)
    (hf : ∀ a, (f a).Blind m P W) : (p >>= f).Glances m P W := by
  cases p with
  | read k => exact fun s => Blind.bind (hp s) hf
  | pure a => exact (hf a).glances
  | throw e => trivial
  | write g k => exact ⟨hp.1, Blind.bind hp.2 hf⟩
  | call c k => exact ⟨hp.1, fun x => Blind.bind (hp.2 x) hf⟩

/-! ### One step of a program -/

/-- One step of a program, with the answer it received if it was one. A call that is not yet
answered stays what it is. -/
inductive Moves : Program S C Ans ε α → S → List (Event Ans) → Program S C Ans ε α → S → Prop where
  | read (k : S → Program S C Ans ε α) (s : S) : Moves (.read k) s [] (k s) s
  | write (f : S → S) (k : Program S C Ans ε α) (s : S) : Moves (.write f k) s [] k (f s)
  | wait (c : C) (k : Ans c → Program S C Ans ε α) (s : S) : Moves (.call c k) s [] (.call c k) s
  | answer {c : C} (x : Ans c) (k : Ans c → Program S C Ans ε α) (s : S) :
    Moves (.call c k) s [⟨c, x⟩] (k x) s

lemma Moves.executes {p p' : Program S C Ans ε α} {s s' s'' : S} {new events : List (Event Ans)}
    {r : Except ε α} (h : p.Moves s new p' s') (hp : p'.Executes s' events r s'') :
    p.Executes s (new ++ events) r s'' := by
  cases h with
  | read k s => exact hp
  | write f k s => exact hp
  | wait c k s => exact hp
  | answer x k s => exact ⟨x, events, rfl, hp⟩

lemma Moves.blind {m : S → S} {P : C → Prop} {W : (S → S) → Prop} {p p' : Program S C Ans ε α}
    {s s' : S} {new : List (Event Ans)} (h : p.Moves s new p' s') (hp : p.Glances m P W) :
    p'.Blind m P W := by
  cases h with
  | read k s => exact hp s
  | write f k s => exact hp.2
  | wait c k s => exact hp
  | answer x k s => exact hp.2 x

end Program

/-! ### One callback after another -/

/-- What callbacks that run one after another can lead to from an initial state: the state,
and the calls with their answers, most recent first. -/
inductive Serially (code : L → Program S C Ans ε Unit) (initial : S → Prop) :
    S → List (Event Ans) → Prop where
  | initial {s : S} (h : initial s) : Serially code initial s []
  | step (l : L) {s s' : S} {history events : List (Event Ans)} {r : Except ε Unit}
      (h : Serially code initial s history) (hl : (code l).Executes s events r s') :
    Serially code initial s' (events.reverse ++ history)

/-- Wherever the program ends, callbacks one after another lead there. -/
def Program.Completes (code : L → Program S C Ans ε Unit) (initial : S → Prop)
    (p : Program S C Ans ε Unit) (s : S) (history : List (Event Ans)) : Prop :=
  ∀ events r s', p.Executes s events r s' →
    Serially code initial s' (events.reverse ++ history)

variable {code : L → Program S C Ans ε Unit} {initial : S → Prop}

lemma Serially.completes {s : S} {history : List (Event Ans)}
    (h : Serially code initial s history) (l : L) :
    (code l).Completes code initial s history := fun _ _ _ hl => .step l h hl

/-- A step towards an end leads to the same ends. -/
lemma Program.Moves.completes {p p' : Program S C Ans ε Unit} {s s' : S}
    {new history : List (Event Ans)} (h : p.Moves s new p' s')
    (hp : p.Completes code initial s history) :
    p'.Completes code initial s' (new.reverse ++ history) := by
  intro events r s'' hexecutes
  have hserial := hp _ r s'' (h.executes hexecutes)
  rwa [List.reverse_append, List.append_assoc] at hserial

/-! ### What a pool did -/

/-- What a group still has to do, and for which callback. -/
def Activity.rest : Activity L S C Ans ε → Option (Task L S × Program S C Ans ε Unit)
  | .idle         => none
  | .running t p  => some (t, p)
  | .inside t c k => some (t, .call c k)

lemma Activity.rest_eq_none {a : Activity L S C Ans ε} (h : a.rest = none) : a = .idle := by
  cases a with
  | idle => rfl
  | running t p => cases h
  | inside t c k => cases h

lemma Activity.task_of_rest {a : Activity L S C Ans ε} {t : Task L S}
    {p : Program S C Ans ε Unit} (h : a.rest = some (t, p)) : a.task = some t := by
  cases a with
  | idle => cases h
  | running t' p' =>
    cases h
    rfl
  | inside t' c k =>
    cases h
    rfl

namespace Pool

variable [DecidableEq G] (group : L → G) (code : L → Program S C Ans ε Unit)
  (admitted : L → Pool G L S C Ans ε → Prop)

/-- The pools that can be reached, with the calls that were answered on the way, most recent
first. A step is silent when every group that waits goes on waiting. -/
inductive Recorded (initial : S → Prop) : Pool G L S C Ans ε → List (Event Ans) → Prop where
  | quiescent {s : S} (h : initial s) : Recorded initial (.quiescent s) []
  | silent {w w' : Pool G L S C Ans ε} {history : List (Event Ans)}
      (h : Recorded initial w history) (hstep : Step group code admitted w w')
      (hsilent : ∀ g c, (w.activity g).waiting = some c → w'.activity g = w.activity g) :
    Recorded initial w' history
  | answer {w : Pool G L S C Ans ε} {history : List (Event Ans)} {g : G} {t : Task L S} {c : C}
      {k : Ans c → Program S C Ans ε Unit} (h : Recorded initial w history) (x : Ans c)
      (hinside : w.activity g = .inside t c k) :
    Recorded initial (w.turn g (.running t (k x))) (⟨c, x⟩ :: history)

variable {group code admitted} {initial : S → Prop} {w w' : Pool G L S C Ans ε}

/-- A group that was not waiting may turn to anything in silence. -/
lemma silent_turn {g : G} (hg : (w.activity g).waiting = none) (a : Activity L S C Ans ε)
    (g' : G) (c : C) (hc : (w.activity g').waiting = some c) :
    (w.turn g a).activity g' = w.activity g' := by
  apply turn_activity_of_ne
  rintro rfl
  cases hg.symm.trans hc

/-- What has such a record is reachable. -/
lemma Recorded.reachable {history : List (Event Ans)}
    (h : Recorded group code admitted initial w history) :
    ReachableWhen group code admitted initial w := by
  induction h with
  | quiescent hs => exact .quiescent hs
  | silent h hstep hsilent ih => exact ih.step hstep
  | answer h x hinside ih => exact ih.step (.answer x hinside)

/-- A group runs callbacks of its own. -/
lemma ReachableWhen.owned (h : ReachableWhen group code admitted initial w) {g : G}
    {t : Task L S} (ht : (w.activity g).task = some t) : group t.callback = g := by
  induction h generalizing g t with
  | quiescent hs => cases ht
  | step h hstep ih =>
    rcases hstep.tasks with ⟨l, -, rfl⟩ | htasks
    · by_cases hg : g = group l
      · subst hg
        rw [turn_activity_self] at ht
        cases ht
        rfl
      · rw [turn_activity_of_ne _ _ _ hg] at ht
        exact ih ht
    · exact ih (htasks g t ht)

end Pool

/-! ### The discipline -/

/-- What a callback may overlap with. An update is one write; a patient callback sees what
updates write at most in its first step; an exclusive one is not to be overlapped. -/
inductive Kind where
  | update
  | patient
  | exclusive
  deriving DecidableEq

/-- One of the two is an update, and neither is exclusive. -/
def Kind.Beside (k k' : Kind) : Prop :=
  k = .update ∧ k' ≠ .exclusive ∨ k' = .update ∧ k ≠ .exclusive

/-- The callbacks are of the kinds they are said to be. -/
structure Discipline (code : L → Program S C Ans ε Unit) (kind : L → Kind) (m : S → S)
    (P : C → Prop) (W U : (S → S) → Prop) : Prop where
  update : ∀ l, kind l = .update → ∃ f, U f ∧ code l = .write f (.pure ())
  patient : ∀ l, kind l = .patient → (code l).Glances m P W
  hidden : ∀ f, U f → ∀ s, m (f s) = m s
  commute : ∀ f w, U f → W w → ∀ s, f (w s) = w (f s)

variable {kind : L → Kind} {m : S → S} {P : C → Prop} {W U : (S → S) → Prop}

/-- A group that runs nothing but an update. -/
def Activity.Updating (code : L → Program S C Ans ε Unit) (kind : L → Kind)
    (a : Activity L S C Ans ε) : Prop :=
  ∀ t p, a.rest = some (t, p) → kind t.callback = .update ∧ (p = code t.callback ∨ p = .pure ())

lemma Activity.updating_idle : (.idle : Activity L S C Ans ε).Updating code kind := nofun

/-- A patient callback that has not made a step, or that does not see updates any more. -/
def Endures (code : L → Program S C Ans ε Unit) (initial : S → Prop) (m : S → S)
    (P : C → Prop) (W : (S → S) → Prop) (t : Task L S) (p : Program S C Ans ε Unit) (s : S)
    (history : List (Event Ans)) : Prop :=
  p = code t.callback ∧ Serially code initial s history ∨
    p.Blind m P W ∧ p.Completes code initial s history

/-- An update made by a callback is one more callback. -/
lemma Serially.update {l : L} {f : S → S} (hf : code l = .write f (.pure ())) {s : S}
    {history : List (Event Ans)} (h : Serially code initial s history) :
    Serially code initial (f s) history := by
  have hexecutes : (code l).Executes s [] (.ok ()) (f s) := by
    rw [hf]
    exact ⟨rfl, rfl, rfl⟩
  exact h.step l hexecutes

/-- An update does not disturb a patient callback. -/
lemma Endures.update (hd : Discipline code kind m P W U) {l : L} (hl : kind l = .update)
    {f : S → S} (hf : code l = .write f (.pure ())) {t : Task L S}
    {p : Program S C Ans ε Unit} {s : S} {history : List (Event Ans)}
    (h : Endures code initial m P W t p s history) :
    Endures code initial m P W t p (f s) history := by
  obtain ⟨f', hU, hf'⟩ := hd.update l hl
  obtain rfl : f' = f := by
    have hwrite := hf'.symm.trans hf
    injection hwrite
  rcases h with ⟨hp, hs⟩ | ⟨hblind, hp⟩
  · exact .inl ⟨hp, hs.update hf⟩
  · refine .inr ⟨hblind, fun events r s'' hexecutes => ?_⟩
    obtain ⟨s', hs', rfl⟩ := hblind.executes_update (hd.hidden _ hU)
      (fun w hw => hd.commute _ w hU hw) hexecutes
    exact (hp events r s' hs').update hf

lemma Endures.completes {t : Task L S} {p : Program S C Ans ε Unit} {s : S}
    {history : List (Event Ans)} (h : Endures code initial m P W t p s history) :
    p.Completes code initial s history := by
  rcases h with ⟨rfl, hs⟩ | ⟨-, hp⟩
  · exact hs.completes _
  · exact hp

/-- A patient callback endures its own steps. -/
lemma Endures.moves (hd : Discipline code kind m P W U) {t : Task L S}
    (ht : kind t.callback = .patient) {p p' : Program S C Ans ε Unit} {s s' : S}
    {new history : List (Event Ans)} (h : Endures code initial m P W t p s history)
    (hmove : p.Moves s new p' s') :
    Endures code initial m P W t p' s' (new.reverse ++ history) := by
  refine .inr ⟨?_, hmove.completes h.completes⟩
  rcases h with ⟨rfl, -⟩ | ⟨hblind, -⟩
  · exact hmove.blind (hd.patient _ ht)
  · exact hmove.blind hblind.glances

namespace Pool

/-- How a pool came about: nothing but updates is running and the state is one of a serial
run; or one callback besides updates is, and it will end in such a state. -/
inductive Explained (code : L → Program S C Ans ε Unit) (kind : L → Kind) (initial : S → Prop)
    (m : S → S) (P : C → Prop) (W : (S → S) → Prop) :
    Pool G L S C Ans ε → List (Event Ans) → Prop where
  | quiet {w : Pool G L S C Ans ε} {history : List (Event Ans)}
      (hothers : ∀ g, (w.activity g).Updating code kind)
      (hs : Serially code initial w.shared history) :
    Explained code kind initial m P W w history
  | busy {w : Pool G L S C Ans ε} {history : List (Event Ans)} {g : G} {t : Task L S}
      {p : Program S C Ans ε Unit} (hrest : (w.activity g).rest = some (t, p))
      (ht : kind t.callback = .patient)
      (hothers : ∀ g', g' ≠ g → (w.activity g').Updating code kind)
      (hp : Endures code initial m P W t p w.shared history) :
    Explained code kind initial m P W w history
  | alone {w : Pool G L S C Ans ε} {history : List (Event Ans)} {g : G} {t : Task L S}
      {p : Program S C Ans ε Unit} (hrest : (w.activity g).rest = some (t, p))
      (ht : kind t.callback = .exclusive) (hothers : ∀ g', g' ≠ g → w.activity g' = .idle)
      (hp : p.Completes code initial w.shared history) :
    Explained code kind initial m P W w history

variable [DecidableEq G] {group : L → G} {admitted : L → Pool G L S C Ans ε → Prop}
  {w : Pool G L S C Ans ε} {history : List (Event Ans)}

/-- A group turns to something, and the shared state to `s`. -/
lemma updating_resume {g : G} (hothers : ∀ g', g' ≠ g → (w.activity g').Updating code kind)
    {a : Activity L S C Ans ε} (ha : a.Updating code kind) (s : S) (g' : G) :
    ((w.resume g a s).activity g').Updating code kind := by
  by_cases hg : g' = g
  · subst hg
    simpa [resume] using ha
  · simpa [resume, hg] using hothers g' hg

lemma resume_activity_of_ne {g g' : G} (h : g' ≠ g) (a : Activity L S C Ans ε) (s : S) :
    (w.resume g a s).activity g' = w.activity g' := Function.update_of_ne h ..

lemma resume_activity_self (g : G) (a : Activity L S C Ans ε) (s : S) :
    (w.resume g a s).activity g = a := Function.update_self ..

/-- A step of one group. -/
lemma Explained.move (hd : Discipline code kind m P W U)
    (h : Explained code kind initial m P W w history) {g : G} {t : Task L S}
    {p p' : Program S C Ans ε Unit} {s' : S} {new : List (Event Ans)}
    {a : Activity L S C Ans ε} (hrest : (w.activity g).rest = some (t, p))
    (hmove : p.Moves w.shared new p' s') (ha : a.rest = some (t, p')) :
    Explained code kind initial m P W (w.resume g a s') (new.reverse ++ history) := by
  -- A move of a group that runs an update is the update's one write.
  have hupdate (hu : (w.activity g).Updating code kind) :
      new = [] ∧ a.Updating code kind ∧ ∃ f, code t.callback = .write f (.pure ()) ∧
        kind t.callback = .update ∧ s' = f w.shared := by
    obtain ⟨ht, hp | hp⟩ := hu t p hrest
    · obtain ⟨f, -, hf⟩ := hd.update _ ht
      rw [hp, hf] at hmove
      cases hmove
      refine ⟨rfl, fun t' p'' hrest' => ?_, f, hf, ht, rfl⟩
      rw [ha] at hrest'
      cases hrest'
      exact ⟨ht, .inr rfl⟩
    · rw [hp] at hmove
      cases hmove
  cases h with
  | quiet hothers hs =>
    obtain ⟨rfl, hupdating, f, hf, -, rfl⟩ := hupdate (hothers g)
    exact .quiet (updating_resume (fun g' _ => hothers g') hupdating _) (hs.update hf)
  | @busy g₁ t₁ p₁ hrest₁ ht₁ hothers hp =>
    by_cases hg : g = g₁
    · subst hg
      obtain ⟨rfl, rfl⟩ := Prod.mk.inj (Option.some.inj (hrest.symm.trans hrest₁))
      refine .busy (g := g) (t := t) (p := p') ?_ ht₁ (fun g' hg' => ?_) (hp.moves hd ht₁ hmove)
      · rw [resume_activity_self, ha]
      · rw [resume_activity_of_ne hg']
        exact hothers g' hg'
    · obtain ⟨rfl, hupdating, f, hf, ht, rfl⟩ := hupdate (hothers g hg)
      refine .busy (g := g₁) (t := t₁) (p := p₁) ?_ ht₁ (fun g' hg' => ?_) (hp.update hd ht hf)
      · rw [resume_activity_of_ne (Ne.symm hg), hrest₁]
      · by_cases hgg : g' = g
        · subst hgg
          rwa [resume_activity_self]
        · rw [resume_activity_of_ne hgg]
          exact hothers g' hg'
  | @alone g₁ t₁ p₁ hrest₁ ht₁ hothers hp =>
    by_cases hg : g = g₁
    · subst hg
      obtain ⟨rfl, rfl⟩ := Prod.mk.inj (Option.some.inj (hrest.symm.trans hrest₁))
      refine .alone (g := g) (t := t) (p := p') ?_ ht₁ (fun g' hg' => ?_) (hmove.completes hp)
      · rw [resume_activity_self, ha]
      · rw [resume_activity_of_ne hg']
        exact hothers g' hg'
    · rw [hothers g hg] at hrest
      cases hrest

/-- A callback that begins. -/
lemma Explained.begin {l : L}
    (hbeside : ∀ g t, (w.activity g).task = some t → Kind.Beside (kind l) (kind t.callback))
    (h : Explained code kind initial m P W w history)
    (hidle : w.activity (group l) = .idle) :
    Explained code kind initial m P W
      (w.resume (group l) (.running ⟨l, w.shared⟩ (code l)) w.shared) history := by
  have hupdating (ht : kind l = .update) :
      (.running ⟨l, w.shared⟩ (code l) : Activity L S C Ans ε).Updating code kind := by
    rintro t p ⟨rfl, rfl⟩
    exact ⟨ht, .inl rfl⟩
  have hrest : ((w.resume (group l) (.running ⟨l, w.shared⟩ (code l)) w.shared).activity
      (group l)).rest = some (⟨l, w.shared⟩, code l) := by
    rw [resume_activity_self]
    rfl
  cases h with
  | quiet hothers hs =>
    cases ht : kind l with
    | update => exact .quiet (updating_resume (fun g' _ => hothers g') (hupdating ht) _) hs
    | patient =>
      refine .busy hrest ht (fun g' hg' => ?_) (.inl ⟨rfl, hs⟩)
      rw [resume_activity_of_ne hg']
      exact hothers g'
    | exclusive =>
      refine .alone hrest ht (fun g' hg' => ?_) (hs.completes l)
      rw [resume_activity_of_ne hg']
      cases ha : (w.activity g').rest with
      | none => exact Activity.rest_eq_none ha
      | some tp =>
        rcases hbeside g' tp.1 (Activity.task_of_rest ha) with ⟨hl', -⟩ | ⟨-, hl'⟩
        · cases ht.symm.trans hl'
        · exact absurd ht hl'
  | @busy g₁ t₁ p₁ hrest₁ ht₁ hothers hp =>
    have hne : g₁ ≠ group l := by
      rintro rfl
      rw [hidle] at hrest₁
      cases hrest₁
    have ht : kind l = .update := by
      rcases hbeside g₁ t₁ (Activity.task_of_rest hrest₁) with ⟨ht, -⟩ | ⟨ht, -⟩
      · exact ht
      · cases ht₁.symm.trans ht
    refine .busy (g := g₁) (t := t₁) (p := p₁) ?_ ht₁ (fun g' hg' => ?_) hp
    · rw [resume_activity_of_ne hne, hrest₁]
    · by_cases hg : g' = group l
      · subst hg
        rw [resume_activity_self]
        exact hupdating ht
      · rw [resume_activity_of_ne hg]
        exact hothers g' hg'
  | @alone g₁ t₁ p₁ hrest₁ ht₁ hothers hp =>
    rcases hbeside g₁ t₁ (Activity.task_of_rest hrest₁) with ⟨-, ht⟩ | ⟨ht, -⟩
    · exact absurd ht₁ ht
    · cases ht₁.symm.trans ht

/-- A callback that ends. -/
lemma Explained.leave (h : Explained code kind initial m P W w history) {g : G} {t : Task L S}
    {p : Program S C Ans ε Unit} (hrest : (w.activity g).rest = some (t, p))
    {r : Except ε Unit} (hend : p.Executes w.shared [] r w.shared) :
    Explained code kind initial m P W (w.resume g .idle w.shared) history := by
  cases h with
  | quiet hothers hs =>
    exact .quiet (updating_resume (fun g' _ => hothers g') Activity.updating_idle _) hs
  | @busy g₁ t₁ p₁ hrest₁ ht₁ hothers hp =>
    by_cases hg : g = g₁
    · subst hg
      obtain ⟨rfl, rfl⟩ := Prod.mk.inj (Option.some.inj (hrest.symm.trans hrest₁))
      exact .quiet (updating_resume hothers Activity.updating_idle _) (hp.completes _ _ _ hend)
    · refine .busy (g := g₁) (t := t₁) (p := p₁) ?_ ht₁ (fun g' hg' => ?_) hp
      · rw [resume_activity_of_ne (Ne.symm hg), hrest₁]
      · by_cases hgg : g' = g
        · subst hgg
          rw [resume_activity_self]
          exact Activity.updating_idle
        · rw [resume_activity_of_ne hgg]
          exact hothers g' hg'
  | @alone g₁ t₁ p₁ hrest₁ ht₁ hothers hp =>
    by_cases hg : g = g₁
    · subst hg
      obtain ⟨rfl, rfl⟩ := Prod.mk.inj (Option.some.inj (hrest.symm.trans hrest₁))
      refine .quiet (updating_resume (fun g' hg' => ?_) Activity.updating_idle _)
        (hp _ _ _ hend)
      rw [hothers g' hg']
      exact Activity.updating_idle
    · rw [hothers g hg] at hrest
      cases hrest

/-- Whatever order the groups move in, what the pool did is explained. -/
theorem Recorded.explained (hd : Discipline code kind m P W U)
    (hadmitted : ∀ l w, admitted l w → ∀ g t, (w.activity g).task = some t →
      group t.callback = g → g ≠ group l → Kind.Beside (kind l) (kind t.callback))
    (h : Recorded group code admitted initial w history) :
    Explained code kind initial m P W w history := by
  induction h with
  | quiescent hs => exact .quiet (fun _ => Activity.updating_idle) (.initial hs)
  | @silent w w' history h hstep hsilent ih =>
    cases hstep with
    | begin l hidle hl =>
      refine ih.begin (fun g t ht => hadmitted l w hl g t ht (h.reachable.owned ht) ?_) hidle
      rintro rfl
      rw [hidle] at ht
      cases ht
    | read hrun => exact ih.move hd (congrArg Activity.rest hrun) (.read _ _) rfl
    | write hrun => exact ih.move hd (congrArg Activity.rest hrun) (.write _ _ _) rfl
    | call hrun => exact ih.move hd (congrArg Activity.rest hrun) (.wait _ _ _) rfl
    | @answer g t c k x hinside =>
      have hsame := hsilent g c (by rw [hinside]; rfl)
      rw [turn_activity_self, hinside] at hsame
      cases hsame
    | finish hrun => exact ih.leave (congrArg Activity.rest hrun) ⟨rfl, rfl, rfl⟩
    | fail hrun => exact ih.leave (congrArg Activity.rest hrun) ⟨rfl, rfl, rfl⟩
  | answer h x hinside ih => exact ih.move hd (congrArg Activity.rest hinside) (.answer x _ _) rfl

/-- A pool at rest has done what a serial run does. -/
theorem Recorded.serially (hd : Discipline code kind m P W U)
    (hadmitted : ∀ l w, admitted l w → ∀ g t, (w.activity g).task = some t →
      group t.callback = g → g ≠ group l → Kind.Beside (kind l) (kind t.callback))
    (h : Recorded group code admitted initial w history)
    (hidle : ∀ g, w.activity g = .idle) : Serially code initial w.shared history := by
  cases h.explained hd hadmitted with
  | quiet hothers hs => exact hs
  | @busy g t p hrest =>
    rw [hidle] at hrest
    cases hrest
  | @alone g t p hrest =>
    rw [hidle] at hrest
    cases hrest

end Pool

/-! ### Serial runs of a pool -/

/-- A run is an execution with the answers of its environment. -/
lemma Program.run_executes (respond : Responder Ans σ) (p : Program S C Ans ε α)
    (g : Config S Ans σ) :
    ∃ events, p.Executes g.shared events (p.run respond g).1 (p.run respond g).2.shared ∧
      (p.run respond g).2.history = events.reverse ++ g.history := by
  induction p generalizing g with
  | pure a => exact ⟨[], ⟨rfl, rfl, rfl⟩, rfl⟩
  | throw e => exact ⟨[], ⟨rfl, rfl, rfl⟩, rfl⟩
  | read k ih => exact ih g.shared g
  | write f k ih => exact ih (g.update f)
  | call c k ih =>
    obtain ⟨events, hk, hhistory⟩ := ih (g.answer respond c) (g.after respond c)
    exact ⟨_, ⟨g.answer respond c, events, rfl, hk⟩, by simp [Program.run, hhistory]⟩

namespace Pool

variable [DecidableEq G] {group : L → G} {admitted : L → Pool G L S C Ans ε → Prop}
  {w : Pool G L S C Ans ε} {history : List (Event Ans)}

/-- A group may run its callback to the end while the others do nothing. -/
lemma Recorded.executes (h : Recorded group code admitted initial w history) {g : G}
    {t : Task L S} {p : Program S C Ans ε Unit} (hrun : w.activity g = .running t p)
    {events : List (Event Ans)} {r : Except ε Unit} {s' : S}
    (hp : p.Executes w.shared events r s') :
    Recorded group code admitted initial (w.resume g .idle s') (events.reverse ++ history) := by
  have hbusy : (w.activity g).waiting = none := by rw [hrun]; rfl
  induction p generalizing w events history with
  | pure a =>
    obtain ⟨rfl, -, rfl⟩ := hp
    exact h.silent (.finish hrun) (silent_turn hbusy _)
  | throw e =>
    obtain ⟨rfl, -, rfl⟩ := hp
    exact h.silent (.fail hrun) (silent_turn hbusy _)
  | read k ih =>
    have hread := h.silent (.read hrun) (silent_turn hbusy _)
    simpa using ih w.shared hread (turn_activity_self ..) hp (by simp [Activity.waiting])
  | write f k ih =>
    have hwrite := h.silent (.write hrun) (silent_turn hbusy _)
    simpa using ih hwrite (turn_activity_self ..) hp (by simp [Activity.waiting])
  | call c k ih =>
    obtain ⟨x, later, rfl, hk⟩ := hp
    have hcall := h.silent (.call hrun) (silent_turn hbusy _)
    have hanswer := hcall.answer x (turn_activity_self ..)
    simpa using ih x hanswer (turn_activity_self ..) hk (by simp [Activity.waiting])

/-- A serial run is one of the things a pool may do. -/
theorem recorded_of_serially
    (hadmitted : ∀ l s, admitted l (.quiescent s)) {s : S}
    (h : Serially code initial s history) :
    Recorded group code admitted initial (.quiescent s) history := by
  induction h with
  | initial hs => exact .quiescent hs
  | @step l s s' history events r h hl ih =>
    have hbegin := ih.silent (.begin l rfl (hadmitted l s)) nofun
    have hend := hbegin.executes (turn_activity_self ..) hl
    simpa [resume, turn, quiescent] using hend

/-! ### Coming to rest -/

/-- Whatever a group is doing, it can become idle while the others do nothing. -/
lemma Recorded.idles (other : (c : C) → Ans c)
    (h : Recorded group code admitted initial w history) (g : G) :
    ∃ w' events, Recorded group code admitted initial w' (events ++ history) ∧
      w'.activity = Function.update w.activity g .idle := by
  -- From here on every call is answered by `other`.
  have hends (p : Program S C Ans ε Unit) :
      ∃ events r s', p.Executes w.shared events r s' := by
    obtain ⟨events, hp, -⟩ := p.run_executes (fun c u => (other c, u)) ⟨w.shared, (), []⟩
    exact ⟨events, _, _, hp⟩
  cases hg : w.activity g with
  | idle => exact ⟨w, [], h, by rw [← hg, Function.update_eq_self]⟩
  | running t p =>
    obtain ⟨events, r, s', hp⟩ := hends p
    exact ⟨_, _, h.executes hg hp, rfl⟩
  | inside t c k =>
    obtain ⟨events, r, s', hk⟩ := hends (k (other c))
    have hanswer := h.answer (other c) hg
    have hend := hanswer.executes (turn_activity_self ..) hk
    refine ⟨_, events.reverse ++ [⟨c, other c⟩], by simpa using hend, ?_⟩
    simp [resume]

/-- What has begun can be ended: every pool can come to rest. -/
theorem Recorded.settles [Finite G] (other : (c : C) → Ans c)
    (h : Recorded group code admitted initial w history) :
    ∃ s events, Recorded group code admitted initial (.quiescent s) (events ++ history) := by
  have hidle (gs : Finset G) : ∃ w' events,
      Recorded group code admitted initial w' (events ++ history) ∧
        ∀ g ∈ gs, w'.activity g = .idle := by
    induction gs using Finset.induction_on with
    | empty => exact ⟨w, [], h, by simp⟩
    | insert g gs hg ih =>
      obtain ⟨w₁, events, hw₁, hgs⟩ := ih
      obtain ⟨w₂, more, hw₂, hactivity⟩ := hw₁.idles other g
      refine ⟨w₂, more ++ events, by simpa using hw₂, fun g' hg' => ?_⟩
      rw [hactivity]
      by_cases hgg : g' = g
      · subst hgg
        exact Function.update_self ..
      · rw [Function.update_of_ne hgg]
        exact hgs g' ((Finset.mem_insert.mp hg').resolve_left hgg)
  cases nonempty_fintype G
  obtain ⟨⟨s, activity⟩, events, hw', hall⟩ := hidle Finset.univ
  obtain rfl : activity = fun _ => .idle := funext fun g => hall g (Finset.mem_univ g)
  exact ⟨s, events, hw'⟩

end Pool

/-! ### Replaying a record -/

open Classical in
/-- The environment that gives the answers of a script, and `other` when it is not asked for
the next of them. -/
noncomputable def replay (other : (c : C) → Ans c) : Responder Ans (List (Event Ans))
  | c, []          => (other c, [])
  | c, e :: events => if h : e.1 = c then (h ▸ e.2, events) else (other c, e :: events)

variable (other : (c : C) → Ans c)

lemma replay_cons (c : C) (x : Ans c) (events : List (Event Ans)) :
    replay other c (⟨c, x⟩ :: events) = (x, events) := by
  rw [replay, dif_pos rfl]

/-- In that environment a program runs as it was executed. -/
lemma Program.Executes.run {p : Program S C Ans ε α} {s s' : S} {events : List (Event Ans)}
    {r : Except ε α} (h : p.Executes s events r s') (rest history : List (Event Ans)) :
    p.run (replay other) ⟨s, events ++ rest, history⟩ =
      (r, ⟨s', rest, events.reverse ++ history⟩) := by
  induction p generalizing s events history with
  | pure a =>
    obtain ⟨rfl, rfl, rfl⟩ := h
    rfl
  | throw e =>
    obtain ⟨rfl, rfl, rfl⟩ := h
    rfl
  | read k ih => exact ih s h history
  | write f k ih => exact ih h history
  | call c k ih =>
    obtain ⟨x, later, rfl, hk⟩ := h
    have hcall : replay other c (⟨c, x⟩ :: (later ++ rest)) = (x, later ++ rest) :=
      replay_cons other c x _
    simp only [Program.run, Config.answer, Config.after, List.cons_append, hcall]
    rw [ih x hk (⟨c, x⟩ :: history)]
    simp

/-- A serial run is the run of its callbacks in an environment that replays it. -/
theorem Serially.replayed {s : S} {history : List (Event Ans)}
    (h : Serially code initial s history) :
    ∃ s₀ ls script, initial s₀ ∧ ∀ rest,
      runAll (replay other) code ls ⟨s₀, script ++ rest, []⟩ = ⟨s, rest, history⟩ := by
  induction h with
  | @initial s h => exact ⟨s, [], [], h, fun rest => rfl⟩
  | @step l s s' history events r h hl ih =>
    obtain ⟨s₀, ls, script, hs₀, hrun⟩ := ih
    refine ⟨s₀, ls ++ [l], script ++ events, hs₀, fun rest => ?_⟩
    have hbefore := hrun (events ++ rest)
    rw [runAll] at hbefore
    rw [runAll, List.foldl_append, List.append_assoc, hbefore]
    simp [hl.run other rest history]

end Interaction
