import LitearmDriver.Interaction.Serial

/-!
# A group that does not see the others

When the code of one group of a pool is blind to what the other groups write, the others might
as well not be there: what the group does is what its callbacks do one after another, alone,
with the same calls and the same answers, whatever runs beside them.
-/

namespace Interaction

variable {G L S C ε α : Type} {Ans : C → Type} {m : S → S}

/-! ### Steps from states that look alike -/

/-- The write is hidden by `m`. -/
def Hides (m : S → S) (f : S → S) : Prop := ∀ s, m (f s) = m s

namespace Program

/-- Code that is blind moves alike from states that look alike. -/
lemma Moves.alike {P : C → Prop} {p p' : Program S C Ans ε α} {s s' s₀ : S}
    {new : List (Event Ans)} (h : p.Moves s new p' s') (hp : p.Blind m P (Respects m))
    (hs : m s₀ = m s) : ∃ s₁, p.Moves s₀ new p' s₁ ∧ m s₁ = m s' := by
  cases h with
  | read k =>
    have hk : k s = k s₀ := by rw [hp.1 s, ← hs, ← hp.1 s₀]
    rw [hk]
    exact ⟨s₀, .read k s₀, hs⟩
  | write f k s =>
    refine ⟨f s₀, .write f _ s₀, ?_⟩
    rw [hp.1 s₀, hs, ← hp.1 s]
  | wait c k s => exact ⟨s₀, .wait c k s₀, hs⟩
  | answer x k s => exact ⟨s₀, .answer x k s₀, hs⟩

/-- Code whose writes are hidden does not change what is seen. -/
lemma Moves.hidden {P : C → Prop} {p p' : Program S C Ans ε α} {s s' : S}
    {new : List (Event Ans)} (h : p.Moves s new p' s') (hp : p.Within P (Hides m)) :
    p'.Within P (Hides m) ∧ m s' = m s ∧ ∀ e ∈ new, P e.1 := by
  cases h with
  | read k s => exact ⟨hp s, rfl, by simp⟩
  | write f k s => exact ⟨hp.2, hp.1 s, by simp⟩
  | wait c k s => exact ⟨hp, rfl, by simp⟩
  | answer x k s => exact ⟨hp.2 x, rfl, by simpa using hp.1⟩

end Program

/-! ### Who made the calls -/

/-- The calls that group `g` made. -/
def madeBy [DecidableEq G] (g : G) : List (G × Event Ans) → List (Event Ans)
  | []       => []
  | d :: log => if d.1 = g then d.2 :: madeBy g log else madeBy g log

section

variable [DecidableEq G] {g : G}

lemma madeBy_append (new log : List (G × Event Ans)) :
    madeBy g (new ++ log) = madeBy g new ++ madeBy g log := by
  induction new with
  | nil => rfl
  | cons d new ih =>
    simp only [List.cons_append, madeBy, ih]
    split <;> rfl

/-- Calls made by the group itself. -/
lemma madeBy_self (events : List (Event Ans)) : madeBy g (events.map fun e => (g, e)) = events := by
  induction events with
  | nil => rfl
  | cons e events ih => simp [madeBy, ih]

/-- Calls made by another group. -/
lemma madeBy_of_ne {g' : G} (h : g' ≠ g) (events : List (Event Ans)) :
    madeBy g (events.map fun e => (g', e)) = [] := by
  induction events with
  | nil => rfl
  | cons e events ih => simp [madeBy, ih, h]

/-- What the other groups do not do, the group alone has done. -/
lemma countP_madeBy {q : Event Ans → Bool} {log : List (G × Event Ans)}
    (h : ∀ d ∈ log, d.1 ≠ g → q d.2 = false) :
    (madeBy g log).countP q = (log.map Prod.snd).countP q := by
  induction log with
  | nil => rfl
  | cons d log ih =>
    obtain ⟨hd, hlog⟩ := List.forall_mem_cons.mp h
    by_cases hg : d.1 = g
    · simp [madeBy, hg, List.countP_cons, ih hlog]
    · simp [madeBy, hg, ih hlog, hd hg]

end

/-! ### The group alone -/

/-- A serial run of the group's own callbacks has made these calls and led to `s`, or will when
the callback that is under way ends; and that one sees no more than `m` leaves. -/
def Activity.Alone {K : Type} (own : K → Program S C Ans ε Unit) (initial : S → Prop)
    (m : S → S) (a : Activity L S C Ans ε) (s : S) (history : List (Event Ans)) : Prop :=
  match a.rest with
  | none        => Serially own initial s history
  | some (_, p) => p.Blind m (fun _ => True) (Respects m) ∧ p.Completes own initial s history

namespace Pool

variable [DecidableEq G] (group : L → G) (code : L → Program S C Ans ε Unit)
  (admitted : L → Pool G L S C Ans ε → Prop)

/-- The pools that can be reached, with the calls that were answered on the way and the groups
that made them, most recent first. -/
inductive Attributed (initial : S → Prop) :
    Pool G L S C Ans ε → List (G × Event Ans) → Prop where
  | quiescent {s : S} (h : initial s) : Attributed initial (.quiescent s) []
  | silent {w w' : Pool G L S C Ans ε} {log : List (G × Event Ans)}
      (h : Attributed initial w log) (hstep : Step group code admitted w w')
      (hsilent : ∀ g c, (w.activity g).waiting = some c → w'.activity g = w.activity g) :
    Attributed initial w' log
  | answer {w : Pool G L S C Ans ε} {log : List (G × Event Ans)} {g : G} {t : Task L S} {c : C}
      {k : Ans c → Program S C Ans ε Unit} (h : Attributed initial w log) (x : Ans c)
      (hinside : w.activity g = .inside t c k) :
    Attributed initial (w.turn g (.running t (k x))) ((g, ⟨c, x⟩) :: log)

variable {group code admitted} {initial : S → Prop} {w : Pool G L S C Ans ε}

/-- Every record can be attributed. -/
lemma Recorded.attributed {history : List (Event Ans)}
    (h : Recorded group code admitted initial w history) :
    ∃ log, Attributed group code admitted initial w log ∧ log.map Prod.snd = history := by
  induction h with
  | quiescent hs => exact ⟨[], .quiescent hs, rfl⟩
  | silent h hstep hsilent ih =>
    obtain ⟨log, hlog, rfl⟩ := ih
    exact ⟨log, hlog.silent hstep hsilent, rfl⟩
  | answer h x hinside ih =>
    obtain ⟨log, hlog, rfl⟩ := ih
    exact ⟨_, hlog.answer x hinside, rfl⟩

/-- Group `g` sees what `m` leaves of the state, and the other groups write what `m` hides,
with calls in `P`. -/
structure Autonomous (group : L → G) (code : L → Program S C Ans ε Unit) (g : G) (m : S → S)
    (P : C → Prop) : Prop where
  own : ∀ l, group l = g → (code l).Blind m (fun _ => True) (Respects m)
  others : ∀ l, group l ≠ g → (code l).Within P (Hides m)

/-- The callbacks of group `g`, and no others. -/
abbrev ownCode (group : L → G) (code : L → Program S C Ans ε Unit) (g : G) :
    {l // group l = g} → Program S C Ans ε Unit := fun l => code l

/-- The group is alone in a state that looks like the shared one, and what the others have to do
is hidden. -/
structure Parted (group : L → G) (code : L → Program S C Ans ε Unit) (g : G) (m : S → S)
    (P : C → Prop) (initial : S → Prop) (w : Pool G L S C Ans ε) (log : List (G × Event Ans)) :
    Prop where
  alone : ∃ s, m s = m w.shared ∧
    (w.activity g).Alone (ownCode group code g) initial m s (madeBy g log)
  hidden : ∀ g', g' ≠ g → ∀ t p, (w.activity g').rest = some (t, p) → p.Within P (Hides m)
  calls : ∀ d ∈ log, d.1 ≠ g → P d.2.1

variable {g : G} {P : C → Prop} {log : List (G × Event Ans)}

/-- A step of any group. -/
lemma Parted.move (h : Parted group code g m P initial w log) {g₁ : G} {t : Task L S}
    {p p' : Program S C Ans ε Unit} {s' : S} {new : List (Event Ans)}
    {a : Activity L S C Ans ε} (hrest : (w.activity g₁).rest = some (t, p))
    (hmove : p.Moves w.shared new p' s') (ha : a.rest = some (t, p')) :
    Parted group code g m P initial (w.resume g₁ a s')
      (new.reverse.map (fun e => (g₁, e)) ++ log) := by
  obtain ⟨s, hs, halone⟩ := h.alone
  by_cases hg : g₁ = g
  · -- The group itself moves, and its serial run with it.
    subst hg
    rw [Activity.Alone, hrest] at halone
    obtain ⟨hblind, hcompletes⟩ := halone
    obtain ⟨s₁, hmove₁, hs₁⟩ := hmove.alike hblind hs
    refine ⟨⟨s₁, hs₁, ?_⟩, fun g' hg' t' q hq => ?_, fun d hd hd' => ?_⟩
    · rw [resume_activity_self, Activity.Alone, ha, madeBy_append, madeBy_self]
      exact ⟨hmove.blind hblind.glances, hmove₁.completes hcompletes⟩
    · rw [resume_activity_of_ne hg'] at hq
      exact h.hidden g' hg' t' q hq
    · rcases List.mem_append.mp hd with hnew | hold
      · obtain ⟨e, -, rfl⟩ := List.mem_map.mp hnew
        exact absurd rfl hd'
      · exact h.calls d hold hd'
  · -- Another group moves, and the serial run stays where it is.
    obtain ⟨hwithin, hview, hcalls⟩ := hmove.hidden (h.hidden g₁ hg t p hrest)
    refine ⟨⟨s, hs.trans hview.symm, ?_⟩, fun g' hg' t' q hq => ?_, fun d hd hd' => ?_⟩
    · rwa [resume_activity_of_ne (Ne.symm hg), madeBy_append, madeBy_of_ne hg, List.nil_append]
    · by_cases hgg : g' = g₁
      · subst hgg
        rw [resume_activity_self, ha] at hq
        cases hq
        exact hwithin
      · rw [resume_activity_of_ne hgg] at hq
        exact h.hidden g' hg' t' q hq
    · rcases List.mem_append.mp hd with hnew | hold
      · obtain ⟨e, he, rfl⟩ := List.mem_map.mp hnew
        exact hcalls e (List.mem_reverse.mp he)
      · exact h.calls d hold hd'

/-- A callback that begins. -/
lemma Parted.begin (hauto : Autonomous group code g m P)
    (h : Parted group code g m P initial w log) {l : L} (hidle : w.activity (group l) = .idle) :
    Parted group code g m P initial
      (w.resume (group l) (.running ⟨l, w.shared⟩ (code l)) w.shared) log := by
  obtain ⟨s, hs, halone⟩ := h.alone
  refine ⟨⟨s, hs, ?_⟩, fun g' hg' t p hp => ?_, h.calls⟩
  · by_cases hg : group l = g
    · subst hg
      rw [Activity.Alone, hidle] at halone
      rw [resume_activity_self]
      exact ⟨hauto.own l rfl, halone.completes ⟨l, rfl⟩⟩
    · rwa [resume_activity_of_ne (Ne.symm hg)]
  · by_cases hgg : g' = group l
    · subst hgg
      rw [resume_activity_self] at hp
      cases hp
      exact hauto.others l hg'
    · rw [resume_activity_of_ne hgg] at hp
      exact h.hidden g' hg' t p hp

/-- A callback that ends. -/
lemma Parted.leave (h : Parted group code g m P initial w log) {g₁ : G} {t : Task L S}
    {p : Program S C Ans ε Unit} {r : Except ε Unit}
    (hrest : (w.activity g₁).rest = some (t, p)) (hend : ∀ s, p.Executes s [] r s) :
    Parted group code g m P initial (w.resume g₁ .idle w.shared) log := by
  obtain ⟨s, hs, halone⟩ := h.alone
  refine ⟨⟨s, hs, ?_⟩, fun g' hg' t' q hq => ?_, h.calls⟩
  · by_cases hg : g₁ = g
    · subst hg
      rw [Activity.Alone, hrest] at halone
      rw [resume_activity_self]
      exact halone.2 [] r s (hend s)
    · rwa [resume_activity_of_ne (Ne.symm hg)]
  · by_cases hgg : g' = g₁
    · subst hgg
      rw [resume_activity_self] at hq
      cases hq
    · rw [resume_activity_of_ne hgg] at hq
      exact h.hidden g' hg' t' q hq

/-- Whatever order the groups move in, the group that does not see the others is alone. -/
theorem Attributed.parted (hauto : Autonomous group code g m P)
    (h : Attributed group code admitted initial w log) :
    Parted group code g m P initial w log := by
  induction h with
  | @quiescent s hs => exact ⟨⟨s, rfl, .initial hs⟩, nofun, by simp⟩
  | @silent w w' log h hstep hsilent ih =>
    cases hstep with
    | begin l hidle hl => exact ih.begin hauto hidle
    | read hrun => exact ih.move (congrArg Activity.rest hrun) (.read _ _) rfl
    | write hrun => exact ih.move (congrArg Activity.rest hrun) (.write _ _ _) rfl
    | call hrun => exact ih.move (congrArg Activity.rest hrun) (.wait _ _ _) rfl
    | @answer g t c k x hinside =>
      have hsame := hsilent g c (by rw [hinside]; rfl)
      rw [turn_activity_self, hinside] at hsame
      cases hsame
    | finish hrun => exact ih.leave (congrArg Activity.rest hrun) fun _ => ⟨rfl, rfl, rfl⟩
    | fail hrun => exact ih.leave (congrArg Activity.rest hrun) fun _ => ⟨rfl, rfl, rfl⟩
  | answer h x hinside ih => exact ih.move (congrArg Activity.rest hinside) (.answer x _ _) rfl

/-- When the group is idle, its callbacks one after another have made its calls and brought the
state to what it looks like. -/
theorem Attributed.serially (hauto : Autonomous group code g m P)
    (h : Attributed group code admitted initial w log) (hidle : w.activity g = .idle) :
    ∃ s, m s = m w.shared ∧ Serially (ownCode group code g) initial s (madeBy g log) := by
  obtain ⟨s, hs, halone⟩ := (h.parted hauto).alone
  rw [Activity.Alone, hidle] at halone
  exact ⟨s, hs, halone⟩

/-- At any moment, the calls the group has made are how its callbacks one after another
begin. -/
theorem Attributed.begins (hauto : Autonomous group code g m P)
    (h : Attributed group code admitted initial w log) (answer : ∀ c, Ans c) :
    ∃ s later, Serially (ownCode group code g) initial s (later ++ madeBy g log) := by
  obtain ⟨s, -, halone⟩ := (h.parted hauto).alone
  rw [Activity.Alone] at halone
  cases hrest : (w.activity g).rest with
  | none =>
    rw [hrest] at halone
    exact ⟨s, [], halone⟩
  | some tp =>
    rw [hrest] at halone
    obtain ⟨events, hexecutes, -⟩ := tp.2.run_executes (σ := Unit)
      (fun c u => (answer c, u)) ⟨s, (), []⟩
    exact ⟨_, events.reverse, halone.2 events _ _ hexecutes⟩

end Pool

end Interaction
