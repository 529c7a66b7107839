import LitearmDriver.Interaction.RelyGuarantee

/-!
# Protocols on calls

A protocol says which calls may follow which: a state machine over the calls and their answers
that has no move where a call is out of order. `p.Follows next Q s m` is judged on the code
alone, whatever its calls are answered; what the code of every callback follows, the history
of every run obeys.
-/

namespace Interaction

variable {S C M M' : Type} {Ans : C → Type} {ε α β σ : Type}

/-- The state of a protocol after an event; none where the event is out of order. -/
abbrev Protocol (M : Type) {C : Type} (Ans : C → Type) := M → Event Ans → Option M

namespace Protocol

variable (next : Protocol M Ans)

/-- The state after events, most recent first; none when one of them was out of order. -/
def after (m : M) : List (Event Ans) → Option M
  | []          => some m
  | e :: events => (after m events).bind fun m' => next m' e

lemma after_append (m : M) (new old : List (Event Ans)) :
    next.after m (new ++ old) = (next.after m old).bind fun m' => next.after m' new := by
  induction new with
  | nil => simp [after]
  | cons e new ih => simp only [List.cons_append, after, ih, Option.bind_assoc]

variable {next} {m m₂ : M}

/-- Each event of an obedient history was in order where it happened. -/
lemma after_split {later earlier : List (Event Ans)} {e : Event Ans}
    (h : next.after m (later ++ e :: earlier) = some m₂) :
    ∃ m₀ m₁, next.after m earlier = some m₀ ∧ next m₀ e = some m₁ ∧
      next.after m₁ later = some m₂ := by
  rw [after_append, Option.bind_eq_some_iff] at h
  obtain ⟨m₁, hearlier, hlater⟩ := h
  obtain ⟨m₀, hm₀, hm₁⟩ := Option.bind_eq_some_iff.mp hearlier
  exact ⟨m₀, m₁, hm₀, hm₁, hlater⟩

/-- Two protocols obeyed at once. -/
def prod (next : Protocol M Ans) (next' : Protocol M' Ans) : Protocol (M × M') Ans :=
  fun m e => (next m.1 e).bind fun a => (next' m.2 e).map fun b => (a, b)

lemma prod_eq_some {next' : Protocol M' Ans} {m n : M × M'} {e : Event Ans} :
    next.prod next' m e = some n ↔ next m.1 e = some n.1 ∧ next' m.2 e = some n.2 := by
  obtain ⟨a, b⟩ := n
  simp only [prod, Option.bind_eq_some_iff, Option.map_eq_some_iff, Prod.mk.injEq]
  constructor
  · rintro ⟨_, ha, _, hb, rfl, rfl⟩
    exact ⟨ha, hb⟩
  · rintro ⟨ha, hb⟩
    exact ⟨a, ha, b, hb, rfl, rfl⟩

/-- A history obeys both protocols exactly when it obeys each. -/
lemma prod_after {next' : Protocol M' Ans} {m n : M × M'} {events : List (Event Ans)} :
    (next.prod next').after m events = some n ↔
      next.after m.1 events = some n.1 ∧ next'.after m.2 events = some n.2 := by
  induction events generalizing n with
  | nil => simp [after, Prod.ext_iff]
  | cons e events ih =>
    simp only [after, Option.bind_eq_some_iff]
    constructor
    · rintro ⟨k, hk, hnext⟩
      obtain ⟨hk₁, hk₂⟩ := ih.mp hk
      obtain ⟨hnext₁, hnext₂⟩ := prod_eq_some.mp hnext
      exact ⟨⟨k.1, hk₁, hnext₁⟩, k.2, hk₂, hnext₂⟩
    · rintro ⟨⟨a, ha, hnext₁⟩, b, hb, hnext₂⟩
      exact ⟨(a, b), ih.mpr ⟨ha, hb⟩, prod_eq_some.mpr ⟨hnext₁, hnext₂⟩⟩

end Protocol

namespace Program

/-- Whatever its calls are answered they are in order from `m` on, and `Q` holds of the
result, the shared state and the protocol at the end. -/
def Follows (next : Protocol M Ans) (Q : Except ε α → S → M → Prop) :
    Program S C Ans ε α → S → M → Prop
  | .pure a, s, m    => Q (.ok a) s m
  | .throw e, s, m   => Q (.error e) s m
  | .read k, s, m    => (k s).Follows next Q s m
  | .write f k, s, m => k.Follows next Q (f s) m
  | .call c k, s, m  => ∀ x, ∃ m', next m ⟨c, x⟩ = some m' ∧ (k x).Follows next Q s m'

variable {next : Protocol M Ans} {next' : Protocol M' Ans} {s : S} {m : M}

/-! ### Rules -/

lemma Follows.mono {p : Program S C Ans ε α} {Q Q' : Except ε α → S → M → Prop}
    (h : p.Follows next Q s m) (hQ : ∀ r s m, Q r s m → Q' r s m) : p.Follows next Q' s m := by
  induction p generalizing s m with
  | pure a => exact hQ _ _ _ h
  | throw e => exact hQ _ _ _ h
  | read k ih => exact ih s h
  | write f k ih => exact ih h
  | call c k ih =>
    intro x
    obtain ⟨m', hm', hk⟩ := h x
    exact ⟨m', hm', ih x hk⟩

lemma Follows.bind {p : Program S C Ans ε α} {f : α → Program S C Ans ε β}
    {Q : Except ε α → S → M → Prop} {R : Except ε β → S → M → Prop} (h : p.Follows next Q s m)
    (hok : ∀ a s m, Q (.ok a) s m → (f a).Follows next R s m)
    (herror : ∀ e s m, Q (.error e) s m → R (.error e) s m) : (p >>= f).Follows next R s m := by
  induction p generalizing s m with
  | pure a => exact hok a s m h
  | throw e => exact herror e s m h
  | read k ih => exact ih s h
  | write g k ih => exact ih h
  | call c k ih =>
    intro x
    obtain ⟨m', hm', hk⟩ := h x
    exact ⟨m', hm', ih x hk⟩

lemma Follows.tryCatch {p : Program S C Ans ε α} {h : ε → Program S C Ans ε α}
    {Q R : Except ε α → S → M → Prop} (hp : p.Follows next Q s m)
    (hok : ∀ a s m, Q (.ok a) s m → R (.ok a) s m)
    (herror : ∀ e s m, Q (.error e) s m → (h e).Follows next R s m) :
    (p.tryCatch h).Follows next R s m := by
  induction p generalizing s m with
  | pure a => exact hok a s m hp
  | throw e => exact herror e s m hp
  | read k ih => exact ih s hp
  | write g k ih => exact ih hp
  | call c k ih =>
    intro x
    obtain ⟨m', hm', hk⟩ := hp x
    exact ⟨m', hm', ih x hk⟩

/-- What follows a protocol follows every protocol that simulates it. -/
lemma Follows.simulate (f : M → M')
    (hf : ∀ m e m', next m e = some m' → next' (f m) e = some (f m'))
    {p : Program S C Ans ε α} {Q : Except ε α → S → M → Prop}
    {Q' : Except ε α → S → M' → Prop} (h : p.Follows next Q s m)
    (hQ : ∀ r s m, Q r s m → Q' r s (f m)) : p.Follows next' Q' s (f m) := by
  induction p generalizing s m with
  | pure a => exact hQ _ _ _ h
  | throw e => exact hQ _ _ _ h
  | read k ih => exact ih s h
  | write g k ih => exact ih h
  | call c k ih =>
    intro x
    obtain ⟨m', hm', hk⟩ := h x
    exact ⟨f m', hf _ _ _ hm', ih x hk⟩

/-! ### Runs -/

/-- In every environment the events of a run are in order, and the run ends as judged. -/
theorem Follows.run {p : Program S C Ans ε α} {Q : Except ε α → S → M → Prop}
    (respond : Responder Ans σ) (g : Config S Ans σ) (h : p.Follows next Q g.shared m) :
    ∃ new m', (p.run respond g).2.history = new ++ g.history ∧ next.after m new = some m' ∧
      Q (p.run respond g).1 (p.run respond g).2.shared m' := by
  induction p generalizing g m with
  | pure a => exact ⟨[], m, rfl, rfl, h⟩
  | throw e => exact ⟨[], m, rfl, rfl, h⟩
  | read k ih => exact ih g.shared g h
  | write f k ih => exact ih (g.update f) h
  | call c k ih =>
    obtain ⟨m₁, hm₁, hk⟩ := h (g.answer respond c)
    obtain ⟨new, m', hnew, hm', hQ⟩ := ih _ (g.after respond c) hk
    refine ⟨new ++ [⟨c, g.answer respond c⟩], m', by simp [Program.run, hnew], ?_, hQ⟩
    simpa [Protocol.after_append, Protocol.after, hm₁] using hm'

/-! ### Code that keeps a relation -/

/-- The code follows the protocol from states related by `I` to such states. -/
def Maintains (next : Protocol M Ans) (I : S → M → Prop) (p : Program S C Ans ε α) : Prop :=
  ∀ s m, I s m → p.Follows next (fun _ => I) s m

variable {I : S → M → Prop}

lemma Maintains.bind {p : Program S C Ans ε α} {f : α → Program S C Ans ε β}
    (hp : p.Maintains next I) (hf : ∀ a, (f a).Maintains next I) :
    (p >>= f).Maintains next I :=
  fun s m hs => (hp s m hs).bind (fun a => hf a) fun _ _ _ h => h

lemma Maintains.tryCatch {p : Program S C Ans ε α} {h : ε → Program S C Ans ε α}
    (hp : p.Maintains next I) (hh : ∀ e, (h e).Maintains next I) :
    (p.tryCatch h).Maintains next I :=
  fun s m hs => (hp s m hs).tryCatch (fun _ _ _ h => h) fun e => hh e

/-- What every permitted event and write keeps, code with such calls and writes maintains. -/
lemma Within.maintains {P : C → Prop} {W : (S → S) → Prop} {p : Program S C Ans ε α}
    (h : p.Within P W) (hcall : ∀ c x s m, P c → I s m → ∃ m', next m ⟨c, x⟩ = some m' ∧ I s m')
    (hwrite : ∀ f s m, W f → I s m → I (f s) m) : p.Maintains next I := by
  induction p with
  | pure a => exact fun _ _ hs => hs
  | throw e => exact fun _ _ hs => hs
  | read k ih => exact fun s m hs => ih s (h s) s m hs
  | write f k ih => exact fun s m hs => ih h.2 (f s) m (hwrite f s m h.1 hs)
  | call c k ih =>
    intro s m hs x
    obtain ⟨m', hm', hI⟩ := hcall c x s m h.1 hs
    exact ⟨m', hm', ih x (h.2 x) s m' hI⟩

end Program

end Interaction
