import LitearmDriver.Interaction.Coupling
import Mathlib.Logic.Function.Basic

/-!
# What a client knows of the outside

The outside moves by the calls made of it and by nothing else, so a history leads it from one
state to the next. A client does not see the history. From the results of the callbacks it may
still know some of the values that the outside keeps under addresses; a rule to learn from one
result that is sound for every callback is sound for a whole run.
-/

namespace Interaction

variable {S C : Type} {Ans : C → Type} {ε α σ : Type}

/-! ### Replaying a history -/

/-- The events, most recent first, lead the outside from one state to another. -/
inductive Replay (respond : Responder Ans σ) : List (Event Ans) → σ → σ → Prop where
  | nil (w : σ) : Replay respond [] w w
  | cons (c : C) {events : List (Event Ans)} {w w' : σ} (h : Replay respond events w w') :
    Replay respond (⟨c, (respond c w').1⟩ :: events) w (respond c w').2

variable {respond : Responder Ans σ} {events earlier later : List (Event Ans)} {w w' w'' : σ}

lemma Replay.append (h' : Replay respond later w' w'') (h : Replay respond earlier w w') :
    Replay respond (later ++ earlier) w w'' := by
  induction h' with
  | nil => exact h
  | cons c _ ih => exact (ih h).cons c

/-- The moment at which an event took place. -/
lemma Replay.split {c : C} {x : Ans c} (h : Replay respond (later ++ ⟨c, x⟩ :: earlier) w w'') :
    ∃ w', Replay respond earlier w w' ∧ (respond c w').1 = x ∧
      Replay respond later (respond c w').2 w'' := by
  induction later generalizing w'' with
  | nil =>
    cases h with
    | cons _ h => exact ⟨_, h, rfl, .nil _⟩
  | cons e later ih =>
    cases h with
    | cons c' h =>
      obtain ⟨w', hearlier, hx, hlater⟩ := ih h
      exact ⟨w', hearlier, hx, hlater.cons c'⟩

/-- What the calls among the events preserve is preserved. -/
lemma Replay.invariant {I : σ → Prop} (h : Replay respond events w w')
    (hI : ∀ e ∈ events, ∀ w, I w → I (respond e.1 w).2) (hw : I w) : I w' := by
  induction h with
  | nil => exact hw
  | cons c _ ih =>
    have hbefore := ih (fun e he => hI e (List.mem_cons_of_mem _ he)) hw
    exact hI _ List.mem_cons_self _ hbefore

/-- A run adds to the history the events that lead the outside to where it is. -/
theorem Program.run_replay (respond : Responder Ans σ) (p : Program S C Ans ε α)
    (g : Config S Ans σ) : ∃ new, (p.run respond g).2.history = new ++ g.history ∧
      Replay respond new g.outside (p.run respond g).2.outside := by
  induction p generalizing g with
  | pure a => exact ⟨[], rfl, .nil _⟩
  | throw e => exact ⟨[], rfl, .nil _⟩
  | read k ih => exact ih g.shared g
  | write f k ih => exact ih (g.update f)
  | call c k ih =>
    obtain ⟨new, hnew, hreplay⟩ := ih (g.answer respond c) (g.after respond c)
    refine ⟨new ++ [⟨c, g.answer respond c⟩], by simp [run, hnew], hreplay.append ?_⟩
    exact (Replay.nil _).cons c

/-- Whatever was added to the history in a run leads the outside to where it is. -/
lemma Program.replay_of_history {p : Program S C Ans ε α} {g : Config S Ans σ}
    {new : List (Event Ans)} (hnew : (p.run respond g).2.history = new ++ g.history) :
    Replay respond new g.outside (p.run respond g).2.outside := by
  obtain ⟨new', hnew', hreplay⟩ := p.run_replay respond g
  obtain rfl : new' = new := List.append_cancel_right (hnew'.symm.trans hnew)
  exact hreplay

/-! ### Values known -/

section Known

variable {A : Type} {V : A → Type}

/-- Under some addresses a value is known, under the others none. -/
abbrev Known (V : A → Type) := (a : A) → Option (V a)

namespace Known

/-- What is known is the case. -/
def Of (known : Known V) (content : (a : A) → V a) : Prop :=
  ∀ a v, known a = some v → content a = v

/-- Nothing is known any more where `p` holds. -/
def forget (known : Known V) (p : A → Bool) : Known V := fun a => if p a then none else known a

/-- One value more is known. -/
def learn [DecidableEq A] (known : Known V) (e : Sigma V) : Known V :=
  Function.update known e.1 (some e.2)

variable {known : Known V} {content content' : (a : A) → V a} {a : A} {v : V a}

lemma Of.nothing : Known.Of (fun _ => none : Known V) content := by
  intro a v h
  cases h

lemma Of.forget (h : known.Of content) {p : A → Bool}
    (hp : ∀ a, p a = false → content' a = content a) : (known.forget p).Of content' := by
  intro a v hv
  rw [Known.forget] at hv
  split at hv
  case isTrue => cases hv
  case isFalse hpa => exact (hp a (by simpa using hpa)).trans (h a v hv)

variable [DecidableEq A]

lemma Of.learn {e : Sigma V} (h : known.Of content) (he : content e.1 = e.2) :
    (known.learn e).Of content := by
  obtain ⟨a, v⟩ := e
  intro b u hu
  by_cases hb : b = a
  · subst hb
    rw [Known.learn, Function.update_self] at hu
    exact he.trans (Option.some.inj hu)
  · rw [Known.learn, Function.update_of_ne hb] at hu
    exact h b u hu

/-- Several values are learnt one after another. -/
lemma Of.learnAll {news : List (Sigma V)} (h : known.Of content)
    (hnews : ∀ e ∈ news, content e.1 = e.2) : (news.foldl Known.learn known).Of content := by
  induction news generalizing known with
  | nil => exact h
  | cons e news ih =>
    exact ih (h.learn (hnews e List.mem_cons_self)) fun e he => hnews e (List.mem_cons_of_mem _ he)

end Known

end Known

/-! ### Learning from results -/

section Following

variable {Cb K : Type} {Result : Cb → Type} (respond : Responder Ans σ)
  (code : (cb : Cb) → Program S C Ans ε (Result cb))

/-- What a client knows after callbacks that ran one after another, if it learns from the result
of each. -/
def follow (learn : (cb : Cb) → Except ε (Result cb) → K → K) : List Cb → Config S Ans σ → K → K
  | [], _, known        => known
  | cb :: cbs, g, known =>
    let out := (code cb).run respond g
    follow learn cbs out.2 (learn cb out.1 known)

variable {respond code}

/-- What every callback keeps of knowledge and configuration, a run keeps. -/
theorem follow_sound {learn : (cb : Cb) → Except ε (Result cb) → K → K}
    {I : K → Config S Ans σ → Prop}
    (hlearn : ∀ cb known g, I known g →
      I (learn cb ((code cb).run respond g).1 known) ((code cb).run respond g).2)
    (cbs : List Cb) {known : K} {g : Config S Ans σ} (h : I known g) :
    I (follow respond code learn cbs g known) (runAll respond code cbs g) := by
  induction cbs generalizing known g with
  | nil => exact h
  | cons cb cbs ih => exact ih (hlearn cb known g h)

end Following

end Interaction
