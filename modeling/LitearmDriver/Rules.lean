import LitearmDriver.Interaction.Program
import LitearmDriver.Node

/-!
# Rules for the code of the node

The weakest precondition of every primitive, and the commands a run has sent. A proof about
a handler walks through its code with these rules and never unfolds a primitive.
-/

namespace LitearmDriver

open Interaction Program

variable {σ α Body : Type} {env : Environment σ} {g : World σ}

/-! ### Primitives -/

section Primitives

variable {Q : Except Abort α → World σ → Prop}

@[simp] lemma wp_self {Q : Except Abort Node → World σ → Prop} :
    self.wp env Q g ↔ Q (.ok g.shared) g := Iff.rfl

@[simp] lemma wp_assign {Q : Except Abort Unit → World σ → Prop} (f : Node → Node) :
    (assign f).wp env Q g ↔ Q (.ok ()) (g.update f) := Iff.rfl

@[simp] lemma wp_ask (c : Call) {Q : Except Abort c.Answer → World σ → Prop} :
    (ask c).wp env Q g ↔ Q (.ok (g.answer env c)) (g.after env c) := Iff.rfl

@[simp] lemma wp_query (q : Query) {Q : Except Abort q.Answer → World σ → Prop} :
    (query q).wp env Q g ↔ Q (.ok (g.answer env (.query q))) (g.after env (.query q)) := Iff.rfl

@[simp] lemma wp_orThrow_ok (a : α) : (orThrow (.ok a)).wp env Q g ↔ Q (.ok a) g := Iff.rfl

@[simp] lemma wp_orThrow_error (what : String) :
    (orThrow (.error what) : Code α).wp env Q g ↔ Q (.error (.exception what)) g := Iff.rfl

lemma wp_command (c : Command) {Q : Except Abort c.Answer → World σ → Prop} :
    (command c).wp env Q g ↔
      (orThrow (g.answer env (.command c))).wp env Q (g.after env (.command c)) := Iff.rfl

/-- A session is used without harm exactly when there is one. -/
@[simp] lemma wp_derefArm {Q : Except Abort Unit → World σ → Prop} :
    derefArm.wp env Q g ↔
      if g.shared.arm.isNone then Q (.error .undefined) g else Q (.ok ()) g := by
  simp only [derefArm, wp_bind, wp_self]
  split <;> rfl

lemma wp_armQuery (h : g.shared.arm.isSome = true) (q : Query)
    {Q : Except Abort q.Answer → World σ → Prop} :
    (armQuery q).wp env Q g ↔ (query q).wp env Q g := by
  have hn : g.shared.arm.isNone = false := by simpa using h
  simp only [armQuery, wp_bind, wp_derefArm, hn, Bool.false_eq_true, if_false]

lemma wp_armCommand (h : g.shared.arm.isSome = true) (c : Command)
    {Q : Except Abort c.Answer → World σ → Prop} :
    (armCommand c).wp env Q g ↔ (command c).wp env Q g := by
  have hn : g.shared.arm.isNone = false := by simpa using h
  simp only [armCommand, wp_bind, wp_derefArm, hn, Bool.false_eq_true, if_false]

lemma wp_catching (p : Code α) (handler : String → Code α) :
    (catching p handler).wp env Q g ↔
      p.wp env (fun r g' => match r with
        | .ok a => Q (.ok a) g'
        | .error (.exception what) => (handler what).wp env Q g'
        | .error .undefined => Q (.error .undefined) g') g := by
  rw [catching, wp_tryCatch]
  simp only [wp]
  rcases p.run env g with ⟨(_ | _) | _, g'⟩ <;> rfl

end Primitives

/-! ### Helpers of the handlers -/

/-- The SDK is reachable at this moment. -/
def LinkUp (env : Environment σ) (g : World σ) : Prop :=
  g.shared.arm.isSome = true ∧ g.answer env (.query .isConnected) = true

/-- `connected` asks only a session that exists. -/
lemma wp_connected {Q : Except Abort Bool → World σ → Prop} :
    connected.wp env Q g ↔
      if g.shared.arm.isNone then Q (.ok false) g
      else Q (.ok (g.answer env (.query .isConnected))) (g.after env (.query .isConnected)) := by
  simp only [connected, wp_bind, wp_self]
  split <;> rfl

/-- A look at the link ends with an answer, and with the state as it was or after the query. -/
lemma connected_looks {Q : Except Abort Bool → World σ → Prop}
    (h : ∀ link g', g' = g ∨ g' = g.after env (.query .isConnected) → Q (.ok link) g') :
    connected.wp env Q g := by
  rw [wp_connected]
  split
  · exact h _ _ (.inl rfl)
  · exact h _ _ (.inr rfl)

lemma wp_refuseUnless (gate : GateResult) (response : Reply Body) (rest : Code (Reply Body))
    {Q : Except Abort (Reply Body) → World σ → Prop} :
    (refuseUnless gate response rest).wp env Q g ↔
      if gate.ok then rest.wp env Q g else Q (.ok (response.fillFailure gate)) g := by
  rw [refuseUnless]
  split <;> rfl

/-! ### Commands sent -/

/-- A command together with how it ended. -/
abbrev Sent := Σ c : Command, Except String c.Answer

/-- The commands among events. -/
def commandsOf : List (Event Call.Answer) → List Sent
  | []                       => []
  | ⟨.command c, x⟩ :: events => ⟨c, x⟩ :: commandsOf events
  | _ :: events              => commandsOf events

lemma commandsOf_append (new old : List (Event Call.Answer)) :
    commandsOf (new ++ old) = commandsOf new ++ commandsOf old := by
  induction new with
  | nil => rfl
  | cons e new ih =>
    obtain ⟨c, x⟩ := e
    cases c <;> simp [commandsOf, ih]

lemma mem_commandsOf {events : List (Event Call.Answer)} {c : Command}
    {x : Except String c.Answer} : ⟨c, x⟩ ∈ commandsOf events ↔ ⟨.command c, x⟩ ∈ events := by
  constructor
  · intro h
    induction events with
    | nil => simp [commandsOf] at h
    | cons e events ih =>
      obtain ⟨c', x'⟩ := e
      cases c' with
      | command c' =>
        rcases List.mem_cons.mp h with h | h
        · cases h
          exact List.mem_cons_self
        · exact List.mem_cons_of_mem _ (ih h)
      | _ => exact List.mem_cons_of_mem _ (ih h)
  · intro h
    obtain ⟨new, old, rfl⟩ := List.append_of_mem h
    rw [commandsOf_append]
    exact List.mem_append_right _ List.mem_cons_self

/-- The commands sent so far, most recent first. -/
def sent (g : World σ) : List Sent := commandsOf g.history

lemma sent_command (env : Environment σ) (c : Command) (g : World σ) :
    sent (g.after env (.command c)) = [⟨c, g.answer env (.command c)⟩] ++ sent g := rfl

/-! ### What happened between two moments -/

/-- Calls a service handler makes: to the SDK, the clocks and the file system. -/
def Call.isLocal : Call → Bool
  | .query _             => true
  | .command _           => true
  | .steadyNow           => true
  | .now                 => true
  | .getenvHome          => true
  | .createDirectories _ => true
  | _                    => false

/-- The commands `cs` were sent, most recent first, and no entity was touched. -/
def Log (cs : List Sent) (g g' : World σ) : Prop :=
  ∃ new, g'.history = new ++ g.history ∧ commandsOf new = cs ∧ ∀ e ∈ new, e.1.isLocal = true

lemma Log.refl (g : World σ) : Log [] g g := ⟨[], rfl, rfl, by simp⟩

lemma Log.trans {cs cs' : List Sent} {g₁ g₂ g₃ : World σ} (h' : Log cs' g₂ g₃)
    (h : Log cs g₁ g₂) : Log (cs' ++ cs) g₁ g₃ := by
  obtain ⟨new, hnew, hcs, hall⟩ := h
  obtain ⟨new', hnew', hcs', hall'⟩ := h'
  refine ⟨new' ++ new, by rw [hnew', hnew, List.append_assoc], ?_, ?_⟩
  · rw [commandsOf_append, hcs, hcs']
  · intro e he
    rcases List.mem_append.mp he with he | he
    · exact hall' e he
    · exact hall e he

lemma Log.command (c : Command) (g : World σ) :
    Log [⟨c, g.answer env (.command c)⟩] g (g.after env (.command c)) :=
  ⟨[_], rfl, rfl, by simp [Call.isLocal]⟩

lemma Log.query (q : Query) (g : World σ) : Log [] g (g.after env (.query q)) :=
  ⟨[_], rfl, rfl, by simp [Call.isLocal]⟩

lemma Log.createDirectories (path : String) (g : World σ) :
    Log [] g (g.after env (.createDirectories path)) :=
  ⟨[_], rfl, rfl, by simp [Call.isLocal]⟩

lemma Log.sent {cs : List Sent} {g g' : World σ} (h : Log cs g g') : sent g' = cs ++ sent g := by
  obtain ⟨new, hnew, hcs, -⟩ := h
  rw [LitearmDriver.sent, LitearmDriver.sent, hnew, commandsOf_append, hcs]

/-- The commands among the events between the two moments. -/
lemma Log.commandsOf_new {cs : List Sent} {g g' : World σ} {new : List (Event Call.Answer)}
    (h : Log cs g g') (hnew : g'.history = new ++ g.history) : commandsOf new = cs := by
  obtain ⟨new', hnew', hcs, -⟩ := h
  obtain rfl : new' = new := List.append_cancel_right (hnew'.symm.trans hnew)
  exact hcs

/-- The events after a moment in between, and those before it. -/
lemma events_split {old middle last new earlier later : List (Event Call.Answer)}
    (hnew : last = new ++ old) (hearlier : middle = earlier ++ old)
    (hlater : last = later ++ middle) : new = later ++ earlier := by
  rw [hearlier, ← List.append_assoc] at hlater
  exact List.append_cancel_right (hnew.symm.trans hlater)

/-- The events after a moment in between are among those since the first. -/
lemma mem_of_later {old middle last new later : List (Event Call.Answer)}
    (hnew : last = new ++ old) (hmiddle : old <:+ middle) (hlater : last = later ++ middle) :
    ∀ e ∈ later, e ∈ new := by
  intro e he
  obtain ⟨earlier, hearlier⟩ := hmiddle
  rw [events_split hnew hearlier.symm hlater]
  exact List.mem_append_left _ he

/-! ### Quiet code -/

/-- Calls that read the host: the clocks, and every accessor but the one that hands out a
frame. -/
def Call.isQuiet : Call → Bool
  | .query .getState => false
  | .query _         => true
  | .steadyNow       => true
  | .now             => true
  | .getenvHome      => true
  | _                => false

/-- Nothing but quiet calls happened between two moments. -/
structure Quiet (g g' : World σ) : Prop where
  shared : g'.shared = g.shared
  history : ∃ new, g'.history = new ++ g.history ∧ ∀ e ∈ new, e.1.isQuiet = true

lemma Quiet.refl (g : World σ) : Quiet g g := ⟨rfl, [], rfl, by simp⟩

lemma Quiet.trans {g₁ g₂ g₃ : World σ} (h : Quiet g₁ g₂) (h' : Quiet g₂ g₃) : Quiet g₁ g₃ := by
  obtain ⟨hs, new, hn, hall⟩ := h
  obtain ⟨hs', new', hn', hall'⟩ := h'
  refine ⟨hs'.trans hs, new' ++ new, by rw [hn', hn, List.append_assoc], ?_⟩
  rintro e he
  rcases List.mem_append.mp he with he | he
  · exact hall' e he
  · exact hall e he

lemma Quiet.after {c : Call} (h : c.isQuiet = true) (g : World σ) : Quiet g (g.after env c) :=
  ⟨rfl, [_], rfl, by simpa using h⟩

/-- A quiet call is no command. -/
lemma commandsOf_quiet {new : List (Event Call.Answer)} (h : ∀ e ∈ new, e.1.isQuiet = true) :
    commandsOf new = [] := by
  induction new with
  | nil => rfl
  | cons e new ih =>
    obtain ⟨c, x⟩ := e
    have hc : c.isQuiet = true := h _ List.mem_cons_self
    have hnew := ih fun e he => h e (List.mem_cons_of_mem _ he)
    cases c with
    | command => simp [Call.isQuiet] at hc
    | _ => exact hnew

/-- The one command between events that are quiet. -/
lemma commandsOf_between {later earlier : List (Event Call.Answer)} {c : Command}
    {x : Except String c.Answer} (hlater : ∀ e ∈ later, e.1.isQuiet = true)
    (hearlier : ∀ e ∈ earlier, e.1.isQuiet = true) :
    commandsOf (later ++ ⟨.command c, x⟩ :: earlier) = [⟨c, x⟩] := by
  rw [commandsOf_append, commandsOf_quiet hlater, commandsOf, commandsOf_quiet hearlier]
  rfl

lemma Quiet.log {g g' : World σ} (h : Quiet g g') : Log [] g g' := by
  obtain ⟨-, new, hnew, hall⟩ := h
  refine ⟨new, hnew, commandsOf_quiet hall, fun e he => ?_⟩
  have hquiet := hall e he
  revert hquiet
  cases e.1 with
  | query q => simp [Call.isLocal]
  | _ => simp [Call.isQuiet, Call.isLocal]

lemma quiet_connected {Q : Except Abort Bool → World σ → Prop}
    (h : ∀ link g', Quiet g g' → Q (.ok link) g') : connected.wp env Q g := by
  apply connected_looks
  rintro link g' (rfl | rfl)
  · exact h _ _ (.refl _)
  · exact h _ _ (.after rfl g)

end LitearmDriver
