import LitearmDriver.Bench
import LitearmDriver.Steps

/-!
# The cached frame and the session it belongs to

The node keeps the last frame it was handed, for its reports. The frame is meant to be one of
the current session: a configuration and a cleanup drop it, and a reconnect, which opens a
session too, does not.
-/

namespace LitearmDriver

open Interaction Program

variable {σ : Type} {env : Environment σ} {g : World σ}

/-! ### The frames of the current session -/

/-- A frame with its arrival time. -/
abbrev StampedFrame := RobotState × Double

/-- The frame an event handed out: the one the SDK holds, or one it was asked for. -/
def frameOf : Event Call.Answer → Option StampedFrame
  | ⟨.query .getState, .ok ⟨some state, stamp⟩⟩ => some (state, stamp)
  | ⟨.command (.getStatusNow _), .ok ⟨state, stamp⟩⟩ => some (state, stamp)
  | _ => none

/-- The event opened a session. -/
def opensSession : Event Call.Answer → Bool
  | ⟨.command .connect, .ok _⟩   => true
  | ⟨.command .reconnect, .ok _⟩ => true
  | _                            => false

/-- The frames handed out since the session was opened, from the events, most recent first. -/
def framesOf : List (Event Call.Answer) → List StampedFrame
  | []          => []
  | e :: events => if opensSession e then [] else (frameOf e).toList ++ framesOf events

/-- The cache holds a frame handed out since the session was opened, or nothing. -/
structure FrameCurrent (events : List (Event Call.Answer)) (node : Node) : Prop where
  held : node.haveState = true → (node.lastState, node.lastStateStamp) ∈ framesOf events
  empty : node.haveState = false → node.lastStateStamp = 0

/-- What opens no session loses no frame. -/
lemma mem_framesOf_append {new old : List (Event Call.Answer)} {f : StampedFrame}
    (h : f ∈ framesOf old) (hnew : ∀ e ∈ new, opensSession e = false) :
    f ∈ framesOf (new ++ old) := by
  induction new with
  | nil => exact h
  | cons e new ih =>
    rw [List.cons_append, framesOf, hnew e List.mem_cons_self]
    exact List.mem_append_right _ (ih fun e he => hnew e (List.mem_cons_of_mem _ he))

/-- The cache stays current while it is left alone and no session is opened. -/
lemma FrameCurrent.append {new old : List (Event Call.Answer)} {node node' : Node}
    (h : FrameCurrent old node) (hnew : ∀ e ∈ new, opensSession e = false)
    (hframe : node'.lastState = node.lastState ∧ node'.haveState = node.haveState ∧
      node'.lastStateStamp = node.lastStateStamp) : FrameCurrent (new ++ old) node' := by
  obtain ⟨hstate, hhave, hstamp⟩ := hframe
  constructor
  · intro hheld
    rw [hstate, hstamp]
    exact mem_framesOf_append (h.held (hhave.symm.trans hheld)) hnew
  · intro hnone
    rw [hstamp]
    exact h.empty (hhave.symm.trans hnone)

lemma FrameCurrent.of_empty {events : List (Event Call.Answer)} {node : Node}
    (hnone : node.haveState = false) (hstamp : node.lastStateStamp = 0) :
    FrameCurrent events node :=
  ⟨fun hheld => (nomatch hnone.symm.trans hheld), fun _ => hstamp⟩

/-! ### One callback -/

/-- A command that is answered with a frame leaves that frame in the cache. -/
lemma Command.effect_frame (c : Command) (x : Except String c.Answer) (node : Node) :
    (∃ state stamp, frameOf ⟨.command c, x⟩ = some (state, stamp) ∧
      c.effect x node = node.holdFrame state stamp) ∨
    (c.effect x node).lastState = node.lastState ∧
      (c.effect x node).haveState = node.haveState ∧
      (c.effect x node).lastStateStamp = node.lastStateStamp := by
  cases x with
  | ok a =>
    cases c with
    | getStatusNow timeout => exact .inl ⟨a.value, a.timestamp, rfl, rfl⟩
    | _ => exact .inr ⟨rfl, rfl, rfl⟩
  | error what => exact .inr (by simp [c.effect_error])

/-- The frame in the cache with its stamp. -/
def Node.stamped (node : Node) : Option StampedFrame :=
  node.cached.map fun state => (state, node.lastStateStamp)

lemma FrameCurrent.stamped {events : List (Event Call.Answer)} {node : Node}
    (h : FrameCurrent events node) :
    (∀ x, node.stamped = some x → x ∈ framesOf events) ∧
      node.stamped.map Prod.fst = node.cached ∧
      (node.stamped.map Prod.snd).getD 0 = node.lastStateStamp := by
  cases hheld : node.haveState with
  | true =>
    have hmem := h.held hheld
    simpa [Node.stamped, Node.cached, hheld] using hmem
  | false =>
    have hstamp := h.empty hheld
    simp [Node.stamped, Node.cached, hheld, hstamp]

end LitearmDriver
