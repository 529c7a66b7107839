import LitearmDriver.Interaction.Coupling
import LitearmDriver.Lifecycle

/-!
# Runs of the node

What the executor can be asked to run, and the configurations a node can reach from its
construction by running callbacks one after another.
-/

namespace LitearmDriver

open Interaction

/-- A callback of the node. Requests and ticks are not tied to the servers and timers that
exist, so a callback that was already queued when its entity was destroyed is covered. -/
inductive Callback where
  | changeState (t : Transition)
  | service (s : Service) (request : s.Request)
  | statusTimer
  | diagnosticsTimer
  | setParameters (p : Parameters)

/-- What a callback hands back: a response, or nothing. -/
abbrev Callback.Result : Callback → Type
  | .service s _ => s.Response
  | _ => Unit

/-- The code a callback runs; a handler starts from a default-constructed response. -/
def Callback.code : (cb : Callback) → Code cb.Result
  | .changeState t => LitearmDriver.changeState t
  | .service s request => s.handle request default
  | .statusTimer => publishStatus
  | .diagnosticsTimer => publishDiagnostics
  | .setParameters p => assign fun node => { node with parameters := p }

variable {σ : Type} (env : Environment σ)

/-- A node that was just constructed. -/
def World.fresh (name : String) (p : Parameters) (outside : σ) : World σ :=
  ⟨{ name := name, parameters := p }, outside, []⟩

/-- Run one callback to its end. -/
def step (cb : Callback) (g : World σ) : World σ := (cb.code.run env g).2

/-- The configurations that callbacks lead to from a constructed node, when each is admitted
in the configuration it starts from. -/
inductive ReachableWhen (admitted : Callback → World σ → Prop) : World σ → Prop where
  | fresh (name : String) (p : Parameters) (outside : σ) :
    ReachableWhen admitted (.fresh name p outside)
  | step (cb : Callback) {g : World σ} (hcb : admitted cb g) (h : ReachableWhen admitted g) :
    ReachableWhen admitted (step env cb g)

/-- The configurations any callbacks lead to. -/
abbrev Reachable : World σ → Prop := ReachableWhen env fun _ _ => True

variable {env} {admitted : Callback → World σ → Prop} {g : World σ}

/-- What holds of a constructed node and is preserved by every admitted callback holds
throughout. -/
lemma ReachableWhen.invariant {I : World σ → Prop} (h : ReachableWhen env admitted g)
    (hfresh : ∀ name p w, I (.fresh name p w))
    (hstep : ∀ cb g, admitted cb g → I g → I (LitearmDriver.step env cb g)) : I g := by
  induction h with
  | fresh name p w => exact hfresh name p w
  | step cb hcb h ih => exact hstep cb _ hcb ih

/-- Callbacks that run one after another lead from a reachable configuration to another. -/
lemma reachable_runAll (cbs : List Callback) (h : Reachable env g) :
    Reachable env (runAll env Callback.code cbs g) := by
  induction cbs generalizing g with
  | nil => exact h
  | cons cb cbs ih => exact ih (.step cb trivial h)

end LitearmDriver
