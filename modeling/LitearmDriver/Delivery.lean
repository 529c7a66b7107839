import LitearmDriver.CommandSurface

/-!
# What is delivered

A request reaches the node only through a server, and a tick only comes from a timer. So the
node is quiet in every state but the active one: it publishes nothing, and sends nothing but
what its transitions send.
-/

namespace LitearmDriver

open Interaction Program

variable {σ : Type} {env : Environment σ} {g : World σ}

/-- A request needs its server and a tick its timer; the services of the base class are always
there. -/
def Callback.deliverable (node : Node) : Callback → Bool
  | .service s _ => decide (s.name ∈ node.services)
  | .statusTimer => node.statusTimer.isSome
  | .diagnosticsTimer => node.diagnosticsTimer.isSome
  | .changeState _ | .setParameters _ => true

/-- Run a callback if it can be delivered. -/
def Callback.deliver (cb : Callback) : Code (Option cb.Result) := do
  let node ← self
  if cb.deliverable node then do
    let result ← cb.code
    return some result
  else return none

/-- All that the caller of a callback gets to know. -/
def Callback.outcome (cb : Callback) (r : Except Abort (Option cb.Result)) :
    (cb : Callback) × Except Abort (Option cb.Result) := ⟨cb, r⟩

lemma deliver_run (cb : Callback) (g : World σ) : cb.deliver.run env g =
    if cb.deliverable g.shared then ((cb.code.run env g).1.map some, (cb.code.run env g).2)
    else (.ok none, g) := by
  rw [Callback.deliver, run_bind]
  dsimp only [self, run]
  split
  · rw [run_bind]
    rcases cb.code.run env g with ⟨_ | _, g₁⟩ <;> rfl
  · rfl

/-! ### Quiet unless active -/

/-- What is deliverable to a node that is not active comes from the base class. -/
lemma Surface.of_base (h : Surface g.shared) (hstate : g.shared.currentState ≠ .active)
    {cb : Callback} (hcb : cb.deliverable g.shared = true) :
    (∃ t, cb = .changeState t) ∨ ∃ p, cb = .setParameters p := by
  obtain ⟨hservices, hstatus, hdiagnostics⟩ := h.closed hstate
  cases cb with
  | changeState t => exact .inl ⟨t, rfl⟩
  | setParameters p => exact .inr ⟨p, rfl⟩
  | service s request => simp [Callback.deliverable, hservices] at hcb
  | statusTimer => simp [Callback.deliverable, hstatus] at hcb
  | diagnosticsTimer => simp [Callback.deliverable, hdiagnostics] at hcb

/-- A call of a node that is not in service: no publication, and no command but those of a
transition. -/
def Call.Quiet (cb : Callback) : Call → Prop
  | .publish _ => False
  | .command c => ∃ t, cb = .changeState t ∧ t.Sends c
  | _          => True

/-- In every reachable state but the active one, whatever is delivered to the node, it
publishes nothing and sends nothing but the commands of a transition. -/
theorem quiet_unless_active (hcreates : Creates env) (hg : Reachable env g)
    (hstate : g.shared.currentState ≠ .active) (cb : Callback) :
    ∃ new, (cb.deliver.run env g).2.history = new ++ g.history ∧ ∀ e ∈ new, e.1.Quiet cb := by
  rw [deliver_run]
  split
  case isFalse => exact ⟨[], rfl, by simp⟩
  case isTrue hcb =>
    rcases (surface_reachable hcreates hg).of_base hstate hcb with ⟨t, rfl⟩ | ⟨p, rfl⟩
    · have hcalls : (changeState t).Calls (Call.Quiet (.changeState t)) := by
        refine (calls_changeState t).mono fun c hc => ?_
        cases c with
        | command c => exact ⟨t, rfl, hc⟩
        | publish p => exact hc
        | _ => trivial
      exact hcalls.history env g
    · exact ⟨[], rfl, by simp⟩

/-- A request to move reaches no server of a node that is only configured. -/
theorem quiet_unless_active_home :
    ∃ new, ((Callback.service .home ()).deliver.run bench
        (benchRun { allowMotion := true } [{}] [.changeState .configure])).2.history =
      new ++ (benchRun { allowMotion := true } [{}] [.changeState .configure]).history ∧
        ∀ e ∈ new, e.1.Quiet (.service .home ()) :=
  quiet_unless_active (fun _ _ => rfl) (reachable_benchRun _ _ _) (by decide) _

end LitearmDriver
