import LitearmDriver.Delivery
import LitearmDriver.TransitionCode
import Mathlib.Data.List.Forall2

/-!
# A cleanup forgets

A cleanup keeps the name and the parameters of the node. The members it does not clear are
set again before anything reads them: whatever is asked of the node afterwards, it does and
answers what a node would that was just constructed.
-/

namespace LitearmDriver

open Interaction Program

variable {α : Type} {σ : Type} {env : Environment σ} {g g' : World σ}

/-! ### Nodes that agree in what they show -/

/-- The node without the members that a configuration sets. -/
def Node.bare (node : Node) : Node :=
  { name := node.name
    parameters := node.parameters
    currentState := node.currentState
    arm := node.arm
    services := node.services
    statusPublisher := node.statusPublisher
    jointStatePublisher := node.jointStatePublisher
    diagnosticsPublisher := node.diagnosticsPublisher
    statusTimer := node.statusTimer
    diagnosticsTimer := node.diagnosticsTimer }

/-- Neither server nor timer, in a state that only `configure` and `shutdown` lead out of. -/
structure Vacant (node : Node) : Prop where
  services : node.services = []
  statusTimer : node.statusTimer = none
  diagnosticsTimer : node.diagnosticsTimer = none
  state : node.currentState = .unconfigured ∨ node.currentState = .finalized

/-- Two nodes that nothing tells apart: before a configuration they may differ in what it
sets, and afterwards in records that are not valid. -/
inductive Indistinct (g g' : World σ) : Prop where
  | vacant (h : Vacant g.shared) (hbare : Alike Node.bare g g')
  | current (h : Alike Node.current g g')

/-! ### After a configuration -/

lemma Served.current {s : Service} {p : Code α} (h : Served s p) :
    p.Blind Node.current (fun _ => True) IgnoresInvalid := by
  cases h with
  | plain hs h => exact seesPlain_current h.any.seesPlain
  | @consulting f hf h hlocked =>
    refine sees_self (fun node => ?_) fun node => seesPlain_current (h node).any.seesPlain
    rw [hf node, hf node.current, Node.callTime, Node.callTime, Node.current_working]
    rfl

/-- No callback looks at a record that is not valid. -/
lemma current_code (cb : Callback) : cb.code.Blind Node.current (fun _ => True) IgnoresInvalid := by
  cases cb with
  | changeState t => exact current_changeState t
  | service s request =>
    by_cases hs : s = .reconnect
    · subst hs
      exact seesPlain_current (seesPlain_of_working (seesWorking_handleReconnect _))
    · exact (served_handle s hs request default).current
  | statusTimer => exact seesPlain_current Serving.publishStatus.seesPlain
  | diagnosticsTimer => exact seesPlain_current Serving.publishDiagnostics.seesPlain
  | setParameters p =>
    have hplain : Plain fun node => { node with parameters := p } :=
      .of_commute (fun _ => rfl) (fun _ => rfl) fun _ => rfl
    exact ⟨hplain.current, trivial⟩

lemma current_deliver (cb : Callback) :
    cb.deliver.Blind Node.current (fun _ => True) IgnoresInvalid := by
  refine sees_self (fun node => ?_) fun node => ?_
  · cases cb <;> rfl
  · split
    · exact Blind.bind (current_code cb) fun _ => trivial
    · trivial

/-! ### Before a configuration -/

lemma bare_prepare {node node' : Node} (h : node.bare = node'.bare) (home : Option String) :
    (node.prepare home).current = (node'.prepare home).current := by
  have hbare (node : Node) : (node.prepare home).current = (node.bare.prepare home).current := rfl
  rw [hbare node, hbare node', h]

/-- Whatever a configuration sets may differ before it begins. -/
lemma begin_alike (env : Environment σ) (h : Alike Node.bare g g') :
    (begin.run env g).1 = .ok () ∧ (begin.run env g').1 = .ok () ∧
      Alike Node.current (begin.run env g).2 (begin.run env g').2 := by
  have hbegin (g : World σ) : begin.run env g =
      if g.shared.parameters.logDir = "" then
        (.ok (), (g.after env .getenvHome).update (.prepare (g.answer env .getenvHome)))
      else (.ok (), g.update (.prepare none)) := by
    rw [begin, readParameters, run_bind, run_bind]
    dsimp only [self, run]
    by_cases hdir : g.shared.parameters.logDir = ""
    · rw [if_pos hdir, if_pos hdir]
      rfl
    · rw [if_neg hdir, if_neg hdir]
      rfl
  have hparameters := congrArg Node.parameters h.shared
  change g.shared.parameters = g'.shared.parameters at hparameters
  rw [hbegin, hbegin, hparameters]
  split
  · have hhome : g.answer env .getenvHome = g'.answer env .getenvHome := by
      rw [Config.answer, Config.answer, h.outside]
    refine ⟨rfl, rfl, ?_, ?_, ?_⟩
    · rw [hhome]
      exact bare_prepare h.shared _
    · exact congrArg (fun w => (env .getenvHome w).2) h.outside
    · change ⟨_, g.answer env .getenvHome⟩ :: g.history = _
      rw [hhome, h.history]
      rfl
  · exact ⟨rfl, rfl, bare_prepare h.shared _, h.outside, h.history⟩

lemma onConfigure_run (h : (begin.run env g).1 = .ok ()) :
    onConfigure.run env g = configureSession.run env (begin.run env g).2 := by
  rw [onConfigure_eq, run_bind]
  revert h
  rcases begin.run env g with ⟨_ | _, g₁⟩
  · rintro ⟨⟩
  · exact fun _ => rfl

lemma configure_run (hstate : g.shared.currentState = .unconfigured)
    (h : (begin.run env g).1 = .ok ()) :
    (changeState .configure).run env g =
      (executeCallback configureSession >>= conclude .inactive).run env (begin.run env g).2 := by
  have hgoal : Transition.goal .configure g.shared.currentState = some .inactive := by
    rw [hstate]
    rfl
  rw [changeState_eq, run_bind]
  dsimp only [self, run]
  rw [hgoal]
  dsimp only
  rw [run_bind, run_bind, executeCallback, executeCallback, catching, catching, run_tryCatch,
    run_tryCatch, Transition.callback, onConfigure_run h]

/-- Code that sees no member a configuration sets, and writes the others in the same way. -/
abbrev SeesBare (p : Code α) : Prop :=
  p.Blind Node.bare (fun _ => True) fun f => ∀ node, (f node).bare = (f node.bare).bare

lemma seesBare_onError : SeesBare onError := by
  refine Blind.bind (sees_self (fun _ => rfl) fun node => ?_) fun _ => trivial
  split
  · trivial
  · exact ⟨trivial, fun _ => trivial⟩

lemma seesBare_closeArm : SeesBare closeArm := by
  refine sees_self (fun _ => rfl) fun node => ?_
  have hreset : SeesBare resetArm := ⟨trivial, fun _ => ⟨fun _ => rfl, trivial⟩⟩
  have hclose : SeesBare (armCommand .close) := by
    rw [armCommand, Serving.derefArm_bind]
    refine sees_self (fun _ => rfl) fun node => ?_
    split
    · trivial
    · refine ⟨trivial, fun x => ?_⟩
      cases x <;> trivial
  split
  · trivial
  · refine Blind.bind (Blind.tryCatch hclose ?_) fun _ => hreset
    rintro (what | _) <;> trivial

lemma seesBare_onCleanup : SeesBare onCleanup := by
  have hstop : SeesBare stopTimers := ⟨trivial, fun _ => ⟨fun _ => rfl, trivial⟩⟩
  have hdestroy : SeesBare destroyServiceServers := ⟨trivial, fun _ => ⟨fun _ => rfl, trivial⟩⟩
  have hswitch : SeesBare deactivatePublishers := ⟨fun _ => rfl, trivial⟩
  have hreset : SeesBare resetPublishers := ⟨trivial, fun _ => ⟨fun _ => rfl, trivial⟩⟩
  refine Blind.bind hstop fun _ => Blind.bind hdestroy fun _ => Blind.bind hswitch fun _ => ?_
  refine Blind.bind hreset fun _ => Blind.bind seesBare_closeArm fun _ => ?_
  exact ⟨fun _ => rfl, trivial⟩

lemma shutdown_shared (env : Environment σ) (hstate : g.shared.currentState ≠ .finalized) :
    (step env (.changeState .shutdown) g).shared = g.shared.goUnconfigured.enter .finalized := by
  change (changeState .shutdown).wp env (fun _ g' => g'.shared = _) g
  apply wp_mono (change_step .shutdown)
  intro r g' hstep
  cases hstep with
  | unavailable hgoal =>
    revert hgoal hstate
    cases g.shared.currentState <;> simp [Transition.goal]
  | shutDown _ hshared => exact hshared

lemma cleanup_shared (hstate : g.shared.currentState = .inactive) :
    (step env (.changeState .cleanup) g).shared = g.shared.goUnconfigured.enter .unconfigured := by
  change (changeState .cleanup).wp env (fun _ g' => g'.shared = _) g
  apply wp_mono (change_step .cleanup)
  intro r g' hstep
  cases hstep with
  | unavailable hgoal =>
    rw [hstate] at hgoal
    cases hgoal
  | cleaned _ hshared => exact hshared

/-- From a vacant node the first transition is a configuration or the last. -/
lemma Vacant.change (h : Vacant g.shared) (hbare : Alike Node.bare g g') (t : Transition) :
    ((changeState t).run env g).1 = ((changeState t).run env g').1 ∧
      Indistinct ((changeState t).run env g).2 ((changeState t).run env g').2 := by
  have hstate := congrArg Node.currentState hbare.shared
  change g.shared.currentState = g'.shared.currentState at hstate
  cases hgoal : t.goal g.shared.currentState with
  | none =>
    rw [change_unavailable hgoal, change_unavailable (hstate ▸ hgoal)]
    exact ⟨rfl, .vacant h hbare⟩
  | some goal =>
    have havailable := goal_eq_some hgoal
    cases t with
    | configure =>
      obtain ⟨hbegin, hbegin', hcurrent⟩ := begin_alike env hbare
      rw [configure_run havailable.1 hbegin, configure_run (hstate ▸ havailable.1) hbegin']
      have hrest : (executeCallback configureSession >>= conclude .inactive).Blind Node.current
          (fun _ => True) IgnoresInvalid :=
        Blind.bind (sees_executeCallback (seesPlain_current seesMembers_configureSession.seesPlain))
          (sees_conclude (fun state => (plain_enter state).current)
            (seesPlain_current seesMembers_onError.seesPlain) _)
      obtain ⟨hresult, hend⟩ := (hrest.alike (fun f hf => hf) env).eq hcurrent
      exact ⟨hresult, .current hend⟩
    | shutdown =>
      have hsees : SeesBare (changeState .shutdown) :=
        sees_changeState (fun _ _ => rfl) (fun _ => rfl) seesBare_onError seesBare_onCleanup
      obtain ⟨hresult, hend⟩ := (hsees.alike (fun f hf => hf) env).eq hbare
      have hshared := shutdown_shared env havailable.1
      exact ⟨hresult, .vacant (hshared ▸ ⟨rfl, rfl, rfl, .inr rfl⟩) hend⟩
    | _ =>
      rcases h.state with hvacant | hvacant <;> cases havailable.1.symm.trans hvacant

/-! ### Runs -/

/-- Before a configuration nothing is delivered but transitions and parameters. -/
lemma Vacant.code (env : Environment σ) (h : Vacant g.shared) (hbare : Alike Node.bare g g')
    {cb : Callback} (hcb : cb.deliverable g.shared = true) :
    (cb.code.run env g).1 = (cb.code.run env g').1 ∧
      Indistinct (cb.code.run env g).2 (cb.code.run env g').2 := by
  cases cb with
  | changeState t => exact h.change hbare t
  | setParameters p =>
    have hshared := congrArg (fun node : Node => { node with parameters := p }) hbare.shared
    refine ⟨rfl, .vacant ⟨h.services, h.statusTimer, h.diagnosticsTimer, h.state⟩ ?_⟩
    exact ⟨hshared, hbare.outside, hbare.history⟩
  | service s request => simp [Callback.deliverable, h.services] at hcb
  | statusTimer => simp [Callback.deliverable, h.statusTimer] at hcb
  | diagnosticsTimer => simp [Callback.deliverable, h.diagnosticsTimer] at hcb

/-- Delivered callbacks do not tell such nodes apart. -/
lemma Indistinct.deliver (h : Indistinct g g') (cb : Callback) :
    cb.outcome (cb.deliver.run env g).1 = cb.outcome (cb.deliver.run env g').1 ∧
      Indistinct (cb.deliver.run env g).2 (cb.deliver.run env g').2 := by
  cases h with
  | current h =>
    obtain ⟨hresult, hend⟩ := ((current_deliver cb).alike (fun f hf => hf) env).eq h
    exact ⟨congrArg cb.outcome hresult, .current hend⟩
  | vacant h hbare =>
    have hdelivery (node : Node) : cb.deliverable node = cb.deliverable node.bare := by
      cases cb <;> rfl
    have hsame : cb.deliverable g.shared = cb.deliverable g'.shared := by
      rw [hdelivery g.shared, hdelivery g'.shared, hbare.shared]
    rw [deliver_run, deliver_run, ← hsame]
    split
    · next hcb =>
      obtain ⟨hresult, hend⟩ := h.code env hbare hcb
      exact ⟨by rw [hresult], hend⟩
    · exact ⟨rfl, .vacant h hbare⟩

lemma Indistinct.history (h : Indistinct g g') : g.history = g'.history := by
  cases h with
  | vacant _ h => exact h.history
  | current h => exact h.history

lemma Indistinct.outside (h : Indistinct g g') : g.outside = g'.outside := by
  cases h with
  | vacant _ h => exact h.outside
  | current h => exact h.outside

lemma Indistinct.currentState (h : Indistinct g g') :
    g.shared.currentState = g'.shared.currentState := by
  cases h with
  | vacant _ h =>
    have hstate := congrArg Node.currentState h.shared
    exact hstate
  | current h =>
    have hstate := congrArg Node.currentState h.shared
    exact hstate

/-- The node in its place that was just constructed, with the name and the parameters that it
has. -/
def World.renewed (g : World σ) : World σ :=
  { g with shared := { name := g.shared.name, parameters := g.shared.parameters } }

/-- After a cleanup the node is as good as new. Whatever callbacks are then due, it answers
them as a newly constructed node does, makes the same calls with the same answers and ends in
the same lifecycle state. -/
theorem cleanup_forgets (hstate : g.shared.currentState = .inactive) (cbs : List Callback) :
    let g₁ := step env (.changeState .cleanup) g
    let g₂ := runAll env Callback.deliver cbs g₁
    let g₂' := runAll env Callback.deliver cbs g₁.renewed
    observations env Callback.deliver (fun _ => true) Callback.outcome cbs g₁ =
        observations env Callback.deliver (fun _ => true) Callback.outcome cbs g₁.renewed ∧
      g₂.history = g₂'.history ∧ g₂.outside = g₂'.outside ∧
      g₂.shared.currentState = g₂'.shared.currentState := by
  intro g₁ g₂ g₂'
  have hshared : g₁.shared = g.shared.goUnconfigured.enter .unconfigured := cleanup_shared hstate
  have hstart : Indistinct g₁ g₁.renewed := by
    refine .vacant (hshared ▸ ⟨rfl, rfl, rfl, .inl rfl⟩) ⟨?_, rfl, rfl⟩
    rw [World.renewed, hshared]
    rfl
  have hdeliver : ∀ cb cb' : Callback, cb = cb' → ∀ g g' : World σ, Indistinct g g' →
      cb.outcome (cb.deliver.run env g).1 = cb'.outcome (cb'.deliver.run env g').1 ∧
        Indistinct (cb.deliver.run env g).2 (cb'.deliver.run env g').2 := by
    rintro cb _ rfl g g' h
    exact h.deliver cb
  obtain ⟨hreplies, hend⟩ := lockstep hdeliver (List.forall₂_refl cbs) hstart
  exact ⟨hreplies, hend.history, hend.outside, hend.currentState⟩

/-- A session on the bench is closed and the next one opened on another port. -/
theorem cleanup_forgets_bench :
    let g₁ := step bench (.changeState .cleanup) (benchRun {} [{}] [.changeState .configure])
    let cbs := [.setParameters { port := "/dev/ttyACM1" }, .changeState .configure,
      .changeState .activate, .service .getStatus ⟨1⟩]
    (runAll bench Callback.deliver cbs g₁).history =
      (runAll bench Callback.deliver cbs g₁.renewed).history :=
  (cleanup_forgets rfl _).2.1

end LitearmDriver
