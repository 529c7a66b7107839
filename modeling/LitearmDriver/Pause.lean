import LitearmDriver.CommandSurface

/-!
# A pause loses nothing

A deactivation takes the command surface down and an activation sets it up anew. An active node
is always as an activation leaves it, so a node that comes back from a pause is in service as it
was before: with the same servers, publishers, timers, session and configuration, whatever was
asked of it meanwhile.
-/

namespace LitearmDriver

open Interaction Program

variable {σ : Type} {env : Environment σ} {g : World σ} {node paused : Node}

/-! ### In service -/

/-- Everything is as an activation sets it up. -/
structure InService (node : Node) : Prop where
  services : node.services = Service.all.map Service.name
  publishers : node.switchPublishers true = node
  statusTimer : node.statusTimer =
    if 0 < node.statusRateHz then some ⟨1 / node.statusRateHz⟩ else none
  diagnosticsTimer : node.diagnosticsTimer =
    if node.diagnosticsPublisher.isSome ∧ 0 < node.diagnosticsRateHz then
      some ⟨1 / node.diagnosticsRateHz⟩
    else none

/-- The entities and the lifecycle state of another node. -/
def Node.reinstate (paused node : Node) : Node :=
  { paused with
    currentState := node.currentState
    services := node.services
    statusPublisher := node.statusPublisher
    jointStatePublisher := node.jointStatePublisher
    diagnosticsPublisher := node.diagnosticsPublisher
    statusTimer := node.statusTimer
    diagnosticsTimer := node.diagnosticsTimer }

lemma switchPublishers_switch (on off : Bool) (node : Node) :
    (node.switchPublishers off).switchPublishers on = node.switchPublishers on := by
  simp [Node.switchPublishers, Function.comp_def]

lemma inService_goActive (hservices : node.services = []) (hstatus : node.statusTimer = none)
    (hdiagnostics : node.diagnosticsTimer = none) : InService (node.goActive.enter .active) := by
  rw [Node.goActive_eq]
  constructor
  · simp [Node.enter, Node.switchPublishers, Node.serve, hservices]
  · simp [Node.enter, Node.switchPublishers, Node.serve, Function.comp_def]
  · simp [Node.enter, Node.switchPublishers, Node.serve, hstatus]
  · simp [Node.enter, Node.switchPublishers, Node.serve, hdiagnostics]

/-- A node whose lifecycle members are those of a paused one comes back into service as the
node was that paused. -/
lemma InService.resume (h : InService node) (hstate : node.currentState = .active)
    (hpaused : paused.lifecycleMembers = (node.goInactive.enter .inactive).lifecycleMembers) :
    paused.goActive.enter .active = paused.reinstate node := by
  have hsame {α : Type} (f : Node → α) :
      f paused.lifecycleMembers = f (node.goInactive.enter .inactive).lifecycleMembers :=
    congrArg f hpaused
  have hswitched {α : Type} (f : Node → α) :
      f ((node.switchPublishers false).switchPublishers true) = f node :=
    congrArg f ((switchPublishers_switch true false node).trans h.publishers)
  have hstatus : (paused.switchPublishers true).statusPublisher = node.statusPublisher :=
    (hsame fun node => (node.switchPublishers true).statusPublisher).trans
      (hswitched Node.statusPublisher)
  have hjoint : (paused.switchPublishers true).jointStatePublisher = node.jointStatePublisher :=
    (hsame fun node => (node.switchPublishers true).jointStatePublisher).trans
      (hswitched Node.jointStatePublisher)
  have hdiagnostics : (paused.switchPublishers true).diagnosticsPublisher =
      node.diagnosticsPublisher :=
    (hsame fun node => (node.switchPublishers true).diagnosticsPublisher).trans
      (hswitched Node.diagnosticsPublisher)
  have hsome : paused.diagnosticsPublisher.isSome = node.diagnosticsPublisher.isSome := by
    rw [← hdiagnostics]
    exact Option.isSome_map.symm
  have hservices : paused.services = [] := hsame Node.services
  have htimer : paused.statusTimer = none := hsame Node.statusTimer
  have htimer' : paused.diagnosticsTimer = none := hsame Node.diagnosticsTimer
  have hrate : paused.statusRateHz = node.statusRateHz := hsame Node.statusRateHz
  have hrate' : paused.diagnosticsRateHz = node.diagnosticsRateHz := hsame Node.diagnosticsRateHz
  rw [Node.goActive_eq, Node.reinstate, hstate, h.services, h.statusTimer, h.diagnosticsTimer,
    ← hstatus, ← hjoint, ← hdiagnostics, hsome, htimer, htimer', hrate, hrate', hdiagnostics]
  simpa [Node.enter, Node.switchPublishers, Node.serve, hservices] using
    And.intro hrate (And.intro hrate' hdiagnostics)

/-! ### Every active node is in service -/

lemma switchPublishers_lifecycleMembers : node.lifecycleMembers.switchPublishers true =
    node.lifecycleMembers ↔ node.switchPublishers true = node := by
  constructor
  · intro h
    have hsame {α : Type} (f : Node → α) :
        f (node.lifecycleMembers.switchPublishers true) = f node.lifecycleMembers := congrArg f h
    have hstatus : (node.switchPublishers true).statusPublisher = node.statusPublisher :=
      hsame Node.statusPublisher
    have hjoint : (node.switchPublishers true).jointStatePublisher = node.jointStatePublisher :=
      hsame Node.jointStatePublisher
    have hdiagnostics : (node.switchPublishers true).diagnosticsPublisher =
        node.diagnosticsPublisher := hsame Node.diagnosticsPublisher
    calc node.switchPublishers true
        = { node with
            statusPublisher := (node.switchPublishers true).statusPublisher
            jointStatePublisher := (node.switchPublishers true).jointStatePublisher
            diagnosticsPublisher := (node.switchPublishers true).diagnosticsPublisher } := rfl
      _ = node := by rw [hstatus, hjoint, hdiagnostics]
  · exact congrArg Node.lifecycleMembers

lemma inService_lifecycleMembers : InService node.lifecycleMembers ↔ InService node :=
  ⟨fun h => ⟨h.services, switchPublishers_lifecycleMembers.mp h.publishers, h.statusTimer,
      h.diagnosticsTimer⟩,
    fun h => ⟨h.services, switchPublishers_lifecycleMembers.mpr h.publishers, h.statusTimer,
      h.diagnosticsTimer⟩⟩

lemma inService_change {t : Transition} {r : Except Abort Unit} {g' : World σ}
    (hsurface : Surface g.shared) (h : g.shared.currentState = .active → InService g.shared)
    (hstep : TransitionStep env g t r g') (hactive : g'.shared.currentState = .active) :
    InService g'.shared := by
  by_cases hbefore : g.shared.currentState = .active
  · cases hstep with
    | unavailable => exact h hbefore
    | unopened _ hstate | unpublished _ _ hstate | configured hstate | sessionless hstate
    | refused hstate | unserved hstate | headless hstate | activated hstate
    | cleaned hstate => cases hstate.symm.trans hbefore
    | deactivated _ hshared | shutDown _ hshared =>
      cases (congrArg Node.currentState hshared).symm.trans hactive
  · obtain ⟨hservices, hstatus, hdiagnostics⟩ := hsurface.closed hbefore
    rw [(hstep.activates hbefore hactive).1]
    exact inService_goActive hservices hstatus hdiagnostics

lemma inService_reachable (hcreates : Creates env) (h : Reachable env g)
    (hactive : g.shared.currentState = .active) : InService g.shared := by
  have hinvariant : Surface g.shared ∧
      (g.shared.currentState = .active → InService g.shared) := by
    refine h.invariant (I := fun g => Surface g.shared ∧
      (g.shared.currentState = .active → InService g.shared)) ?_ ?_
    · intro name p w
      exact ⟨surface_reachable hcreates (.fresh name p w), fun hactive => by cases hactive⟩
    · rintro cb g - ⟨hsurface, hservice⟩
      refine ⟨surface_step hcreates cb hsurface, ?_⟩
      refine step_keeps (I := fun node => node.currentState = .active → InService node)
        (fun node => imp_congr_right fun _ => inService_lifecycleMembers) ?_ hservice
      rintro t rfl
      exact inService_change hsurface hservice (change_step t)
  exact hinvariant.2 hactive

/-! ### A pause -/

/-- Callbacks other than transitions leave the lifecycle members alone. -/
lemma runAll_lifecycleMembers {cbs : List Callback} (hcbs : ∀ cb ∈ cbs, ∀ t, cb ≠ .changeState t)
    (g : World σ) : (runAll env Callback.code cbs g).shared.lifecycleMembers =
      g.shared.lifecycleMembers := by
  induction cbs generalizing g with
  | nil => rfl
  | cons cb cbs ih =>
    have hstep := step_lifecycleMembers env g (hcbs cb List.mem_cons_self)
    exact (ih (fun cb hcb => hcbs cb (List.mem_cons_of_mem _ hcb)) _).trans hstep

lemma deactivate_shared (hactive : g.shared.currentState = .active) :
    (step env (.changeState .deactivate) g).shared = g.shared.goInactive.enter .inactive := by
  change (changeState .deactivate).wp env (fun _ g' => g'.shared = _) g
  refine wp_mono (change_step .deactivate) fun r g' hstep => ?_
  cases hstep with
  | unavailable hgoal => simp [hactive, Transition.goal] at hgoal
  | deactivated _ hshared => exact hshared

lemma activate_shared (hcreates : Creates env) (henable : g.shared.autoEnable = true →
      g.answer env (.command g.shared.enabling) = .ok ())
    (h : Surface g.shared) (hinactive : g.shared.currentState = .inactive) :
    (step env (.changeState .activate) g).shared = g.shared.goActive.enter .active := by
  change (changeState .activate).wp env (fun _ g' => g'.shared = _) g
  refine wp_mono (change_step .activate) fun r g' hstep => ?_
  cases hstep with
  | unavailable hgoal => simp [hinactive, Transition.goal] at hgoal
  | sessionless _ hnone =>
    have hsome := (h.equipped (.inl hinactive)).1
    simp [hnone] at hsome
  | refused _ _ hauto hrefused => cases hrefused.symm.trans (henable hauto)
  | unserved _ _ hfailed => exact absurd hfailed hcreates.not_failed
  | headless _ hnone => exact absurd hnone (h.not_headless hinactive)
  | activated _ _ _ hshared => exact hshared

/-- Whatever is asked of an inactive node short of a transition, once it is activated again, and
its ENABLE returns and the middleware obliges, it is in service exactly as it was before the
pause. -/
theorem pause_loses_nothing (hcreates : Creates env) (hg : Reachable env g)
    (hactive : g.shared.currentState = .active) {cbs : List Callback}
    (hcbs : ∀ cb ∈ cbs, ∀ t, cb ≠ .changeState t) :
    let paused := runAll env Callback.code (.changeState .deactivate :: cbs) g
    let resumed := step env (.changeState .activate) paused
    (paused.shared.autoEnable = true →
        paused.answer env (.command paused.shared.enabling) = .ok ()) →
      resumed.shared = paused.shared.reinstate g.shared ∧
        resumed.shared.lifecycleMembers = g.shared.lifecycleMembers ∧
        (cbs = [] → resumed.shared = g.shared) := by
  intro paused resumed henable
  have hpaused : paused.shared.lifecycleMembers =
      (g.shared.goInactive.enter .inactive).lifecycleMembers := by
    have hdeactivated : (step env (.changeState .deactivate) g).shared =
        g.shared.goInactive.enter .inactive := deactivate_shared hactive
    rw [← hdeactivated]
    exact runAll_lifecycleMembers hcbs _
  have hinactive : paused.shared.lifecycleMembers.currentState = .inactive :=
    congrArg Node.currentState hpaused
  have hreachable : Reachable env paused := reachable_runAll _ hg
  have hresumed : resumed.shared = paused.shared.reinstate g.shared := by
    have hservice := inService_reachable hcreates hg hactive
    rw [← hservice.resume hactive hpaused]
    exact activate_shared hcreates henable (surface_reachable hcreates hreachable) hinactive
  refine ⟨hresumed, ?_, ?_⟩
  · rw [hresumed]
    exact congrArg (Node.reinstate · g.shared) hpaused
  · rintro rfl
    have hleft : paused.shared = g.shared.goInactive.enter .inactive := deactivate_shared hactive
    rw [hresumed, hleft]
    rfl

/-- A node in service on a bench that refuses ENABLE in the session to come. -/
def enabledOnce : World Bench :=
  benchRun {} [{}, { enable := .error "undervoltage" }]
    [.changeState .configure, .changeState .activate]

/-- A tick, a parameter update and a request were still queued when the node was paused. -/
theorem pause_loses_nothing_queued :
    (step bench (.changeState .activate) (runAll bench Callback.code
      [.changeState .deactivate, .statusTimer, .setParameters { statusRateHz := 50 },
        .service .setSpeedScaling ⟨40⟩] enabledOnce)).shared.lifecycleMembers =
      enabledOnce.shared.lifecycleMembers := by
  have hg : Reachable bench enabledOnce := reachable_benchRun _ _ _
  refine (pause_loses_nothing (fun _ _ => rfl) hg rfl ?_ fun _ => rfl).2.1
  simp

end LitearmDriver
