import LitearmDriver.Bench
import LitearmDriver.Steps

/-!
# The command surface exists exactly while active

When the middleware creates what it is asked for, the servers and the timers exist in the
active state and in no other, and a configured node holds what its callbacks use.
-/

namespace LitearmDriver

open Interaction Program

variable {σ : Type} {env : Environment σ} {g : World σ}

/-! ### What each primary state holds -/

/-- The servers and timers of a state, and the objects its callbacks use. -/
structure Surface (node : Node) : Prop where
  closed : node.currentState ≠ .active →
    node.services = [] ∧ node.statusTimer = none ∧ node.diagnosticsTimer = none
  served : node.currentState = .active → node.services = Service.all.map Service.name
  equipped : node.currentState = .inactive ∨ node.currentState = .active →
    node.arm.isSome = true ∧ node.statusPublisher.isSome = true

lemma surface_lifecycleMembers (node : Node) : Surface node.lifecycleMembers ↔ Surface node :=
  ⟨fun h => ⟨h.closed, h.served, h.equipped⟩, fun h => ⟨h.closed, h.served, h.equipped⟩⟩

/-- A state without servers and timers that is no configured one. -/
lemma Surface.of_unequipped {node : Node} (hinactive : node.currentState ≠ .inactive)
    (hactive : node.currentState ≠ .active)
    (h : node.services = [] ∧ node.statusTimer = none ∧ node.diagnosticsTimer = none) :
    Surface node := by
  refine ⟨fun _ => h, fun hstate => absurd hstate hactive, fun hstate => ?_⟩
  rcases hstate with hstate | hstate
  · exact absurd hstate hinactive
  · exact absurd hstate hactive

lemma Surface.enter {node : Node} {state : PrimaryState} (hinactive : state ≠ .inactive)
    (hactive : state ≠ .active)
    (h : node.services = [] ∧ node.statusTimer = none ∧ node.diagnosticsTimer = none) :
    Surface (node.enter state) := .of_unequipped hinactive hactive h

/-! ### A transition keeps it -/

lemma surface_configured {home : Option String} {axes : Nat} {x : Except String LicenseInfo}
    {node : Node} (hclosed : node.services = [] ∧ node.statusTimer = none ∧
      node.diagnosticsTimer = none) :
    Surface (((node.prepare home).openSession axes x).addPublishers.enter .inactive) := by
  obtain ⟨hservices, hstatus, hdiagnostics⟩ := hclosed
  refine ⟨fun _ => ?_, nofun, fun _ => ?_⟩
  · rw [Node.addPublishers_eq]
    cases x <;> exact ⟨hservices, hstatus, hdiagnostics⟩
  · rw [Node.addPublishers_eq]
    cases x <;> exact ⟨rfl, rfl⟩

lemma surface_activated {node : Node} (hservices : node.services = [])
    (hequipped : node.arm.isSome = true ∧ node.statusPublisher.isSome = true) :
    Surface (node.goActive.enter .active) := by
  have hserved : node.goActive.services = Service.all.map Service.name := by
    rw [Node.goActive_eq]
    simp [Node.switchPublishers, Node.serve, hservices]
  have harm : node.goActive.arm = node.arm := by
    rw [Node.goActive_eq]
    rfl
  have hstatus : node.goActive.statusPublisher.isSome = true := by
    rw [Option.isSome_iff_ne_none, ne_eq, node.goActive_statusPublisher_eq_none]
    exact Option.isSome_iff_ne_none.mp hequipped.2
  refine ⟨fun hstate => absurd rfl hstate, fun _ => hserved, fun _ => ⟨?_, hstatus⟩⟩
  exact (congrArg Option.isSome harm).trans hequipped.1

/-- A configured node holds the publisher its activation uses. -/
lemma Surface.not_headless (h : Surface g.shared) (hstate : g.shared.currentState = .inactive) :
    g.shared.statusPublisher ≠ none :=
  Option.isSome_iff_ne_none.mp (h.equipped (.inl hstate)).2

lemma surface_change {t : Transition} {r : Except Abort Unit} {g' : World σ}
    (hcreates : Creates env) (h : Surface g.shared) (hstep : TransitionStep env g t r g') :
    Surface g'.shared := by
  cases hstep with
  | unavailable => exact h
  | unopened home hstate harm hshared =>
    have hclosed := h.closed (by simp [hstate])
    rw [hshared]
    refine .of_unequipped ?_ ?_ hclosed
    · intro hinactive
      cases hstate.symm.trans hinactive
    · intro hactive
      cases hstate.symm.trans hactive
  | unpublished home axes hstate hframe hsent hfailed => exact absurd hfailed hcreates.not_failed
  | configured hstate hshared =>
    rw [hshared]
    exact surface_configured (h.closed (by simp [hstate]))
  | sessionless hstate harm =>
    have hsome := (h.equipped (.inl hstate)).1
    rw [harm] at hsome
    cases hsome
  | refused hstate harm hauto henable hshared =>
    have hclosed := h.closed (by simp [hstate])
    rw [hshared]
    exact .enter (by decide) (by decide) hclosed
  | unserved hstate hframe hfailed => exact absurd hfailed hcreates.not_failed
  | headless hstate hstatus => exact absurd hstatus (h.not_headless hstate)
  | activated hstate harm hstatus hshared =>
    have hclosed := h.closed (by simp [hstate])
    rw [hshared]
    exact surface_activated hclosed.1 (h.equipped (.inl hstate))
  | deactivated hstate hshared =>
    obtain ⟨harm, hstatus⟩ := h.equipped (.inr hstate)
    rw [hshared]
    refine ⟨fun _ => ⟨rfl, rfl, rfl⟩, fun hactive => ?_, fun _ => ⟨harm, ?_⟩⟩
    · cases hactive
    · simpa [Node.enter, Node.goInactive, Node.switchPublishers] using hstatus
  | cleaned hstate hshared =>
    rw [hshared]
    exact .enter (by decide) (by decide) ⟨rfl, rfl, rfl⟩
  | shutDown hstate hshared =>
    rw [hshared]
    exact .enter (by decide) (by decide) ⟨rfl, rfl, rfl⟩

/-- One callback keeps it. -/
theorem surface_step (hcreates : Creates env) (cb : Callback) (h : Surface g.shared) :
    Surface (step env cb g).shared := by
  refine step_keeps surface_lifecycleMembers ?_ h
  rintro t rfl
  exact surface_change hcreates h (change_step t)

/-- A run keeps it. -/
theorem surface_reachable (hcreates : Creates env) (h : Reachable env g) : Surface g.shared :=
  h.invariant (I := fun g => Surface g.shared)
    (fun _ _ _ => .of_unequipped nofun nofun ⟨rfl, rfl, rfl⟩)
    fun cb _ _ hg => surface_step hcreates cb hg

/-! ### Nothing null is used -/

/-- No callback dereferences a null session or publisher. -/
lemma Surface.defined (h : Surface g.shared) (cb : Callback) :
    (cb.code.run env g).1 ≠ .error .undefined := by
  intro hundefined
  cases cb with
  | changeState t =>
    have hstep : (changeState t).wp env (TransitionStep env g t) g := change_step t
    rcases TransitionStep.returns hstep with hr | ⟨hstate, hstatus⟩
    · exact nomatch hr.symm.trans hundefined
    · exact h.not_headless hstate hstatus
  | service s request =>
    have hexit : (s.handle request default).wp env (ServiceExit env g s) g :=
      handle_exit s request default
    obtain ⟨response, hr⟩ := ServiceExit.replies hexit
    exact nomatch hr.symm.trans hundefined
  | statusTimer =>
    obtain ⟨hr, -⟩ : publishStatus.wp env _ g := publishStatus_exit
    exact nomatch hr.symm.trans hundefined
  | diagnosticsTimer =>
    obtain ⟨hr, -⟩ : publishDiagnostics.wp env _ g := publishDiagnostics_exit
    exact nomatch hr.symm.trans hundefined
  | setParameters p => exact nomatch hundefined

/-! ### The command surface -/

/-- Under a middleware that creates what it is asked for, in every reachable state: servers
and timers exist only while the node is active, and then there is one server for each name;
a configured node holds its session and its status publisher; no callback uses a null one;
and the node becomes active with `auto_enable` set only by an ENABLE that returned. -/
theorem command_surface (hcreates : Creates env) : ∀ g : World σ, Reachable env g →
    Surface g.shared ∧ (Service.all.map Service.name).Nodup ∧ (∀ s : Service, s ∈ Service.all) ∧
    (∀ cb : Callback, (cb.code.run env g).1 ≠ .error .undefined) ∧
    ∀ t : Transition, g.shared.currentState ≠ .active →
      (step env (.changeState t) g).shared.currentState = .active →
      g.shared.autoEnable = true →
      ∃ attempts, sent (step env (.changeState t) g) = ⟨.enable attempts, .ok ()⟩ :: sent g := by
  intro g hg
  have hsurface := surface_reachable hcreates hg
  refine ⟨hsurface, by decide, Service.mem_all, hsurface.defined, fun t hbefore hactive hauto => ?_⟩
  have hstep : (changeState t).wp env (TransitionStep env g t) g := change_step t
  obtain ⟨-, hsent⟩ := TransitionStep.activates hstep hbefore hactive
  rw [if_pos hauto] at hsent
  exact ⟨_, hsent⟩

theorem command_surface_active :
    (benchRun {} [{}] [.changeState .configure, .changeState .activate]).shared.services =
      Service.all.map Service.name :=
  (command_surface (show Creates bench from fun _ _ => rfl) _ (reachable_benchRun _ _ _)).1.served
    rfl

end LitearmDriver
