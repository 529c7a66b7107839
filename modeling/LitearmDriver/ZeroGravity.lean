import LitearmDriver.Bench
import LitearmDriver.Steps

/-!
# Zero gravity on the way out of the active state

Zero gravity is kept alive by a thread of the SDK, and is to be left before the node gives up
its services, its timers or the link. Deactivation does so first of all. Shutdown takes the
way of a cleanup, which knows nothing of zero gravity.
-/

namespace LitearmDriver

open Interaction Program

variable {σ : Type} {env : Environment σ} {g : World σ}

/-! ### The order of the events -/

/-- Calls that give up the services, the timers, the publishers or the link. -/
def Call.isTeardown : Call → Bool
  | .destroy _ | .destroyArm | .command .close => true
  | _ => false

/-- The SDK reports zero gravity active. -/
def ZeroGReported (env : Environment σ) (g : World σ) : Prop :=
  g.shared.arm.isSome = true ∧ g.answer env (.query .zeroGActive) = true

/-- Among the new events, of which the last one stands first, zero gravity is stopped, and
nothing is given up before. -/
def StoppedFirst (new : List (Event Call.Answer)) : Prop :=
  ∃ later x earlier, new = later ++ ⟨.command (.zeroGStop true), x⟩ :: earlier ∧
    ∀ e ∈ earlier, e.1.isTeardown = false

/-- What follows makes no difference to what was stopped first. -/
lemma StoppedFirst.append {new : List (Event Call.Answer)} (h : StoppedFirst new)
    (rest : List (Event Call.Answer)) : StoppedFirst (rest ++ new) := by
  obtain ⟨later, x, earlier, rfl, hearlier⟩ := h
  exact ⟨rest ++ later, x, earlier, (List.append_assoc _ _ _).symm, hearlier⟩

lemma StoppedFirst.mem {new : List (Event Call.Answer)} (h : StoppedFirst new) :
    ∃ x, ⟨.command (.zeroGStop true), x⟩ ∈ new := by
  obtain ⟨later, x, earlier, rfl, -⟩ := h
  exact ⟨x, List.mem_append_right _ List.mem_cons_self⟩

/-- The events between two moments stop zero gravity first if it was reported. -/
def Stops (env : Environment σ) (g g' : World σ) : Prop :=
  ∃ new, g'.history = new ++ g.history ∧ (ZeroGReported env g → StoppedFirst new)

/-! ### Deactivation -/

/-- Zero gravity is stopped if it is reported. -/
lemma leaveZeroG_stops : leaveZeroG.wp env (fun r g' => r = .ok () ∧ Stops env g g') g := by
  refine wp_leaveZeroG (fun hclosed => ?_) (fun hidle => ?_) ?_
  · refine ⟨rfl, [], rfl, ?_⟩
    rintro ⟨hsome, -⟩
    rw [hclosed] at hsome
    cases hsome
  · refine ⟨rfl, [_], rfl, ?_⟩
    rintro ⟨-, hreported⟩
    cases hidle.symm.trans hreported
  · refine ⟨rfl, [_, _], rfl, fun _ => ⟨[], _, [_], rfl, ?_⟩⟩
    intro e he
    rw [List.mem_singleton.mp he]
    rfl

/-- The callback of a deactivation leaves zero gravity before it gives up anything. -/
lemma deactivate_stops :
    onDeactivate.wp env (fun r g' => r = .ok .success ∧ Stops env g g') g := by
  rw [onDeactivate, wp_bind]
  apply wp_mono leaveZeroG_stops
  rintro r g₁ ⟨rfl, new, hnew, hfirst⟩
  refine ⟨rfl, [⟨.destroy .services, ()⟩, ⟨.destroy .timers, ()⟩] ++ new, ?_, ?_⟩
  · rw [List.append_assoc, ← hnew]
    rfl
  · intro hreported
    exact (hfirst hreported).append _

lemma changeState_deactivate_stops (hactive : g.shared.currentState = .active) :
    (changeState .deactivate).wp env (fun _ g' => Stops env g g') g := by
  have hgoal : Transition.goal .deactivate g.shared.currentState = some .inactive := by
    rw [hactive]
    rfl
  apply wp_mono (change_exit_of hgoal deactivate_stops)
  intro r g' hexit
  cases hexit with
  | done h => exact h.2
  | kept h => cases h.1
  | failed hr h hquiet => rcases hr with rfl | ⟨what, rfl⟩ <;> cases h.1
  | undefined h => cases h.1

/-! ### Shutdown -/

/-- A shutdown does not stop zero gravity. -/
lemma shutdown_never_stops {new : List (Event Call.Answer)}
    (hnew : (step env (.changeState .shutdown) g).history = new ++ g.history) :
    ¬ StoppedFirst new := by
  intro hfirst
  obtain ⟨x, hmem⟩ := hfirst.mem
  have hclose := (calls_changeState .shutdown).permits hnew _ hmem
  cases hclose

/-! ### Leaving the active state -/

/-- The services are gone, the timers stopped and the publishers off. -/
structure TornDown (node : Node) : Prop where
  services : node.services = []
  statusTimer : node.statusTimer = none
  diagnosticsTimer : node.diagnosticsTimer = none
  statusPublisher : ∀ p ∈ node.statusPublisher, p.activated = false
  jointStatePublisher : ∀ p ∈ node.jointStatePublisher, p.activated = false
  diagnosticsPublisher : ∀ p ∈ node.diagnosticsPublisher, p.activated = false

lemma tornDown_goInactive (node : Node) (state : PrimaryState) :
    TornDown (node.goInactive.enter state) := by
  have hoff (held : Option Publisher) : ∀ p ∈ held.map fun publisher : Publisher =>
      { publisher with activated := false }, p.activated = false := by
    intro p hp
    obtain ⟨publisher, -, rfl⟩ := Option.mem_map.mp hp
    rfl
  exact ⟨rfl, rfl, rfl, hoff _, hoff _, hoff _⟩

lemma tornDown_goUnconfigured (node : Node) (state : PrimaryState) :
    TornDown (node.goUnconfigured.enter state) := by
  constructor
  case services => rfl
  case statusTimer => rfl
  case diagnosticsTimer => rfl
  all_goals
    intro p hp
    cases hp

/-- Zero gravity is left before anything is given up, and the teardown completes whatever the
SDK answers. -/
structure Attended (env : Environment σ) (cb : Callback) (g : World σ) : Prop where
  stopped : ZeroGReported env g → ∀ new, (step env cb g).history = new ++ g.history →
    StoppedFirst new
  returned : ∃ r, (cb.code.run env g).1 = .ok r
  tornDown : TornDown (step env cb g).shared

/-- The active state is left by a deactivation or a shutdown. -/
lemma leaves_active {cb : Callback} (hactive : g.shared.currentState = .active)
    (hleft : (step env cb g).shared.currentState ≠ .active) :
    cb = .changeState .deactivate ∨ cb = .changeState .shutdown := by
  have hunavailable {t : Transition} (hgoal : t.goal g.shared.currentState = none) :
      (step env (.changeState t) g).shared.currentState = .active := by
    have hsame : (changeState t).run env g = (.ok (), g) := change_unavailable hgoal
    rw [step, Callback.code, hsame]
    exact hactive
  by_cases hcb : ∃ t, cb = .changeState t
  · obtain ⟨t, rfl⟩ := hcb
    cases t with
    | deactivate => exact .inl rfl
    | shutdown => exact .inr rfl
    | configure => exact absurd (hunavailable (by rw [hactive]; rfl)) hleft
    | activate => exact absurd (hunavailable (by rw [hactive]; rfl)) hleft
    | cleanup => exact absurd (hunavailable (by rw [hactive]; rfl)) hleft
  · rw [step_currentState fun t ht => hcb ⟨t, ht⟩] at hleft
    exact absurd hactive hleft

lemma deactivate_completes (hactive : g.shared.currentState = .active) :
    (changeState .deactivate).wp env (fun r g' => r = .ok () ∧ TornDown g'.shared) g := by
  apply wp_mono (change_step .deactivate)
  intro r g' hstep
  cases hstep with
  | unavailable hgoal =>
    rw [hactive] at hgoal
    cases hgoal
  | deactivated hstate hshared =>
    rw [hshared]
    exact ⟨rfl, tornDown_goInactive _ _⟩

lemma shutdown_completes (hactive : g.shared.currentState = .active) :
    (changeState .shutdown).wp env (fun r g' => r = .ok () ∧ TornDown g'.shared) g := by
  apply wp_mono (change_step .shutdown)
  intro r g' hstep
  cases hstep with
  | unavailable hgoal =>
    rw [hactive] at hgoal
    cases hgoal
  | shutDown hstate hshared =>
    rw [hshared]
    exact ⟨rfl, tornDown_goUnconfigured _ _⟩

/-- Whenever a run leaves the active state, zero gravity is attended to exactly if the node is
not shut down while it is reported. -/
theorem zero_g_attended_iff : ∀ g : World σ, Reachable env g →
    g.shared.currentState = .active →
      ∀ cb, (step env cb g).shared.currentState ≠ .active →
        (Attended env cb g ↔ ¬ (cb = .changeState .shutdown ∧ ZeroGReported env g)) := by
  intro g _ hactive cb hleft
  rcases leaves_active hactive hleft with rfl | rfl
  · have hcompletes : (changeState .deactivate).wp env _ g := deactivate_completes hactive
    have hstops : (changeState .deactivate).wp env _ g := changeState_deactivate_stops hactive
    apply iff_of_true
    · refine ⟨?_, ⟨(), hcompletes.1⟩, hcompletes.2⟩
      intro hreported new hnew
      obtain ⟨new', hnew', hfirst⟩ := hstops
      obtain rfl : new' = new := List.append_cancel_right (hnew'.symm.trans hnew)
      exact hfirst hreported
    · rintro ⟨hcb, -⟩
      cases hcb
  · have hcompletes : (changeState .shutdown).wp env _ g := shutdown_completes hactive
    constructor
    · rintro h ⟨-, hreported⟩
      obtain ⟨new, hnew⟩ := run_history (changeState .shutdown) env g
      exact shutdown_never_stops hnew (h.stopped hreported new hnew)
    · intro hnot
      refine ⟨?_, ⟨(), hcompletes.1⟩, hcompletes.2⟩
      intro hreported
      exact absurd ⟨rfl, hreported⟩ hnot

/-- The bench with an arm that enters and leaves zero gravity when it is told to. -/
def floatingBench : Environment (Bool × Bench)
  | .query .zeroGActive, (floating, b)     => (floating, (floating, b))
  | .command (.zeroGStart _), (_, b)       => (.ok (), (true, b))
  | .command (.zeroGStop _), (_, b)        => (.ok (), (false, b))
  | c, (floating, b)                       => ((bench c b).1, (floating, (bench c b).2))

/-- A node in service whose arm is pushed by hand. -/
def floatingNode : World (Bool × Bench) :=
  runAll floatingBench Callback.code
    [.changeState .configure, .changeState .activate, .service .zeroG ⟨true⟩]
    (World.fresh "litearm_driver" {} (false, { upcoming := [{}] }))

lemma reachable_floatingNode : Reachable floatingBench floatingNode :=
  reachable_runAll _ (.fresh _ _ _)

lemma active_floatingNode : floatingNode.shared.currentState = .active := by decide +kernel

lemma zeroGReported_floatingNode : ZeroGReported floatingBench floatingNode := by
  constructor
  · decide +kernel
  · decide +kernel

theorem zero_g_attended_iff_deactivated :
    Attended floatingBench (.changeState .deactivate) floatingNode ↔
      ¬ (Callback.changeState .deactivate = .changeState .shutdown ∧
        ZeroGReported floatingBench floatingNode) :=
  zero_g_attended_iff floatingNode reachable_floatingNode active_floatingNode
    (.changeState .deactivate) (by decide +kernel)

/-- A shutdown from the active state does not stop zero gravity. -/
theorem zero_g_outlives_shutdown :
    Reachable floatingBench floatingNode ∧ floatingNode.shared.currentState = .active ∧
      ¬ Attended floatingBench (.changeState .shutdown) floatingNode := by
  refine ⟨reachable_floatingNode, active_floatingNode, ?_⟩
  intro h
  obtain ⟨new, hnew⟩ := run_history (changeState .shutdown) floatingBench floatingNode
  exact shutdown_never_stops hnew (h.stopped zeroGReported_floatingNode new hnew)

end LitearmDriver
