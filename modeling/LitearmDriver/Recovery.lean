import LitearmDriver.Delivery

/-!
# Recovery

A transition can fail in many ways, and some of them leave things behind. None of them wedges
the node: once SDK and middleware cooperate, `configure` and `activate` bring it into service
from every state but the final one.
-/

namespace LitearmDriver

open Interaction Program

variable {σ τ : Type} {env : Environment σ} {g : World σ}

/-! ### What a configured node holds -/

/-- A configured node holds its session and its status publisher, and an active one a server
for every service. -/
structure Equipped (node : Node) : Prop where
  held : node.currentState = .inactive ∨ node.currentState = .active →
    node.arm.isSome = true ∧ node.statusPublisher ≠ none
  served : node.currentState = .active → ∀ s : Service, s.name ∈ node.services

lemma equipped_lifecycleMembers (node : Node) : Equipped node.lifecycleMembers ↔ Equipped node :=
  ⟨fun h => ⟨h.held, h.served⟩, fun h => ⟨h.held, h.served⟩⟩

/-- The other states ask for nothing. -/
lemma Equipped.of_unconfigured {node : Node} (h : node.currentState = .unconfigured) :
    Equipped node := by
  constructor
  · rintro (hstate | hstate) <;> cases h.symm.trans hstate
  · exact fun hstate => by cases h.symm.trans hstate

lemma equipped_change {t : Transition} {r : Except Abort Unit} {g' : World σ}
    (h : Equipped g.shared) (hstep : TransitionStep env g t r g') : Equipped g'.shared := by
  cases hstep with
  | unavailable => exact h
  | unopened home hstate harm hshared =>
    rw [hshared]
    exact .of_unconfigured hstate
  | unpublished home axes hstate hframe hsent hfailed =>
    have hsame := congrArg Node.currentState hframe
    exact .of_unconfigured (hsame.trans ((openSession_currentState _ _ _).trans hstate))
  | @configured home axes x w g' hstate hshared =>
    rw [hshared, Node.addPublishers_eq]
    cases x <;> exact ⟨fun _ => ⟨rfl, by rintro ⟨⟩⟩, by rintro ⟨⟩⟩
  | sessionless hstate harm hshared =>
    rw [hshared]
    exact .of_unconfigured rfl
  | refused hstate harm hauto henable hshared =>
    rw [hshared]
    exact .of_unconfigured rfl
  | unserved hstate hframe hfailed => exact .of_unconfigured (congrArg Node.currentState hframe)
  | headless hstate hstatus => exact absurd hstatus (h.held (.inl hstate)).2
  | activated hstate harm hstatus hshared =>
    rw [hshared]
    refine ⟨fun _ => ⟨?_, ?_⟩, fun _ s => ?_⟩
    · have hsame := congrArg Node.arm (touchesEntities_goActive g.shared)
      exact (congrArg Option.isSome hsame).trans harm
    · exact (not_congr g.shared.goActive_statusPublisher_eq_none).mpr hstatus
    · rw [Node.goActive_eq]
      exact List.mem_append_right _ (List.mem_map_of_mem (Service.mem_all s))
  | deactivated hstate hshared =>
    obtain ⟨harm, hstatus⟩ := h.held (.inr hstate)
    rw [hshared]
    refine ⟨fun _ => ⟨harm, ?_⟩, by rintro ⟨⟩⟩
    simpa [Node.enter, Node.goInactive, Node.switchPublishers] using hstatus
  | cleaned hstate hshared =>
    rw [hshared]
    exact .of_unconfigured rfl
  | shutDown hstate hshared =>
    rw [hshared]
    refine ⟨?_, by rintro ⟨⟩⟩
    rintro (hstate | hstate) <;> cases hstate

lemma equipped_step (env : Environment σ) (cb : Callback) (h : Equipped g.shared) :
    Equipped (step env cb g).shared := by
  refine step_keeps equipped_lifecycleMembers ?_ h
  rintro t rfl
  exact equipped_change h (change_step t)

lemma equipped_reachable (h : Reachable env g) : Equipped g.shared :=
  h.invariant (I := fun g => Equipped g.shared) (fun _ _ _ => .of_unconfigured rfl)
    fun cb _ _ hg => equipped_step env cb hg

/-! ### Cooperation -/

/-- The device on the port reports `axes` axes, and nothing that a transition needs is refused.
The licence record need not be readable. -/
structure Cooperative (env : Environment σ) (axes : Nat) : Prop where
  creates : Creates env
  builds : ∀ options w, (env (.createArm options) w).1 = .ok true
  connects : ∀ w, (env (.command .connect) w).1 = .ok ()
  enables : ∀ attempts w, (env (.command (.enable attempts)) w).1 = .ok ()
  axes : ∀ w, (env (.query .n) w).1 = axes

variable {axes : Nat}

lemma Cooperative.openArm (h : Cooperative env axes) (harm : g.shared.arm.isSome = true) :
    openArm.wp env (fun r g' => r = .ok true ∧ g'.shared = g.shared) g := by
  rw [LitearmDriver.openArm, wp_catching, wp_bind, wp_armCommand harm, wp_command]
  have hconnect : g.answer env (.command .connect) = .ok () := h.connects _
  rw [hconnect]
  exact ⟨rfl, rfl⟩

lemma Cooperative.replaceArm (h : Cooperative env axes) (options : ArmOptions) :
    (replaceArm options).wp env
      (fun r g' => r = .ok () ∧ g'.shared = { g.shared with arm := some ⟨options⟩ }) g := by
  have hbuilt : g.answer env (.createArm options) = .ok true := h.builds _ _
  rw [LitearmDriver.replaceArm, wp_bind, wp_ask]
  dsimp only
  rw [wp_bind, hbuilt, wp_orThrow_ok]
  dsimp only
  rw [wp_bind, wp_self]
  dsimp only
  split <;> exact ⟨rfl, rfl⟩

/-- The names given, if any are, are as many as the axes. -/
def Fit (names : List String) (axes : Nat) : Prop := names = [] ∨ names.length = axes

lemma Fit.establishNames (h : Fit g.shared.jointNames axes) :
    (establishNames axes).wp env (fun r g' => r = .ok true ∧ g'.shared.arm = g.shared.arm) g := by
  rw [LitearmDriver.establishNames, wp_bind, wp_self]
  dsimp only
  split
  case isTrue => exact ⟨rfl, rfl⟩
  case isFalse hgiven =>
    have hlength : g.shared.jointNames.length = axes := h.resolve_left (by simpa using hgiven)
    simp only [hlength, decide_true]
    exact ⟨rfl, rfl⟩

lemma Cooperative.onConfigure (h : Cooperative env axes)
    (hfit : Fit g.shared.parameters.jointNames axes) :
    onConfigure.wp env (fun r _ => r = .ok .success) g := by
  rw [LitearmDriver.onConfigure, wp_bind]
  refine wp_readParameters fun home g₁ hshared₁ _ => ?_
  dsimp only
  rw [wp_bind, wp_assign]
  dsimp only
  have hfit₂ : Fit (g₁.update .beginSession).shared.jointNames axes := by
    rw [Config.update_shared, hshared₁]
    exact hfit
  generalize g₁.update .beginSession = g₂ at hfit₂
  rw [wp_bind, wp_self]
  dsimp only
  rw [wp_bind]
  refine wp_mono (h.replaceArm _) ?_
  rintro _ g₃ ⟨rfl, hshared₃⟩
  have harm₃ : g₃.shared.arm.isSome = true := by rw [hshared₃]; rfl
  dsimp only
  rw [wp_bind, wp_self]
  dsimp only
  rw [if_neg (by simpa [Option.isSome_iff_ne_none] using harm₃), wp_bind]
  refine wp_mono (h.openArm harm₃) ?_
  rintro _ g₄ ⟨rfl, hshared₄⟩
  have harm₄ : g₄.shared.arm.isSome = true := by rw [hshared₄, harm₃]
  dsimp only
  rw [Bool.not_true, if_neg Bool.false_ne_true, wp_bind, wp_armQuery harm₄, wp_query]
  dsimp only
  have haxes : g₄.answer env (.query .n) = axes := h.axes _
  have hfit₄ : Fit g₄.shared.jointNames axes := by
    rw [hshared₄, hshared₃]
    exact hfit₂
  rw [haxes, wp_bind]
  refine wp_mono (Fit.establishNames (by exact hfit₄)) ?_
  rintro _ g₅ ⟨rfl, harm₅⟩
  dsimp only
  rw [Bool.not_true, if_neg Bool.false_ne_true]
  refine wp_finishConfigure ((congrArg Option.isSome harm₅).trans harm₄) (fun _ _ _ _ => rfl) ?_
  exact fun _ _ _ _ _ hfailed => absurd hfailed h.creates.not_failed

/-! ### Back into service -/

lemma Cooperative.configure (h : Cooperative env axes)
    (hfit : Fit g.shared.parameters.jointNames axes)
    (hstate : g.shared.currentState = .unconfigured) :
    (step env (.changeState .configure) g).shared.currentState = .inactive := by
  change (changeState .configure).wp env (fun _ g' => g'.shared.currentState = .inactive) g
  have hgoal : Transition.configure.goal g.shared.currentState = some .inactive := by
    rw [hstate]
    rfl
  refine wp_mono (change_exit_of hgoal (h.onConfigure hfit)) fun r g' hexit => ?_
  cases hexit with
  | done => rfl
  | kept hr => cases hr
  | failed hr hsuccess => rcases hr with hr | ⟨what, hr⟩ <;> cases hsuccess.symm.trans hr
  | undefined hr => cases hr

lemma Cooperative.activate (h : Cooperative env axes) (hequipped : Equipped g.shared)
    (hstate : g.shared.currentState = .inactive) :
    (step env (.changeState .activate) g).shared.currentState = .active := by
  change (changeState .activate).wp env (fun _ g' => g'.shared.currentState = .active) g
  refine wp_mono (change_step .activate) fun r g' hstep => ?_
  obtain ⟨harm, hstatus⟩ := hequipped.held (.inl hstate)
  cases hstep with
  | unavailable hgoal => simp [hstate, Transition.goal] at hgoal
  | sessionless _ hnone => simp [hnone] at harm
  | refused _ _ _ henable => cases henable.symm.trans (h.enables _ _)
  | unserved _ _ hfailed => exact absurd hfailed h.creates.not_failed
  | headless _ hnone => exact absurd hnone hstatus
  | activated _ _ _ hshared =>
    rw [hshared]
    rfl

lemma step_unavailable {t : Transition} (hgoal : t.goal g.shared.currentState = none) :
    step env (.changeState t) g = g := congrArg Prod.snd (change_unavailable hgoal)

/-- The two transitions that lead into service, from any state but the final one. -/
lemma Cooperative.serve (h : Cooperative env axes) (hequipped : Equipped g.shared)
    (hstate : g.shared.currentState ≠ .finalized)
    (hfit : Fit g.shared.parameters.jointNames axes) :
    (step env (.changeState .activate)
      (step env (.changeState .configure) g)).shared.currentState = .active := by
  cases hcurrent : g.shared.currentState with
  | unconfigured =>
    exact h.activate (equipped_step env _ hequipped) (h.configure hfit hcurrent)
  | inactive =>
    rw [step_unavailable (t := .configure) (by rw [hcurrent]; rfl)]
    exact h.activate hequipped hcurrent
  | active =>
    have hsame : step env (.changeState .configure) g = g :=
      step_unavailable (by rw [hcurrent]; rfl)
    rw [hsame, step_unavailable (by rw [hcurrent]; rfl)]
    exact hcurrent
  | finalized => exact absurd hcurrent hstate

/-- Whatever happened to the node before, once the outside cooperates it gets from any state
but the final one into service by `configure` and `activate`, and every service is there. -/
theorem recovers {env' : Environment τ} (h : Reachable env g)
    (hstate : g.shared.currentState ≠ .finalized)
    (hfit : Fit g.shared.parameters.jointNames axes) (henv : Cooperative env' axes) (w : τ) :
    let g' := runAll env' Callback.code [.changeState .configure, .changeState .activate]
      ⟨g.shared, w, []⟩
    g'.shared.currentState = .active ∧
      ∀ s request, (Callback.service s request).deliverable g'.shared = true := by
  intro g'
  have hequipped : Equipped g.shared := equipped_reachable h
  have hactive : g'.shared.currentState = .active :=
    henv.serve (g := ⟨g.shared, w, []⟩) hequipped hstate hfit
  have hserved : Equipped g'.shared := equipped_step env' _ (equipped_step env' _ hequipped)
  exact ⟨hactive, fun s request => decide_eq_true (hserved.served hactive s)⟩

/-- A bench that is always at the start of its only session. -/
def steadyBench : Environment Unit := fun c _ => ((bench c {}).1, ())

lemma cooperative_steadyBench : Cooperative steadyBench 6 where
  creates _ _ := rfl
  builds _ _ := rfl
  connects _ := rfl
  enables _ _ := rfl
  axes _ := rfl

/-- After an ENABLE that was refused. -/
theorem recovers_refused :
    (runAll steadyBench Callback.code [.changeState .configure, .changeState .activate]
      ⟨(benchRun {} [{ enable := .error "the licence is not activated" }]
        [.changeState .configure, .changeState .activate]).shared, (), []⟩).shared.currentState =
      .active :=
  (recovers (reachable_benchRun _ _ _) (by decide) (.inl rfl) cooperative_steadyBench ()).1

end LitearmDriver
