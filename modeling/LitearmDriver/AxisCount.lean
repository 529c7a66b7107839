import LitearmDriver.Bench
import LitearmDriver.Steps

/-!
# The axis count of the node and of the firmware

The node uses one joint name per axis, and settles the names when it is configured. The
session under it can be rebuilt by `reconnect`, and nothing compares the names with the
device that answers then.
-/

namespace LitearmDriver

open Interaction Program

variable {σ : Type} {env : Environment σ} {g : World σ}

/-! ### The session of the SDK -/

/-- The axis count the SDK reports. -/
def axesOf (env : Environment σ) (w : σ) : Nat := (env (.query .n) w).1

/-- Within one session the SDK reports one axis count: it changes only by a call that opens a
session. -/
structure Steady (env : Environment σ) : Prop where
  axes : ∀ c w, ¬ c.Opens → axesOf env (env c w).2 = axesOf env w

/-- The axis count of the session outlives every call that opens no other. -/
lemma Steady.evolves (h : Steady env) {P : Call → Prop} (hP : ∀ c, P c → ¬ c.Opens) {w w' : σ}
    (hw : Evolves env P w w') : axesOf env w' = axesOf env w := by
  refine hw.invariant (I := fun w' => axesOf env w' = axesOf env w) (fun c w' hc hsame => ?_) rfl
  exact (h.axes c w' (hP c hc)).trans hsame

/-! ### One callback -/

/-- The SDK reports as many axes as there are joint names. -/
def AxesAgree (env : Environment σ) (g : World σ) : Prop :=
  g.shared.currentState.Configured → axesOf env g.outside = g.shared.jointCount

/-- After a reconnect on a configured node the SDK reports as many axes as there are names,
whether the reconnect returned or threw and whatever it says of the link. -/
def SameAxes (env : Environment σ) (cb : Callback) (g : World σ) : Prop :=
  cb = .service .reconnect () → g.shared.currentState.Configured → g.shared.arm.isSome = true →
    axesOf env (afterReconnect env g).outside = g.shared.jointCount

/-- A transition that is no successful configuration leads into a configured state only from
one, and keeps the names. -/
lemma TransitionStep.keeps_names {t : Transition} {r : Except Abort Unit} {g' : World σ}
    (h : TransitionStep env g t r g')
    (hother : ¬ (t = .configure ∧ g.shared.currentState = .unconfigured ∧
      g'.shared.currentState = .inactive))
    (hafter : g'.shared.currentState.Configured) :
    g.shared.currentState.Configured ∧ g'.shared.jointCount = g.shared.jointCount := by
  rcases h.settled with hout | hsettled
  · exact absurd hafter hout
  cases hsettled with
  | unavailable => exact ⟨hafter, rfl⟩
  | configured hstate hshared =>
    exact absurd ⟨rfl, hstate, congrArg Node.currentState hshared⟩ hother
  | headless hstate hshared =>
    rw [hstate, hshared]
    exact ⟨trivial, Node.goActive_jointCount _⟩
  | activated hstate hshared =>
    rw [hstate, hshared]
    exact ⟨trivial, Node.goActive_jointCount _⟩
  | deactivated hstate hshared =>
    rw [hstate, hshared]
    exact ⟨trivial, rfl⟩

/-- So does every callback that is no successful configuration. -/
lemma step_keeps_names {cb : Callback}
    (hother : ¬ (cb = .changeState .configure ∧ g.shared.currentState = .unconfigured ∧
      (step env cb g).shared.currentState = .inactive))
    (hafter : (step env cb g).shared.currentState.Configured) :
    g.shared.currentState.Configured ∧
      (step env cb g).shared.jointCount = g.shared.jointCount := by
  by_cases hcb : ∃ t, cb = .changeState t
  · obtain ⟨t, rfl⟩ := hcb
    have hstep : (changeState t).wp env (TransitionStep env g t) g := change_step t
    refine TransitionStep.keeps_names hstep ?_ hafter
    rintro ⟨rfl, hbefore, hinactive⟩
    exact hother ⟨rfl, hbefore, hinactive⟩
  · have hno : ∀ t, cb ≠ .changeState t := fun t ht => hcb ⟨t, ht⟩
    exact ⟨step_currentState hno ▸ hafter, step_jointCount hno⟩

/-- A configuration that succeeds settles the names by the firmware's count. -/
lemma axesAgree_configure {r : Except Abort Unit} {g' : World σ} (hsteady : Steady env)
    (h : AxesAgree env g) (hstep : TransitionStep env g .configure r g') : AxesAgree env g' := by
  rcases hstep.settled with hout | hsettled
  · exact fun hafter => absurd hafter hout
  cases hsettled with
  | unavailable => exact h
  | @configured home axes x w g' hstate hshared haxes hnames hevolves =>
    intro _
    rw [hnames, ← haxes]
    exact hsteady.evolves (fun c hc => hc.not_opens nofun nofun) hevolves

/-- A reconnect keeps the names, so it keeps the agreement only if the device has as many. -/
lemma axesAgree_reconnect {response : Reply Unit} {g' : World σ} (hsteady : Steady env)
    (h : AxesAgree env g) (hsame : SameAxes env (.service .reconnect ()) g)
    (hexit : ReconnectExit env g response g') : AxesAgree env g' := by
  have hkept : axesOf env ((afterReconnect env g).after env (.command .license)).outside =
      axesOf env (afterReconnect env g).outside :=
    hsteady.axes (.command .license) _ id
  cases hexit with
  | unconfigured => exact h
  | unreachable harm => exact fun hconfigured => hsame rfl hconfigured harm
  | unlicensed harm => exact fun hconfigured => hkept.trans (hsame rfl hconfigured harm)
  | @rebuilt license harm =>
    intro hconfigured
    refine Eq.trans ?_ (hkept.trans (hsame rfl hconfigured harm))
    refine hsteady.evolves (P := fun c => ¬ c.Opens) (fun c hc => hc) ?_
    exact .tail (.single ⟨.query .portString, id, rfl⟩) ⟨.query .firmware, id, rfl⟩

/-- One callback keeps the agreement, unless it is a reconnect to another kind of arm. -/
lemma axesAgree_step {cb : Callback} (hsteady : Steady env) (hsame : SameAxes env cb g)
    (h : AxesAgree env g) : AxesAgree env (step env cb g) := by
  by_cases hopen : cb.MayOpen
  · rcases Callback.mayOpen_iff.mp hopen with rfl | rfl
    · exact axesAgree_configure hsteady h (change_step .configure)
    · have hexit : (handleReconnect default).wp env _ g := reconnect_exit default
      obtain ⟨response, -, -, hexit⟩ := hexit
      exact axesAgree_reconnect hsteady h hsame hexit
  intro hafter
  obtain ⟨hevolves, -⟩ := step_unopened env g hopen
  obtain ⟨hbefore, hnames⟩ : g.shared.currentState.Configured ∧
      (step env cb g).shared.jointCount = g.shared.jointCount := by
    refine step_keeps_names ?_ hafter
    rintro ⟨rfl, -, -⟩
    exact hopen trivial
  rw [hnames, ← h hbefore]
  exact hsteady.evolves (fun c hc => hc) hevolves

/-! ### Runs -/

/-- When the SDK is steady within a session, in every run whose reconnects find a device with
as many axes as there are joint names: a configured node uses exactly as many names as the
firmware reports axes, in particular on a live link. -/
theorem axis_counts_agree (hsteady : Steady env) :
    ∀ g : World σ, ReachableWhen env (SameAxes env) g → g.shared.currentState.Configured →
      g.shared.jointCount = g.answer env (.query .n) := by
  intro g hg hconfigured
  have hagree : AxesAgree env g :=
    hg.invariant (I := AxesAgree env) (fun _ _ _ hfresh => absurd hfresh id)
      fun _ _ hsame h => axesAgree_step hsteady hsame h
  exact (hagree hconfigured).symm

/-- The bench opens the next session as the SDK does. -/
lemma steady_bench : Steady bench := by
  constructor
  intro c b hc
  cases c with
  | command c =>
    cases c with
    | connect => exact absurd trivial hc
    | reconnect => exact absurd trivial hc
    | _ => rfl
  | _ => rfl

theorem axis_counts_agree_reconnected :
    (benchRun {} [{}, {}] [.changeState .configure, .service .reconnect ()]).shared.jointCount =
      6 := by
  refine axis_counts_agree steady_bench _ (.step _ ?_ (.step _ ?_ (.fresh _ _ _))) trivial
  · exact fun _ _ _ => rfl
  · exact nofun

/-- A six-axis arm was configured, and a seven-axis one answered the reconnect. -/
def swappedBench : World Bench :=
  benchRun {} [{ axes := 6 }, { axes := 7 }]
    [.changeState .configure, .changeState .activate, .service .reconnect ()]

/-- The node goes on with six names on an arm of seven axes. -/
theorem axis_counts_differ :
    Reachable bench swappedBench ∧ swappedBench.shared.currentState = .active ∧
      LinkUp bench swappedBench ∧
      swappedBench.shared.jointCount ≠ swappedBench.answer bench (.query .n) := by
  refine ⟨reachable_benchRun _ _ _, rfl, ⟨rfl, rfl⟩, ?_⟩
  decide

end LitearmDriver
