import LitearmDriver.Interaction.Inevitable
import LitearmDriver.Recovery

/-!
# The launch file

The launch file starts the node and, unless told not to, drives its lifecycle: it requests
`configure` when the process starts and `activate` each time the node gets to inactive. Its
requests are served between whatever else the node is asked for, in no particular order.
-/

namespace LitearmDriver

open Interaction Program

variable {σ : Type} {env : Environment σ} {autostart : Bool} {axes : Nat}

/-! ### The launched system -/

/-- The node under its launch file, and the requests of the launch file that are not served
yet. -/
structure Launched (σ : Type) where
  node : World σ
  pending : List Transition

/-- `OnProcessStart`: the node is to be configured. -/
def onProcessStart (autostart : Bool) : List Transition :=
  if autostart then [.configure] else []

/-- `OnStateTransition` with the goal state `inactive`: the node is to be activated. -/
def onStateTransition (autostart : Bool) (start goal : PrimaryState) : List Transition :=
  if autostart ∧ start ≠ goal ∧ goal = .inactive then [.activate] else []

/-- What launch files of the node start with. -/
def Launched.start (autostart : Bool) (p : Parameters) (outside : σ) : Launched σ :=
  ⟨.fresh "driver" p outside, onProcessStart autostart⟩

/-- The node runs a callback, and the launch file reacts to the transition it made. -/
def Launched.run (env : Environment σ) (autostart : Bool) (cb : Callback) (l : Launched σ) :
    Launched σ :=
  let node := step env cb l.node
  ⟨node, l.pending ++
    onStateTransition autostart l.node.shared.currentState node.shared.currentState⟩

/-- A pending request of the launch file is served. -/
inductive Serves (env : Environment σ) (autostart : Bool) : Launched σ → Launched σ → Prop where
  | serve {l : Launched σ} (t : Transition) (before after : List Transition)
      (h : l.pending = before ++ t :: after) :
    Serves env autostart l
      (Launched.run env autostart (.changeState t) ⟨l.node, before ++ after⟩)

/-- What the system gets to when others may ask for anything in between. -/
inductive LaunchReachable (env : Environment σ) (autostart : Bool) : Launched σ → Prop where
  | start (p : Parameters) (outside : σ) :
    LaunchReachable env autostart (.start autostart p outside)
  | other (cb : Callback) {l : Launched σ} (h : LaunchReachable env autostart l) :
    LaunchReachable env autostart (l.run env autostart cb)
  | serve {l l' : Launched σ} (h : LaunchReachable env autostart l)
      (hserve : Serves env autostart l l') : LaunchReachable env autostart l'

/-! ### The node under the launch file -/

/-- What is pending is `configure` or `activate`, and a node that is inactive is about to be
activated. -/
structure Driven (l : Launched σ) : Prop where
  equipped : Equipped l.node.shared
  requests : ∀ t ∈ l.pending, t = .configure ∨ t = .activate
  inactive : l.node.shared.currentState = .inactive → .activate ∈ l.pending

/-- The only reaction is a request to activate. -/
lemma eq_activate_of_mem {start goal : PrimaryState} {t : Transition}
    (h : t ∈ onStateTransition autostart start goal) : t = .activate := by
  rw [onStateTransition] at h
  split at h
  · exact List.mem_singleton.mp h
  · cases h

/-- An activation does not leave a node inactive. -/
lemma activate_leaves_inactive (env : Environment σ) {g : World σ} (h : Equipped g.shared)
    (hstate : g.shared.currentState = .inactive) :
    (step env (.changeState .activate) g).shared.currentState ≠ .inactive := by
  change (changeState .activate).wp env (fun _ g' => g'.shared.currentState ≠ .inactive) g
  refine wp_mono (change_step .activate) fun r g' hstep => ?_
  cases hstep with
  | unavailable hgoal => simp [hstate, Transition.goal] at hgoal
  | sessionless _ _ hshared =>
    rw [hshared]
    rintro ⟨⟩
  | refused _ _ _ _ hshared =>
    rw [hshared]
    rintro ⟨⟩
  | unserved _ hframe _ =>
    have hsame : g'.shared.currentState = .unconfigured := congrArg Node.currentState hframe
    rw [hsame]
    rintro ⟨⟩
  | headless _ hnone => exact absurd hnone (h.held (.inl hstate)).2
  | activated _ _ _ hshared =>
    rw [hshared]
    rintro ⟨⟩

/-- A callback that leaves the node inactive finds it so, or an activation is requested. -/
lemma Driven.run {l : Launched σ} {pending : List Transition} (h : Driven l) (cb : Callback)
    (hrequests : ∀ t ∈ pending, t ∈ l.pending)
    (hkept : .activate ∈ l.pending → .activate ∈ pending ∨
      cb = .changeState .activate) :
    Driven (Launched.run env true cb ⟨l.node, pending⟩) := by
  refine ⟨equipped_step env cb h.equipped, fun t ht => ?_, fun hinactive => ?_⟩
  · rcases List.mem_append.mp ht with ht | ht
    · exact h.requests t (hrequests t ht)
    · exact .inr (eq_activate_of_mem ht)
  · apply List.mem_append.mpr
    by_cases hstate : l.node.shared.currentState = .inactive
    · rcases hkept (h.inactive hstate) with hkept | rfl
      · exact .inl hkept
      · exact absurd hinactive (activate_leaves_inactive env h.equipped hstate)
    · right
      change _ ∈ onStateTransition true l.node.shared.currentState
        (step env cb l.node).shared.currentState
      rw [onStateTransition, if_pos]
      · exact List.mem_singleton_self _
      · refine ⟨rfl, fun hsame => hstate (hsame.trans hinactive), hinactive⟩

lemma Driven.serve {l l' : Launched σ} (h : Driven l) (hserve : Serves env true l l') :
    Driven l' := by
  obtain ⟨t, before, after, hpending⟩ := hserve
  refine h.run _ (fun t' ht' => ?_) fun hmem => ?_
  · rw [hpending]
    simp only [List.mem_append, List.mem_cons] at ht' ⊢
    tauto
  · by_cases ht : t = .activate
    · exact .inr (congrArg _ ht)
    · left
      rw [hpending] at hmem
      simp only [List.mem_append, List.mem_cons] at hmem ⊢
      tauto

lemma driven_reachable {l : Launched σ} (h : LaunchReachable env true l) : Driven l := by
  induction h with
  | start p outside =>
    refine ⟨.of_unconfigured rfl, fun t ht => .inl (List.mem_singleton.mp ht), ?_⟩
    rintro ⟨⟩
  | other cb h ih => exact ih.run cb (fun _ => id) .inl
  | serve h hserve ih => exact ih.serve hserve

/-- Told not to drive the lifecycle, the launch file asks for nothing. -/
lemma pending_of_manual {l : Launched σ} (h : LaunchReachable env false l) : l.pending = [] := by
  have hnone (start goal : PrimaryState) : onStateTransition false start goal = [] :=
    if_neg fun h => absurd h.1 Bool.false_ne_true
  induction h with
  | start p outside => rfl
  | other cb h ih => rw [Launched.run, ih, hnone, List.append_nil]
  | serve h hserve ih =>
    obtain ⟨t, before, after, hpending⟩ := hserve
    simp [ih] at hpending

/-- The launch file does not let the node rest in the inactive state: each time it gets there,
whoever asked for that, a request to activate it is pending. Told not to, it requests
nothing. -/
theorem launch_requests {l : Launched σ} (h : LaunchReachable env autostart l) :
    if autostart then l.node.shared.currentState = .inactive → .activate ∈ l.pending
    else l.pending = [] := by
  cases autostart with
  | true => exact (driven_reachable h).inactive
  | false => exact pending_of_manual h

/-- A node that its launch file brought into service. -/
def launchedBench : Launched Unit :=
  let configured : Launched Unit :=
    Launched.run steadyBench true (.changeState .configure) ⟨(Launched.start true {} ()).node, []⟩
  Launched.run steadyBench true (.changeState .activate) ⟨configured.node, []⟩

lemma reachable_launchedBench : LaunchReachable steadyBench true launchedBench :=
  .serve (.serve (.start {} ()) (.serve .configure [] [] rfl)) (.serve .activate [] [] rfl)

/-- A deactivation by hand. -/
theorem launch_requests_deactivate :
    .activate ∈ (launchedBench.run steadyBench true (.changeState .deactivate)).pending :=
  launch_requests (.other (.changeState .deactivate) reachable_launchedBench) rfl

/-! ### Into service -/

/-- How many requests can still be served: one that configures the node may call for another
that activates it. -/
def Launched.rank (l : Launched σ) : Nat :=
  (l.pending.map fun t => if t = .configure then 2 else 1).sum

/-- A configured node, or one whose configuration is pending and will be accepted: the names given
fit the axes. -/
def Startable (axes : Nat) (l : Launched σ) : Prop :=
  l.node.shared.currentState = .inactive ∨ l.node.shared.currentState = .active ∨
    l.node.shared.currentState = .unconfigured ∧ .configure ∈ l.pending ∧
      Fit l.node.shared.parameters.jointNames axes

/-- The node is in service and the launch file at rest. -/
def Started (l : Launched σ) : Prop :=
  l.node.shared.currentState = .active ∧ l.pending = []

/-- A request that is not available leaves the node and calls for nothing. -/
lemma run_unavailable {l : Launched σ} {t : Transition}
    (hgoal : t.goal l.node.shared.currentState = none) :
    l.run env autostart (.changeState t) = l := by
  have hsame : step env (.changeState t) l.node = l.node := step_unavailable hgoal
  rw [Launched.run, hsame, onStateTransition, if_neg (fun h => h.2.1 rfl), List.append_nil]

/-- A callback calls for at most one activation, and for none if it leaves the node in another
state than inactive. -/
lemma rank_run (env : Environment σ) (autostart : Bool) (l : Launched σ) (cb : Callback) :
    (l.run env autostart cb).rank ≤ l.rank + 1 ∧
      ((step env cb l.node).shared.currentState ≠ .inactive →
        (l.run env autostart cb).rank = l.rank) := by
  rw [Launched.run, Launched.rank, onStateTransition]
  split
  case isTrue h =>
    refine ⟨by simp [Launched.rank], fun hother => absurd h.2.2 hother⟩
  case isFalse => simp [Launched.rank]

/-- On a cooperative device serving a request brings the node closer to service. -/
lemma serve_startable (henv : Cooperative env axes) {l l' : Launched σ} (h : Driven l)
    (hstart : Startable axes l) (hserve : Serves env true l l') :
    Startable axes l' ∧ l'.rank < l.rank := by
  obtain ⟨t, before, after, hpending⟩ := hserve
  have hrank : l.rank =
      Launched.rank ⟨l.node, before ++ after⟩ + if t = .configure then 2 else 1 := by
    rw [Launched.rank, hpending]
    simp only [Launched.rank, List.map_append, List.map_cons, List.sum_append, List.sum_cons]
    omega
  have hkept : t ≠ .configure → .configure ∈ l.pending → .configure ∈ before ++ after := by
    intro ht hmem
    rw [hpending] at hmem
    simp only [List.mem_append, List.mem_cons] at hmem ⊢
    tauto
  have hunavailable (hgoal : t.goal l.node.shared.currentState = none)
      (hstart' : Startable axes ⟨l.node, before ++ after⟩) :
      Startable axes (Launched.run env true (.changeState t) ⟨l.node, before ++ after⟩) ∧
        (Launched.run env true (.changeState t) ⟨l.node, before ++ after⟩).rank < l.rank := by
    rw [run_unavailable (by exact hgoal)]
    exact ⟨hstart', by split at hrank <;> omega⟩
  obtain ⟨hle, hother⟩ := rank_run env true ⟨l.node, before ++ after⟩ (.changeState t)
  rcases h.requests t (by rw [hpending]; simp) with rfl | rfl
  · rw [if_pos rfl] at hrank
    rcases hstart with hstate | hstate | ⟨hstate, hmem, hfit⟩
    · exact hunavailable (by rw [hstate]; rfl) (.inl hstate)
    · exact hunavailable (by rw [hstate]; rfl) (.inr (.inl hstate))
    · exact ⟨.inl (henv.configure hfit hstate), by omega⟩
  · rw [if_neg (by rintro ⟨⟩)] at hrank
    rcases hstart with hstate | hstate | ⟨hstate, hmem, hfit⟩
    · have hactive : (step env (.changeState .activate) l.node).shared.currentState = .active :=
        henv.activate h.equipped hstate
      refine ⟨.inr (.inl hactive), ?_⟩
      have hsame := hother (by rw [hactive]; rintro ⟨⟩)
      omega
    · exact hunavailable (by rw [hstate]; rfl) (.inr (.inl hstate))
    · exact hunavailable (by rw [hstate]; rfl)
        (.inr (.inr ⟨hstate, hkept (by rintro ⟨⟩) hmem, hfit⟩))

/-- On a cooperative device the launch file brings the node into service, from the start when the
names given fit the axes and from each time it gets inactive, in whatever order its requests are
served. -/
theorem launch_inevitably_active (henv : Cooperative env axes) {l : Launched σ}
    (h : LaunchReachable env true l) (hstart : Startable axes l) :
    Inevitably (Serves env true) Started l := by
  refine Inevitably.of_measure (I := fun l => Driven l ∧ Startable axes l) Launched.rank ?_
    ⟨driven_reachable h, hstart⟩
  rintro l ⟨hdriven, hstart⟩ hnot
  refine ⟨?_, fun l' hserve => ?_⟩
  · have hpending : l.pending ≠ [] := by
      intro hnone
      rcases hstart with hstate | hstate | ⟨-, hmem, -⟩
      · simpa [hnone] using hdriven.inactive hstate
      · exact hnot ⟨hstate, hnone⟩
      · simp [hnone] at hmem
    obtain ⟨t, rest, hcons⟩ := List.exists_cons_of_ne_nil hpending
    exact ⟨_, .serve t [] rest hcons⟩
  · obtain ⟨hstart', hrank⟩ := serve_startable henv hdriven hstart hserve
    exact ⟨⟨hdriven.serve hserve, hstart'⟩, hrank⟩

/-- A deactivation by hand does not last. -/
theorem launch_inevitably_active_deactivate :
    Inevitably (Serves steadyBench true) Started
      (launchedBench.run steadyBench true (.changeState .deactivate)) :=
  launch_inevitably_active cooperative_steadyBench
    (.other (.changeState .deactivate) reachable_launchedBench) (.inl rfl)

end LitearmDriver
