import LitearmDriver.Bench
import LitearmDriver.Interference

/-!
# Callbacks side by side

The multi-threaded executor of `main`. `sdk_group_` serves one service or timer at a time,
but the requests of the base class, lifecycle transitions among them, are served in the
default group of the node, and nothing orders the two groups. The session is safe as long as
no two callbacks whose calls conflict run at the same time.
-/

namespace LitearmDriver

open Interaction Program

/-! ### Groups -/

/-- The mutually exclusive callback groups of the node. -/
inductive CallbackGroup where
  | sdkGroup
  | defaultGroup
  deriving DecidableEq

/-- Services and timers are created in `sdk_group_`; the services of the base class are not. -/
def Callback.group : Callback → CallbackGroup
  | .changeState _ | .setParameters _ => .defaultGroup
  | _                                 => .sdkGroup

/-- The code of a callback; the executor has no use for its result. -/
def Callback.execute (cb : Callback) : Code Unit := do
  let _ ← cb.code
  return ()

/-- The node and what its callback groups do. -/
abbrev Executor := Pool CallbackGroup Callback Node Call Call.Answer Abort

/-- What the groups can get to from a constructed node by moving in any order, when a
callback begins only where it is admitted. Calls end at any time with any answer. -/
abbrev Interleaved (admitted : Callback → Executor → Prop) : Executor → Prop :=
  Pool.ReachableWhen Callback.group Callback.execute admitted
    fun node => ∃ name p, node = { name := name, parameters := p }

/-! ### What has to hold -/

/-- No command of the SDK is in progress while another one is. -/
def OneCommand (w : Executor) : Prop :=
  ∀ g g' c c', (w.activity g).waiting = some (.command c) →
    (w.activity g').waiting = some (.command c') → g = g'

/-- The session object is not being destroyed while a callback is inside one of its calls. -/
def SessionKept (w : Executor) : Prop :=
  ∀ g g' c, (w.activity g).waiting = some .destroyArm → (w.activity g').waiting = some c →
    c.onArm = false

/-- Two calls that must not be in progress at once: two commands, or the destruction of the
session and a call on it. -/
def Call.Clash (c c' : Call) : Prop :=
  (∃ a b, c = .command a ∧ c' = .command b) ∨
    c = .destroyArm ∧ c'.onArm = true ∨ c.onArm = true ∧ c' = .destroyArm

lemma Call.Clash.symm {c c' : Call} (h : c.Clash c') : c'.Clash c := by
  rcases h with ⟨a, b, hc, hc'⟩ | ⟨hc, hc'⟩ | ⟨hc, hc'⟩
  · exact .inl ⟨b, a, hc', hc⟩
  · exact .inr (.inr ⟨hc', hc⟩)
  · exact .inr (.inl ⟨hc', hc⟩)

/-! ### Callbacks that conflict -/

/-- Both callbacks may send commands, or one may destroy the session that the other uses.
What a callback may do is judged by the members it began with. -/
def Conflict (t t' : Task Callback Node) : Bool :=
  t.callback.commands t.start && t'.callback.commands t'.start ||
  t.callback.destroys t.start && t'.callback.usesArm ||
  t.callback.usesArm && t'.callback.destroys t'.start

/-- A callback begins beside running ones only when it conflicts with none of them. -/
def Apart (cb : Callback) (w : Executor) : Prop :=
  ∀ g t, (w.activity g).task = some t → Conflict ⟨cb, w.shared⟩ t = false

lemma Callback.usesArm_of_commands {cb : Callback} {node : Node}
    (h : cb.commands node = true) : cb.usesArm = true := by
  cases cb with
  | service s request =>
    have hs : s.commands = true := h
    simp only [Service.commands, Bool.and_eq_true] at hs
    exact hs.2
  | setParameters p => cases h
  | _ => rfl

/-- A call on the session object is made by callbacks that use it. -/
lemma Callback.May.usesArm {cb : Callback} {node : Node} {c : Call} (h : cb.May node c)
    (hc : c.onArm = true) : cb.usesArm = true := by
  cases c with
  | query q => exact h hc
  | command c => exact usesArm_of_commands h
  | _ => cases hc

/-- Callbacks that do not conflict make no calls that clash. -/
lemma not_clash {t t' : Task Callback Node} (h : Conflict t t' = false) {c c' : Call}
    (hc : t.callback.May t.start c) (hc' : t'.callback.May t'.start c') : ¬ c.Clash c' := by
  simp only [Conflict, Bool.or_eq_false_iff, Bool.and_eq_false_imp] at h
  obtain ⟨⟨hcommands, hdestroys⟩, huses⟩ := h
  rintro (⟨a, b, rfl, rfl⟩ | ⟨rfl, honArm⟩ | ⟨honArm, rfl⟩)
  · cases (hcommands hc).symm.trans hc'
  · cases (hdestroys hc).symm.trans (hc'.usesArm honArm)
  · cases (huses (hc.usesArm honArm)).symm.trans hc'

/-! ### Bounds -/

/-- Transitions rely on the handlers and timers to leave the members of the lifecycle. -/
def Relies : CallbackGroup → Node → Node → Prop
  | .sdkGroup, _, _            => True
  | .defaultGroup, node, node' => SameLifecycle node node'

def Guarantees : CallbackGroup → Node → Node → Prop
  | .sdkGroup, node, node' => SameLifecycle node node'
  | .defaultGroup, _, _    => True

lemma execute_rg {cb : Callback} {node : Node}
    (h : cb.code.Within (cb.May node) KeepsLifecycle) :
    cb.execute.rg (fun _ _ => True) SameLifecycle (cb.May node) (fun _ _ => True) node := by
  refine Within.rg (I := fun _ => True) (fun _ _ _ h => h) ?_ trivial
  have hcode : cb.execute.Within (cb.May node) KeepsLifecycle := h.bind fun _ => trivial
  apply hcode.mono fun _ hc => hc
  intro f hf s
  exact ⟨hf s, id⟩

theorem bounds : Pool.Bounds Callback.group Callback.execute Relies Guarantees
    fun t => t.callback.May t.start where
  code := by
    intro cb node
    cases cb with
    | changeState t =>
      exact rg_seq (I := fun _ => True) (rg_changeState t node) fun _ _ _ => trivial
    | service s request => exact execute_rg (within_handle s request default)
    | statusTimer =>
      exact execute_rg (within_timer tame_publishStatus calls_publishStatus rfl)
    | diagnosticsTimer =>
      exact execute_rg (within_timer tame_publishDiagnostics calls_publishDiagnostics rfl)
    | setParameters p => exact fun _ _ => ⟨trivial, trivial⟩
  refl := by
    intro g node
    cases g with
    | sdkGroup => trivial
    | defaultGroup => rfl
  trans := by
    intro g node node' node'' h h'
    cases g with
    | sdkGroup => trivial
    | defaultGroup => exact Eq.trans h' h
  fits := by
    intro g g' node node' hg h
    cases g' with
    | sdkGroup => trivial
    | defaultGroup =>
      cases g with
      | sdkGroup => exact h
      | defaultGroup => exact absurd rfl hg

/-! ### Callbacks one after another -/

lemma run_execute {σ : Type} (env : Environment σ) (cb : Callback) (g : World σ) :
    (cb.execute.run env g).2 = step env cb g := by
  rw [Callback.execute, run_bind, step]
  rcases cb.code.run env g with ⟨_ | _, g'⟩ <;> rfl

lemma apart_quiescent (cb : Callback) (node : Node) : Apart cb (.quiescent node) := by
  intro g t ht
  simp [Pool.quiescent, Activity.task] at ht

/-- Callbacks that run one after another are a case of callbacks that keep apart. -/
theorem interleaved_of_reachable {σ : Type} {env : Environment σ} {g : World σ}
    (h : Reachable env g) : Interleaved Apart (.quiescent g.shared) := by
  apply h.invariant (I := fun g => Interleaved Apart (.quiescent g.shared))
  · intro name p w
    exact .quiescent ⟨name, p, rfl⟩
  · intro cb g _ ih
    have hrun := ih.completes env (l := cb) rfl (apart_quiescent cb _) g rfl
    rw [run_execute] at hrun
    simpa [Pool.resume, Pool.quiescent] using hrun

/-- An active node, about to be asked for its status. -/
def activeBench : World Bench :=
  benchRun {} [{}] [.changeState .configure, .changeState .activate]

/-- The calls to stop at. -/
def Call.isSession : Call → Bool
  | .command _  => true
  | .destroyArm => true
  | _           => false

/-! ### One command at a time -/

/-- As long as no callback begins beside one it conflicts with, commands never overlap and
the session is never destroyed under a call. -/
theorem one_command_at_a_time {w : Executor} (h : Interleaved Apart w) :
    OneCommand w ∧ SessionKept w := by
  have hclash : ∀ {g g' : CallbackGroup}, g ≠ g' → ∀ {c c' : Call},
      (w.activity g).waiting = some c → (w.activity g').waiting = some c' → ¬ c.Clash c' := by
    intro g g' hg c c' hc hc'
    apply h.no_clash (fun _ _ => Call.Clash.symm) bounds ?_ hg hc hc'
    intro cb w' hcb g₁ t _ ht c₁ c₂ hc₁ hc₂
    exact not_clash (hcb g₁ t ht) hc₁ hc₂
  constructor
  · intro g g' c c' hc hc'
    by_contra hg
    exact hclash hg hc hc' (.inl ⟨c, c', rfl, rfl⟩)
  · intro g g' c hdestroy hc
    by_cases hg : g = g'
    · subst hg
      obtain rfl : Call.destroyArm = c := by simpa using hdestroy.symm.trans hc
      rfl
    · by_contra honArm
      exact hclash hg hdestroy hc (.inr (.inl ⟨rfl, by simpa using honArm⟩))

/-- A node whose parameters are being set while it waits for a status frame. -/
theorem one_command_at_a_time_get_status :
    ∃ w : Executor, (w.activity .sdkGroup).waiting = some (.command (.getStatusNow 1)) ∧
      (w.activity .defaultGroup).task ≠ none ∧ OneCommand w ∧ SessionKept w := by
  have hactive : Interleaved Apart (.quiescent activeBench.shared) :=
    interleaved_of_reachable (reachable_benchRun _ _ _)
  have hstatus := hactive.enters bench Call.isSession (l := .service .getStatus ⟨1⟩) rfl
    (apart_quiescent _ _) (f := activeBench) rfl rfl
  have hset := hstatus.step (.begin (.setParameters { statusRateHz := 50 }) rfl (by
    rintro (_ | _) t ht <;> cases ht
    rfl))
  obtain ⟨hone, hkept⟩ := one_command_at_a_time hset
  refine ⟨_, rfl, ?_, hone, hkept⟩
  rintro ⟨⟩

/-- The request to shut down begins `close` while `get_status` waits for its frame, and then
destroys the session under it. -/
theorem close_beside_get_status :
    (∃ w, Interleaved (fun _ _ => True) w ∧ ¬ OneCommand w) ∧
      ∃ w, Interleaved (fun _ _ => True) w ∧ ¬ SessionKept w := by
  have hactive : Interleaved (fun _ _ => True) (.quiescent activeBench.shared) :=
    (interleaved_of_reachable (reachable_benchRun _ _ _)).mono fun _ _ _ => trivial
  have hstatus := hactive.enters bench Call.isSession (l := .service .getStatus ⟨1⟩) rfl trivial
    (f := activeBench) rfl rfl
  have hclose := hstatus.enters bench Call.isSession (l := .changeState .shutdown) rfl trivial
    (f := activeBench) rfl rfl
  have hdestroy := hclose.proceeds bench Call.isSession (g := .defaultGroup) (c := .command .close)
    rfl (.ok ()) (f := ⟨_, activeBench.outside, []⟩) rfl rfl
  constructor
  · refine ⟨_, hclose, ?_⟩
    intro hone
    cases hone .sdkGroup .defaultGroup (.getStatusNow 1) .close rfl rfl
  · refine ⟨_, hdestroy, ?_⟩
    intro hkept
    cases hkept .defaultGroup .sdkGroup (.command (.getStatusNow 1)) rfl rfl

end LitearmDriver
