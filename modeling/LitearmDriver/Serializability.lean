import LitearmDriver.Executor
import LitearmDriver.Interaction.Serial
import LitearmDriver.SessionProtocol

/-!
# Parameter updates beside service calls

A parameter may be set while a handler or a timer runs: the two are in different callback
groups. No call acts on a mixture of the old and the new parameters. As long as no lifecycle
transition runs beside anything, whatever the executor does is what callbacks one after
another do, with the same calls to the outside and the same answers.
-/

namespace LitearmDriver

open Interaction Program

/-! ### Kinds of callbacks -/

/-- An update of the parameters is one write; handlers and timers put up with such updates. -/
def Callback.kind : Callback → Kind
  | .setParameters _ => .update
  | .changeState _   => .exclusive
  | _                => .patient

/-- The writes of parameter updates. -/
def SetsParameters (f : Node → Node) : Prop := ∃ p, f = fun node => { node with parameters := p }

lemma Served.glances {s : Service} {α : Type} {p : Code α} (h : Served s p) :
    p.Glances Node.working (fun _ => True) WritesCache := by
  cases h with
  | plain hs h => exact h.any.seesWorking.glances
  | consulting hf h hlocked => exact fun node => (h node).any.seesWorking

lemma glances_code {cb : Callback} (hcb : cb.kind = .patient) :
    cb.code.Glances Node.working (fun _ => True) WritesCache := by
  cases cb with
  | changeState t => cases hcb
  | service s request =>
    by_cases hs : s = .reconnect
    · subst hs
      exact (seesWorking_handleReconnect _).glances
    · exact (served_handle s hs request default).glances
  | statusTimer => exact Serving.publishStatus.seesWorking.glances
  | diagnosticsTimer => exact Serving.publishDiagnostics.seesWorking.glances
  | setParameters p => cases hcb

theorem discipline : Discipline Callback.execute Callback.kind Node.working (fun _ => True)
    WritesCache SetsParameters where
  update := by
    intro cb hcb
    cases cb with
    | setParameters p => exact ⟨_, ⟨p, rfl⟩, rfl⟩
    | _ => cases hcb
  patient := by
    intro cb hcb
    exact (glances_code hcb).bind fun _ => trivial
  hidden := by
    rintro _ ⟨p, rfl⟩ node
    rfl
  commute := by
    rintro _ w ⟨p, rfl⟩ hw node
    rcases hw with ⟨state, stamp, rfl⟩ | ⟨license, rfl⟩ | ⟨percent, rfl⟩ <;> rfl

/-! ### Serial executions -/

/-- No lifecycle transition begins beside another callback, and no callback beside one. -/
def TransitionsAlone (cb : Callback) (w : Executor) : Prop :=
  ∀ g t, (w.activity g).task = some t →
    cb.kind ≠ .exclusive ∧ t.callback.kind ≠ .exclusive

/-- Callbacks of different groups, neither of them a transition: one is an update. -/
lemma beside_of_group_ne {cb cb' : Callback} (hgroup : cb.group ≠ cb'.group)
    (hcb : cb.kind ≠ .exclusive) (hcb' : cb'.kind ≠ .exclusive) :
    Kind.Beside cb.kind cb'.kind := by
  cases cb with
  | changeState t => exact absurd rfl hcb
  | setParameters p => exact .inl ⟨rfl, hcb'⟩
  | _ =>
    cases cb' with
    | changeState t => exact absurd rfl hcb'
    | setParameters p => exact .inr ⟨rfl, hcb⟩
    | _ => exact absurd rfl hgroup

/-- An answer to calls that a script does not foresee. -/
def unforeseen (c : Call) : c.Answer := (bench c {}).1

/-- A node that was just constructed. -/
def Constructed (node : Node) : Prop := ∃ name p, node = { name := name, parameters := p }

/-- What the executor did, with the calls that were answered, most recent first. -/
abbrev Recorded (admitted : Callback → Executor → Prop) :
    Executor → List (Event Call.Answer) → Prop :=
  Pool.Recorded Callback.group Callback.execute admitted Constructed

lemma runAll_execute {σ : Type} (env : Environment σ) (cbs : List Callback) (g : World σ) :
    runAll env Callback.execute cbs g = runAll env Callback.code cbs g := by
  induction cbs generalizing g with
  | nil => rfl
  | cons cb cbs ih =>
    exact (ih _).trans (congrArg (runAll env Callback.code cbs) (run_execute env cb g))

lemma serially_of_reachable {σ : Type} {env : Environment σ} {g : World σ}
    (h : Reachable env g) : Serially Callback.execute Constructed g.shared g.history := by
  apply h.invariant (I := fun g => Serially Callback.execute Constructed g.shared g.history)
  · exact fun name p _ => .initial ⟨name, p, rfl⟩
  · intro cb g _ ih
    obtain ⟨events, hevents, hhistory⟩ := cb.execute.run_executes env g
    rw [run_execute] at hevents hhistory
    rw [hhistory]
    exact ih.step cb hevents

/-- What the executor did when it comes to rest, callbacks one after another do. -/
lemma reachable_of_recorded {node : Node} {history : List (Event Call.Answer)}
    (h : Recorded TransitionsAlone (.quiescent node) history) :
    ∃ (env : Environment (List (Event Call.Answer))) (g : World _),
      Reachable env g ∧ g.shared = node ∧ g.history = history := by
  have hserial : Serially Callback.execute Constructed node history := by
    refine h.serially discipline ?_ fun _ => rfl
    intro cb w hcb g t ht hg hne
    obtain ⟨hkind, hkind'⟩ := hcb g t ht
    refine beside_of_group_ne ?_ hkind hkind'
    rw [hg]
    exact Ne.symm hne
  obtain ⟨_, cbs, script, ⟨name, p, rfl⟩, hrun⟩ := hserial.replayed unforeseen
  have hreachable : Reachable (replay unforeseen) _ :=
    reachable_runAll cbs (.fresh name p (script ++ []))
  refine ⟨replay unforeseen, _, hreachable, ?_⟩
  rw [← runAll_execute, World.fresh, hrun []]
  exact ⟨rfl, rfl⟩

/-- What callbacks one after another do, the executor may do. -/
lemma recorded_of_reachable {σ : Type} {env : Environment σ} {g : World σ}
    (h : Reachable env g) : Recorded TransitionsAlone (.quiescent g.shared) g.history := by
  refine Pool.recorded_of_serially (fun cb node g t ht => ?_) (serially_of_reachable h)
  simp [Pool.quiescent, Activity.task] at ht

/-- Let parameters be set at any time and callbacks be queued as the groups allow, with no
transition beside anything. What the executor can have done when it comes to rest is what
callbacks one after another can do: the same calls, the same answers and the same node. -/
theorem executor_serializable (node : Node) (history : List (Event Call.Answer)) :
    Recorded TransitionsAlone (.quiescent node) history ↔
      ∃ (env : Environment (List (Event Call.Answer))) (g : World _),
        Reachable env g ∧ g.shared = node ∧ g.history = history := by
  constructor
  · exact reachable_of_recorded
  · rintro ⟨env, g, hg, rfl, rfl⟩
    exact recorded_of_reachable hg

/-! ### At every moment -/

instance : Finite CallbackGroup :=
  .of_injective (fun g => g = .sdkGroup) fun g g' => by
    cases g <;> cases g' <;> simp

/-- What the executor has done up to any moment is how callbacks one after another begin. -/
lemma exists_reachable_onto {w : Executor} {history : List (Event Call.Answer)}
    (h : Recorded TransitionsAlone w history) :
    ∃ (env : Environment (List (Event Call.Answer))) (g : World _) (later : _),
      Reachable env g ∧ g.history = later ++ history := by
  obtain ⟨node, later, hrest⟩ := h.settles unforeseen
  obtain ⟨env, g, hg, -, hhistory⟩ := reachable_of_recorded hrest
  exact ⟨env, g, later, hg, hhistory⟩

lemma session_after_recorded {w : Executor} {history : List (Event Call.Answer)}
    (h : Recorded TransitionsAlone w history) :
    ∃ phase, session.after .absent history = some phase := by
  obtain ⟨env, g, later, hg, hhistory⟩ := exists_reachable_onto h
  have hafter := session_after hg
  rw [hhistory, Protocol.after_append, Option.bind_eq_some_iff] at hafter
  obtain ⟨phase, hphase, -⟩ := hafter
  exact ⟨phase, hphase⟩

/-- With no transition beside anything, the calls of the executor follow the protocol of the
SDK session at every moment, in the middle of callbacks too; and every command and accessor,
answered or in progress, is called while exactly one object is alive. -/
theorem executor_follows_protocol (w : Executor) (history : List (Event Call.Answer))
    (h : Recorded TransitionsAlone w history) :
    (∃ phase, session.after .absent history = some phase) ∧
    (∀ later c x earlier, history = later ++ ⟨c, x⟩ :: earlier → c.onArm = true →
      earlier.countP builds = earlier.countP destroys + 1) ∧
    ∀ g c, (w.activity g).waiting = some c → c.onArm = true →
      history.countP builds = history.countP destroys + 1 := by
  obtain ⟨phase, hphase⟩ := session_after_recorded h
  refine ⟨⟨phase, hphase⟩, fun later c x earlier hsplit hc => ?_, fun g c hwaiting hc => ?_⟩
  · exact objects_at_call hphase hsplit hc
  · -- A call in progress is one that may be answered next.
    cases hg : w.activity g with
    | idle => simp [hg, Activity.waiting] at hwaiting
    | running t p => simp [hg, Activity.waiting] at hwaiting
    | inside t c' k =>
      obtain rfl : c' = c := by simpa [hg, Activity.waiting] using hwaiting
      obtain ⟨phase', hphase'⟩ := session_after_recorded (h.answer (unforeseen c') hg)
      exact objects_at_call hphase' (List.nil_append _).symm hc

/-- A parameter is set while a request is served. -/
theorem executor_follows_protocol_beside : ∃ w : Executor,
    Recorded TransitionsAlone w activeBench.history ∧ (∀ g, (w.activity g).task ≠ none) ∧
      ∃ phase, session.after .absent activeBench.history = some phase := by
  have hrest : Recorded TransitionsAlone _ activeBench.history :=
    recorded_of_reachable (reachable_benchRun _ _ _)
  have hpark := hrest.silent
    (.begin (.service .park ()) rfl (by simp [TransitionsAlone, Pool.quiescent, Activity.task]))
    (Pool.silent_turn rfl _)
  have hset := hpark.silent (.begin (.setParameters {}) rfl (by
    rintro (_ | _) t ht <;> cases ht
    exact ⟨by decide, by decide⟩)) (Pool.silent_turn rfl _)
  refine ⟨_, hset, ?_, (executor_follows_protocol _ _ hset).1⟩
  rintro (_ | _) ⟨⟩

end LitearmDriver
