import LitearmDriver.Interaction.Autonomy
import LitearmDriver.OptIns
import LitearmDriver.Serializability
import LitearmDriver.TransitionCode

/-!
# Transitions beside services

Nothing keeps a lifecycle transition from running beside a handler or a timer, and then a
handler can lose the session it uses. The transition loses nothing: it never looks at what the
handlers and timers write. Whatever runs beside them, the transitions and parameter updates do
what they would do alone, and so every session object is destroyed once, by a node that holds
it.
-/

namespace LitearmDriver

open Interaction Program

variable {σ α : Type} {env : Environment σ} {g : World σ}

/-! ### Handlers and timers -/

/-- Calls that neither build nor destroy a session object. -/
def Call.spares : Call → Bool
  | .createArm _ | .destroyArm => false
  | _                          => true

lemma spares_of_isAside {c : Call} (h : c.isAside = true) : c.spares = true := by
  cases c with
  | createArm options => cases h
  | destroyArm => cases h
  | _ => rfl

lemma Serving.spares {C : Command → Prop} {st : Stage} {p : Code α} (h : Serving C st p) :
    p.Calls fun c => c.spares = true :=
  h.calls (fun _ _ => rfl) (fun _ => rfl) fun _ => spares_of_isAside

lemma spares_code {cb : Callback} (hcb : cb.group ≠ .defaultGroup) :
    cb.code.Calls fun c => c.spares = true := by
  cases cb with
  | changeState t => exact absurd rfl hcb
  | setParameters p => exact absurd rfl hcb
  | service s request =>
    by_cases hs : s = .reconnect
    · subst hs
      exact calls_handleReconnect _ rfl rfl fun _ => rfl
    · exact (served_handle s hs request default).calls (fun _ _ => rfl) (fun _ => rfl)
        fun _ => spares_of_isAside
  | statusTimer => exact (Serving.publishStatus (C := fun _ => True)).spares
  | diagnosticsTimer => exact (Serving.publishDiagnostics (C := fun _ => True)).spares

lemma WritesCache.hidden {f : Node → Node} (h : WritesCache f) : Hides Node.settled f := by
  rcases h with ⟨state, stamp, rfl⟩ | ⟨license, rfl⟩ | ⟨percent, rfl⟩ <;> exact fun _ => rfl

lemma patient_of_group {cb : Callback} (hcb : cb.group ≠ .defaultGroup) :
    cb.kind = .patient := by
  cases cb with
  | changeState t => exact absurd rfl hcb
  | setParameters p => exact absurd rfl hcb
  | _ => rfl

/-- The transitions and parameter updates do not see what the handlers and timers write, and
they alone build and destroy session objects. -/
theorem autonomous : Pool.Autonomous Callback.group Callback.execute .defaultGroup Node.settled
    fun c => c.spares = true where
  own := by
    intro cb hcb
    cases cb with
    | changeState t => exact (settled_changeState t).bind fun _ => trivial
    | setParameters p => exact ⟨fun _ => rfl, trivial⟩
    | _ => cases hcb
  others := by
    intro cb hcb
    have hwrites := (glances_code (patient_of_group hcb)).within
    have hwithin := (hwrites.and_calls (spares_code hcb)).mono (fun _ hc => hc.2)
      fun _ => WritesCache.hidden
    exact hwithin.bind fun _ => trivial

/-! ### Transitions alone -/

/-- The calls that were answered and the groups that made them, most recent first. -/
abbrev CallLog := List (CallbackGroup × Event Call.Answer)

/-- What the executor did. Any callback may begin beside any other. -/
abbrev Attributed : Executor → CallLog → Prop :=
  Pool.Attributed Callback.group Callback.execute (fun _ _ => True) Constructed

/-- What transitions and parameter updates can lead to, one after another, with no handlers and
no timers. -/
def TransitionsOnly (env : Environment σ) (g : World σ) : Prop :=
  ∃ name p w cbs, (∀ cb ∈ cbs, Callback.group cb = .defaultGroup) ∧
    g = runAll env Callback.code cbs (World.fresh name p w)

lemma TransitionsOnly.reachable (h : TransitionsOnly env g) : Reachable env g := by
  obtain ⟨name, p, w, cbs, -, rfl⟩ := h
  exact reachable_runAll cbs (.fresh name p w)

/-- Callbacks of the default group, run one after another. -/
lemma runAll_ownCode (cbs : List {cb // Callback.group cb = .defaultGroup}) (g : World σ) :
    runAll env (Pool.ownCode Callback.group Callback.execute .defaultGroup) cbs g =
      runAll env Callback.code (cbs.map Subtype.val) g := by
  induction cbs generalizing g with
  | nil => rfl
  | cons cb cbs ih =>
    exact (ih _).trans (congrArg (runAll env Callback.code _) (run_execute env cb.val g))

lemma transitionsOnly_of_serially {node : Node} {history : List (Event Call.Answer)}
    (h : Serially (Pool.ownCode Callback.group Callback.execute .defaultGroup) Constructed
      node history) :
    ∃ (env : Environment (List (Event Call.Answer))) (g : World _),
      TransitionsOnly env g ∧ g.shared = node ∧ g.history = history := by
  obtain ⟨_, cbs, script, ⟨name, p, rfl⟩, hrun⟩ := h.replayed unforeseen
  refine ⟨replay unforeseen, _, ⟨name, p, script ++ [], cbs.map Subtype.val, ?_, rfl⟩, ?_⟩
  · intro cb hcb
    obtain ⟨cb, -, rfl⟩ := List.mem_map.mp hcb
    exact cb.property
  · rw [← runAll_ownCode, World.fresh, hrun []]
    exact ⟨rfl, rfl⟩

section

variable {w : Executor} {log : CallLog}

/-- When no transition is under way. -/
lemma transitionsOnly_of_idle (h : Attributed w log) (hidle : w.activity .defaultGroup = .idle) :
    ∃ (env : Environment (List (Event Call.Answer))) (g : World _), TransitionsOnly env g ∧
      g.shared.settled = w.shared.settled ∧ g.history = madeBy .defaultGroup log := by
  obtain ⟨node, hnode, hserial⟩ := h.serially autonomous hidle
  obtain ⟨env, g, hg, rfl, hhistory⟩ := transitionsOnly_of_serially hserial
  exact ⟨env, g, hg, hnode, hhistory⟩

/-- At any moment. -/
lemma transitionsOnly_onto (h : Attributed w log) :
    ∃ (env : Environment (List (Event Call.Answer))) (g : World _) (later : _),
      TransitionsOnly env g ∧ g.history = later ++ madeBy .defaultGroup log := by
  obtain ⟨node, later, hserial⟩ := h.begins autonomous unforeseen
  obtain ⟨env, g, hg, -, hhistory⟩ := transitionsOnly_of_serially hserial
  exact ⟨env, g, later, hg, hhistory⟩

end

/-- Let any callbacks run side by side as the groups allow, transitions beside services too.
The calls of the transitions and their answers are how transitions and parameter updates alone
begin; and whenever the default group is idle (no transition and no parameter update under way),
these lead to the same members but the caches. -/
theorem transitions_undisturbed (w : Executor) (log : CallLog)
    (h : Attributed w log) :
    (∃ (env : Environment (List (Event Call.Answer))) (g : World _) (later : _),
      TransitionsOnly env g ∧ g.history = later ++ madeBy .defaultGroup log) ∧
    (w.activity .defaultGroup = .idle →
      ∃ (env : Environment (List (Event Call.Answer))) (g : World _), TransitionsOnly env g ∧
        g.shared.settled = w.shared.settled ∧ g.history = madeBy .defaultGroup log) :=
  ⟨transitionsOnly_onto h, transitionsOnly_of_idle h⟩

/-- A node is asked to shut down while it serves a request. -/
lemma exists_shutdown_beside_park : ∃ w : Executor,
    (∀ g, (w.activity g).task ≠ none) ∧ Recorded (fun _ _ => True) w activeBench.history := by
  have hrest : Recorded (fun _ _ => True) (.quiescent activeBench.shared) activeBench.history :=
    Pool.recorded_of_serially (fun _ _ => trivial)
      (serially_of_reachable (reachable_benchRun _ _ _))
  have hpark := hrest.silent (.begin (.service .park ()) rfl trivial) (Pool.silent_turn rfl _)
  have hshutdown := hpark.silent (.begin (.changeState .shutdown) rfl trivial)
    (Pool.silent_turn rfl _)
  refine ⟨_, ?_, hshutdown⟩
  rintro (_ | _) ⟨⟩

theorem transitions_undisturbed_shutdown : ∃ (w : Executor) (log : CallLog),
    (∀ g, (w.activity g).task ≠ none) ∧
    ∃ (env : Environment (List (Event Call.Answer))) (g : World _) (later : _),
      TransitionsOnly env g ∧ g.history = later ++ madeBy .defaultGroup log := by
  obtain ⟨w, hbusy, hrecorded⟩ := exists_shutdown_beside_park
  obtain ⟨log, hlog, -⟩ := hrecorded.attributed
  exact ⟨w, log, hbusy, (transitions_undisturbed w log hlog).1⟩

/-! ### Objects -/

lemma Phase.objects_le (phase : Phase) : phase.objects ≤ 2 := by
  rcases phase with _ | (_ | _) | _ | _ | _ | _ <;> decide

/-- What is destroyed is there. -/
lemma objects_of_destroy {phase phase' : Phase} (h : phase.destroy = some phase') :
    0 < phase.objects := by
  rcases phase with _ | (_ | _) | _ | _ | _ | _ <;> first | decide | cases h

lemma builds_of_spares {e : Event Call.Answer} (h : e.1.spares = true) : builds e = false := by
  obtain ⟨c, x⟩ := e
  cases c with
  | createArm options => cases h
  | _ => rfl

lemma destroys_of_spares {e : Event Call.Answer} (h : e.1.spares = true) : destroys e = false := by
  obtain ⟨c, x⟩ := e
  cases c with
  | destroyArm => cases h
  | _ => rfl

section

variable {w : Executor} {log : CallLog}

/-- The calls of the transitions follow the protocol of the session, whatever runs beside. -/
lemma session_after_madeBy (h : Attributed w log) :
    ∃ phase, session.after .absent (madeBy .defaultGroup log) = some phase := by
  obtain ⟨env, g, later, hg, hhistory⟩ := transitionsOnly_onto h
  have hafter := session_after hg.reachable
  rw [hhistory, Protocol.after_append, Option.bind_eq_some_iff] at hafter
  obtain ⟨phase, hphase, -⟩ := hafter
  exact ⟨phase, hphase⟩

/-- The objects are built and destroyed by the transitions. -/
lemma countP_spared (h : ∀ d ∈ log, d.1 ≠ .defaultGroup → d.2.1.spares = true) :
    (log.map Prod.snd).countP builds = (madeBy .defaultGroup log).countP builds ∧
      (log.map Prod.snd).countP destroys = (madeBy .defaultGroup log).countP destroys :=
  ⟨(countP_madeBy fun d hd hg => builds_of_spares (h d hd hg)).symm,
    (countP_madeBy fun d hd hg => destroys_of_spares (h d hd hg)).symm⟩

/-- What is destroyed was built and not destroyed before. -/
lemma destroyed_once {later earlier : CallLog} {group : CallbackGroup} {x : Call.Answer .destroyArm}
    (h : Attributed w (later ++ (group, ⟨.destroyArm, x⟩) :: earlier)) :
    (earlier.map Prod.snd).countP destroys < (earlier.map Prod.snd).countP builds := by
  have hspares := (h.parted autonomous).calls
  have hgroup : group = .defaultGroup := by
    by_contra hne
    have hfalse := hspares (group, ⟨.destroyArm, x⟩) (by simp) hne
    cases hfalse
  subst hgroup
  obtain ⟨phase, hphase⟩ := session_after_madeBy h
  rw [madeBy_append] at hphase
  obtain ⟨before, after, hbefore, hdestroy, -⟩ := Protocol.after_split hphase
  have hearlier (d) (hd : d ∈ earlier) : d.1 ≠ .defaultGroup → d.2.1.spares = true :=
    hspares d (List.mem_append_right _ (List.mem_cons_of_mem _ hd))
  obtain ⟨hbuilds, hdestroys⟩ := countP_spared hearlier
  have hobjects := objects_after hbefore
  have halive := objects_of_destroy hdestroy
  omega

end

/-- Let any callbacks run side by side as the groups allow, transitions beside services too. No
session object is destroyed that was not built or was destroyed before, at most two are alive at
any moment, and whenever the default group is idle (no transition and no parameter update under
way) the node holds the only one there is. -/
theorem objects_in_every_interleaving (w : Executor) (history : List (Event Call.Answer))
    (h : Recorded (fun _ _ => True) w history) :
    (∀ later x earlier, history = later ++ ⟨.destroyArm, x⟩ :: earlier →
      earlier.countP destroys < earlier.countP builds) ∧
    history.countP destroys ≤ history.countP builds ∧
    history.countP builds ≤ history.countP destroys + 2 ∧
    (w.activity .defaultGroup = .idle → history.countP builds =
      history.countP destroys + if w.shared.arm.isSome then 1 else 0) := by
  obtain ⟨log, hlog, rfl⟩ := h.attributed
  obtain ⟨hbuilds, hdestroys⟩ := countP_spared (hlog.parted autonomous).calls
  obtain ⟨phase, hphase⟩ := session_after_madeBy hlog
  have hobjects := objects_after hphase
  have htwo := phase.objects_le
  refine ⟨fun later x earlier hsplit => ?_, by omega, by omega, fun hidle => ?_⟩
  · obtain ⟨later', rest, rfl, rfl, hrest⟩ := List.map_eq_append_iff.mp hsplit
    obtain ⟨⟨group, e⟩, earlier', rfl, rfl, rfl⟩ := List.map_eq_cons_iff.mp hrest
    exact destroyed_once hlog
  · obtain ⟨env, g, hg, hnode, hhistory⟩ := transitionsOnly_of_idle hlog hidle
    have hafter := session_after hg.reachable
    have harm : g.shared.arm = w.shared.arm := by
      have hsettled := congrArg Node.arm hnode
      exact hsettled
    rw [hhistory] at hafter
    rw [hbuilds, hdestroys, objects_after hafter, Node.phase, harm]
    split <;> rfl

/-- A node is asked to shut down while it serves a request. -/
theorem objects_in_every_interleaving_shutdown :
    ∃ (w : Executor) (history : List (Event Call.Answer)),
    (∀ g, (w.activity g).task ≠ none) ∧
    history.countP destroys ≤ history.countP builds ∧
    history.countP builds ≤ history.countP destroys + 2 := by
  obtain ⟨w, hbusy, hrecorded⟩ := exists_shutdown_beside_park
  obtain ⟨-, hdestroys, hbuilds, -⟩ := objects_in_every_interleaving w _ hrecorded
  exact ⟨w, _, hbusy, hdestroys, hbuilds⟩

end LitearmDriver
