import LitearmDriver.Interference
import LitearmDriver.Noninterference

/-!
# Watching does not interfere

Twelve services only read: the pose, the parameters, the model, the diagnostics, a status. They
leave no trace in the node but the cached frame, and send nothing but commands that read. A
client that watches the arm through them, and the ticks that publish, change nothing for the
others: neither what they are answered nor what is done to the arm.
-/

namespace LitearmDriver

open Interaction Program

variable {σ α Body : Type} {env : Environment σ} {Same : σ → σ → Prop} {g g' : World σ}

/-! ### Services that read -/

/-- The commands that only read the device. -/
def Command.isReading : Command → Bool
  | .getStatusNow _ | .getFfScalar .. | .getFfVec _ | .getFfMask | .allJointParams
  | .getJointParam _ | .ik .. | .modelGetBody _ | .modelGetJm | .modelStatus | .getTcp => true
  | _ => false

/-- The services that only read. -/
def Service.isReader : Service → Bool
  | .getStatus | .getFeedforwardScalar | .getFeedforwardVector | .getFeedforwardMask
  | .getFeedforwardCatalog | .getJointParams | .inverseKinematics | .getModelBody | .getModelJm
  | .getModelStatus | .getTcp | .getDiagnostics => true
  | _ => false

/-- Accessors, clocks, publications, and commands that only read. -/
def Call.Looks : Call → Prop
  | .query _   => True
  | .command c => c.isReading = true
  | .publish _ => True
  | .steadyNow => True
  | .now       => True
  | _          => False

lemma Call.OfTick.looks {c : Call} (h : c.OfTick) : c.Looks := by
  cases c with
  | query q => trivial
  | publish p => trivial
  | steadyNow => trivial
  | now => trivial
  | _ => exact h.elim

lemma Call.OfTimer.looks {c : Call} (h : c.OfTimer) : c.Looks := by
  cases c with
  | query q => trivial
  | publish p => trivial
  | steadyNow => trivial
  | now => trivial
  | _ => exact h.elim

lemma looks_runCommand {what : String} {response : Reply Body}
    {fn : Reply Body → Code (Reply Body)} (hfn : (fn response).Calls Call.Looks) :
    (runCommand what response fn).Calls Call.Looks := by
  refine .bind (calls_connected trivial) fun _ => calls_ite (calls_catching ?_ ?_) trivial
  · exact .bind hfn fun _ => trivial
  · exact fun _ => trivial

/-- The common case: one command that reads. -/
lemma looks_sends {what : String} {response : Reply Body} {c : Command} (hc : c.isReading = true)
    {f : Reply Body → c.Answer → Reply Body} :
    (runCommand what response fun response => command c >>= fun a =>
      Pure.pure (f response a)).Calls Call.Looks :=
  looks_runCommand (.bind (calls_command hc) fun _ => trivial)

lemma looks_handleGetStatus (request : GetStatus.Request) (response : Reply LitearmStatus) :
    (handleGetStatus request response).Calls Call.Looks := by
  refine looks_runCommand (.bind (calls_command (by rfl)) fun _ => ?_)
  refine .bind (calls_assign _) fun _ => .bind ?_ fun _ => trivial
  exact (calls_buildStatus _).mono fun _ => Call.OfTick.looks

lemma looks_handleGetTcp (response : Reply GetTcp.Body) :
    (handleGetTcp response).Calls Call.Looks := by
  refine .bind (calls_connected trivial) fun _ => calls_ite (calls_catching ?_ ?_) trivial
  · refine .bind (calls_armCommand (by rfl)) fun answer => ?_
    cases answer <;> trivial
  · exact fun _ => trivial

lemma looks_handleGetJointParams (request : GetJointParams.Request)
    (response : Reply (List JointParam)) :
    (handleGetJointParams request response).Calls Call.Looks := by
  refine .bind (calls_connected trivial) fun _ => calls_ite (calls_ite ?_ ?_) trivial
  · refine .bind (calls_armQuery trivial) fun _ => calls_ite ?_ trivial
    exact looks_sends (by rfl)
  · exact looks_sends (by rfl)

/-- A service that only reads makes only such calls. -/
lemma looks_handle {s : Service} (hs : s.isReader = true) (request : s.Request)
    (response : s.Response) : (s.handle request response).Calls Call.Looks := by
  cases s with
  | getStatus => exact looks_handleGetStatus request response
  | getFeedforwardScalar =>
    exact (looks_sends (by rfl) : (handleGetFeedforwardScalar request response).Calls _)
  | getFeedforwardVector =>
    exact (looks_sends (by rfl) : (handleGetFeedforwardVector request response).Calls _)
  | getFeedforwardMask =>
    exact (looks_sends (by rfl) : (handleGetFeedforwardMask response).Calls _)
  | getFeedforwardCatalog =>
    refine (calls_handleGetFeedforwardCatalog response).mono ?_
    rintro c ⟨q, rfl, -⟩
    trivial
  | getJointParams => exact looks_handleGetJointParams request response
  | inverseKinematics =>
    exact calls_ite (calls_ite (calls_ite (looks_sends (by rfl)) trivial) trivial) trivial
  | getModelBody =>
    exact (looks_sends (by rfl) : (handleGetModelBody request response).Calls _)
  | getModelJm =>
    exact (looks_sends (by rfl) : (handleGetModelJm response).Calls _)
  | getModelStatus =>
    exact (looks_sends (by rfl) : (handleGetModelStatus response).Calls _)
  | getTcp => exact looks_handleGetTcp response
  | getDiagnostics => exact (calls_handleGetDiagnostics response).mono fun _ => Call.OfTimer.looks
  | _ => cases hs

/-- Of a command that reads, the node remembers at most a frame. -/
lemma Command.effect_frameless {c : Command} (hc : c.isReading = true)
    (x : Except String c.Answer) (node : Node) : (c.effect x node).frameless = node.frameless := by
  cases c with
  | getStatusNow timeout => cases x <;> rfl
  | setSpeed percent => cases hc
  | _ => rfl

/-! ### Watching -/

/-- Calls that look leave the outside the same. -/
structure Unmoved (env : Environment σ) (Same : σ → σ → Prop) : Prop
    extends Undisturbed env Same where
  looks : ∀ c w, c.Looks → Same (env c w).2 w

/-- The commands that were sent, but for those that only read. -/
def acts (g : World σ) : List Sent := (sent g).filter fun e => !e.1.isReading

/-- The configuration without its history. -/
def bare (g : World σ) : World σ := { g with history := [] }

/-- The same was done in both, and the nodes differ at most in their cached frames. -/
structure Watched (Same : σ → σ → Prop) (g g' : World σ) : Prop where
  linked : Linked Same (bare g) (bare g')
  acts : acts g = acts g'

lemma acts_congr (h : sent g = sent g') : acts g = acts g' := by rw [acts, acts, h]

lemma acts_onto (h : World σ) (old : List (Event Call.Answer)) :
    acts { h with history := h.history ++ old } = acts h ++
      (commandsOf old).filter fun e => !e.1.isReading := by
  rw [acts, acts, sent, sent, commandsOf_append, List.filter_append]

/-- What was done, and what was done before. -/
lemma run_bare (p : Code α) (g : World σ) : (p.run env g).1 = (p.run env (bare g)).1 ∧
    bare (p.run env g).2 = bare (p.run env (bare g)).2 ∧
    acts (p.run env g).2 = acts (p.run env (bare g)).2 ++ acts g := by
  have honto := run_onto env p (bare g) g.history
  have hg : ({ bare g with history := (bare g).history ++ g.history } : World σ) = g := rfl
  rw [hg] at honto
  rw [honto]
  exact ⟨rfl, rfl, acts_onto _ _⟩

lemma Linked.bare (h : Linked Same g g') : Linked Same (bare g) (LitearmDriver.bare g') :=
  ⟨h.shared, h.outside, rfl⟩

lemma Command.isReading_of_owner {s : Service} (hs : s.isReader = true) {c : Command}
    (h : c.owner = some s) : c.isReading = true := by
  cases c <;> cases h <;> first | rfl | cases hs

/-- A service that only reads leaves no trace but a frame. -/
lemma ServiceExit.of_reader {s : Service} (hs : s.isReader = true)
    {r : Except Abort s.Response} (h : ServiceExit env g s r g') :
    g'.shared.frameless = g.shared.frameless ∧ acts g' = acts g := by
  cases h with
  | declined hlog hshared => exact ⟨congrArg _ hshared, acts_congr hlog.sent⟩
  | issued _ howner hlog hshared =>
    have hc := Command.isReading_of_owner hs howner
    rw [hshared, acts, acts, hlog.sent, List.filter_append]
    exact ⟨Command.effect_frameless hc _ _, by simp [hc]⟩
  | reconnected => cases hs

namespace Callback

/-- Every callback but the ticks and the services that only read. -/
def active : Callback → Bool
  | .service s _ => !s.isReader
  | cb           => cb.visible

lemma visible_of_active {cb : Callback} (h : cb.active = true) : cb.visible = true := by
  cases cb with
  | service s request => rfl
  | _ => exact h

end Callback

lemma watched_equivalence (henv : Unmoved env Same) : Equivalence (Watched Same) := by
  have hlinked := linked_equivalence henv.toUndisturbed
  constructor
  · exact fun g => ⟨hlinked.refl _, rfl⟩
  · exact fun h => ⟨hlinked.symm h.linked, h.acts.symm⟩
  · exact fun h h' => ⟨hlinked.trans h.linked h'.linked, h.acts.trans h'.acts⟩

/-- What is done is done alike, whoever watched. -/
lemma active_step (henv : Unmoved env Same) {cb : Callback} (hcb : cb.active = true)
    (h : Watched Same g g') :
    cb.observe (cb.code.run env g).1 = cb.observe (cb.code.run env g').1 ∧
      Watched Same (cb.code.run env g).2 (cb.code.run env g').2 := by
  obtain ⟨hr, hbare, hacts⟩ := run_bare cb.code g
  obtain ⟨hr', hbare', hacts'⟩ := run_bare cb.code g'
  obtain ⟨hobserve, hlinked⟩ :=
    visible_step henv.toUndisturbed (Callback.visible_of_active hcb) h.linked
  refine ⟨?_, ?_, ?_⟩
  · rw [hr, hr', hobserve]
  · rw [hbare, hbare']
    exact hlinked.bare
  · rw [hacts, hacts', h.acts, acts_congr hlinked.sent]

/-- A callback that watches does nothing. -/
lemma watching_step (henv : Unmoved env Same) {cb : Callback} (hcb : cb.active = false)
    (g : World σ) : Watched Same (cb.code.run env g).2 g := by
  cases cb with
  | service s request =>
    have hs : s.isReader = true := by simpa [Callback.active] using hcb
    have hsame : Same (step env (.service s request) g).outside g.outside := by
      refine (looks_handle hs request default).preserves env
        (I := fun g' => Same g'.outside g.outside) ?_ (fun _ _ => id) (henv.equivalence.refl _)
      exact fun c g' hc hg' => henv.equivalence.trans (henv.looks c _ hc) hg'
    have hexit : (s.handle request default).wp env (ServiceExit env g s) g :=
      handle_exit s request default
    obtain ⟨hframe, hacts⟩ := ServiceExit.of_reader hs hexit
    exact ⟨⟨hframe, hsame, rfl⟩, hacts⟩
  | statusTimer =>
    have h := linked_publishStatus henv.toUndisturbed g
    exact ⟨h.bare, acts_congr h.sent⟩
  | diagnosticsTimer =>
    have h := linked_publishDiagnostics henv.toUndisturbed g
    exact ⟨h.bare, acts_congr h.sent⟩
  | _ => cases hcb

/-- Two runs with the same callbacks but for the ticks and the services that only read do the
same to the arm and give the same responses, up to times. -/
theorem watching_does_not_interfere (henv : Unmoved env Same) (g : World σ)
    {cbs cbs' : List Callback}
    (hsame : cbs.filter Callback.active = cbs'.filter Callback.active) :
    acts (runAll env Callback.code cbs g) = acts (runAll env Callback.code cbs' g) ∧
      observations env Callback.code Callback.active Callback.observe cbs g =
        observations env Callback.code Callback.active Callback.observe cbs' g := by
  have hunwound := unwinding (watched_equivalence henv)
    (fun cb hcb g g' h => active_step henv hcb h) (fun cb hcb g => watching_step henv hcb g)
    hsame g
  exact ⟨hunwound.2.acts, hunwound.1⟩

lemma unmoved_tickingBench : Unmoved tickingBench fun w w' => w.1 = w'.1 where
  toUndisturbed := undisturbed_tickingBench
  looks := by
    rintro c ⟨b, t⟩ hc
    cases c with
    | command c => cases c <;> first | rfl | cases hc
    | _ => first | rfl | exact hc.elim

def actingSession : List Callback :=
  [.changeState .configure, .changeState .activate, .service .setSpeedScaling ⟨50⟩,
    .service .disable ()]

/-- The same session with somebody watching. -/
def watchedSession : List Callback :=
  [.changeState .configure, .changeState .activate, .service .getStatus ⟨1⟩,
    .service .setSpeedScaling ⟨50⟩, .service .getJointParams ⟨-1⟩, .diagnosticsTimer,
    .service .getTcp (), .service .disable (), .service .getModelStatus ()]

theorem watching_does_not_interfere_watched :
    acts (runAll tickingBench Callback.code watchedSession constructedNode) =
        acts (runAll tickingBench Callback.code actingSession constructedNode) ∧
      observations tickingBench Callback.code Callback.active Callback.observe watchedSession
          constructedNode =
        observations tickingBench Callback.code Callback.active Callback.observe actingSession
          constructedNode :=
  watching_does_not_interfere unmoved_tickingBench constructedNode rfl

end LitearmDriver
