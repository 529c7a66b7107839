import LitearmDriver.Bench
import LitearmDriver.Blindness
import LitearmDriver.Steps

/-!
# Publishing does not interfere

The timers look at the SDK through accessors and write the cached frame, which nothing but
the reports reads. Two runs that differ only in their ticks send the same commands and answer
every call alike, up to the time of a status and the age of its frame.
-/

namespace LitearmDriver

open Interaction Program

variable {σ : Type} {env : Environment σ} {Same : σ → σ → Prop} {g g' : World σ}

/-! ### Two environments that differ in time -/

/-- `Same` holds of two states of the outside that differ at most in their clocks. The calls of
a tick leave the outside the same, and every call but those that read a clock is answered
alike from the same state. -/
structure Undisturbed (env : Environment σ) (Same : σ → σ → Prop) : Prop where
  equivalence : Equivalence Same
  tick : ∀ c w, c.OfTick → Same (env c w).2 w
  after : ∀ c w w', Same w w' → Same (env c w).2 (env c w').2
  answer : ∀ c w w', c.Timeless → Same w w' → (env c w).1 = (env c w').1

/-- The nodes differ at most in their cached frames, the outside at most in its clocks, and
the same commands were sent. -/
structure Linked (Same : σ → σ → Prop) (g g' : World σ) : Prop where
  shared : g.shared.frameless = g'.shared.frameless
  outside : Same g.outside g'.outside
  sent : sent g = sent g'

lemma linked_equivalence (henv : Undisturbed env Same) : Equivalence (Linked Same) := by
  constructor
  · intro g
    exact ⟨rfl, henv.equivalence.refl _, rfl⟩
  · intro g g' h
    exact ⟨h.shared.symm, henv.equivalence.symm h.outside, h.sent.symm⟩
  · intro g g' g'' h h'
    exact ⟨h.shared.trans h'.shared, henv.equivalence.trans h.outside h'.outside,
      h.sent.trans h'.sent⟩

/-- A call that is answered alike keeps two configurations linked. -/
lemma Linked.after (henv : Undisturbed env Same) (h : Linked Same g g') {c : Call}
    (hc : c.Timeless) :
    g.answer env c = g'.answer env c ∧ Linked Same (g.after env c) (g'.after env c) := by
  have hanswer : g.answer env c = g'.answer env c := henv.answer c _ _ hc h.outside
  refine ⟨hanswer, h.shared, henv.after c _ _ h.outside, ?_⟩
  cases c with
  | command c => rw [sent_command, sent_command, hanswer, h.sent]
  | _ => exact h.sent

/-- A call of a tick changes nothing. -/
lemma linked_tick (henv : Undisturbed env Same) {c : Call} (hc : c.OfTick) :
    Linked Same (g.after env c) g := by
  refine ⟨rfl, henv.tick c _ hc, ?_⟩
  cases c with
  | command c => exact hc.elim
  | _ => rfl

/-! ### The ticks -/

/-- What a tick leaves of the configuration: all but the cached frame. -/
lemma linked_of_tick (henv : Undisturbed env Same) {p : Code Unit} (hp : p.Calls Call.OfTick)
    (hframe : (p.run env g).2.shared.frameless = g.shared.frameless) :
    Linked Same (p.run env g).2 g := by
  refine ⟨hframe, ?_, ?_⟩
  · apply hp.preserves env (I := fun g' => Same g'.outside g.outside)
    · intro c g' hc hg'
      exact henv.equivalence.trans (henv.tick c _ hc) hg'
    · intro f g' hg'
      exact hg'
    · exact henv.equivalence.refl _
  · obtain ⟨new, hnew, hall⟩ := calls_sent (hp.mono fun _ hc => hc.ofTimer) env g
    have hnone : new = [] := by
      apply List.eq_nil_iff_forall_not_mem.mpr
      intro e he
      exact hall e he
    rw [hnew, hnone, List.nil_append]

lemma Refreshed.frameless {g₁ : World σ} (h : Refreshed env g g₁) :
    g₁.shared.frameless = g.shared.frameless := by
  cases h with
  | unasked => rfl
  | missed => rfl
  | held => rfl

lemma linked_publishStatus (henv : Undisturbed env Same) (g : World σ) :
    Linked Same (publishStatus.run env g).2 g := by
  obtain ⟨-, g₁, hrefreshed, hdelivers⟩ : publishStatus.wp env _ g := publishStatus_delivers
  apply linked_of_tick henv tick_publishStatus
  rw [hdelivers.shared]
  exact hrefreshed.frameless

lemma linked_publishDiagnostics (henv : Undisturbed env Same) (g : World σ) :
    Linked Same (publishDiagnostics.run env g).2 g := by
  obtain ⟨-, hdelivers⟩ : publishDiagnostics.wp env _ g := publishDiagnostics_delivers
  apply linked_of_tick henv tick_publishDiagnostics
  rw [hdelivers.shared]

/-! ### The code that is blind to the frame -/

/-- Blind code runs alike from linked configurations. -/
lemma coupled_of_blind {α : Type} (henv : Undisturbed env Same) {p : Code α}
    (hp : BlindTransition p) : Coupled env (Linked Same) Eq p p := by
  apply Blind.coupled hp
  · intro g g' h
    exact h.shared
  · intro f hf g g' h
    refine ⟨?_, h.outside, h.sent⟩
    rw [Config.update_shared, Config.update_shared, hf, h.shared, ← hf]
  · intro c hc g g' h
    exact h.after henv hc

lemma WritesCache.ignoresFrame {f : Node → Node} (h : WritesCache f) : IgnoresFrame f := by
  rcases h with ⟨state, stamp, rfl⟩ | ⟨license, rfl⟩ | ⟨percent, rfl⟩
  · exact fun _ => rfl
  · exact fun _ => rfl
  · exact fun _ => rfl

lemma Call.OfHandler.timeless {c : Call} (h : c.OfHandler) : c.Timeless := by
  cases c with
  | now => exact h
  | steadyNow => exact h
  | _ => trivial

lemma coupled_of_handler {α : Type} (henv : Undisturbed env Same) {p : Code α}
    (hp : BlindHandler p) : Coupled env (Linked Same) Eq p p :=
  coupled_of_blind henv (hp.mono (fun _ hc => hc.timeless) fun _ hf => hf.ignoresFrame)

/-! ### The reply of `get_status` -/

/-- A status without its times. -/
def LitearmStatus.timeless (m : LitearmStatus) : LitearmStatus :=
  { m with header := { m.header with stamp := 0 }, feedbackAge := 0 }

/-- Filling in the frame and the licence does not look at the times. -/
lemma timeless_filled {base base' : LitearmStatus} (h : base.timeless = base'.timeless)
    (names : List String) (state : RobotState) (valid : Bool) (license : LicenseInfo) :
    ((base.withState names (some state)).withLicense valid license).timeless =
      ((base'.withState names (some state)).withLicense valid license).timeless := by
  have hfill (m : LitearmStatus) :
      ((m.withState names (some state)).withLicense valid license).timeless =
        (m.timeless.withState names (some state)).withLicense valid license := by
    cases valid <;> rfl
  rw [hfill, hfill, h]

/-- The age may be worked out from different stamps, with or without a look at the clock. -/
lemma coupled_frameAge (henv : Undisturbed env Same) (stamp stamp' : Double) :
    Coupled env (Linked Same) (fun _ _ => True) (frameAge stamp) (frameAge stamp') := by
  have hlinked := linked_equivalence henv
  have hleft (stamp : Double) (g : World σ) : (∃ age, ((frameAge stamp).run env g).1 = .ok age) ∧
      Linked Same ((frameAge stamp).run env g).2 g := by
    rw [frameAge]
    split
    · exact ⟨⟨_, rfl⟩, hlinked.refl g⟩
    · exact ⟨⟨_, rfl⟩, linked_tick henv trivial⟩
  intro g g' h
  obtain ⟨⟨age, hage⟩, hg⟩ := hleft stamp g
  obtain ⟨⟨age', hage'⟩, hg'⟩ := hleft stamp' g'
  rw [hage, hage']
  exact ⟨trivial, hlinked.trans hg (hlinked.trans h (hlinked.symm hg'))⟩

/-- The members a status is made of, besides the cached frame. -/
lemma reported_of_frameless {node node' : Node} (h : node.frameless = node'.frameless) :
    node.frameId = node'.frameId ∧ node.jointNames = node'.jointNames ∧
      node.speedScaling = node'.speedScaling ∧ node.licenseValid = node'.licenseValid ∧
      node.license = node'.license := by
  have hframeId := congrArg Node.frameId h
  have hnames := congrArg Node.jointNames h
  have hspeed := congrArg Node.speedScaling h
  have hvalid := congrArg Node.licenseValid h
  have hlicense := congrArg Node.license h
  exact ⟨hframeId, hnames, hspeed, hvalid, hlicense⟩

lemma coupled_buildStatus (henv : Undisturbed env Same) (state : RobotState) :
    Coupled env (Linked Same) (fun m m' => m.timeless = m'.timeless) (buildStatus (some state))
      (buildStatus (some state)) := by
  have hnow : Coupled env (Linked Same) (fun _ _ => True) (ask .now) (ask .now) := by
    intro g g' h
    have hlinked := linked_equivalence henv
    exact ⟨trivial, hlinked.trans (linked_tick henv trivial)
      (hlinked.trans h (hlinked.symm (linked_tick henv trivial)))⟩
  have hself : Coupled env (Linked Same) (fun node node' => node.frameless = node'.frameless)
      self self := fun g g' h => ⟨h.shared, h⟩
  have hconnected : Coupled env (Linked Same) Eq connected connected :=
    coupled_of_blind henv (blind_connected trivial)
  have hquery (q : Query) (otherwise : q.Answer) :
      Coupled env (Linked Same) Eq (queryOr q otherwise) (queryOr q otherwise) :=
    coupled_of_blind henv (blind_queryOr trivial)
  refine hnow.bind fun stamp stamp' _ => hself.bind fun node node' hnode => ?_
  refine hconnected.bind fun link _ hlink => (hquery _ _).bind fun inDfu _ hinDfu => ?_
  refine (hquery _ _).bind fun firmware _ hfirmware => (hquery _ _).bind fun reason _ hreason => ?_
  refine (hquery _ _).bind fun active _ hactive => (hquery _ _).bind fun error _ herror => ?_
  refine (coupled_frameAge henv _ _).bind fun age age' _ => coupled_pure ?_
  subst hlink hinDfu hfirmware hreason hactive herror
  obtain ⟨hframeId, hnames, hspeed, hvalid, hlicense⟩ := reported_of_frameless hnode
  rw [hframeId, hnames, hspeed, hvalid, hlicense]
  apply timeless_filled
  rfl

lemma coupled_handleGetStatus (henv : Undisturbed env Same) (request : GetStatus.Request)
    (response : Reply LitearmStatus) :
    Coupled env (Linked Same)
      (fun r r' => ({ r with body := r.body.timeless } : Reply LitearmStatus) =
        { r' with body := r'.body.timeless })
      (handleGetStatus request response) (handleGetStatus request response) := by
  apply (coupled_of_blind henv (blind_connected trivial)).bind
  rintro link _ rfl
  rw [refuseUnless]
  split
  case isFalse => exact coupled_pure rfl
  apply Coupled.tryCatch
  · apply Coupled.bind (A := fun r r' =>
      ({ r with body := r.body.timeless } : Reply LitearmStatus) =
        { r' with body := r'.body.timeless })
    · apply (coupled_of_blind henv (blind_command trivial)).bind
      rintro message _ rfl
      apply (coupled_of_blind henv (blind_assign fun _ => rfl)).bind
      intro _ _ _
      apply (coupled_buildStatus henv message.value).bind
      intro m m' hm
      apply coupled_pure
      simp only [hm]
    · rintro r r' hr
      apply coupled_pure
      obtain ⟨-, hmessage, hbody⟩ := (Reply.mk.injEq _ _ _ _ _ _).mp hr
      rw [hmessage, hbody]
  · intro e
    cases e with
    | exception what => exact coupled_pure rfl
    | undefined => exact coupled_throw _

/-! ### Whole runs -/

/-- A response without the time of a status and the age of its frame. -/
def Service.timeless : (s : Service) → s.Response → s.Response
  | .getStatus, response => { response with body := response.body.timeless }
  | _, response          => response

namespace Callback

/-- Every callback but the ticks. -/
def visible : Callback → Bool
  | .statusTimer      => false
  | .diagnosticsTimer => false
  | _                 => true

/-- What a callback hands back, without its times. -/
def timeless : (cb : Callback) → cb.Result → cb.Result
  | .service s _, response => s.timeless response
  | _, result              => result

/-- The callback with what it handed back. -/
def observe (cb : Callback) (r : Except Abort cb.Result) :
    Σ cb : Callback, Except Abort cb.Result := ⟨cb, r.map cb.timeless⟩

end Callback

/-- The responses of a run, without their times. -/
abbrev responses (env : Environment σ) (cbs : List Callback) (g : World σ) :
    List (Σ cb : Callback, Except Abort cb.Result) :=
  observations env Callback.code Callback.visible Callback.observe cbs g

lemma coupled_code (henv : Undisturbed env Same) {cb : Callback} (hcb : cb.visible = true) :
    Coupled env (Linked Same) (fun r r' => cb.timeless r = cb.timeless r') cb.code cb.code := by
  cases cb with
  | changeState t => exact (coupled_of_blind henv (blind_changeState t)).mono fun _ _ h => h
  | service s request =>
    by_cases hs : s = .getStatus
    · subst hs
      exact coupled_handleGetStatus henv request default
    · apply (coupled_of_handler henv (blind_handle s hs request default)).mono
      rintro response _ rfl
      rfl
  | statusTimer => cases hcb
  | diagnosticsTimer => cases hcb
  | setParameters p =>
    exact (coupled_of_blind henv (blind_assign fun _ => rfl)).mono fun _ _ h => h

/-- A visible callback is observed alike from linked configurations, and keeps them linked. -/
lemma visible_step (henv : Undisturbed env Same) {cb : Callback} (hcb : cb.visible = true)
    (h : Linked Same g g') :
    cb.observe (cb.code.run env g).1 = cb.observe (cb.code.run env g').1 ∧
      Linked Same (cb.code.run env g).2 (cb.code.run env g').2 := by
  obtain ⟨hagree, hlinked⟩ := coupled_code henv hcb g g' h
  refine ⟨?_, hlinked⟩
  have hsame : (cb.code.run env g).1.map cb.timeless = (cb.code.run env g').1.map cb.timeless := by
    revert hagree
    cases (cb.code.run env g).1 with
    | ok a =>
      cases (cb.code.run env g').1 with
      | ok a' => exact congrArg Except.ok
      | error e => exact False.elim
    | error e =>
      cases (cb.code.run env g').1 with
      | ok a => exact False.elim
      | error e' => exact congrArg Except.error
  rw [Callback.observe, Callback.observe, hsame]

/-- A tick keeps the configuration linked to what it was. -/
lemma hidden_step (henv : Undisturbed env Same) {cb : Callback} (hcb : cb.visible = false)
    (g : World σ) : Linked Same (cb.code.run env g).2 g := by
  cases cb with
  | statusTimer => exact linked_publishStatus henv g
  | diagnosticsTimer => exact linked_publishDiagnostics henv g
  | _ => cases hcb

/-- A tick calls nothing of the SDK but the accessors of a tick. -/
lemma ofTick_step {cb : Callback} (hcb : cb.visible = false) {new : List (Event Call.Answer)}
    (hnew : (step env cb g).history = new ++ g.history) : ∀ e ∈ new, e.1.OfTick := by
  have hcalls : cb.code.Calls Call.OfTick := by
    cases cb with
    | statusTimer => exact tick_publishStatus
    | diagnosticsTimer => exact tick_publishDiagnostics
    | _ => cases hcb
  exact hcalls.permits hnew

/-- Two runs from one configuration with the same callbacks but for their ticks send the same
commands and give the same responses, up to times. A tick calls nothing of the SDK but seven
accessors. -/
theorem publishing_does_not_interfere (henv : Undisturbed env Same) (g : World σ)
    {cbs cbs' : List Callback}
    (hsame : cbs.filter Callback.visible = cbs'.filter Callback.visible) :
    sent (runAll env Callback.code cbs g) = sent (runAll env Callback.code cbs' g) ∧
      responses env cbs g = responses env cbs' g ∧
      ∀ cb : Callback, cb.visible = false → ∀ (g : World σ) (new : List (Event Call.Answer)),
        (step env cb g).history = new ++ g.history → ∀ e ∈ new, e.1.OfTick := by
  have hunwound : responses env cbs g = responses env cbs' g ∧
      Linked Same (runAll env Callback.code cbs g) (runAll env Callback.code cbs' g) := by
    apply unwinding (linked_equivalence henv) _ _ hsame
    · intro cb hcb g g' h
      exact visible_step henv hcb h
    · intro cb hcb g
      exact hidden_step henv hcb g
  refine ⟨hunwound.2.sent, hunwound.1, ?_⟩
  intro cb hcb g new hnew
  exact ofTick_step hcb hnew

/-- The bench with a clock that advances by a second with every call. -/
def tickingBench : Environment (Bench × Nat)
  | .steadyNow, (b, t) => (.finite t, (b, t + 1))
  | .now, (b, t)       => (t, (b, t + 1))
  | c, (b, t)          => ((bench c b).1, ((bench c b).2, t + 1))

lemma undisturbed_tickingBench : Undisturbed tickingBench fun w w' => w.1 = w'.1 := by
  constructor
  · exact ⟨fun _ => rfl, Eq.symm, Eq.trans⟩
  · rintro c ⟨b, t⟩ hc
    cases c with
    | query q => rfl
    | publish p => rfl
    | steadyNow => rfl
    | now => rfl
    | _ => exact hc.elim
  · rintro c ⟨b, t⟩ ⟨b', t'⟩ rfl
    cases c <;> rfl
  · rintro c ⟨b, t⟩ ⟨b', t'⟩ hc rfl
    cases c with
    | steadyNow => exact hc.elim
    | now => exact hc.elim
    | _ => rfl

/-- A session in which the speed is set and a status asked for. -/
def askedSession : List Callback :=
  [.changeState .configure, .changeState .activate, .service .setSpeedScaling ⟨50⟩,
    .service .getStatus ⟨1⟩]

/-- The same session with ticks in between. -/
def tickedSession : List Callback :=
  [.changeState .configure, .changeState .activate, .statusTimer,
    .service .setSpeedScaling ⟨50⟩, .diagnosticsTimer, .statusTimer, .service .getStatus ⟨1⟩]

/-- A node that was just constructed, one second after the clock started. -/
def constructedNode : World (Bench × Nat) := .fresh "litearm_driver" {} ({ upcoming := [{}] }, 1)

theorem publishing_does_not_interfere_ticked :
    sent (runAll tickingBench Callback.code tickedSession constructedNode) =
        sent (runAll tickingBench Callback.code askedSession constructedNode) ∧
      responses tickingBench tickedSession constructedNode =
        responses tickingBench askedSession constructedNode := by
  have hsame : tickedSession.filter Callback.visible = askedSession.filter Callback.visible := rfl
  have hresult := publishing_does_not_interfere undisturbed_tickingBench constructedNode hsame
  exact ⟨hresult.1, hresult.2.1⟩

end LitearmDriver
