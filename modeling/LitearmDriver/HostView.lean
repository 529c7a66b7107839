import LitearmDriver.CachedFrame

/-!
# What the host has been told

The node remembers two things it was told about the arm: the speed percentage the firmware
accepted, and the last frame it was handed. The abstract view is computed from the history of
callbacks alone; the members of the node are shown to describe it after every run.
-/

namespace LitearmDriver

open Interaction Program

variable {σ : Type} {env : Environment σ} {g : World σ}

/-! ### The view -/

/-- The percentage last accepted, and the frame last handed out with its arrival time. -/
structure HostView where
  percent : Nat := 100
  frame : Option StampedFrame := none

/-- One turn of the node: a callback, the lifecycle state it began in, and its events, most
recent first. -/
structure Turn where
  callback : Callback
  state : PrimaryState
  events : List (Event Call.Answer)

/-- A configuration starts afresh; a cleanup, which a shutdown runs too, drops the frame. -/
def HostView.begin (v : HostView) : Transition → HostView
  | .configure           => {}
  | .cleanup | .shutdown => { v with frame := none }
  | _                    => v

/-- What an answer of the SDK tells a callback: `set_speed_scaling` that its percentage was
accepted, `get_status` and the status timer which frame is the latest. -/
def HostView.note (cb : Callback) (e : Event Call.Answer) (v : HostView) : HostView :=
  match cb, e with
  | .service .setSpeedScaling request, ⟨.command (.setSpeed _), .ok _⟩ =>
    { v with percent := request.percent.toNat }
  | .service .getStatus _, ⟨.command (.getStatusNow _), .ok ⟨state, stamp⟩⟩ =>
    { v with frame := some (state, stamp) }
  | .statusTimer, ⟨.query .getState, .ok ⟨some state, stamp⟩⟩ =>
    { v with frame := some (state, stamp) }
  | _, _ => v

/-- The view after one more turn. A transition that is not available does not begin. -/
def HostView.after (v : HostView) (turn : Turn) : HostView :=
  match turn.callback with
  | .changeState t => if (t.goal turn.state).isSome then v.begin t else v
  | cb             => turn.events.foldr (HostView.note cb) v

/-- The view of a history of turns, most recent first. -/
def viewOf : List Turn → HostView
  | []            => {}
  | turn :: turns => (viewOf turns).after turn

/-- The runs of the node with the turns they are made of. -/
inductive Traced (env : Environment σ) : List Turn → World σ → Prop where
  | fresh (name : String) (p : Parameters) (outside : σ) : Traced env [] (.fresh name p outside)
  | step (cb : Callback) {turns : List Turn} {g : World σ} {new : List (Event Call.Answer)}
      (h : Traced env turns g) (hnew : (step env cb g).history = new ++ g.history) :
    Traced env (⟨cb, g.shared.currentState, new⟩ :: turns) (LitearmDriver.step env cb g)

/-- Every reachable state is reached by turns. -/
lemma Reachable.traced (h : Reachable env g) : ∃ turns, Traced env turns g := by
  apply h.invariant (I := fun g => ∃ turns, Traced env turns g)
  · intro name p w
    exact ⟨[], .fresh name p w⟩
  · rintro cb g - ⟨turns, hturns⟩
    obtain ⟨new, hnew⟩ := run_history cb.code env g
    exact ⟨_, .step cb hturns hnew⟩

lemma Traced.reachable {turns : List Turn} (h : Traced env turns g) : Reachable env g := by
  induction h with
  | fresh name p w => exact .fresh name p w
  | step cb _ _ ih => exact .step cb trivial ih

/-! ### What the node remembers -/

/-- The members of the node that hold its view of the arm. -/
structure HostFields where
  speedScaling : UInt8
  haveState : Bool
  lastState : RobotState
  lastStateStamp : Double

def Node.hostFields (node : Node) : HostFields :=
  ⟨node.speedScaling, node.haveState, node.lastState, node.lastStateStamp⟩

/-- The node holds this view: the percentage, the frame with its stamp, and a flag and a stamp
that agree on whether there is a frame. -/
structure HostView.Describes (v : HostView) (node : Node) : Prop where
  speed : node.speedScaling.toNat = v.percent
  range : v.percent ≤ 100
  frame : node.stamped = v.frame
  stamp : node.haveState = false ↔ node.lastStateStamp = 0

lemma HostView.Describes.congr {v : HostView} {node node' : Node} (h : v.Describes node)
    (hfields : node'.hostFields = node.hostFields) : v.Describes node' := by
  obtain ⟨hspeed, hhave, hstate, hstamp⟩ :=
    (HostFields.mk.injEq _ _ _ _ _ _ _ _).mp hfields
  constructor
  · rw [hspeed]
    exact h.speed
  · exact h.range
  · rw [← h.frame, Node.stamped, Node.stamped, Node.cached, Node.cached, hhave, hstate, hstamp]
  · rw [hhave, hstamp]
    exact h.stamp

lemma HostView.Describes.enter {v : HostView} {node : Node} (h : v.Describes node)
    (state : PrimaryState) : v.Describes (node.enter state) := h.congr rfl

/-- A node without a frame. -/
lemma HostView.Describes.of_empty {v : HostView} {node : Node}
    (hspeed : node.speedScaling.toNat = v.percent) (hrange : v.percent ≤ 100)
    (hnone : node.haveState = false) (hstamp : node.lastStateStamp = 0) :
    ({ v with frame := none } : HostView).Describes node := by
  constructor
  · exact hspeed
  · exact hrange
  · simp [Node.stamped, Node.cached, hnone]
  · simp [hnone, hstamp]

/-- A frame with a positive stamp enters the cache. -/
lemma HostView.Describes.hold {v : HostView} {node : Node} (h : v.Describes node)
    {state : RobotState} {stamp : Double} (hstamp : 0 < stamp) :
    ({ v with frame := some (state, stamp) } : HostView).Describes
      (node.holdFrame state stamp) := by
  constructor
  · exact h.speed
  · exact h.range
  · rfl
  · have hne : stamp ≠ 0 := by
      rintro rfl
      exact absurd hstamp (by decide)
    simp [Node.holdFrame, hne]

/-! ### Transitions -/

lemma hostFields_withoutEntities {node node' : Node}
    (h : node'.withoutEntities = node.withoutEntities) :
    node'.hostFields = node.hostFields := by
  have hfields := congrArg Node.hostFields h
  exact hfields

lemma describes_change {v : HostView} {t : Transition} {r : Except Abort Unit} {g' : World σ}
    (h : v.Describes g.shared) (hstep : TransitionStep env g t r g') :
    (if (t.goal g.shared.currentState).isSome then v.begin t else v).Describes g'.shared := by
  have hopened : ∀ (home : Option String) (axes : Nat) (x : Except String LicenseInfo),
      ({} : HostView).Describes ((g.shared.prepare home).openSession axes x) := by
    intro home axes x
    cases x <;> exact .of_empty (v := {}) rfl (by simp) rfl rfl
  have hended : ({ v with frame := none } : HostView).Describes g.shared.goUnconfigured :=
    .of_empty h.speed h.range rfl rfl
  cases hstep with
  | unavailable hgoal =>
    rw [hgoal]
    exact h
  | unopened home hstate harm hshared =>
    rw [hstate, hshared]
    exact .of_empty (v := {}) rfl (by simp) rfl rfl
  | unpublished home axes hstate hframe =>
    rw [hstate]
    exact (hopened _ _ _).congr (hostFields_withoutEntities hframe)
  | configured hstate hshared =>
    rw [hstate, hshared]
    apply HostView.Describes.enter
    exact (hopened _ _ _).congr (hostFields_withoutEntities (touchesEntities_addPublishers _))
  | sessionless hstate harm hshared =>
    rw [hstate, hshared]
    exact h.enter _
  | refused hstate harm hauto henable hshared =>
    rw [hstate, hshared]
    exact h.enter _
  | unserved hstate hframe =>
    rw [hstate]
    exact (h.enter .unconfigured).congr (hostFields_withoutEntities hframe)
  | headless hstate hstatus hshared =>
    rw [hstate, hshared]
    exact h.congr (hostFields_withoutEntities (touchesEntities_goActive _))
  | activated hstate harm hstatus hshared =>
    rw [hstate, hshared]
    apply HostView.Describes.enter
    exact h.congr (hostFields_withoutEntities (touchesEntities_goActive _))
  | deactivated hstate hshared =>
    rw [hstate, hshared]
    exact h.congr rfl
  | cleaned hstate hshared =>
    rw [hstate, hshared]
    exact hended.enter _
  | shutDown hstate hshared =>
    have hgoal : (Transition.shutdown.goal g.shared.currentState).isSome = true := by
      revert hstate
      cases g.shared.currentState <;> simp [Transition.goal]
    rw [if_pos hgoal, hshared]
    exact hended.enter _

/-! ### Services and timers -/

/-- Every frame the SDK hands out carries a positive stamp. -/
def PositiveStamps (env : Environment σ) : Prop :=
  ∀ c w state stamp, frameOf ⟨c, (env c w).1⟩ = some (state, stamp) → 0 < stamp

lemma PositiveStamps.of_answered (h : PositiveStamps env) {e : Event Call.Answer}
    {f : StampedFrame} (hanswered : ∃ w, (env e.1 w).1 = e.2) (hframe : frameOf e = some f) :
    0 < f.2 := by
  obtain ⟨c, x⟩ := e
  obtain ⟨w, hw⟩ := hanswered
  apply h c w f.1 f.2
  rw [show (env c w).1 = x from hw]
  exact hframe

lemma foldr_note_eq {cb : Callback} {events : List (Event Call.Answer)}
    (h : ∀ e ∈ events, ∀ v, HostView.note cb e v = v) (v : HostView) :
    events.foldr (HostView.note cb) v = v := by
  induction events with
  | nil => rfl
  | cons e events ih =>
    rw [List.foldr_cons, h e List.mem_cons_self]
    exact ih fun e he => h e (List.mem_cons_of_mem _ he)

/-- A service is told something only by the commands it sent. -/
lemma foldr_note_service {s : Service} {request : s.Request} (v : HostView)
    (events : List (Event Call.Answer)) :
    events.foldr (HostView.note (.service s request)) v =
      (commandsOf events).foldr
        (fun e => HostView.note (.service s request) ⟨.command e.1, e.2⟩) v := by
  induction events with
  | nil => rfl
  | cons e events ih =>
    have hskip (e : Event Call.Answer) (he : ∀ c, e.1 ≠ .command c) :
        HostView.note (.service s request) e = id := by
      obtain ⟨c, x⟩ := e
      cases c with
      | command c => exact absurd rfl (he c)
      | _ => cases s <;> rfl
    obtain ⟨c, x⟩ := e
    cases c with
    | command c => rw [commandsOf, List.foldr_cons, List.foldr_cons, ih]
    | _ =>
      rw [List.foldr_cons, hskip _ (by simp)]
      exact ih

lemma describes_refreshed {v : HostView} {g₁ : World σ} (hpositive : PositiveStamps env)
    (h : v.Describes g.shared) (hrefreshed : Refreshed env g g₁) :
    ∃ new, g₁.history = new ++ g.history ∧
      (new.foldr (HostView.note .statusTimer) v).Describes g₁.shared := by
  cases hrefreshed with
  | unasked => exact ⟨[], rfl, h⟩
  | missed hmissing =>
    refine ⟨[_], rfl, ?_⟩
    have hnote : HostView.note .statusTimer
        ⟨.query .getState, g.answer env (.query .getState)⟩ v = v := by
      rcases hanswer : g.answer env (.query .getState) with what | ⟨_ | state, stamp⟩
      · rfl
      · rfl
      · exact absurd hanswer (hmissing state stamp)
    rw [List.foldr_cons, List.foldr_nil, hnote]
    exact h
  | @held harm state stamp hframe =>
    refine ⟨[_], rfl, ?_⟩
    have hstamp : 0 < stamp :=
      hpositive.of_answered (e := ⟨.query .getState, .ok ⟨some state, stamp⟩⟩)
        ⟨g.outside, hframe⟩ rfl
    rw [List.foldr_cons, List.foldr_nil, hframe]
    exact h.hold hstamp

/-- A command of another service than `set_speed_scaling` leaves the percentage alone. -/
lemma describes_command {v : HostView} {s : Service} {request : s.Request} {c : Command}
    {x : Except String c.Answer} {node : Node} (howner : c.owner = some s)
    (hs : s ≠ .setSpeedScaling)
    (hpositive : ∀ state stamp, frameOf ⟨.command c, x⟩ = some (state, stamp) → 0 < stamp)
    (h : v.Describes node) :
    (HostView.note (.service s request) ⟨.command c, x⟩ v).Describes (c.effect x node) := by
  cases c with
  | connect | close | license => cases howner
  | setSpeed percent => exact absurd (Option.some.inj howner).symm hs
  | getStatusNow timeout =>
    cases howner
    cases x with
    | error what => exact h
    | ok message => exact h.hold (hpositive message.value message.timestamp rfl)
  | _ =>
    cases howner
    exact h

/-- `set_speed_scaling` tells the node the percentage it has the SDK set. -/
lemma describes_setSpeedScaling {v : HostView} {request : SetSpeedScaling.Request}
    {new : List (Event Call.Answer)} (h : v.Describes g.shared)
    (hnew : (step env (.service .setSpeedScaling request) g).history = new ++ g.history) :
    ((commandsOf new).foldr
      (fun e => HostView.note (.service .setSpeedScaling request) ⟨.command e.1, e.2⟩) v).Describes
      (step env (.service .setSpeedScaling request) g).shared := by
  have hdecided : (handleSetSpeedScaling request default).wp env _ g :=
    decides_handleSetSpeedScaling request default
  by_cases hG : (checkSpeedPercent request.percent.toNat).ok = true ∧ LinkUp env g
  · obtain ⟨x, response, hlog, hshared, -⟩ := hdecided.issued hG
    have hstep : (step env (.service .setSpeedScaling request) g).shared = _ := hshared
    rw [hlog.commandsOf_new hnew, hstep]
    cases x with
    | error what => exact h
    | ok a =>
      have hrange := ((checkSpeedPercent_ok_iff _).mp hG.1).2
      constructor
      · simp [Command.effect, HostView.note]
      · simpa [HostView.note] using hrange
      · exact h.frame
      · exact h.stamp
  · obtain ⟨hlog, hshared, -⟩ := hdecided.refused hG
    rw [hlog.commandsOf_new hnew]
    exact h.congr (congrArg Node.hostFields hshared)

/-- Nothing that `reconnect` calls tells the node anything. -/
lemma foldr_note_reconnect (v : HostView) (events : List Sent) :
    events.foldr (fun e => HostView.note (.service .reconnect ()) ⟨.command e.1, e.2⟩) v = v := by
  induction events with
  | nil => rfl
  | cons e events ih => exact ih

lemma describes_service {v : HostView} {s : Service} {request : s.Request}
    {new : List (Event Call.Answer)} (hpositive : PositiveStamps env)
    (h : v.Describes g.shared)
    (hnew : (step env (.service s request) g).history = new ++ g.history) :
    (new.foldr (HostView.note (.service s request)) v).Describes
      (step env (.service s request) g).shared := by
  rw [foldr_note_service]
  by_cases hs : s = .setSpeedScaling
  · subst hs
    exact describes_setSpeedScaling h hnew
  have hanswered : ∀ e ∈ new, ∃ w, (env e.1 w).1 = e.2 := run_answered hnew
  have hexit : (s.handle request default).wp env (ServiceExit env g s) g :=
    handle_exit s request default
  rw [wp] at hexit
  rw [step, Callback.code] at hnew ⊢
  generalize (s.handle request default).run env g = out at hexit hnew ⊢
  obtain ⟨r, g'⟩ := out
  dsimp only at hexit hnew ⊢
  cases hexit with
  | declined hlog hshared =>
    rw [hlog.commandsOf_new hnew, hshared]
    exact h
  | @issued _ _ c x _ _ howner hlog hshared =>
    have hcommands := hlog.commandsOf_new hnew
    rw [hcommands, hshared]
    apply describes_command howner hs _ h
    intro state stamp hframe
    have hmem : ⟨.command c, x⟩ ∈ new := mem_commandsOf.mp (by simp [hcommands])
    exact hpositive.of_answered (hanswered _ hmem) hframe
  | reconnected _ hexit =>
    rw [foldr_note_reconnect]
    cases hexit with
    | unconfigured => exact h
    | unreachable => exact h
    | unlicensed => exact h
    | rebuilt => exact h.congr rfl

/-! ### Runs -/

/-- Turns that publish or read something else tell the node nothing. -/
lemma describes_diagnosticsTimer {v : HostView} {new : List (Event Call.Answer)}
    (h : v.Describes g.shared) :
    (new.foldr (HostView.note .diagnosticsTimer) v).Describes
      (step env .diagnosticsTimer g).shared := by
  have hdelivers : publishDiagnostics.wp env _ g := publishDiagnostics_delivers
  rw [foldr_note_eq fun e _ v => rfl]
  exact h.congr (congrArg Node.hostFields hdelivers.2.shared)

/-- A status tick tells the node the frame the SDK holds; what it publishes tells it nothing. -/
lemma describes_statusTimer {v : HostView} {new : List (Event Call.Answer)}
    (hpositive : PositiveStamps env) (h : v.Describes g.shared)
    (hnew : (step env .statusTimer g).history = new ++ g.history) :
    (new.foldr (HostView.note .statusTimer) v).Describes (step env .statusTimer g).shared := by
  obtain ⟨-, g₁, hrefreshed, hshared, new₂, hnew₂, hall⟩ : publishStatus.wp env _ g :=
    publishStatus_delivers
  obtain ⟨new₁, hnew₁, hdescribes⟩ := describes_refreshed hpositive h hrefreshed
  rw [events_split hnew hnew₁ hnew₂, List.foldr_append, foldr_note_eq]
  · exact hdescribes.congr (congrArg Node.hostFields hshared)
  · intro e he v
    rcases hall e he with hquiet | ⟨p, rfl, -⟩
    · obtain ⟨c, x⟩ := e
      cases c with
      | query q =>
        cases q with
        | getState => cases hquiet
        | _ => rfl
      | _ => rfl
    · rfl

/-- One callback. -/
theorem describes_step {v : HostView} (hpositive : PositiveStamps env) (cb : Callback)
    {new : List (Event Call.Answer)} (h : v.Describes g.shared)
    (hnew : (step env cb g).history = new ++ g.history) :
    (v.after ⟨cb, g.shared.currentState, new⟩).Describes (step env cb g).shared := by
  cases cb with
  | changeState t =>
    have hstep : (changeState t).wp env (TransitionStep env g t) g := change_step t
    exact describes_change h hstep
  | service s request => exact describes_service hpositive h hnew
  | statusTimer => exact describes_statusTimer hpositive h hnew
  | diagnosticsTimer => exact describes_diagnosticsTimer h
  | setParameters p =>
    have hsame : v.after ⟨.setParameters p, g.shared.currentState, new⟩ = v :=
      foldr_note_eq (fun e _ v => rfl) v
    rw [hsame]
    exact h.congr rfl

/-- After every run the node holds the view of its history. -/
theorem describes_traced (hpositive : PositiveStamps env) {turns : List Turn}
    (h : Traced env turns g) : (viewOf turns).Describes g.shared := by
  induction h with
  | fresh name p w => exact .of_empty (v := {}) rfl (by simp) rfl rfl
  | step cb _ hnew ih => exact describes_step hpositive cb ih hnew

/-! ### What changes nothing -/

/-- A call that reports a failure leaves what the node was told as it was. -/
lemma hostFields_failed (s : Service) (request : s.Request) :
    (s.handle request default).wp env (fun r g' => ∀ response, r = .ok response →
      response.success = false → g'.shared.hostFields = g.shared.hostFields) g := by
  apply wp_mono (handle_exit s request default)
  rintro r g' hexit response rfl hfailed
  cases hexit with
  | declined hlog hshared => exact congrArg Node.hostFields hshared
  | issued hs howner hlog hshared hmessage hsuccess =>
    rw [hfailed] at hsuccess
    rw [hshared, Command.effect_of_not_accepted (fun h => by cases hsuccess.mpr h)]
  | reconnected _ hexit =>
    cases hexit with
    | unconfigured => rfl
    | unreachable => rfl
    | unlicensed => rfl
    | rebuilt => rfl

/-- A tick that finds no frame leaves what the node was told as it was. -/
lemma hostFields_missed
    (hmissing : ∀ state stamp, g.answer env (.query .getState) ≠ .ok ⟨some state, stamp⟩) :
    (step env .statusTimer g).shared.hostFields = g.shared.hostFields := by
  obtain ⟨-, g₁, hrefreshed, hdelivers⟩ : publishStatus.wp env _ g := publishStatus_delivers
  apply (congrArg Node.hostFields hdelivers.shared).trans
  cases hrefreshed with
  | unasked => rfl
  | missed => rfl
  | held harm hframe => exact absurd hframe (hmissing _ _)

end LitearmDriver
