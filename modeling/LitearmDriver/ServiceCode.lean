import LitearmDriver.Blindness
import LitearmDriver.Interference

/-!
# The shape of the service code

The handlers and the timers are built from few parts: gates, a look at the link, one command
behind it, accessors of a session that exists, and writes to what the node remembers.
`Serving` is that grammar. The walk over the handlers is made once, here; what every part
keeps, all of them keep.
-/

namespace LitearmDriver

open Interaction Program

variable {α β Body : Type}

/-! ### The grammar -/

/-- Where a piece of code stands: anywhere, where a session exists, or right behind a look
that found the link up. -/
inductive Stage where
  | anywhere
  | holding
  | linked
  deriving DecidableEq

/-- The stage behind a check that the session exists. -/
def Stage.held : Stage → Stage
  | .anywhere => .holding
  | st        => st

/-- Calls that have nothing to do with the session. -/
def Call.isAside : Call → Bool
  | .query q                               => !q.onArm
  | .command _ | .createArm _ | .destroyArm => false
  | _                                      => true

/-- The command belongs to the service. -/
abbrev Owned (s : Service) (c : Command) : Prop := c.owner = some s

/-- Commands on an open session: all but those that open and close it. -/
def Command.ofSession : Command → Bool
  | .connect | .close => false
  | _                 => true

lemma Owned.ofSession {s : Service} {c : Command} (h : Owned s c) : c.ofSession = true := by
  cases c <;> first | rfl | cases h

/-- What the service code sees of the node: no parameter, and no frame or licence record that
is not valid. -/
def Node.working (node : Node) : Node :=
  { node with
    parameters := {}
    lastState := if node.haveState then node.lastState else ({} : Node).lastState
    license := if node.licenseValid then node.license else ({} : Node).license }

/-- Code of a handler or a timer, with commands in `C`. -/
inductive Serving (C : Command → Prop) : Stage → {α : Type} → Code α → Prop where
  | pure {st : Stage} {α : Type} (a : α) : Serving C st (Pure.pure a : Code α)
  | throw {st : Stage} {α : Type} (e : Abort) : Serving C st (.throw e : Code α)
  | bind {st : Stage} {α β : Type} {p : Code α} {f : α → Code β} (hp : Serving C st p)
      (hf : ∀ a, Serving C .anywhere (f a)) : Serving C st (p >>= f)
  | catching {st : Stage} {α : Type} {p : Code α} {handler : String → Code α}
      (hp : Serving C st p) (hh : ∀ what, Serving C .anywhere (handler what)) :
    Serving C st (catching p handler)
  | read {st : Stage} {α : Type} {f : Node → Code α} (hf : ∀ node, f node = f node.working)
      (h : ∀ node, Serving C st (f node)) : Serving C st (self >>= f)
  | write {st : Stage} {f : Node → Node} (hf : WritesCache f) : Serving C st (assign f)
  | aside {st : Stage} {α : Type} {c : Call} (hc : c.isAside = true) {f : c.Answer → Code α}
      (h : ∀ x, Serving C st (f x)) : Serving C st (ask c >>= f)
  | unlessNone {st : Stage} {α : Type} {p q : Code α} (hp : Serving C st p)
      (hq : Serving C st.held q) :
    Serving C st (self >>= fun node => if node.arm.isNone then p else q)
  | accessor (q : Query) : Serving C .holding (query q)
  | command {c : Command} (hc : C c) : Serving C .linked (command c)
  | look {Body : Type} {response : Reply Body} {rest : Code (Reply Body)}
      (h : Serving C .linked rest) :
    Serving C .anywhere (connected >>= fun link => refuseUnless (checkConnected link) response rest)
  | later {st : Stage} {α : Type} {p : Code α} (h : Serving C .anywhere p) : Serving C st p

namespace Serving

variable {C C' : Command → Prop} {st : Stage}

lemma mono {p : Code α} (h : Serving C st p) (hC : ∀ c, C c → C' c) : Serving C' st p := by
  induction h with
  | pure a => exact .pure a
  | throw e => exact .throw e
  | bind hp hf ihp ihf => exact .bind ihp ihf
  | catching hp hh ihp ihh => exact .catching ihp ihh
  | read hf h ih => exact .read hf ih
  | write hf => exact .write hf
  | aside hc h ih => exact .aside hc ih
  | unlessNone hp hq ihp ihq => exact .unlessNone ihp ihq
  | accessor q => exact .accessor q
  | command hc => exact .command (hC _ hc)
  | look h ih => exact .look ih
  | later h ih => exact .later ih

lemma any {p : Code α} (h : Serving C st p) : Serving (fun _ => True) st p :=
  h.mono fun _ _ => trivial

/-! ### Parts -/

/-- What follows only computes a value. -/
lemma fill {p : Code α} {f : α → β} (hp : Serving C st p) :
    Serving C st (p >>= fun a => Pure.pure (f a)) := hp.bind fun a => .pure (f a)

lemma ite {c : Prop} [Decidable c] {p q : Code α} (hp : Serving C st p) (hq : Serving C st q) :
    Serving C st (if c then p else q) := by
  split
  · exact hp
  · exact hq

/-- A call of its own that has nothing to do with the session. -/
lemma ask {c : Call} (hc : c.isAside = true) : Serving C st (ask c) := .aside hc fun x => .pure x

lemma derefArm_bind (p : Code α) : (derefArm >>= fun _ => p) =
    self >>= fun node => if node.arm.isNone then .throw .undefined else p := by
  refine congrArg Program.read (funext fun node => ?_)
  change ((if node.arm.isNone then Program.throw .undefined else Program.pure ()) >>=
    fun _ => p) = if node.arm.isNone then .throw .undefined else p
  split <;> rfl

lemma armQuery (q : Query) : Serving C .anywhere (armQuery q) := by
  rw [LitearmDriver.armQuery, derefArm_bind]
  exact .unlessNone (.throw _) (.accessor q)

lemma armCommand {c : Command} (hc : C c) : Serving C .linked (armCommand c) := by
  rw [LitearmDriver.armCommand, derefArm_bind]
  exact .unlessNone (.throw _) (.command hc)

lemma queryOr {q : Query} {otherwise : q.Answer} : Serving C .anywhere (queryOr q otherwise) :=
  .unlessNone (.pure _) (.accessor q)

lemma connected : Serving C .anywhere connected := .unlessNone (.pure _) (.accessor .isConnected)

lemma motorsEnabled : Serving C .anywhere motorsEnabled := by
  apply Serving.unlessNone (.pure _)
  apply (Serving.accessor .getState).bind
  intro answer
  rcases answer with what | ⟨_ | state, stamp⟩ <;> exact .pure _

lemma refuseUnless {gate : GateResult} {response : Reply Body} {rest : Code (Reply Body)}
    (h : Serving C st rest) : Serving C st (refuseUnless gate response rest) := h.ite (.pure _)

lemma refuseUnlessConnected {response : Reply Body} {rest : Code (Reply Body)}
    (h : Serving C .anywhere rest) : Serving C .anywhere (refuseUnlessConnected response rest) :=
  connected.bind fun _ => h.ite (.pure _)

lemma runCommand {what : String} {response : Reply Body} {fn : Reply Body → Code (Reply Body)}
    (h : ∀ response, Serving C .linked (fn response)) :
    Serving C .anywhere (runCommand what response fn) :=
  .look (.catching (h _).fill fun _ => .pure _)

/-- The common case: one command, and a reply filled from its answer. -/
lemma sends {what : String} {response : Reply Body} {c : Command} (hc : C c)
    {f : Reply Body → c.Answer → Reply Body} :
    Serving C .anywhere (LitearmDriver.runCommand what response fun response => do
      let a ← LitearmDriver.command c
      return f response a) :=
  runCommand fun _ => (Serving.command hc).fill

/-! ### Handlers with parts of their own -/

lemma handleEnable (response : Reply Unit) :
    Serving (Owned .enable) .anywhere (handleEnable response) :=
  runCommand fun _ => .read (fun _ => rfl) fun _ => (Serving.command (by rfl)).fill

lemma handleGetFeedforwardCatalog (response : Reply GetFeedforwardCatalog.Body) :
    Serving C .anywhere (handleGetFeedforwardCatalog response) :=
  .aside (c := .query .ffVecItems) rfl fun _ => .aside (c := .query .ffScalarItems) rfl fun _ =>
    (Serving.ask (c := .query .ffScalarRoItems) rfl).fill

lemma handleGetTcp (response : Reply GetTcp.Body) :
    Serving (Owned .getTcp) .anywhere (handleGetTcp response) := by
  refine .look (.catching ((armCommand (by rfl)).bind fun answer => ?_) fun _ => .pure _)
  cases answer <;> exact .pure _

lemma rates (ids : List RateId) : Serving C .anywhere (rates ids) := by
  induction ids with
  | nil => exact .pure _
  | cons id ids ih =>
    exact .aside (c := .query (.responseId id)) rfl fun _ => (armQuery _).bind fun _ => ih.fill

lemma handleGetDiagnostics (response : Reply GetDiagnostics.Body) :
    Serving C .anywhere (handleGetDiagnostics response) := by
  refine .look (.later (.catching ?_ fun _ => .pure _))
  refine (armQuery _).bind fun _ => (armQuery _).bind fun _ => (armQuery _).bind fun _ => ?_
  refine (armQuery _).bind fun _ => (armQuery _).bind fun _ => (armQuery _).bind fun _ => ?_
  refine (armQuery _).bind fun _ => (armQuery _).bind fun _ => (armQuery _).bind fun _ => ?_
  exact (armQuery _).bind fun _ => (rates _).fill

lemma handleKinBench (request : KinBench.Request) (response : Reply KinBench.Body) :
    Serving (Owned .kinBench) .anywhere (handleKinBench request response) :=
  refuseUnless (fill (runCommand fun _ => .aside (c := .query .kinBenchTimeout) rfl fun _ =>
    (Serving.command (by rfl)).fill))

lemma handlePollCart (response : Reply PollCart.Body) :
    Serving (Owned .pollCart) .anywhere (handlePollCart response) := by
  refine runCommand fun _ => (Serving.command (by rfl)).bind fun plan => ?_
  cases plan <;> exact .pure _

lemma handleLogDump (request : LogDump.Request) (response : Reply LogDump.Body) :
    Serving (Owned .logDump) .anywhere (handleLogDump request response) := by
  refine refuseUnless (refuseUnless (.look (.catching ?_ fun _ => .pure _)))
  refine .read (fun _ => rfl) fun node => .aside rfl fun created => ?_
  cases created with
  | error what => exact .throw _
  | ok _ =>
    refine (armCommand (by rfl)).bind fun _ => (armQuery _).bind fun _ => ?_
    exact (Serving.ask (c := .query (.sampleSize _)) rfl).fill

lemma handleSetSpeedScaling (request : SetSpeedScaling.Request) (response : Reply Unit) :
    Serving (Owned .setSpeedScaling) .anywhere (handleSetSpeedScaling request response) :=
  refuseUnless (runCommand fun _ => (Serving.command (by rfl)).bind fun _ =>
    fill (.write (.inr (.inr ⟨request.percent, rfl⟩))))

lemma handleGetJointParams (request : GetJointParams.Request)
    (response : Reply (List JointParam)) :
    Serving (Owned .getJointParams) .anywhere (handleGetJointParams request response) :=
  refuseUnlessConnected (.ite ((armQuery _).bind fun _ => refuseUnless (sends (by rfl)))
    (sends (by rfl)))

/-! ### Reports -/

lemma frameAge (stamp : Double) : Serving C .anywhere (frameAge stamp) :=
  .ite (.pure _) (Serving.ask rfl).fill

lemma publishOn (publisher : Publisher) (p : Publication) :
    Serving C .anywhere (publishOn publisher p) := .ite (Serving.ask rfl) (.pure _)

end Serving

/-- A report sees a frame only while it is valid. -/
@[simp] lemma Node.working_cached (node : Node) : node.working.cached = node.cached := by
  cases h : node.haveState <;> simp [Node.working, Node.cached, h]

/-- A report sees a licence record only while it is valid. -/
@[simp] lemma LitearmStatus.withLicense_working (status : LitearmStatus) (node : Node) :
    status.withLicense node.licenseValid node.working.license =
      status.withLicense node.licenseValid node.license := by
  cases h : node.licenseValid <;> simp [Node.working, LitearmStatus.withLicense, h]

lemma Serving.buildStatus (fresh : Option RobotState) :
    Serving C .anywhere (buildStatus fresh) := by
  refine .aside rfl fun stamp => .read (fun node => ?_) fun node => ?_
  · have hvalid : node.working.licenseValid = node.licenseValid := rfl
    simp only [Node.working_cached, hvalid, LitearmStatus.withLicense_working]
    rfl
  · refine connected.bind fun _ => queryOr.bind fun _ => queryOr.bind fun _ => ?_
    refine queryOr.bind fun _ => queryOr.bind fun _ => queryOr.bind fun _ => ?_
    exact (frameAge _).fill

lemma Serving.handleGetStatus (request : GetStatus.Request) (response : Reply LitearmStatus) :
    Serving (Owned .getStatus) .anywhere (handleGetStatus request response) :=
  runCommand fun _ => (Serving.command (by rfl)).bind fun message =>
    (Serving.write (.inl ⟨message.value, message.timestamp, rfl⟩)).bind fun _ =>
      (Serving.buildStatus _).fill

lemma Serving.cachedState : Serving C .anywhere cachedState := by
  refine Serving.bind (.unlessNone (.pure _) ?_) fun _ => .read (fun node => ?_) fun _ => .pure _
  · refine (Serving.accessor .getState).bind fun answer => ?_
    rcases answer with what | ⟨_ | state, stamp⟩
    · exact .pure _
    · exact .pure _
    · exact .write (.inl ⟨state, stamp, rfl⟩)
  · rw [Node.working_cached]

lemma Serving.publishStatus : Serving C .anywhere publishStatus := by
  refine cachedState.bind fun state => Serving.bind ?_ fun _ => ?_
  · refine .read (fun _ => rfl) fun node => ?_
    cases node.statusPublisher with
    | none => exact .pure _
    | some publisher => exact (buildStatus state).bind fun _ => publishOn _ _
  · refine .read (fun _ => rfl) fun node => ?_
    rcases node.jointStatePublisher with _ | publisher
    · exact .pure _
    rcases state with _ | state
    · exact .pure _
    exact .aside rfl fun _ => publishOn _ _

/-- A diagnostics report sees a frame and a licence record only while they are valid. -/
@[simp] lemma diagnosticsOf_working (node : Node) (r : DiagnosticReadings) :
    diagnosticsOf node.working r = diagnosticsOf node r := by
  cases h : node.haveState <;> cases h' : node.licenseValid <;>
    simp [Node.working, diagnosticsOf, h, h']

lemma Serving.publishDiagnostics : Serving C .anywhere publishDiagnostics := by
  refine .read (fun node => ?_) fun node => ?_
  · simp only [diagnosticsOf_working]
    rfl
  · rcases node.diagnosticsPublisher with _ | publisher
    · exact .pure _
    refine .aside rfl fun _ => queryOr.bind fun _ => connected.bind fun _ => ?_
    refine queryOr.bind fun _ => queryOr.bind fun _ => connected.bind fun _ => ?_
    apply queryOr.bind
    intro _
    exact (frameAge _).bind fun _ => publishOn _ _

/-! ### The handlers -/

/-- The parameters that are looked up when a service is called. -/
def Parameters.callTime (p : Parameters) : Parameters :=
  { allowMotion := p.allowMotion
    allowDfu := p.allowDfu
    zeroGKeepalivePeriodS := p.zeroGKeepalivePeriodS }

/-- What a handler sees that looks at the parameter storage. -/
def Node.callTime (node : Node) : Node :=
  { node.working with parameters := node.parameters.callTime }

/-- The opt-in that the service waits for is not given. -/
def Service.locked : Service → Parameters → Bool
  | .moveJ, p | .moveJSync, p | .moveP, p | .moveJs, p | .sendMit, p | .sendMitAll, p
  | .home, p | .moveL, p | .moveC, p | .movePath, p => !p.allowMotion
  | .enterDfu, p => !p.allowDfu
  | _, _ => false

/-- Service code, or service code behind one look at the parameter storage that sends nothing
when the opt-in is missing there. -/
inductive Served (s : Service) {α : Type} : Code α → Prop where
  | plain {p : Code α} (hs : ∀ parameters, s.locked parameters = false)
      (h : Serving (Owned s) .anywhere p) : Served s p
  | consulting {f : Node → Code α} (hf : ∀ node, f node = f node.callTime)
      (h : ∀ node, Serving (Owned s) .anywhere (f node))
      (hlocked : ∀ node, s.locked node.parameters = true →
        Serving (fun _ => False) .anywhere (f node)) : Served s (self >>= f)

lemma Served.motion {s : Service} (hs : ∀ p, s.locked p = !p.allowMotion)
    {response : Reply Body} {rest : Code (Reply Body)} (h : Serving (Owned s) .anywhere rest) :
    Served s (requireMotionAllowed response rest) := by
  refine .consulting (fun _ => rfl) (fun _ => h.refuseUnless) fun node hlocked => ?_
  have hclosed : node.parameters.allowMotion = false := by simpa [hs] using hlocked
  rw [hclosed]
  exact .pure _

lemma Served.handleEnterDfu (response : Reply Unit) :
    Served .enterDfu (handleEnterDfu response) := by
  refine .consulting (fun _ => rfl) (fun _ => .refuseUnless (.fill (.sends (by rfl)))) ?_
  intro node hlocked
  have hclosed : node.parameters.allowDfu = false := by simpa [Service.locked] using hlocked
  rw [hclosed]
  exact .pure _

lemma Served.handleZeroG (request : SetBool.Request) (response : Reply Unit) :
    Served .zeroG (handleZeroG request response) := by
  rw [LitearmDriver.handleZeroG]
  split
  · refine .consulting (fun _ => rfl) (fun node => .refuseUnless (.fill ?_))
      fun _ hlocked => absurd hlocked Bool.false_ne_true
    exact .runCommand fun _ => .fill (.unlessNone (.pure _) (.armCommand (by rfl)))
  · refine .plain (fun _ => rfl) (.fill (.runCommand fun _ => .fill ?_))
    exact .unlessNone (.pure _) (.armCommand (by rfl))

lemma Served.handleMovePath (request : MovePath.Request) (response : Reply PlanReport) :
    Served .movePath (handleMovePath request response) := by
  refine .motion (fun _ => rfl) (Serving.bind (.ite (.pure _) (.ite (.pure _) ?_)) fun read => ?_)
  · cases (poseIndices request.poses.length).mapM (poseAt request.poses) with
    | none => exact .throw _
    | some poses => exact .pure _
  · cases read with
    | error gate => exact .pure _
    | ok poses => exact .refuseUnless (.sends (by rfl))

/-- Every handler but that of `reconnect`, which sends its command without a look. -/
theorem served_handle (s : Service) (hs : s ≠ .reconnect) (request : s.Request)
    (response : s.Response) : Served s (s.handle request response) := by
  cases s with
  | reconnect => exact absurd rfl hs
  | home => exact .motion (fun _ => rfl) (.fill (.sends (by rfl)))
  | revertModel =>
    exact .plain (fun _ => rfl) (Serving.sends (by rfl) : Serving _ _ (handleRevertModel response))
  | logStop =>
    exact .plain (fun _ => rfl) (Serving.sends (by rfl) : Serving _ _ (handleLogStop response))
  | enable => exact .plain (fun _ => rfl) (Serving.handleEnable _)
  | disable =>
    exact .plain (fun _ => rfl) (Serving.sends (by rfl) : Serving _ _ (handleDisable response))
  | reset =>
    exact .plain (fun _ => rfl) (Serving.sends (by rfl) : Serving _ _ (handleReset response))
  | clearFaults =>
    exact .plain (fun _ => rfl) (Serving.sends (by rfl) : Serving _ _ (handleClearFaults response))
  | emergencyStop => exact .plain (fun _ => rfl) (.fill (.sends (by rfl)))
  | park => exact .plain (fun _ => rfl) (Serving.sends (by rfl) : Serving _ _ (handlePark response))
  | saveParams =>
    exact .plain (fun _ => rfl)
      (Serving.motorsEnabled.bind fun _ => .refuseUnless (.sends (by rfl)))
  | resetFactoryParams =>
    exact .plain (fun _ => rfl)
      (Serving.motorsEnabled.bind fun _ => .refuseUnless (.sends (by rfl)))
  | enterDfu => exact .handleEnterDfu _
  | zeroG => exact .handleZeroG _ _
  | getTcp => exact .plain (fun _ => rfl) (Serving.handleGetTcp _)
  | getDiagnostics => exact .plain (fun _ => rfl) (Serving.handleGetDiagnostics _)
  | kinBench => exact .plain (fun _ => rfl) (Serving.handleKinBench _ _)
  | moveJ => exact .motion (fun _ => rfl) (.read (fun _ => rfl) fun _ =>
      .refuseUnless (.refuseUnless (.fill (.sends (by rfl)))))
  | moveJSync => exact .motion (fun _ => rfl) (.read (fun _ => rfl) fun _ =>
      .refuseUnless (.refuseUnless (.sends (by rfl))))
  | moveP => exact .motion (fun _ => rfl) (.refuseUnless (.refuseUnless (.fill (.sends (by rfl)))))
  | moveJs => exact .motion (fun _ => rfl) (.read (fun _ => rfl) fun _ =>
      .refuseUnless (.refuseUnless (.refuseUnless (.fill (.sends (by rfl))))))
  | sendMit => exact .motion (fun _ => rfl) (.read (fun _ => rfl) fun _ =>
      .refuseUnless (.refuseUnless (.sends (by rfl))))
  | sendMitAll => exact .motion (fun _ => rfl) (.read (fun _ => rfl) fun _ =>
      .refuseUnless (.fill (.sends (by rfl))))
  | moveL => exact .motion (fun _ => rfl) (.refuseUnless (.refuseUnless (.sends (by rfl))))
  | moveC => exact .motion (fun _ => rfl) (.refuseUnless (.refuseUnless (.sends (by rfl))))
  | movePath => exact .handleMovePath _ _
  | pollCart => exact .plain (fun _ => rfl) (Serving.handlePollCart _)
  | inverseKinematics =>
    exact .plain (fun _ => rfl) (.refuseUnless (.refuseUnless (.refuseUnless (.sends (by rfl)))))
  | getFeedforwardVector =>
    exact .plain (fun _ => rfl)
      (Serving.sends (by rfl) : Serving _ _ (handleGetFeedforwardVector request response))
  | getFeedforwardMask =>
    exact .plain (fun _ => rfl)
      (Serving.sends (by rfl) : Serving _ _ (handleGetFeedforwardMask response))
  | getFeedforwardCatalog =>
    exact .plain (fun _ => rfl) (Serving.handleGetFeedforwardCatalog response)
  | setGravityScale => exact .plain (fun _ => rfl) (.refuseUnless (.sends (by rfl)))
  | setInertiaScale => exact .plain (fun _ => rfl) (.refuseUnless (.fill (.sends (by rfl))))
  | setGravityVector => exact .plain (fun _ => rfl) (.refuseUnless (.sends (by rfl)))
  | probeModel =>
    exact .plain (fun _ => rfl) (Serving.sends (by rfl) : Serving _ _ (handleProbeModel response))
  | getModelBody =>
    exact .plain (fun _ => rfl)
      (Serving.sends (by rfl) : Serving _ _ (handleGetModelBody request response))
  | setModelBody => exact .plain (fun _ => rfl) (.refuseUnless (.fill (.sends (by rfl))))
  | getModelJm =>
    exact .plain (fun _ => rfl) (Serving.sends (by rfl) : Serving _ _ (handleGetModelJm response))
  | setModelJm => exact .plain (fun _ => rfl) (.refuseUnless (.fill (.sends (by rfl))))
  | commitModel =>
    exact .plain (fun _ => rfl)
      (Serving.motorsEnabled.bind fun _ => .refuseUnless (.fill (.sends (by rfl))))
  | getModelStatus =>
    exact .plain (fun _ => rfl)
      (Serving.sends (by rfl) : Serving _ _ (handleGetModelStatus response))
  | logStart => exact .plain (fun _ => rfl) (.ite (.pure _) (.fill (.sends (by rfl))))
  | logDump => exact .plain (fun _ => rfl) (Serving.handleLogDump _ _)
  | getStatus => exact .plain (fun _ => rfl) (Serving.handleGetStatus _ _)
  | setSpeedScaling => exact .plain (fun _ => rfl) (Serving.handleSetSpeedScaling _ _)
  | setMotionMode => exact .plain (fun _ => rfl) (.fill (.sends (by rfl)))
  | setPayload =>
    exact .plain (fun _ => rfl) (.refuseUnless (.refuseUnless (.fill (.sends (by rfl)))))
  | setFeedforwardMask =>
    exact .plain (fun _ => rfl)
      (Serving.sends (by rfl) : Serving _ _ (handleSetFeedforwardMask request response))
  | setFeedforwardPreset => exact .plain (fun _ => rfl) (.refuseUnless (.sends (by rfl)))
  | setFeedforwardScalar =>
    exact .plain (fun _ => rfl)
      (Serving.sends (by rfl) : Serving _ _ (handleSetFeedforwardScalar request response))
  | setFeedforwardVector => exact .plain (fun _ => rfl) (.refuseUnless (.sends (by rfl)))
  | getFeedforwardScalar =>
    exact .plain (fun _ => rfl)
      (Serving.sends (by rfl) : Serving _ _ (handleGetFeedforwardScalar request response))
  | getJointParams => exact .plain (fun _ => rfl) (Serving.handleGetJointParams _ _)
  | setJointGains =>
    exact .plain (fun _ => rfl) (.refuseUnlessConnected ((Serving.armQuery _).bind fun _ =>
      .refuseUnless (.sends (by rfl))))
  | setJointLimits =>
    exact .plain (fun _ => rfl) (.refuseUnlessConnected ((Serving.armQuery _).bind fun _ =>
      .refuseUnless (.sends (by rfl))))

/-! ### What service code sees -/

/-- Code that sees of the node only what service code sees, and writes only the caches. -/
abbrev SeesWorking (p : Code α) : Prop := p.Blind Node.working (fun _ => True) WritesCache

lemma seesWorking_catching {p : Code α} {handler : String → Code α} (hp : SeesWorking p)
    (hh : ∀ what, SeesWorking (handler what)) : SeesWorking (catching p handler) := by
  apply Blind.tryCatch hp
  intro e
  cases e with
  | exception what => exact hh what
  | undefined => trivial

/-- `if (arm_ == nullptr) { p } else { q }`. -/
lemma seesWorking_unlessNone {p q : Code α} (hp : SeesWorking p) (hq : SeesWorking q) :
    SeesWorking (self >>= fun node => if node.arm.isNone then p else q) := by
  refine ⟨fun _ => rfl, fun node => ?_⟩
  change SeesWorking (if node.arm.isNone then p else q)
  split
  · exact hp
  · exact hq

lemma seesWorking_orThrow (x : Except String α) : SeesWorking (orThrow x) := by
  cases x <;> trivial

lemma seesWorking_command (c : Command) : SeesWorking (command c) :=
  ⟨trivial, fun x => seesWorking_orThrow x⟩

theorem Serving.seesWorking {st : Stage} {p : Code α} (h : Serving (fun _ => True) st p) :
    SeesWorking p := by
  induction h with
  | pure a => trivial
  | throw e => trivial
  | bind hp hf ihp ihf => exact Blind.bind ihp ihf
  | catching hp hh ihp ihh => exact seesWorking_catching ihp ihh
  | read hf h ih => exact ⟨hf, ih⟩
  | write hf => exact ⟨hf, trivial⟩
  | aside hc h ih => exact ⟨trivial, ih⟩
  | unlessNone hp hq ihp ihq => exact seesWorking_unlessNone ihp ihq
  | accessor q => exact ⟨trivial, fun _ => trivial⟩
  | command hc => exact seesWorking_command _
  | @look Body response rest h ih =>
    refine Blind.bind (seesWorking_unlessNone trivial ⟨trivial, fun _ => trivial⟩) fun link => ?_
    cases link
    · trivial
    · exact ih
  | later h ih => exact ih

lemma seesWorking_handleReconnect (response : Reply Unit) :
    SeesWorking (handleReconnect response) := by
  refine seesWorking_catching (seesWorking_unlessNone trivial ?_) fun _ => trivial
  apply Blind.bind (Serving.armCommand (c := .reconnect) trivial).seesWorking
  intro _
  apply Blind.bind
  · refine seesWorking_unlessNone trivial (Blind.bind (seesWorking_command _) fun license => ?_)
    exact ⟨.inr (.inl ⟨license, rfl⟩), trivial⟩
  · exact fun _ => Blind.bind (Serving.armQuery _).seesWorking fun _ =>
      (Serving.armQuery _).fill.seesWorking

end LitearmDriver
