import LitearmDriver.Interaction.Coupling
import LitearmDriver.Lifecycle

/-!
# What the callbacks read of the cache

Only the reports look at the cached frame. Every handler except `get_status` and every
transition is blind to it: each of their reads gives the same code for a node without its
frame. The walk over the handlers also bounds what they call and write.
-/

namespace LitearmDriver

open Interaction Program

variable {α β Body : Type} {P : Call → Prop} {W : (Node → Node) → Prop}

/-- The node without its cached frame. -/
def Node.frameless (node : Node) : Node :=
  { node with
    lastState := ⟨false, false, false, false, 0, 0, "", 0, "", []⟩, haveState := false
    lastStateStamp := 0 }

/-- Code that does not see the cached frame, with calls in `P` and writes in `W`. -/
abbrev Frameblind (P : Call → Prop) (W : (Node → Node) → Prop) (p : Code α) : Prop :=
  p.Blind Node.frameless P W

/-! ### Primitives -/

lemma blind_bind {p : Code α} {f : α → Code β} (hp : Frameblind P W p)
    (hf : ∀ a, Frameblind P W (f a)) : Frameblind P W (p >>= f) := Blind.bind hp hf

/-- What follows only computes a value. -/
lemma blind_fill {p : Code α} {f : α → β} (hp : Frameblind P W p) :
    Frameblind P W (p >>= fun a => Pure.pure (f a)) := blind_bind hp fun _ => trivial

lemma blind_ite {c : Prop} [Decidable c] {p q : Code α} (hp : Frameblind P W p)
    (hq : Frameblind P W q) : Frameblind P W (if c then p else q) := by
  split
  · exact hp
  · exact hq

/-- A read that uses members other than the cached frame. -/
lemma blind_self {f : Node → Code α} (hf : ∀ node, f node = f node.frameless)
    (h : ∀ node, Frameblind P W (f node)) : Frameblind P W (self >>= f) := ⟨hf, h⟩

lemma blind_assign {f : Node → Node} (hf : W f) : Frameblind P W (assign f) := ⟨hf, trivial⟩

lemma blind_ask {c : Call} (hc : P c) : Frameblind P W (ask c) := ⟨hc, fun _ => trivial⟩

lemma blind_query {q : Query} (hq : P (.query q)) : Frameblind P W (query q) :=
  ⟨hq, fun _ => trivial⟩

lemma blind_orThrow (x : Except String α) : Frameblind P W (orThrow x) := by
  cases x with
  | ok a => trivial
  | error what => trivial

lemma blind_command {c : Command} (hc : P (.command c)) : Frameblind P W (command c) :=
  ⟨hc, fun x => blind_orThrow x⟩

lemma blind_derefArm : Frameblind P W derefArm :=
  blind_self (fun _ => rfl) fun _ => blind_ite trivial trivial

lemma blind_armQuery {q : Query} (hq : P (.query q)) : Frameblind P W (armQuery q) :=
  blind_bind blind_derefArm fun _ => blind_query hq

lemma blind_armCommand {c : Command} (hc : P (.command c)) : Frameblind P W (armCommand c) :=
  blind_bind blind_derefArm fun _ => blind_command hc

lemma blind_catching {p : Code α} {handler : String → Code α} (hp : Frameblind P W p)
    (hh : ∀ what, Frameblind P W (handler what)) : Frameblind P W (catching p handler) := by
  apply Blind.tryCatch hp
  intro e
  cases e with
  | exception what => exact hh what
  | undefined => trivial

lemma blind_connected (hq : P (.query .isConnected)) : Frameblind P W connected :=
  blind_self (fun _ => rfl) fun _ => blind_ite trivial (blind_query hq)

lemma blind_queryOr {q : Query} {otherwise : q.Answer} (hq : P (.query q)) :
    Frameblind P W (queryOr q otherwise) :=
  blind_self (fun _ => rfl) fun _ => blind_ite trivial (blind_query hq)

lemma blind_refuseUnless {gate : GateResult} {response : Reply Body} {rest : Code (Reply Body)}
    (h : Frameblind P W rest) : Frameblind P W (refuseUnless gate response rest) :=
  blind_ite h trivial

lemma blind_requireMotionAllowed {response : Reply Body} {rest : Code (Reply Body)}
    (h : Frameblind P W rest) : Frameblind P W (requireMotionAllowed response rest) :=
  blind_self (fun _ => rfl) fun _ => blind_refuseUnless h

lemma blind_refreshLicenseRecord (hc : P (.command .license))
    (hf : ∀ license, W (Node.holdLicense license)) : Frameblind P W refreshLicenseRecord := by
  apply blind_self (fun _ => rfl)
  intro node
  refine blind_ite trivial ?_
  exact blind_bind (blind_command hc) fun license => blind_assign (hf license)

/-! ### Handlers -/

/-- Calls of a handler that has no business with the clocks. -/
def Call.OfHandler : Call → Prop
  | .query _             => True
  | .command _           => True
  | .createDirectories _ => True
  | _                    => False

/-- Writes of a handler: a frame, a licence record, the percentage of the governor. -/
def WritesCache (f : Node → Node) : Prop :=
  (∃ state stamp, f = Node.holdFrame state stamp) ∨ (∃ license, f = Node.holdLicense license) ∨
    ∃ percent, f = fun node => { node with speedScaling := percent }

/-- Code of a handler that does not see the cached frame. -/
abbrev BlindHandler (p : Code α) : Prop := Frameblind Call.OfHandler WritesCache p

lemma blind_runCommand {what : String} {response : Reply Body}
    {fn : Reply Body → Code (Reply Body)} (h : ∀ response, BlindHandler (fn response)) :
    BlindHandler (runCommand what response fn) := by
  apply blind_bind (blind_connected trivial)
  intro link
  apply blind_refuseUnless
  exact blind_catching (blind_bind (h _) fun _ => trivial) fun _ => trivial

/-- The common case: one command, and a reply filled from its answer. -/
lemma blind_sends {what : String} {response : Reply Body} {c : Command}
    {f : Reply Body → c.Answer → Reply Body} :
    BlindHandler (runCommand what response fun response => do
      let a ← command c
      return f response a) :=
  blind_runCommand fun _ => blind_fill (blind_command trivial)

lemma blind_refuseUnlessConnected {response : Reply Body} {rest : Code (Reply Body)}
    (h : BlindHandler rest) : BlindHandler (refuseUnlessConnected response rest) :=
  blind_bind (blind_connected trivial) fun _ => blind_ite h trivial

lemma blind_motorsEnabled : BlindHandler motorsEnabled := by
  apply blind_self (fun _ => rfl)
  intro node
  refine blind_ite trivial ?_
  apply blind_bind (blind_query trivial)
  intro answer
  rcases answer with what | ⟨_ | state, stamp⟩ <;> trivial

lemma blind_handleEnable (response : Reply Unit) : BlindHandler (handleEnable response) :=
  blind_runCommand fun _ =>
    blind_self (fun _ => rfl) fun _ => blind_fill (blind_command trivial)

lemma blind_handleGetFeedforwardCatalog (response : Reply GetFeedforwardCatalog.Body) :
    BlindHandler (handleGetFeedforwardCatalog response) :=
  blind_bind (blind_query trivial) fun _ => blind_bind (blind_query trivial) fun _ =>
    blind_fill (blind_query trivial)

lemma blind_handleReconnect (response : Reply Unit) : BlindHandler (handleReconnect response) := by
  refine blind_catching (blind_self (fun _ => rfl) fun _ => blind_ite trivial ?_) fun _ => trivial
  apply blind_bind (blind_armCommand trivial)
  intro _
  apply blind_bind
  · exact blind_refreshLicenseRecord trivial fun license => .inr (.inl ⟨license, rfl⟩)
  · exact fun _ => blind_bind (blind_armQuery trivial) fun _ =>
      blind_fill (blind_armQuery trivial)

lemma blind_handleZeroG (request : SetBool.Request) (response : Reply Unit) :
    BlindHandler (handleZeroG request response) := by
  apply blind_ite
  · apply blind_self (fun _ => rfl)
    intro node
    refine blind_refuseUnless (blind_fill (blind_runCommand fun _ => blind_fill ?_))
    exact blind_self (fun _ => rfl) fun _ => blind_ite trivial (blind_armCommand trivial)
  · refine blind_fill (blind_runCommand fun _ => blind_fill ?_)
    exact blind_self (fun _ => rfl) fun _ => blind_ite trivial (blind_armCommand trivial)

lemma blind_handleGetTcp (response : Reply GetTcp.Body) :
    BlindHandler (handleGetTcp response) := by
  apply blind_bind (blind_connected trivial)
  intro link
  refine blind_refuseUnless (blind_catching ?_ fun _ => trivial)
  apply blind_bind (blind_armCommand trivial)
  intro answer
  cases answer <;> trivial

lemma blind_rates (ids : List RateId) : BlindHandler (rates ids) := by
  induction ids with
  | nil => trivial
  | cons id ids ih =>
    exact blind_bind (blind_query trivial) fun _ => blind_bind (blind_armQuery trivial) fun _ =>
      blind_fill ih

lemma blind_handleGetDiagnostics (response : Reply GetDiagnostics.Body) :
    BlindHandler (handleGetDiagnostics response) := by
  apply blind_bind (blind_connected trivial)
  intro link
  refine blind_refuseUnless (blind_catching ?_ fun _ => trivial)
  have hread {q : Query} {f : q.Answer → Code (Reply GetDiagnostics.Body)}
      (hf : ∀ a, BlindHandler (f a)) : BlindHandler (armQuery q >>= f) :=
    blind_bind (blind_armQuery trivial) hf
  refine hread fun _ => hread fun _ => hread fun _ => hread fun _ => hread fun _ => ?_
  refine hread fun _ => hread fun _ => hread fun _ => hread fun _ => hread fun _ => ?_
  exact blind_fill (blind_rates _)

lemma blind_handleMovePath (request : MovePath.Request) (response : Reply PlanReport) :
    BlindHandler (handleMovePath request response) := by
  refine blind_requireMotionAllowed (blind_bind ?_ fun read => ?_)
  · refine blind_ite trivial (blind_ite trivial ?_)
    cases (poseIndices request.poses.length).mapM (poseAt request.poses) <;> trivial
  · cases read with
    | error gate => trivial
    | ok poses => exact blind_refuseUnless blind_sends

lemma blind_handlePollCart (response : Reply PollCart.Body) :
    BlindHandler (handlePollCart response) := by
  refine blind_runCommand fun _ => blind_bind (blind_command trivial) fun plan => ?_
  cases plan <;> trivial

lemma blind_handleLogDump (request : LogDump.Request) (response : Reply LogDump.Body) :
    BlindHandler (handleLogDump request response) := by
  refine blind_refuseUnless (blind_refuseUnless (blind_bind (blind_connected trivial) ?_))
  intro link
  refine blind_refuseUnless (blind_catching ?_ fun _ => trivial)
  apply blind_self (fun _ => rfl)
  intro node
  refine blind_bind (blind_ask trivial) fun _ => blind_bind (blind_orThrow _) fun _ => ?_
  refine blind_bind (blind_armCommand trivial) fun _ => ?_
  exact blind_bind (blind_armQuery trivial) fun _ => blind_fill (blind_query trivial)

lemma blind_handleSetSpeedScaling (request : SetSpeedScaling.Request) (response : Reply Unit) :
    BlindHandler (handleSetSpeedScaling request response) := by
  refine blind_refuseUnless (blind_runCommand fun _ => blind_bind (blind_command trivial) ?_)
  intro _
  exact blind_fill (blind_assign (.inr (.inr ⟨request.percent, rfl⟩)))

lemma blind_handleGetJointParams (request : GetJointParams.Request)
    (response : Reply (List JointParam)) :
    BlindHandler (handleGetJointParams request response) := by
  refine blind_refuseUnlessConnected (blind_ite ?_ blind_sends)
  exact blind_bind (blind_armQuery trivial) fun _ => blind_refuseUnless blind_sends

/-- Every handler but that of `get_status`. -/
theorem blind_handle (s : Service) (hs : s ≠ .getStatus) (request : s.Request)
    (response : s.Response) : BlindHandler (s.handle request response) := by
  cases s with
  | reconnect => exact blind_handleReconnect _
  | home => exact blind_requireMotionAllowed (blind_fill blind_sends)
  | revertModel => exact (blind_sends : BlindHandler (handleRevertModel response))
  | logStop => exact (blind_sends : BlindHandler (handleLogStop response))
  | enable => exact blind_handleEnable _
  | disable => exact (blind_sends : BlindHandler (handleDisable response))
  | reset => exact (blind_sends : BlindHandler (handleReset response))
  | clearFaults => exact (blind_sends : BlindHandler (handleClearFaults response))
  | emergencyStop => exact blind_fill blind_sends
  | park => exact (blind_sends : BlindHandler (handlePark response))
  | saveParams => exact blind_bind blind_motorsEnabled fun _ => blind_refuseUnless blind_sends
  | resetFactoryParams =>
    exact blind_bind blind_motorsEnabled fun _ => blind_refuseUnless blind_sends
  | enterDfu =>
    exact blind_self (fun _ => rfl) fun _ => blind_refuseUnless (blind_fill blind_sends)
  | zeroG => exact blind_handleZeroG _ _
  | getTcp => exact blind_handleGetTcp _
  | getDiagnostics => exact blind_handleGetDiagnostics _
  | kinBench => exact blind_refuseUnless (blind_fill (blind_runCommand fun _ =>
      blind_bind (blind_query trivial) fun _ => blind_fill (blind_command trivial)))
  | moveJ => exact blind_requireMotionAllowed (blind_self (fun _ => rfl) fun _ =>
      blind_refuseUnless (blind_refuseUnless (blind_fill blind_sends)))
  | moveJSync => exact blind_requireMotionAllowed (blind_self (fun _ => rfl) fun _ =>
      blind_refuseUnless (blind_refuseUnless blind_sends))
  | moveP => exact blind_requireMotionAllowed (blind_refuseUnless (blind_refuseUnless
      (blind_fill blind_sends)))
  | moveJs => exact blind_requireMotionAllowed (blind_self (fun _ => rfl) fun _ =>
      blind_refuseUnless (blind_refuseUnless (blind_refuseUnless (blind_fill blind_sends))))
  | sendMit => exact blind_requireMotionAllowed (blind_self (fun _ => rfl) fun _ =>
      blind_refuseUnless (blind_refuseUnless blind_sends))
  | sendMitAll => exact blind_requireMotionAllowed (blind_self (fun _ => rfl) fun _ =>
      blind_refuseUnless (blind_fill blind_sends))
  | moveL => exact blind_requireMotionAllowed (blind_refuseUnless (blind_refuseUnless blind_sends))
  | moveC => exact blind_requireMotionAllowed (blind_refuseUnless (blind_refuseUnless blind_sends))
  | movePath => exact blind_handleMovePath _ _
  | pollCart => exact blind_handlePollCart _
  | inverseKinematics => exact blind_refuseUnless (blind_refuseUnless (blind_refuseUnless
      blind_sends))
  | getFeedforwardVector =>
    exact (blind_sends : BlindHandler (handleGetFeedforwardVector request response))
  | getFeedforwardMask => exact (blind_sends : BlindHandler (handleGetFeedforwardMask response))
  | getFeedforwardCatalog => exact blind_handleGetFeedforwardCatalog response
  | setGravityScale => exact blind_refuseUnless blind_sends
  | setInertiaScale => exact blind_refuseUnless (blind_fill blind_sends)
  | setGravityVector => exact blind_refuseUnless blind_sends
  | probeModel => exact (blind_sends : BlindHandler (handleProbeModel response))
  | getModelBody => exact (blind_sends : BlindHandler (handleGetModelBody request response))
  | setModelBody => exact blind_refuseUnless (blind_fill blind_sends)
  | getModelJm => exact (blind_sends : BlindHandler (handleGetModelJm response))
  | setModelJm => exact blind_refuseUnless (blind_fill blind_sends)
  | commitModel => exact blind_bind blind_motorsEnabled fun _ =>
      blind_refuseUnless (blind_fill blind_sends)
  | getModelStatus => exact (blind_sends : BlindHandler (handleGetModelStatus response))
  | logStart => exact blind_ite trivial (blind_fill blind_sends)
  | logDump => exact blind_handleLogDump _ _
  | getStatus => exact absurd rfl hs
  | setSpeedScaling => exact blind_handleSetSpeedScaling _ _
  | setMotionMode => exact blind_fill blind_sends
  | setPayload => exact blind_refuseUnless (blind_refuseUnless (blind_fill blind_sends))
  | setFeedforwardMask =>
    exact (blind_sends : BlindHandler (handleSetFeedforwardMask request response))
  | setFeedforwardPreset => exact blind_refuseUnless blind_sends
  | setFeedforwardScalar =>
    exact (blind_sends : BlindHandler (handleSetFeedforwardScalar request response))
  | setFeedforwardVector => exact blind_refuseUnless blind_sends
  | getFeedforwardScalar =>
    exact (blind_sends : BlindHandler (handleGetFeedforwardScalar request response))
  | getJointParams => exact blind_handleGetJointParams _ _
  | setJointGains =>
    exact blind_refuseUnlessConnected (blind_bind (blind_armQuery trivial) fun _ =>
      blind_refuseUnless blind_sends)
  | setJointLimits =>
    exact blind_refuseUnlessConnected (blind_bind (blind_armQuery trivial) fun _ =>
      blind_refuseUnless blind_sends)

/-! ### Transitions -/

/-- Every call but the two that read a clock. -/
def Call.Timeless : Call → Prop
  | .now       => False
  | .steadyNow => False
  | _          => True

/-- The write does not depend on the cached frame. -/
def IgnoresFrame (f : Node → Node) : Prop :=
  ∀ node, (f node).frameless = (f node.frameless).frameless

/-- Code of a transition that does not see the cached frame. -/
abbrev BlindTransition (p : Code α) : Prop := Frameblind Call.Timeless IgnoresFrame p

lemma blind_create (e : Entity) : BlindTransition (create e) :=
  blind_bind (blind_ask trivial) fun _ => blind_orThrow _

/-- An entity is created and the member that holds it written. -/
lemma blind_createThen (e : Entity) {f : Node → Node} (hf : IgnoresFrame f) :
    BlindTransition (create e >>= fun _ => assign f) :=
  blind_bind (blind_create e) fun _ => blind_assign hf

/-- Entities are destroyed and the members that held them dropped. -/
lemma blind_askThen {c : Call} {f : Node → Node} (hc : c.Timeless) (hf : IgnoresFrame f) :
    BlindTransition (ask c >>= fun _ => assign f) :=
  blind_bind (blind_ask hc) fun _ => blind_assign hf

lemma blind_readParameters : BlindTransition readParameters := by
  apply blind_self (fun _ => rfl)
  intro node
  apply blind_ite
  · exact blind_bind (blind_ask trivial) fun home => blind_assign fun _ => rfl
  · exact blind_assign fun _ => rfl

lemma blind_resetArm : BlindTransition resetArm := blind_askThen trivial fun _ => rfl

lemma blind_replaceArm (options : ArmOptions) : BlindTransition (replaceArm options) := by
  refine blind_bind (blind_ask trivial) fun created => blind_bind (blind_orThrow _) fun built => ?_
  apply blind_self (fun _ => rfl)
  intro node
  exact blind_ite (blind_askThen trivial fun _ => rfl) (blind_assign fun _ => rfl)

lemma blind_createServers (services : List Service) :
    BlindTransition (createServers services) := by
  induction services with
  | nil => trivial
  | cons s services ih =>
    exact blind_bind (blind_create _) fun _ => blind_bind (blind_assign fun _ => rfl) fun _ => ih

lemma blind_createPublishers : BlindTransition createPublishers := by
  apply blind_bind (blind_createThen _ fun _ => rfl)
  intro _
  apply blind_bind
  · exact blind_self (fun _ => rfl) fun _ => blind_ite (blind_createThen _ fun _ => rfl) trivial
  · intro _
    exact blind_self (fun _ => rfl) fun _ => blind_ite (blind_createThen _ fun _ => rfl) trivial

lemma blind_startTimers : BlindTransition startTimers := by
  apply blind_bind
  · exact blind_self (fun _ => rfl) fun _ => blind_ite (blind_createThen _ fun _ => rfl) trivial
  · intro _
    exact blind_self (fun _ => rfl) fun _ => blind_ite (blind_createThen _ fun _ => rfl) trivial

lemma blind_stopTimers : BlindTransition stopTimers := blind_askThen trivial fun _ => rfl

lemma blind_destroyServiceServers : BlindTransition destroyServiceServers :=
  blind_askThen trivial fun _ => rfl

lemma blind_resetPublishers : BlindTransition resetPublishers :=
  blind_askThen trivial fun _ => rfl

lemma blind_openArm : BlindTransition openArm := by
  apply blind_catching
  · exact blind_fill (blind_armCommand trivial)
  · exact fun _ => blind_fill blind_resetArm

lemma blind_establishNames (axes : Nat) : BlindTransition (establishNames axes) := by
  apply blind_self (fun _ => rfl)
  intro node
  exact blind_ite (blind_fill (blind_assign fun _ => rfl)) trivial

lemma blind_onConfigure : BlindTransition onConfigure := by
  refine blind_bind blind_readParameters fun _ => blind_bind (blind_assign fun _ => rfl) fun _ => ?_
  refine blind_self (fun _ => rfl) fun _ => blind_bind (blind_replaceArm _) fun _ => ?_
  refine blind_self (fun _ => rfl) fun _ => blind_ite trivial ?_
  refine blind_bind blind_openArm fun _ => blind_ite trivial ?_
  refine blind_bind (blind_armQuery trivial) fun axes => ?_
  refine blind_bind (blind_establishNames axes) fun _ => blind_ite ?_ ?_
  · exact blind_fill blind_resetArm
  · apply blind_bind
    · refine blind_catching ?_ fun _ => trivial
      exact blind_refreshLicenseRecord trivial fun _ _ => rfl
    · refine fun _ => blind_bind blind_createPublishers fun _ => ?_
      exact blind_bind (blind_armQuery trivial) fun _ => blind_fill (blind_armQuery trivial)

lemma blind_onActivate : BlindTransition onActivate := by
  refine blind_self (fun _ => rfl) fun _ => blind_ite trivial (blind_bind ?_ fun enabled => ?_)
  · refine blind_self (fun _ => rfl) fun _ => blind_ite (blind_catching ?_ ?_) trivial
    · exact blind_fill (blind_armCommand trivial)
    · exact fun _ => trivial
  · refine blind_ite trivial (blind_bind (blind_createServers _) fun _ => ?_)
    refine blind_bind (blind_assign fun _ => rfl) fun _ => blind_bind blind_startTimers fun _ => ?_
    exact blind_self (fun _ => rfl) fun _ => blind_ite trivial trivial

lemma blind_onDeactivate : BlindTransition onDeactivate := by
  apply blind_bind
  · apply blind_bind (blind_queryOr trivial)
    intro active
    exact blind_ite (blind_catching (blind_armCommand trivial) fun _ => trivial) trivial
  · refine fun _ => blind_bind blind_stopTimers fun _ => ?_
    exact blind_bind blind_destroyServiceServers fun _ => blind_fill (blind_assign fun _ => rfl)

lemma blind_onCleanup : BlindTransition onCleanup := by
  refine blind_bind blind_stopTimers fun _ => blind_bind blind_destroyServiceServers fun _ => ?_
  refine blind_bind (blind_assign fun _ => rfl) fun _ => blind_bind blind_resetPublishers ?_
  intro _
  apply blind_bind
  · refine blind_self (fun _ => rfl) fun _ => blind_ite trivial (blind_bind ?_ fun _ => ?_)
    · exact blind_catching (blind_armCommand trivial) fun _ => trivial
    · exact blind_resetArm
  · exact fun _ => blind_fill (blind_assign fun _ => rfl)

lemma blind_callback (t : Transition) : BlindTransition t.callback := by
  cases t with
  | configure => exact blind_onConfigure
  | activate => exact blind_onActivate
  | deactivate => exact blind_onDeactivate
  | cleanup => exact blind_onCleanup
  | shutdown => exact blind_onCleanup

/-- Every transition. -/
theorem blind_changeState (t : Transition) : BlindTransition (changeState t) := by
  have hexecute {callback : Code CallbackReturn} (h : BlindTransition callback) :
      BlindTransition (executeCallback callback) := blind_catching h fun _ => trivial
  have henter (state : PrimaryState) : BlindTransition (enterState state) :=
    blind_assign fun _ => rfl
  apply blind_self (fun _ => rfl)
  intro node
  cases t.goal node.currentState with
  | none => trivial
  | some goal =>
    apply blind_bind (hexecute (blind_callback t))
    intro result
    cases result with
    | success => exact henter goal
    | failure => trivial
    | error =>
      have honError : BlindTransition onError := blind_fill (blind_connected trivial)
      apply blind_bind (hexecute honError)
      intro handled
      cases handled with
      | success => exact henter _
      | failure => exact henter _
      | error => exact henter _

end LitearmDriver
