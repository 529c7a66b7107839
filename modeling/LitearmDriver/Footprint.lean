import LitearmDriver.Interaction.Calls
import LitearmDriver.Lifecycle

/-!
# What the transitions and the timers may call

Each transition callback sends the few commands that belong to it and otherwise reads,
creates and destroys; the timers read and publish.
-/

namespace LitearmDriver

open Interaction Program

variable {α : Type} {P : Call → Prop}

/-! ### Primitives -/

lemma calls_self : self.Calls P := fun _ => trivial

lemma calls_assign (f : Node → Node) : (assign f).Calls P := trivial

lemma calls_ask {c : Call} (h : P c) : (ask c).Calls P := ⟨h, fun _ => trivial⟩

lemma calls_query {q : Query} (h : P (.query q)) : (query q).Calls P := ⟨h, fun _ => trivial⟩

lemma calls_orThrow (x : Except String α) : (orThrow x).Calls P := by
  cases x with
  | ok a => trivial
  | error what => trivial

lemma calls_command {c : Command} (h : P (.command c)) : (command c).Calls P :=
  ⟨h, fun x => calls_orThrow x⟩

lemma calls_ite {p : Prop} [Decidable p] {a b : Code α} (ha : a.Calls P) (hb : b.Calls P) :
    (if p then a else b).Calls P := by
  split
  · exact ha
  · exact hb

lemma calls_derefArm : derefArm.Calls P := .bind calls_self fun _ => calls_ite trivial trivial

lemma calls_armQuery {q : Query} (h : P (.query q)) : (armQuery q).Calls P :=
  .bind calls_derefArm fun _ => calls_query h

lemma calls_armCommand {c : Command} (h : P (.command c)) : (armCommand c).Calls P :=
  .bind calls_derefArm fun _ => calls_command h

lemma calls_catching {p : Code α} {handler : String → Code α} (hp : p.Calls P)
    (hh : ∀ what, (handler what).Calls P) : (catching p handler).Calls P := by
  refine .tryCatch hp fun e => ?_
  cases e with
  | exception what => exact hh what
  | undefined => trivial

lemma calls_connected (h : P (.query .isConnected)) : connected.Calls P :=
  .bind calls_self fun _ => calls_ite trivial (calls_query h)

lemma calls_queryOr {q : Query} {otherwise : q.Answer} (h : P (.query q)) :
    (queryOr q otherwise).Calls P :=
  .bind calls_self fun _ => calls_ite trivial (calls_query h)

lemma calls_create {e : Entity} (h : P (.create e)) : (create e).Calls P :=
  .bind (calls_ask h) fun _ => calls_orThrow _

/-- An entity that is created and put into its member. -/
lemma calls_createThen {e : Entity} (f : Node → Node) (h : P (.create e)) :
    (create e >>= fun _ => assign f).Calls P :=
  .bind (calls_create h) fun _ => calls_assign f

/-! ### Transitions -/

/-- Calls of a transition that sends the commands in `C`: it may read all but the frame,
create and destroy. A session object is built only by a transition that opens it, and
destroyed only by one that opens or closes it. -/
def Call.OfTransition (C : Command → Prop) : Call → Prop
  | .query q             => q ≠ .getState
  | .command c           => C c
  | .createArm _         => C .connect
  | .destroyArm          => C .connect ∨ C .close
  | .publish _           => False
  | .createDirectories _ => False
  | _                    => True

variable {C : Command → Prop}

lemma calls_createServers (services : List Service) :
    (createServers services).Calls (Call.OfTransition C) := by
  induction services with
  | nil => trivial
  | cons s services ih =>
    exact .bind (calls_create trivial) fun _ => .bind (calls_assign _) fun _ => ih

lemma calls_destroyServiceServers : destroyServiceServers.Calls (Call.OfTransition C) :=
  .bind (calls_ask trivial) fun _ => calls_assign _

lemma calls_resetPublishers : resetPublishers.Calls (Call.OfTransition C) :=
  .bind (calls_ask trivial) fun _ => calls_assign _

lemma calls_createPublishers (h : ∀ e, P (.create e)) : createPublishers.Calls P := by
  refine .bind (calls_createThen _ (h _)) fun _ => .bind ?_ fun _ => ?_
  · exact .bind calls_self fun _ => calls_ite (calls_createThen _ (h _)) trivial
  · exact .bind calls_self fun _ => calls_ite (calls_createThen _ (h _)) trivial

lemma calls_startTimers (h : ∀ e, P (.create e)) : startTimers.Calls P := by
  refine .bind ?_ fun _ => ?_
  · exact .bind calls_self fun _ => calls_ite (calls_createThen _ (h _)) trivial
  · exact .bind calls_self fun _ => calls_ite (calls_createThen _ (h _)) trivial

lemma calls_stopTimers : stopTimers.Calls (Call.OfTransition C) :=
  .bind (calls_ask trivial) fun _ => calls_assign _

lemma calls_resetArm (h : C .connect ∨ C .close) : resetArm.Calls (Call.OfTransition C) :=
  .bind (calls_ask h) fun _ => calls_assign _

lemma calls_readParameters : readParameters.Calls (Call.OfTransition C) :=
  .bind calls_self fun _ => calls_ite (.bind (calls_ask trivial) fun _ => calls_assign _)
    (calls_assign _)

lemma calls_replaceArm {options : ArmOptions} (h : C .connect) :
    (replaceArm options).Calls (Call.OfTransition C) := by
  refine .bind (calls_ask h) fun created => .bind (calls_orThrow _) fun built => ?_
  exact .bind calls_self fun node =>
    calls_ite (.bind (calls_ask (.inl h)) fun _ => calls_assign _) (calls_assign _)

lemma calls_openArm (h : C .connect) : openArm.Calls (Call.OfTransition C) := by
  refine calls_catching (.bind (calls_armCommand h) fun _ => trivial) fun what => ?_
  exact .bind (calls_resetArm (.inl h)) fun _ => trivial

lemma calls_establishNames (axes : Nat) : (establishNames axes).Calls P :=
  .bind calls_self fun _ => calls_ite (.bind (calls_assign _) fun _ => trivial) trivial

lemma calls_refreshLicenseRecord (h : P (.command .license)) :
    refreshLicenseRecord.Calls P :=
  .bind calls_self fun _ => calls_ite trivial <|
    .bind (calls_command h) fun _ => calls_assign _

/-- What `on_configure` does once the names are settled. -/
abbrev finishConfigure : Code CallbackReturn := do
  catching refreshLicenseRecord fun _ => return ()
  createPublishers
  let _ ← armQuery .isConnected
  let _ ← armQuery .firmware
  return .success

lemma calls_finishConfigure (hcreate : ∀ e, P (.create e)) (hlicense : P (.command .license))
    (hlink : P (.query .isConnected)) (hfirmware : P (.query .firmware)) :
    finishConfigure.Calls P :=
  .bind (calls_catching (calls_refreshLicenseRecord hlicense) fun _ => trivial) fun _ =>
    .bind (calls_createPublishers hcreate) fun _ => .bind (calls_armQuery hlink) fun _ =>
      .bind (calls_armQuery hfirmware) fun _ => trivial

lemma calls_onConfigure :
    onConfigure.Calls (Call.OfTransition fun c => c = .connect ∨ c = .license) := by
  refine .bind calls_readParameters fun _ => .bind (calls_assign _) fun _ => ?_
  refine .bind calls_self fun _ => .bind (calls_replaceArm (.inl rfl)) fun _ => ?_
  refine .bind calls_self fun _ => calls_ite trivial <| .bind (calls_openArm (.inl rfl)) fun _ => ?_
  refine calls_ite trivial <| .bind (calls_armQuery nofun) fun _ => ?_
  refine .bind (calls_establishNames _) fun _ => calls_ite ?_ ?_
  · exact .bind (calls_resetArm (.inl (.inl rfl))) fun _ => trivial
  · exact calls_finishConfigure (fun _ => trivial) (.inr rfl) nofun nofun

/-- What `on_activate` does once ENABLE was answered. -/
abbrev finishActivate (enabled : Bool) : Code CallbackReturn := do
  if !enabled then return .error
  createServiceServers
  activatePublishers
  startTimers
  let node ← self
  if node.statusPublisher.isNone then .throw .undefined else return .success

lemma calls_finishActivate (enabled : Bool) :
    (finishActivate enabled).Calls (Call.OfTransition C) :=
  calls_ite trivial <| .bind (calls_createServers _) fun _ => .bind (calls_assign _) fun _ =>
    .bind (calls_startTimers fun _ => trivial) fun _ => .bind calls_self fun _ =>
      calls_ite trivial trivial

lemma calls_onActivate :
    onActivate.Calls (Call.OfTransition fun c => ∃ attempts, c = .enable attempts) := by
  refine .bind calls_self fun _ => calls_ite trivial <| .bind ?_ fun _ => calls_finishActivate _
  refine .bind calls_self fun _ => calls_ite ?_ trivial
  exact calls_catching (.bind (calls_armCommand ⟨_, rfl⟩) fun _ => trivial) fun _ => trivial

lemma calls_onDeactivate : onDeactivate.Calls (Call.OfTransition (· = .zeroGStop true)) := by
  refine .bind ?_ fun _ => .bind calls_stopTimers fun _ => ?_
  · refine .bind (calls_queryOr nofun) fun _ => calls_ite ?_ trivial
    exact calls_catching (calls_armCommand rfl) fun _ => trivial
  exact .bind calls_destroyServiceServers fun _ => .bind (calls_assign _) fun _ => trivial

lemma calls_onCleanup : onCleanup.Calls (Call.OfTransition (· = .close)) := by
  refine .bind calls_stopTimers fun _ => .bind calls_destroyServiceServers fun _ => ?_
  refine .bind (calls_assign _) fun _ => .bind calls_resetPublishers fun _ => .bind ?_ fun _ => ?_
  · refine .bind calls_self fun _ => calls_ite trivial <| .bind ?_ fun _ =>
      calls_resetArm (.inr rfl)
    exact calls_catching (calls_armCommand rfl) fun _ => trivial
  · exact .bind (calls_assign _) fun _ => trivial

/-- The commands a transition may send. -/
def Transition.Sends : Transition → Command → Prop
  | .configure, c           => c = .connect ∨ c = .license
  | .activate, c            => ∃ attempts, c = .enable attempts
  | .deactivate, c          => c = .zeroGStop true
  | .cleanup, c | .shutdown, c => c = .close

lemma calls_callback (t : Transition) : t.callback.Calls (Call.OfTransition t.Sends) := by
  cases t with
  | configure => exact calls_onConfigure
  | activate => exact calls_onActivate
  | deactivate => exact calls_onDeactivate
  | cleanup => exact calls_onCleanup
  | shutdown => exact calls_onCleanup

lemma calls_executeCallback {callback : Code CallbackReturn} (h : callback.Calls P) :
    (executeCallback callback).Calls P :=
  calls_catching h fun _ => trivial

lemma calls_onError : onError.Calls (Call.OfTransition C) :=
  .bind (calls_connected nofun) fun _ => trivial

theorem calls_changeState (t : Transition) :
    (changeState t).Calls (Call.OfTransition t.Sends) := by
  refine .bind calls_self fun node => ?_
  cases t.goal node.currentState with
  | none => trivial
  | some goal =>
    refine .bind (calls_executeCallback (calls_callback t)) fun result => ?_
    cases result with
    | success => exact calls_assign _
    | failure => trivial
    | error =>
      refine .bind (calls_executeCallback calls_onError) fun handled => ?_
      cases handled with
      | success => exact calls_assign _
      | failure => exact calls_assign _
      | error => exact calls_assign _

/-! ### Timers -/

/-- Calls of a timer: it reads the SDK and the clocks, and publishes. -/
def Call.OfTimer : Call → Prop
  | .query _   => True
  | .publish _ => True
  | .steadyNow => True
  | .now       => True
  | _          => False

/-- The accessors a timer reads. -/
def Query.ofTick : Query → Bool
  | .isConnected | .isInDfu | .firmware | .lastResetReason => true
  | .zeroGActive | .zeroGErrorText | .getState             => true
  | _                                                      => false

/-- Calls of one tick: it reads these accessors and the clocks, and publishes. -/
def Call.OfTick : Call → Prop
  | .query q   => q.ofTick = true
  | .publish _ => True
  | .steadyNow => True
  | .now       => True
  | _          => False

lemma Call.OfTick.ofTimer {c : Call} (h : c.OfTick) : c.OfTimer := by
  cases c with
  | query q => trivial
  | publish p => trivial
  | steadyNow => trivial
  | now => trivial
  | _ => exact h

lemma calls_frameAge (stamp : Double) : (frameAge stamp).Calls Call.OfTick :=
  calls_ite trivial <| .bind (calls_ask trivial) fun _ => trivial

lemma calls_publishOn (publisher : Publisher) (p : Publication) :
    (publishOn publisher p).Calls Call.OfTick :=
  calls_ite (calls_ask trivial) trivial

lemma calls_buildStatus (fresh : Option RobotState) :
    (buildStatus fresh).Calls Call.OfTick := by
  refine .bind (calls_ask trivial) fun _ => .bind calls_self fun _ => ?_
  refine .bind (calls_connected rfl) fun _ => .bind (calls_queryOr rfl) fun _ => ?_
  refine .bind (calls_queryOr rfl) fun _ => .bind (calls_queryOr rfl) fun _ => ?_
  refine .bind (calls_queryOr rfl) fun _ => .bind (calls_queryOr rfl) fun _ => ?_
  exact .bind (calls_frameAge _) fun _ => trivial

lemma calls_cachedState : cachedState.Calls Call.OfTick := by
  refine .bind (.bind calls_self fun _ => calls_ite trivial ?_) fun _ =>
    .bind calls_self fun _ => trivial
  refine .bind (calls_query rfl) fun answer => ?_
  rcases answer with what | ⟨_ | state, stamp⟩
  · trivial
  · trivial
  · exact calls_assign _

lemma tick_publishStatus : publishStatus.Calls Call.OfTick := by
  refine .bind calls_cachedState fun state => .bind ?_ fun _ => ?_
  · refine .bind calls_self fun node => ?_
    cases node.statusPublisher with
    | none => trivial
    | some publisher => exact .bind (calls_buildStatus _) fun _ => calls_publishOn _ _
  · refine .bind calls_self fun node => ?_
    rcases node.jointStatePublisher with _ | publisher
    · trivial
    rcases state with _ | state
    · trivial
    exact .bind (calls_ask trivial) fun _ => calls_publishOn _ _

lemma tick_publishDiagnostics : publishDiagnostics.Calls Call.OfTick := by
  refine .bind calls_self fun node => ?_
  rcases node.diagnosticsPublisher with _ | publisher
  · trivial
  refine .bind (calls_ask trivial) fun _ => .bind (calls_queryOr rfl) fun _ => ?_
  refine .bind (calls_connected rfl) fun _ => .bind (calls_queryOr rfl) fun _ => ?_
  refine .bind (calls_queryOr rfl) fun _ => .bind (calls_connected rfl) fun _ => ?_
  refine .bind (calls_queryOr rfl) fun _ => .bind (calls_frameAge _) fun _ => ?_
  exact calls_publishOn _ _

theorem calls_publishStatus : publishStatus.Calls Call.OfTimer :=
  tick_publishStatus.mono fun _ hc => hc.ofTimer

theorem calls_publishDiagnostics : publishDiagnostics.Calls Call.OfTimer :=
  tick_publishDiagnostics.mono fun _ hc => hc.ofTimer

end LitearmDriver
