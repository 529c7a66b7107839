import LitearmDriver.ServiceCode

/-!
# What the transitions see

The transitions see only the members of the lifecycle, never what the handlers and timers
cache, once `on_configure` has read the parameter storage. No other transition looks there.
-/

namespace LitearmDriver

open Interaction Program

variable {α β : Type}

/-! ### Views of the node -/

/-- The node without the parameters that only `read_parameters` looks up. -/
def Node.configured (node : Node) : Node :=
  { node with parameters := node.parameters.callTime }

/-- The node without a frame or a licence record that is not valid. -/
def Node.current (node : Node) : Node :=
  { node with
    lastState := if node.haveState then node.lastState else ({} : Node).lastState
    license := if node.licenseValid then node.license else ({} : Node).license }

/-- The node without what the handlers and timers write. -/
def Node.settled (node : Node) : Node :=
  { node.lifecycleMembers with parameters := node.parameters }

@[simp] lemma Node.current_current (node : Node) : node.current.current = node.current := by
  cases h : node.haveState <;> cases h' : node.licenseValid <;> simp [Node.current, h, h']

@[simp] lemma Node.current_working (node : Node) : node.current.working = node.working := by
  cases h : node.haveState <;> cases h' : node.licenseValid <;>
    simp [Node.current, Node.working, h, h']

/-- A write that does the same in each view, whatever the view leaves out. -/
structure Plain (f : Node → Node) : Prop where
  configured : ∀ node, (f node).configured = (f node.configured).configured
  settled : ∀ node, (f node).settled = (f node.settled).settled
  current : ∀ node, (f node).current = (f node.current).current

/-- A write that leaves the cached records as they are, or replaces them. -/
lemma Plain.of_commute {f : Node → Node}
    (hconfigured : ∀ node, (f node).configured = (f node.configured).configured)
    (hsettled : ∀ node, (f node).settled = (f node.settled).settled)
    (hcurrent : ∀ node, (f node).current = f node.current) : Plain f := by
  refine ⟨hconfigured, hsettled, fun node => ?_⟩
  rw [hcurrent node.current, Node.current_current, hcurrent]

lemma WritesCache.plain {f : Node → Node} (h : WritesCache f) : Plain f := by
  rcases h with ⟨state, stamp, rfl⟩ | ⟨license, rfl⟩ | ⟨percent, rfl⟩ <;>
    exact .of_commute (fun _ => rfl) (fun _ => rfl) fun _ => rfl

/-- Code that sees of the node what service code sees, with such writes. -/
abbrev SeesPlain (p : Code α) : Prop := p.Blind Node.working (fun _ => True) Plain

lemma seesPlain_of_working {p : Code α} (h : SeesWorking p) : SeesPlain p :=
  h.mono (fun _ => id) fun _ => WritesCache.plain

lemma Serving.seesPlain {st : Stage} {p : Code α} (h : Serving (fun _ => True) st p) :
    SeesPlain p :=
  seesPlain_of_working h.seesWorking

/-- Code that sees no more than the members of the lifecycle. -/
abbrev SeesMembers (p : Code α) : Prop := p.Blind Node.lifecycleMembers (fun _ => True) Plain

lemma SeesMembers.seesPlain {p : Code α} (h : SeesMembers p) : SeesPlain p :=
  h.refine fun _ => rfl

/-! ### Parts of the transitions -/

lemma seesMembers_ite {c : Prop} [Decidable c] {p q : Code α} (hp : SeesMembers p)
    (hq : SeesMembers q) : SeesMembers (if c then p else q) := by
  split
  · exact hp
  · exact hq

lemma seesMembers_catching {p : Code α} {handler : String → Code α} (hp : SeesMembers p)
    (hh : ∀ what, SeesMembers (handler what)) : SeesMembers (catching p handler) := by
  apply Blind.tryCatch hp
  intro e
  cases e with
  | exception what => exact hh what
  | undefined => trivial

lemma sees_self {m : Node → Node} {W : (Node → Node) → Prop} {f : Node → Code α}
    (hf : ∀ node, f node = f (m node)) (h : ∀ node, (f node).Blind m (fun _ => True) W) :
    (self >>= f).Blind m (fun _ => True) W := ⟨hf, h⟩

/-- A write that leaves the cached records as they are, or replaces them. -/
lemma seesMembers_assign {f : Node → Node}
    (hconfigured : ∀ node, (f node).configured = (f node.configured).configured)
    (hsettled : ∀ node, (f node).settled = (f node.settled).settled)
    (hcurrent : ∀ node, (f node).current = f node.current) : SeesMembers (assign f) :=
  ⟨.of_commute hconfigured hsettled hcurrent, trivial⟩

lemma seesMembers_ask (c : Call) : SeesMembers (ask c) := ⟨trivial, fun _ => trivial⟩

lemma seesMembers_orThrow (x : Except String α) : SeesMembers (orThrow x) := by
  cases x <;> trivial

lemma seesMembers_create (e : Entity) : SeesMembers (create e) :=
  Blind.bind (seesMembers_ask _) fun created => seesMembers_orThrow created

/-- Something is created or destroyed and the member that holds it written. -/
lemma seesMembers_thenAssign {p : Code Unit} {f : Node → Node} (hp : SeesMembers p)
    (hconfigured : ∀ node, (f node).configured = (f node.configured).configured)
    (hsettled : ∀ node, (f node).settled = (f node.settled).settled)
    (hcurrent : ∀ node, (f node).current = f node.current) :
    SeesMembers (p >>= fun _ => assign f) :=
  Blind.bind hp fun _ => seesMembers_assign hconfigured hsettled hcurrent

lemma seesMembers_armCommand (c : Command) : SeesMembers (armCommand c) := by
  rw [armCommand, Serving.derefArm_bind]
  refine sees_self (fun _ => rfl) fun node => seesMembers_ite trivial ⟨trivial, fun x => ?_⟩
  exact seesMembers_orThrow x

lemma seesMembers_armQuery (q : Query) : SeesMembers (armQuery q) := by
  rw [armQuery, Serving.derefArm_bind]
  exact sees_self (fun _ => rfl) fun node => seesMembers_ite trivial ⟨trivial, fun _ => trivial⟩

lemma seesMembers_queryOr (q : Query) (otherwise : q.Answer) :
    SeesMembers (queryOr q otherwise) :=
  sees_self (fun _ => rfl) fun _ => seesMembers_ite trivial ⟨trivial, fun _ => trivial⟩

lemma seesMembers_connected : SeesMembers connected :=
  sees_self (fun _ => rfl) fun _ => seesMembers_ite trivial ⟨trivial, fun _ => trivial⟩

lemma seesMembers_resetArm : SeesMembers resetArm :=
  seesMembers_thenAssign (seesMembers_ask _) (fun _ => rfl) (fun _ => rfl) fun _ => rfl

lemma seesMembers_replaceArm (options : ArmOptions) : SeesMembers (replaceArm options) := by
  refine Blind.bind (seesMembers_ask _) fun created => Blind.bind (seesMembers_orThrow created) ?_
  refine fun built => sees_self (fun _ => rfl) fun node => seesMembers_ite ?_ ?_
  · exact seesMembers_thenAssign (seesMembers_ask _) (fun _ => rfl) (fun _ => rfl) fun _ => rfl
  · exact seesMembers_assign (fun _ => rfl) (fun _ => rfl) fun _ => rfl

lemma seesMembers_stopTimers : SeesMembers stopTimers :=
  seesMembers_thenAssign (seesMembers_ask _) (fun _ => rfl) (fun _ => rfl) fun _ => rfl

lemma seesMembers_destroyServiceServers : SeesMembers destroyServiceServers :=
  seesMembers_thenAssign (seesMembers_ask _) (fun _ => rfl) (fun _ => rfl) fun _ => rfl

lemma seesMembers_resetPublishers : SeesMembers resetPublishers :=
  seesMembers_thenAssign (seesMembers_ask _) (fun _ => rfl) (fun _ => rfl) fun _ => rfl

lemma seesMembers_createServers (services : List Service) :
    SeesMembers (createServers services) := by
  induction services with
  | nil => trivial
  | cons s services ih =>
    refine Blind.bind (seesMembers_create _) fun _ => Blind.bind ?_ fun _ => ih
    exact seesMembers_assign (fun _ => rfl) (fun _ => rfl) fun _ => rfl

/-- An entity that is created when some member asks for it. -/
lemma seesMembers_createWhen {c : Node → Prop} [∀ node, Decidable (c node)] {e : Node → Entity}
    {f : Node → Node → Node}
    (hread : ∀ node, (if c node then create (e node) >>= fun _ => assign (f node)
      else Pure.pure () : Code Unit) = if c node.lifecycleMembers then
        create (e node.lifecycleMembers) >>= fun _ => assign (f node.lifecycleMembers)
      else Pure.pure ())
    (hconfigured : ∀ n node, (f n node).configured = (f n node.configured).configured)
    (hsettled : ∀ n node, (f n node).settled = (f n node.settled).settled)
    (hcurrent : ∀ n node, (f n node).current = f n node.current) :
    SeesMembers (self >>= fun node =>
      if c node then create (e node) >>= fun _ => assign (f node) else Pure.pure ()) :=
  sees_self hread fun node => seesMembers_ite
    (seesMembers_thenAssign (seesMembers_create _) (hconfigured node) (hsettled node)
      (hcurrent node)) trivial

lemma seesMembers_createPublishers : SeesMembers createPublishers := by
  refine Blind.bind (seesMembers_thenAssign (seesMembers_create _) (fun _ => rfl) (fun _ => rfl)
    fun _ => rfl) ?_
  refine fun _ => Blind.bind ?_ fun _ => ?_
  · exact seesMembers_createWhen (fun _ => rfl) (fun _ _ => rfl) (fun _ _ => rfl) fun _ _ => rfl
  · exact seesMembers_createWhen (fun _ => rfl) (fun _ _ => rfl) (fun _ _ => rfl) fun _ _ => rfl

lemma seesMembers_startTimers : SeesMembers startTimers := by
  refine Blind.bind ?_ fun _ => ?_
  · exact seesMembers_createWhen (fun _ => rfl) (fun _ _ => rfl) (fun _ _ => rfl) fun _ _ => rfl
  · exact seesMembers_createWhen (fun _ => rfl) (fun _ _ => rfl) (fun _ _ => rfl) fun _ _ => rfl

/-! ### Transitions -/

lemma seesMembers_openArm : SeesMembers openArm := by
  refine seesMembers_catching (Blind.bind (seesMembers_armCommand _) fun _ => trivial) fun _ => ?_
  exact Blind.bind seesMembers_resetArm fun _ => trivial

lemma seesMembers_establishNames (axes : Nat) : SeesMembers (establishNames axes) := by
  refine sees_self (fun _ => rfl) fun node => seesMembers_ite ?_ trivial
  exact Blind.bind (seesMembers_assign (fun _ => rfl) (fun _ => rfl) fun _ => rfl) fun _ => trivial

lemma seesMembers_refreshLicenseRecord : SeesMembers refreshLicenseRecord := by
  refine sees_self (fun _ => rfl) fun node => seesMembers_ite trivial (Blind.bind ?_ ?_)
  · exact ⟨trivial, fun x => seesMembers_orThrow x⟩
  · exact fun license => seesMembers_assign (fun _ => rfl) (fun _ => rfl) fun _ => rfl

/-- What `on_configure` does once it has read the parameters. -/
abbrev configureSession : Code CallbackReturn := do
  let node ← self
  replaceArm { port := if node.port = "" then none else some node.port }
  let node ← self
  if node.arm.isNone then return .error
  let opened ← openArm
  if !opened then return .error
  let axes ← armQuery .n
  let named ← establishNames axes
  if !named then
    resetArm
    return .error
  finishConfigure

/-- The first lines of `on_configure`, which set what the rest of it reads. -/
abbrev begin : Code Unit := do
  readParameters
  assign .beginSession

lemma onConfigure_eq : onConfigure = begin >>= fun _ => configureSession :=
  (bind_assoc' readParameters (fun _ => assign .beginSession) fun _ => configureSession).symm

lemma seesMembers_configureSession : SeesMembers configureSession := by
  refine sees_self (fun _ => rfl) fun _ => Blind.bind (seesMembers_replaceArm _) fun _ => ?_
  refine sees_self (fun _ => rfl) fun _ => seesMembers_ite trivial ?_
  refine Blind.bind seesMembers_openArm fun _ => seesMembers_ite trivial ?_
  refine Blind.bind (seesMembers_armQuery .n) fun axes => ?_
  refine Blind.bind (seesMembers_establishNames axes) fun _ => seesMembers_ite ?_ ?_
  · exact Blind.bind seesMembers_resetArm fun _ => trivial
  · refine Blind.bind (seesMembers_catching seesMembers_refreshLicenseRecord fun _ => trivial) ?_
    refine fun _ => Blind.bind seesMembers_createPublishers fun _ => ?_
    refine Blind.bind (seesMembers_armQuery .isConnected) fun _ => ?_
    exact Blind.bind (seesMembers_armQuery .firmware) fun _ => trivial

lemma seesMembers_onActivate : SeesMembers onActivate := by
  refine sees_self (fun _ => rfl) fun _ => seesMembers_ite trivial (Blind.bind ?_ fun enabled => ?_)
  · refine sees_self (fun _ => rfl) fun _ => seesMembers_ite (seesMembers_catching ?_ ?_) trivial
    · exact Blind.bind (seesMembers_armCommand _) fun _ => trivial
    · exact fun _ => trivial
  · refine seesMembers_ite trivial (Blind.bind (seesMembers_createServers _) fun _ => ?_)
    refine Blind.bind (seesMembers_assign (fun _ => rfl) (fun _ => rfl) fun _ => rfl) fun _ => ?_
    refine Blind.bind seesMembers_startTimers fun _ => sees_self (fun _ => rfl) fun _ => ?_
    exact seesMembers_ite trivial trivial

lemma seesMembers_onDeactivate : SeesMembers onDeactivate := by
  refine Blind.bind (Blind.bind (seesMembers_queryOr _ _) fun _ => seesMembers_ite ?_ trivial) ?_
  · exact seesMembers_catching (seesMembers_armCommand _) fun _ => trivial
  · refine fun _ => Blind.bind seesMembers_stopTimers fun _ => ?_
    refine Blind.bind seesMembers_destroyServiceServers fun _ => ?_
    refine Blind.bind ?_ fun _ => trivial
    exact seesMembers_assign (fun _ => rfl) (fun _ => rfl) fun _ => rfl

lemma seesMembers_onCleanup : SeesMembers onCleanup := by
  refine Blind.bind seesMembers_stopTimers fun _ => ?_
  refine Blind.bind seesMembers_destroyServiceServers fun _ => ?_
  refine Blind.bind (seesMembers_assign (fun _ => rfl) (fun _ => rfl) fun _ => rfl) fun _ => ?_
  refine Blind.bind seesMembers_resetPublishers fun _ => Blind.bind ?_ fun _ => ?_
  · refine sees_self (fun _ => rfl) fun _ => seesMembers_ite trivial (Blind.bind ?_ ?_)
    · exact seesMembers_catching (seesMembers_armCommand _) fun _ => trivial
    · exact fun _ => seesMembers_resetArm
  · have hend : Plain Node.endSession := ⟨fun _ => rfl, fun _ => rfl, fun _ => rfl⟩
    exact ⟨hend, trivial⟩

lemma seesMembers_callback {t : Transition} (ht : t ≠ .configure) : SeesMembers t.callback := by
  cases t with
  | configure => exact absurd rfl ht
  | activate => exact seesMembers_onActivate
  | deactivate => exact seesMembers_onDeactivate
  | cleanup => exact seesMembers_onCleanup
  | shutdown => exact seesMembers_onCleanup

/-- What the state machine does with the result of a callback. -/
abbrev conclude (goal : PrimaryState) : CallbackReturn → Code Unit
  | .success => enterState goal
  | .failure => return ()
  | .error => do
    let handled ← executeCallback onError
    match handled with
    | .success => enterState .unconfigured
    | .failure | .error => enterState .finalized

lemma changeState_eq (t : Transition) :
    changeState t = self >>= fun node => match t.goal node.currentState with
      | none => return ()
      | some goal => executeCallback t.callback >>= conclude goal := rfl

section View

variable {m : Node → Node} {W : (Node → Node) → Prop}

lemma sees_executeCallback {callback : Code CallbackReturn}
    (h : callback.Blind m (fun _ => True) W) :
    (executeCallback callback).Blind m (fun _ => True) W := by
  apply Blind.tryCatch h
  rintro (what | _) <;> trivial

lemma sees_conclude (henter : ∀ state, W fun node => { node with currentState := state })
    (hlink : onError.Blind m (fun _ => True) W) (goal : PrimaryState) (result : CallbackReturn) :
    (conclude goal result).Blind m (fun _ => True) W := by
  cases result with
  | success => exact ⟨henter goal, trivial⟩
  | failure => trivial
  | error =>
    refine Blind.bind (sees_executeCallback hlink) fun handled => ?_
    cases handled <;> exact ⟨henter _, trivial⟩

/-- A transition sees no more than its callback, besides the lifecycle state and whether the
link is up. -/
lemma sees_changeState {t : Transition}
    (henter : ∀ state, W fun node => { node with currentState := state })
    (hstate : ∀ node, (m node).currentState = node.currentState)
    (hlink : onError.Blind m (fun _ => True) W) (h : t.callback.Blind m (fun _ => True) W) :
    (changeState t).Blind m (fun _ => True) W := by
  rw [changeState_eq]
  refine sees_self (fun node => ?_) fun node => ?_
  · rw [hstate]
  · cases t.goal node.currentState with
    | none => trivial
    | some goal => exact Blind.bind (sees_executeCallback h) (sees_conclude henter hlink goal)

end View

lemma plain_enter (state : PrimaryState) :
    Plain fun node => { node with currentState := state } :=
  .of_commute (fun _ => rfl) (fun _ => rfl) fun _ => rfl

lemma seesMembers_onError : SeesMembers onError :=
  Blind.bind seesMembers_connected fun _ => trivial

/-- A transition other than `configure` does not look at the parameters. -/
theorem configured_changeState {t : Transition} (ht : t ≠ .configure) :
    (changeState t).Blind Node.configured (fun _ => True) Plain :=
  sees_changeState plain_enter (fun _ => rfl) (seesMembers_onError.refine fun _ => rfl)
    ((seesMembers_callback ht).refine fun _ => rfl)

/-- The write does the same whatever a record that is not valid holds. -/
def IgnoresInvalid (f : Node → Node) : Prop :=
  ∀ node, (f node).current = (f node.current).current

lemma seesPlain_current {p : Code α} (h : SeesPlain p) :
    p.Blind Node.current (fun _ => True) IgnoresInvalid :=
  (h.refine Node.current_working).mono (fun _ => id) fun _ hf => hf.current

/-- `read_parameters` looks at the parameters alone. -/
lemma sees_readParameters {m : Node → Node} {W : (Node → Node) → Prop}
    (hview : ∀ node, (m node).parameters = node.parameters)
    (hwrite : ∀ home, W (.readParameters home)) : readParameters.Blind m (fun _ => True) W := by
  refine sees_self (fun node => by rw [hview]) fun node => ?_
  split
  · exact ⟨trivial, fun home => ⟨hwrite home, trivial⟩⟩
  · exact ⟨hwrite none, trivial⟩

lemma current_onConfigure : onConfigure.Blind Node.current (fun _ => True) IgnoresInvalid := by
  rw [onConfigure_eq]
  refine Blind.bind (Blind.bind (sees_readParameters (fun _ => rfl) ?_) fun _ => ?_) fun _ => ?_
  · intro home node
    exact (Node.current_current (node.readParameters home)).symm
  · exact ⟨fun _ => rfl, trivial⟩
  · exact seesPlain_current seesMembers_configureSession.seesPlain

/-- No transition looks at a record that is not valid. -/
theorem current_changeState (t : Transition) :
    (changeState t).Blind Node.current (fun _ => True) IgnoresInvalid := by
  refine sees_changeState (fun state => (plain_enter state).current) (fun _ => rfl)
    (seesPlain_current seesMembers_onError.seesPlain) ?_
  by_cases ht : t = .configure
  · subst ht
    exact current_onConfigure
  · exact seesPlain_current (seesMembers_callback ht).seesPlain

lemma seesMembers_settled {p : Code α} (h : SeesMembers p) :
    p.Blind Node.settled (fun _ => True) (Respects Node.settled) :=
  have hsettled : p.Blind Node.settled (fun _ => True) Plain := h.refine fun _ => rfl
  hsettled.mono (fun _ => id) fun _ hf => hf.settled

lemma settled_onConfigure :
    onConfigure.Blind Node.settled (fun _ => True) (Respects Node.settled) := by
  rw [onConfigure_eq]
  refine Blind.bind (Blind.bind (sees_readParameters ?_ ?_) fun _ => ?_) fun _ => ?_
  · exact fun _ => rfl
  · exact fun _ _ => rfl
  · exact ⟨fun _ => rfl, trivial⟩
  · exact seesMembers_settled seesMembers_configureSession

/-- No transition looks at what the handlers and timers have cached. -/
theorem settled_changeState (t : Transition) :
    (changeState t).Blind Node.settled (fun _ => True) (Respects Node.settled) := by
  refine sees_changeState (fun state => (plain_enter state).settled) (fun _ => rfl)
    (seesMembers_settled seesMembers_onError) ?_
  by_cases ht : t = .configure
  · subst ht
    exact settled_onConfigure
  · exact seesMembers_settled (seesMembers_callback ht)

end LitearmDriver
