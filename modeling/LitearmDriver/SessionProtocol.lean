import LitearmDriver.Interaction.Monitor
import LitearmDriver.Bench
import LitearmDriver.ServiceCode

/-!
# The session protocol

The SDK object is built, connected, used, closed and destroyed. Each call on it is possible
only at some points of that life: a call on an object that was destroyed or never built is
undefined, connecting twice or losing an object without destroying it would keep the serial
port locked. The node follows the protocol in every run, and a service asks whether the link
is up before each command.
-/

namespace LitearmDriver

open Interaction Program

variable {σ α : Type} {env : Environment σ} {g : World σ}

/-! ### The life of a session -/

/-- Where the SDK session stands, as the node drives it. `replacing` is the moment at which the
factory has answered while the node still holds the object of an earlier session. A session is
`opened` when the node has connected it and has not closed it, whatever the link is. -/
inductive Phase where
  | absent
  | replacing (built : Bool)
  | made
  | failed
  | opened
  | closed
  deriving DecidableEq

namespace Phase

/-- The factory answered. -/
def build : Phase → Except String Bool → Option Phase
  | .absent, .ok built => some (if built then .made else .absent)
  | .opened, .ok built => some (.replacing built)
  | .absent, .error _  => some .absent
  | .opened, .error _  => some .opened
  | _, _               => none

/-- An object was destroyed. -/
def destroy : Phase → Option Phase
  | .replacing built             => some (if built then .made else .absent)
  | .opened | .failed | .closed  => some .absent
  | _                            => none

/-- A command was answered. A session stays opened after a `reconnect` that threw, though the SDK
may have closed it then: only the `connect` and `close` of the node count. -/
def perform : Phase → (c : Command) → Except String c.Answer → Option Phase
  | .made, .connect, .ok _    => some .opened
  | .made, .connect, .error _ => some .failed
  | .opened, .connect, _      => none
  | .opened, .close, _        => some .closed
  | .opened, _, _             => some .opened
  | _, _, _                   => none

/-- An accessor was read. -/
def read (q : Query) : Phase → Option Phase
  | .opened => some .opened
  | phase   => if q.onArm then none else some phase

end Phase

/-- The protocol of the SDK session. -/
def session : Protocol Phase Call.Answer
  | phase, ⟨.createArm _, x⟩ => phase.build x
  | phase, ⟨.destroyArm, _⟩  => phase.destroy
  | phase, ⟨.command c, x⟩   => phase.perform c x
  | phase, ⟨.query q, _⟩     => phase.read q
  | phase, _                 => some phase

/-- The phase between two callbacks. -/
def Node.phase (node : Node) : Phase := if node.arm.isSome then .opened else .absent

/-- The rule of the services: a command needs a look at the link that found it up, and each
look serves for one command. -/
def look : Protocol Bool Call.Answer
  | _, ⟨.query .isConnected, link⟩ => some link
  | looked, ⟨.command _, _⟩        => if looked then some false else none
  | looked, _                      => some looked

/-- Both protocols at once. -/
def attendedSession : Protocol (Phase × Bool) Call.Answer := session.prod look

/-! ### Service code -/

/-- Between two callbacks the protocol stands where the member says. -/
def Node.AtRest (node : Node) (m : Phase × Bool) : Prop := m.1 = node.phase

/-- What is known at a stage, besides. -/
def Stage.Holds (st : Stage) (node : Node) (m : Phase × Bool) : Prop :=
  node.AtRest m ∧ (st ≠ .anywhere → node.arm.isSome = true) ∧ (st = .linked → m.2 = true)

lemma Node.phase_of_some {node : Node} (h : node.arm.isSome = true) : node.phase = .opened :=
  if_pos h

lemma Node.phase_congr {node node' : Node} (h : node'.arm = node.arm) :
    node'.phase = node.phase := by
  rw [Node.phase, h, Node.phase]

lemma Node.AtRest.anywhere {node : Node} {m : Phase × Bool} (h : node.AtRest m) :
    Stage.anywhere.Holds node m := ⟨h, fun hst => absurd rfl hst, by rintro ⟨⟩⟩

/-- A node that holds a session is at rest in the open phase. -/
lemma Node.atRest_of_some {node : Node} (h : node.arm.isSome = true) (looked : Bool) :
    node.AtRest (.opened, looked) := (Node.phase_of_some h).symm

lemma Stage.Holds.opened {st : Stage} {node : Node} {m : Phase × Bool} (h : st.Holds node m)
    (harm : node.arm.isSome = true) : m = (.opened, m.2) :=
  Prod.ext (h.1.trans (Node.phase_of_some harm)) rfl

lemma Stage.Holds.held {st : Stage} {node : Node} {m : Phase × Bool} (h : st.Holds node m)
    (harm : node.arm.isSome = true) : st.held.Holds node m := by
  refine ⟨h.1, fun _ => harm, fun hst => h.2.2 ?_⟩
  cases st with
  | anywhere => cases hst
  | holding => cases hst
  | linked => rfl

lemma attendedSession_aside {c : Call} (hc : c.isAside = true) (x : c.Answer)
    (m : Phase × Bool) : attendedSession m ⟨c, x⟩ = some m := by
  rw [attendedSession, Protocol.prod_eq_some]
  cases c with
  | query q =>
    have hq : q.onArm = false := by simpa [Call.isAside] using hc
    constructor
    · obtain ⟨phase, looked⟩ := m
      cases phase <;> simp [session, Phase.read, hq]
    · cases q <;> first | rfl | cases hq
  | command c => cases hc
  | createArm options => cases hc
  | destroyArm => cases hc
  | _ => exact ⟨rfl, rfl⟩

/-- A session that exists may be read, and the answer to a look is remembered. -/
lemma attendedSession_query (q : Query) (x : q.Answer) (looked : Bool) :
    ∃ looked', attendedSession (.opened, looked) ⟨.query q, x⟩ = some (.opened, looked') := by
  cases q with
  | isConnected => exact ⟨x, rfl⟩
  | _ => exact ⟨looked, rfl⟩

lemma session_command {c : Command} (hc : c.ofSession = true) (x : Except String c.Answer) :
    session .opened ⟨.command c, x⟩ = some .opened := by
  cases c with
  | connect => cases hc
  | close => cases hc
  | _ => rfl

/-- The link is reported up only by a look that found it so. -/
lemma follows_connected {node : Node} {m : Phase × Bool} (hm : node.AtRest m) :
    connected.Follows attendedSession (fun r node' m' => node'.AtRest m' ∧
      (r = .ok true → Stage.linked.Holds node' m')) node m := by
  change (if node.arm.isNone then Program.pure false else query .isConnected).Follows _ _ node m
  by_cases harm : node.arm.isSome = true
  · rw [if_neg (by simpa [Option.isSome_iff_ne_none] using harm), hm.anywhere.opened harm]
    intro link
    have hrest : node.AtRest (.opened, link) := Node.atRest_of_some harm link
    refine ⟨(.opened, link), rfl, hrest, fun hlink => ⟨hrest, fun _ => harm, fun _ => ?_⟩⟩
    cases hlink
    rfl
  · rw [if_pos (by simpa using harm)]
    exact ⟨hm, by rintro ⟨⟩⟩

/-- Service code follows both protocols from what its stage grants to rest. -/
theorem Serving.attends {C : Command → Prop} {st : Stage} {p : Code α} (h : Serving C st p)
    (hC : ∀ c, C c → c.ofSession = true) {node : Node} {m : Phase × Bool}
    (hm : st.Holds node m) :
    p.Follows attendedSession (fun _ => Node.AtRest) node m := by
  induction h generalizing node m with
  | pure a => exact hm.1
  | throw e => exact hm.1
  | bind hp hf ihp ihf =>
    exact (ihp hm).bind (fun a _ _ h => ihf a h.anywhere) fun _ _ _ h => h
  | catching hp hh ihp ihh =>
    refine (ihp hm).tryCatch (fun _ _ _ h => h) fun e _ _ h => ?_
    cases e with
    | exception what => exact ihh what h.anywhere
    | undefined => exact h
  | read hf h ih => exact ih node hm
  | @write st f hf =>
    have harm : (f node).arm = node.arm := by
      rcases hf with ⟨state, stamp, rfl⟩ | ⟨license, rfl⟩ | ⟨percent, rfl⟩ <;> rfl
    exact hm.1.trans (Node.phase_congr harm).symm
  | aside hc h ih => exact fun x => ⟨m, attendedSession_aside hc x m, ih x hm⟩
  | unlessNone hp hq ihp ihq =>
    change (if node.arm.isNone then _ else _ : Code _).Follows _ _ node m
    by_cases harm : node.arm.isSome = true
    · rw [if_neg (by simpa [Option.isSome_iff_ne_none] using harm)]
      exact ihq (hm.held harm)
    · rw [if_pos (by simpa using harm)]
      exact ihp hm
  | accessor q =>
    intro x
    have harm := hm.2.1 (by rintro ⟨⟩)
    obtain ⟨looked, hlooked⟩ := attendedSession_query q x m.2
    rw [hm.opened harm]
    exact ⟨_, hlooked, Node.atRest_of_some harm looked⟩
  | @command c hc =>
    intro x
    have harm := hm.2.1 (by rintro ⟨⟩)
    have hnext : attendedSession (.opened, true) ⟨.command c, x⟩ = some (.opened, false) :=
      Protocol.prod_eq_some.mpr ⟨session_command (hC c hc) x, rfl⟩
    rw [hm.opened harm, hm.2.2 rfl]
    refine ⟨_, hnext, ?_⟩
    cases x <;> exact Node.atRest_of_some harm false
  | look h ih =>
    refine (follows_connected hm.1).bind ?_ fun _ _ _ h => h.1
    rintro link node' m' ⟨hm', hlink⟩
    cases link with
    | false => exact hm'
    | true => exact ih (hlink rfl)
  | later h ih => exact ih hm.1.anywhere

/-- Handlers look before they send. -/
theorem Served.attends {s : Service} {p : Code α} (h : Served s p) :
    p.Maintains attendedSession Node.AtRest := by
  intro node m hm
  cases h with
  | plain hs h => exact h.attends (fun _ hc => hc.ofSession) hm.anywhere
  | consulting hf h hlocked => exact (h node).attends (fun _ hc => hc.ofSession) hm.anywhere

/-! ### Code of the transitions -/

/-- The protocol of the session stands where the member says. -/
def Node.InPhase (node : Node) (phase : Phase) : Prop := phase = node.phase

/-- Code that follows the protocol of the session from rest to rest. -/
abbrev Orderly (p : Code α) : Prop := p.Maintains session Node.InPhase

/-- The node holds an open session. -/
def Node.Holding (node : Node) (phase : Phase) : Prop :=
  node.arm.isSome = true ∧ phase = .opened

lemma Node.Holding.inPhase {node : Node} {phase : Phase} (h : node.Holding phase) :
    node.InPhase phase := h.2.trans (Node.phase_of_some h.1).symm

lemma Node.InPhase.holding {node : Node} {phase : Phase} (h : node.InPhase phase)
    (harm : node.arm.isSome = true) : node.Holding phase :=
  ⟨harm, h.trans (Node.phase_of_some harm)⟩

/-- Looking before each command is more than the session asks for. -/
lemma orderly_of_attends {p : Code α} (h : p.Maintains attendedSession Node.AtRest) :
    Orderly p := by
  intro node phase hphase
  refine (h node (phase, false) hphase).simulate Prod.fst ?_ fun _ _ _ h => h
  exact fun m e m' hm => (Protocol.prod_eq_some.mp hm).1

lemma Served.orderly {s : Service} {p : Code α} (h : Served s p) : Orderly p :=
  orderly_of_attends h.attends

lemma Serving.orderly {p : Code α} (h : Serving (fun c => c.ofSession = true) .anywhere p) :
    Orderly p :=
  orderly_of_attends fun _ _ hm => h.attends (fun _ => id) hm.anywhere

/-- Code that leaves the session alone. -/
def Aside (p : Code α) : Prop :=
  p.Within (fun c => c.isAside = true) fun f => ∀ node, (f node).arm = node.arm

lemma aside_bind {p : Code α} {f : α → Code β} (hp : Aside p) (hf : ∀ a, Aside (f a)) :
    Aside (p >>= f) := Within.bind hp hf

lemma aside_self {f : Node → Code α} (h : ∀ node, Aside (f node)) : Aside (self >>= f) := h

lemma aside_ite {c : Prop} [Decidable c] {p q : Code α} (hp : Aside p) (hq : Aside q) :
    Aside (if c then p else q) := by
  split
  · exact hp
  · exact hq

lemma aside_assign {f : Node → Node} (hf : ∀ node, (f node).arm = node.arm) :
    Aside (assign f) := ⟨hf, trivial⟩

lemma aside_ask {c : Call} (hc : c.isAside = true) : Aside (ask c) := ⟨hc, fun _ => trivial⟩

lemma aside_create (e : Entity) : Aside (create e) := by
  refine aside_bind (aside_ask rfl) fun created => ?_
  cases created <;> trivial

/-- Something is created or destroyed and the member that holds it written. -/
lemma aside_thenAssign {p : Code Unit} {f : Node → Node} (hp : Aside p)
    (hf : ∀ node, (f node).arm = node.arm) : Aside (p >>= fun _ => assign f) :=
  aside_bind hp fun _ => aside_assign hf

lemma aside_readParameters : Aside readParameters :=
  aside_self fun _ => aside_ite (aside_bind (aside_ask rfl) fun _ => aside_assign fun _ => rfl)
    (aside_assign fun _ => rfl)

lemma aside_establishNames (axes : Nat) : Aside (establishNames axes) :=
  aside_self fun _ => aside_ite (aside_bind (aside_assign fun _ => rfl) fun _ => trivial) trivial

lemma aside_createPublishers : Aside createPublishers := by
  refine aside_bind (aside_thenAssign (aside_create _) fun _ => rfl) fun _ => aside_bind ?_ ?_
  · exact aside_self fun _ => aside_ite (aside_thenAssign (aside_create _) fun _ => rfl) trivial
  · intro _
    exact aside_self fun _ => aside_ite (aside_thenAssign (aside_create _) fun _ => rfl) trivial

lemma aside_createServers (services : List Service) : Aside (createServers services) := by
  induction services with
  | nil => trivial
  | cons s services ih =>
    exact aside_bind (aside_create _) fun _ => aside_bind (aside_assign fun _ => rfl) fun _ => ih

lemma aside_startTimers : Aside startTimers := by
  apply aside_bind
  · exact aside_self fun _ => aside_ite (aside_thenAssign (aside_create _) fun _ => rfl) trivial
  · intro _
    exact aside_self fun _ => aside_ite (aside_thenAssign (aside_create _) fun _ => rfl) trivial

/-- Entities destroyed and the members that held them dropped. -/
lemma aside_destroyThen (group : EntityGroup) {f : Node → Node}
    (hf : ∀ node, (f node).arm = node.arm) : Aside (ask (.destroy group) >>= fun _ => assign f) :=
  aside_thenAssign (aside_ask rfl) hf

/-- Whatever depends on the member alone, such code maintains. -/
lemma Aside.maintains {p : Code α} (h : Aside p) {I : Node → Phase → Prop}
    (hI : ∀ node node' phase, node'.arm = node.arm → I node phase → I node' phase) :
    p.Maintains session I := by
  refine Within.maintains h ?_ fun f node phase hf => hI node (f node) phase (hf node)
  intro c x node phase hc hphase
  have hnext := Protocol.prod_eq_some.mp (attendedSession_aside hc x (phase, false))
  exact ⟨phase, hnext.1, hphase⟩

lemma Aside.orderly {p : Code α} (h : Aside p) : Orderly p :=
  h.maintains fun _ _ _ harm hphase => hphase.trans (Node.phase_congr harm).symm

lemma Aside.holding {p : Code α} (h : Aside p) : p.Maintains session Node.Holding :=
  h.maintains fun _ _ _ harm hphase => ⟨harm ▸ hphase.1, hphase.2⟩

/-! ### Opening and closing -/

lemma orderly_pure (a : α) : Orderly (Pure.pure a : Code α) := fun _ _ h => h

lemma orderly_ite {c : Prop} [Decidable c] {p q : Code α} (hp : Orderly p) (hq : Orderly q) :
    Orderly (if c then p else q) := by
  split
  · exact hp
  · exact hq

lemma orderly_self {f : Node → Code α} (h : ∀ node, Orderly (f node)) : Orderly (self >>= f) :=
  fun node phase hphase => h node node phase hphase

lemma orderly_catching {p : Code α} {handler : String → Code α} (hp : Orderly p)
    (hh : ∀ what, Orderly (handler what)) : Orderly (catching p handler) := by
  refine hp.tryCatch fun e => ?_
  cases e with
  | exception what => exact hh what
  | undefined => exact fun _ _ h => h

/-- `if (arm_ == nullptr) { p } else { q }`. -/
lemma orderly_unlessNone {p q : Code α} (hp : Orderly p)
    (hq : ∀ node phase, node.Holding phase →
      q.Follows session (fun _ => Node.InPhase) node phase) :
    Orderly (self >>= fun node => if node.arm.isNone then p else q) := by
  intro node phase hphase
  change (if node.arm.isNone then p else q).Follows _ _ node phase
  by_cases harm : node.arm.isSome = true
  · rw [if_neg (by simpa [Option.isSome_iff_ne_none] using harm)]
    exact hq node phase (hphase.holding harm)
  · rw [if_pos (by simpa using harm)]
    exact hp node phase hphase

/-- A command other than `connect` and `close` leaves an open session open. -/
lemma holding_command {c : Command} (hc : c.ofSession = true) :
    (command c).Maintains session Node.Holding := by
  rintro node _ ⟨harm, rfl⟩ x
  refine ⟨.opened, session_command hc x, ?_⟩
  cases x <;> exact ⟨harm, rfl⟩

lemma orderly_armCommand {c : Command} (hc : c.ofSession = true) : Orderly (armCommand c) := by
  rw [armCommand, Serving.derefArm_bind]
  refine orderly_unlessNone (fun _ _ h => h) fun node phase hphase => ?_
  exact (holding_command hc node phase hphase).mono fun _ _ _ h => h.inPhase

lemma holding_armQuery (q : Query) : (armQuery q).Maintains session Node.Holding := by
  rintro node _ ⟨harm, rfl⟩
  rw [armQuery, Serving.derefArm_bind]
  change (if node.arm.isNone then _ else _ : Code _).Follows _ _ node Phase.opened
  rw [if_neg (by simpa [Option.isSome_iff_ne_none] using harm)]
  exact fun x => ⟨.opened, rfl, harm, rfl⟩

/-- An object that may be destroyed is, and none is left. -/
lemma follows_resetArm {node : Node} {phase : Phase} (h : phase.destroy = some .absent) :
    resetArm.Follows session (fun _ => Node.InPhase) node phase := by
  intro _
  exact ⟨.absent, h, rfl⟩

/-- The node holds an object that was just built, or none. -/
def Node.Fresh (node : Node) (phase : Phase) : Prop :=
  phase = if node.arm.isSome then .made else .absent

lemma follows_replaceArm {options : ArmOptions} {node : Node} {phase : Phase}
    (h : node.InPhase phase) : (replaceArm options).Follows session
      (fun r node' phase' => (r = .ok () → node'.Fresh phase') ∧
        (r ≠ .ok () → node'.InPhase phase')) node phase := by
  intro created
  by_cases harm : node.arm.isSome = true
  · obtain rfl : phase = .opened := h.trans (Node.phase_of_some harm)
    cases created with
    | error what => exact ⟨.opened, rfl, by rintro ⟨⟩, fun _ => h⟩
    | ok built =>
      refine ⟨.replacing built, rfl, ?_⟩
      change (if node.arm.isSome then _ else _ : Code _).Follows _ _ node _
      rw [if_pos harm]
      intro _
      cases built
      · exact ⟨.absent, rfl, fun _ => rfl, fun hr => absurd rfl hr⟩
      · exact ⟨.made, rfl, fun _ => rfl, fun hr => absurd rfl hr⟩
  · have hphase : phase = .absent := h.trans (if_neg harm)
    subst hphase
    cases created with
    | error what => exact ⟨.absent, rfl, by rintro ⟨⟩, fun _ => h⟩
    | ok built =>
      refine ⟨if built then .made else .absent, rfl, ?_⟩
      change (if node.arm.isSome then _ else _ : Code _).Follows _ _ node _
      rw [if_neg harm]
      cases built
      · exact ⟨fun _ => rfl, fun hr => absurd rfl hr⟩
      · exact ⟨fun _ => rfl, fun hr => absurd rfl hr⟩

/-- The object is connected, or destroyed when that failed. -/
lemma follows_openArm {node : Node} (harm : node.arm.isSome = true) :
    openArm.Follows session (fun r node' phase => node'.InPhase phase ∧
      (r = .ok true → node'.Holding phase)) node .made := by
  refine Follows.tryCatch
    (Q := fun r node' phase => node'.arm.isSome = true ∧
      ((r = .ok true ∧ phase = .opened) ∨
        (∃ what, r = .error (.exception what)) ∧ phase = .failed)) ?_ ?_ ?_
  · rw [armCommand, Serving.derefArm_bind]
    change (Program.bind (if node.arm.isNone then _ else _ : Code _) _).Follows _ _ node Phase.made
    rw [if_neg (by simpa [Option.isSome_iff_ne_none] using harm)]
    intro x
    cases x with
    | ok a => exact ⟨.opened, rfl, harm, .inl ⟨rfl, rfl⟩⟩
    | error what => exact ⟨.failed, rfl, harm, .inr ⟨⟨what, rfl⟩, rfl⟩⟩
  · rintro a node' phase ⟨harm', ⟨hr, rfl⟩ | ⟨⟨what, hr⟩, -⟩⟩
    · exact ⟨(Node.phase_of_some harm').symm, fun _ => ⟨harm', rfl⟩⟩
    · cases hr
  · rintro e node' phase ⟨-, ⟨hr, -⟩ | ⟨⟨what, hr⟩, rfl⟩⟩
    · cases hr
    · cases hr
      exact fun _ => ⟨.absent, rfl, rfl, by rintro ⟨⟩⟩

lemma orderly_refreshLicenseRecord : Orderly refreshLicenseRecord := by
  refine orderly_unlessNone (orderly_pure _) fun node phase hphase => ?_
  refine (holding_command (c := .license) rfl node phase hphase).bind ?_ fun _ _ _ h => h.inPhase
  exact fun license node' phase' h => h.inPhase

lemma orderly_finishConfigure : Orderly finishConfigure := by
  refine Maintains.bind (orderly_catching orderly_refreshLicenseRecord fun _ => orderly_pure _) ?_
  refine fun _ => Maintains.bind aside_createPublishers.orderly fun _ => ?_
  refine Maintains.bind (Serving.armQuery _).orderly fun _ => ?_
  exact Maintains.bind (Serving.armQuery _).orderly fun _ => orderly_pure _

/-- What `on_configure` does with an object the factory returned. -/
lemma follows_opening {node : Node} {phase : Phase} (h : node.Fresh phase) :
    (self >>= fun node => if node.arm.isNone then Pure.pure CallbackReturn.error else
      openArm >>= fun opened => if !opened then Pure.pure .error else
      armQuery .n >>= fun axes => establishNames axes >>= fun named =>
        if !named then resetArm >>= fun _ => Pure.pure .error else finishConfigure).Follows
      session (fun _ => Node.InPhase) node phase := by
  change (if node.arm.isNone then _ else _ : Code _).Follows _ _ node phase
  by_cases harm : node.arm.isSome = true
  · obtain rfl : phase = .made := h.trans (if_pos harm)
    rw [if_neg (by simpa [Option.isSome_iff_ne_none] using harm)]
    refine (follows_openArm harm).bind ?_ fun _ _ _ h => h.1
    rintro (_ | _) node₁ phase₁ ⟨hphase₁, hholding₁⟩
    · exact hphase₁
    refine (holding_armQuery .n node₁ phase₁ (hholding₁ rfl)).bind ?_ fun _ _ _ h => h.inPhase
    intro axes node₂ phase₂ hholding₂
    refine ((aside_establishNames axes).holding node₂ phase₂ hholding₂).bind ?_
      fun _ _ _ h => h.inPhase
    rintro (_ | _) node₃ phase₃ ⟨harm₃, rfl⟩
    · exact (follows_resetArm rfl).bind (fun _ _ _ h => h) fun _ _ _ h => h
    · exact orderly_finishConfigure node₃ _ (Node.phase_of_some harm₃).symm
  · obtain rfl : phase = .absent := h.trans (if_neg harm)
    rw [if_pos (by simpa using harm)]
    exact (if_neg harm).symm

lemma orderly_onConfigure : Orderly onConfigure := by
  refine Maintains.bind aside_readParameters.orderly fun _ => ?_
  refine Maintains.bind (Aside.orderly (aside_assign fun _ => rfl)) fun _ => ?_
  refine orderly_self fun _ node phase hphase => ?_
  refine (follows_replaceArm hphase).bind ?_ fun e _ _ h => h.2 (by rintro ⟨⟩)
  exact fun _ node' phase' h => follows_opening (h.1 rfl)

lemma orderly_onActivate : Orderly onActivate := by
  refine orderly_self fun _ => orderly_ite (orderly_pure _) (Maintains.bind ?_ fun enabled => ?_)
  · refine orderly_self fun _ => orderly_ite (orderly_catching ?_ ?_) (orderly_pure _)
    · exact Maintains.bind (orderly_armCommand rfl) fun _ => orderly_pure _
    · exact fun _ => orderly_pure _
  · refine orderly_ite (orderly_pure _) (Maintains.bind (aside_createServers _).orderly fun _ => ?_)
    refine Maintains.bind (Aside.orderly (aside_assign fun _ => rfl)) fun _ => ?_
    refine Maintains.bind aside_startTimers.orderly fun _ => orderly_self fun _ => ?_
    exact orderly_ite (fun _ _ h => h) (orderly_pure _)

lemma orderly_onDeactivate : Orderly onDeactivate := by
  refine Maintains.bind (Maintains.bind Serving.queryOr.orderly fun _ => orderly_ite ?_ ?_) ?_
  · exact orderly_catching (orderly_armCommand rfl) fun _ => orderly_pure _
  · exact orderly_pure _
  · refine fun _ => Maintains.bind (aside_destroyThen _ fun _ => rfl).orderly fun _ => ?_
    refine Maintains.bind (aside_destroyThen _ fun _ => rfl).orderly fun _ => ?_
    exact Maintains.bind (Aside.orderly (aside_assign fun _ => rfl)) fun _ => orderly_pure _

/-- The link is closed whether or not `close` throws, and then the object destroyed. -/
lemma orderly_closeArm : Orderly closeArm := by
  refine orderly_unlessNone (orderly_pure _) ?_
  rintro node _ ⟨harm, rfl⟩
  refine Follows.bind (Q := fun r _ phase => r = .ok () ∧ phase = .closed) ?_ ?_ ?_
  · refine Follows.tryCatch
      (Q := fun r _ phase => r ≠ .error .undefined ∧ phase = .closed) ?_ ?_ ?_
    · rw [armCommand, Serving.derefArm_bind]
      change (if node.arm.isNone then _ else _ : Code _).Follows _ _ node Phase.opened
      rw [if_neg (by simpa [Option.isSome_iff_ne_none] using harm)]
      intro x
      cases x with
      | ok a => exact ⟨.closed, rfl, by rintro ⟨⟩, rfl⟩
      | error what => exact ⟨.closed, rfl, by rintro ⟨⟩, rfl⟩
    · exact fun _ _ _ h => ⟨rfl, h.2⟩
    · rintro (what | _) node' phase ⟨hdefined, hphase⟩
      · exact ⟨rfl, hphase⟩
      · exact absurd rfl hdefined
  · rintro a node' _ ⟨-, rfl⟩
    exact follows_resetArm rfl
  · rintro e node' phase ⟨hr, -⟩
    cases hr

lemma orderly_onCleanup : Orderly onCleanup := by
  refine Maintains.bind (aside_destroyThen _ fun _ => rfl).orderly fun _ => ?_
  refine Maintains.bind (aside_destroyThen _ fun _ => rfl).orderly fun _ => ?_
  refine Maintains.bind (Aside.orderly (aside_assign fun _ => rfl)) fun _ => ?_
  refine Maintains.bind (aside_destroyThen _ fun _ => rfl).orderly fun _ => ?_
  refine Maintains.bind orderly_closeArm fun _ => ?_
  exact Maintains.bind (Aside.orderly (aside_assign fun _ => rfl)) fun _ => orderly_pure _

lemma orderly_callback (t : Transition) : Orderly t.callback := by
  cases t with
  | configure => exact orderly_onConfigure
  | activate => exact orderly_onActivate
  | deactivate => exact orderly_onDeactivate
  | cleanup => exact orderly_onCleanup
  | shutdown => exact orderly_onCleanup

lemma orderly_changeState (t : Transition) : Orderly (changeState t) := by
  have henter (state : PrimaryState) : Orderly (enterState state) :=
    Aside.orderly (aside_assign fun _ => rfl)
  refine orderly_self fun node => ?_
  cases t.goal node.currentState with
  | none => exact orderly_pure _
  | some goal =>
    refine Maintains.bind (orderly_catching (orderly_callback t) fun _ => orderly_pure _) ?_
    rintro (_ | _ | _)
    · exact henter goal
    · exact orderly_pure _
    · have honError : Orderly onError := Serving.connected.fill.orderly
      refine Maintains.bind (orderly_catching honError fun _ => orderly_pure _) ?_
      rintro (_ | _ | _) <;> exact henter _

/-! ### Runs -/

lemma orderly_handleReconnect (response : Reply Unit) : Orderly (handleReconnect response) := by
  refine orderly_catching (orderly_self fun _ => orderly_ite (orderly_pure _) ?_)
    fun _ => orderly_pure _
  refine Maintains.bind (orderly_armCommand rfl) fun _ => ?_
  refine Maintains.bind orderly_refreshLicenseRecord fun _ => ?_
  exact Maintains.bind (Serving.armQuery _).orderly fun _ => (Serving.armQuery _).fill.orderly

/-- Every callback follows the protocol. -/
theorem orderly_code (cb : Callback) : Orderly cb.code := by
  cases cb with
  | changeState t => exact orderly_changeState t
  | service s request =>
    by_cases hs : s = .reconnect
    · subst hs
      exact orderly_handleReconnect _
    · exact (served_handle s hs request default).orderly
  | statusTimer => exact Serving.publishStatus.orderly
  | diagnosticsTimer => exact Serving.publishDiagnostics.orderly
  | setParameters p => exact Aside.orderly (aside_assign fun _ => rfl)

/-! ### Objects -/

/-- The factory returned an object. -/
def builds : Event Call.Answer → Bool
  | ⟨.createArm _, .ok built⟩ => built
  | _                         => false

/-- An object was destroyed. -/
def destroys : Event Call.Answer → Bool
  | ⟨.destroyArm, _⟩ => true
  | _                => false

/-- The objects alive in a phase. -/
def Phase.objects : Phase → Nat
  | .absent          => 0
  | .replacing built => if built then 2 else 1
  | _                => 1

lemma session_objects {phase phase' : Phase} {e : Event Call.Answer}
    (h : session phase e = some phase') :
    phase.objects + (if builds e then 1 else 0) =
      phase'.objects + (if destroys e then 1 else 0) := by
  obtain ⟨c, x⟩ := e
  cases c with
  | createArm options =>
    rcases x with what | (_ | _) <;> cases phase <;> cases h <;> rfl
  | destroyArm => rcases phase with _ | (_ | _) | _ | _ | _ | _ <;> cases h <;> rfl
  | command c =>
    have hphase : phase'.objects = phase.objects := by
      cases phase <;> cases c <;> cases x <;> cases h <;> rfl
    simp [builds, destroys, hphase]
  | query q =>
    have hphase : phase' = phase := by
      cases phase <;> cases h' : q.onArm <;> simp_all [session, Phase.read]
    simp [builds, destroys, hphase]
  | _ =>
    cases h
    rfl

/-- Along an obedient history every object built is alive or was destroyed. -/
lemma objects_after {events : List (Event Call.Answer)} {phase : Phase}
    (h : session.after .absent events = some phase) :
    events.countP builds = events.countP destroys + phase.objects := by
  induction events generalizing phase with
  | nil =>
    cases h
    rfl
  | cons e events ih =>
    obtain ⟨phase₀, hphase₀, hnext⟩ := Option.bind_eq_some_iff.mp h
    have hcount := ih hphase₀
    have hobjects := session_objects hnext
    rw [List.countP_cons, List.countP_cons]
    omega

/-- A call on the object is made while exactly one is alive. -/
lemma objects_of_onArm {phase phase' : Phase} {c : Call} {x : c.Answer} (hc : c.onArm = true)
    (h : session phase ⟨c, x⟩ = some phase') : phase.objects = 1 := by
  cases c with
  | command c => cases phase <;> first | rfl | cases h
  | query q =>
    have hq : q.onArm = true := hc
    cases phase <;> first | rfl | simp [session, Phase.read, hq] at h
  | _ => cases hc

/-- A call on the object, anywhere in an obedient history. -/
lemma objects_at_call {events later earlier : List (Event Call.Answer)} {phase : Phase} {c : Call}
    {x : c.Answer} (h : session.after .absent events = some phase)
    (hsplit : events = later ++ ⟨c, x⟩ :: earlier) (hc : c.onArm = true) :
    earlier.countP builds = earlier.countP destroys + 1 := by
  rw [hsplit] at h
  obtain ⟨phase, phase', hearlier, hnext, -⟩ := Protocol.after_split h
  rw [objects_after hearlier, objects_of_onArm hc hnext]

/-- Every callback leaves the protocol where the member says. -/
lemma session_after (hg : Reachable env g) :
    session.after .absent g.history = some g.shared.phase := by
  apply hg.invariant (I := fun g => session.after .absent g.history = some g.shared.phase)
  · exact fun _ _ _ => rfl
  · intro cb g _ ih
    obtain ⟨new, phase, hnew, hphase, hin⟩ := (orderly_code cb g.shared _ rfl).run env g
    rw [step, hnew, Protocol.after_append, ih, Option.bind_some, hphase]
    exact congrArg some hin

/-- In every run the calls on the SDK session follow its protocol; between two callbacks the
node holds the one object that was built and not destroyed, which it has connected and not closed;
and every command and accessor is called while exactly one object is alive. -/
theorem session_protocol : ∀ g : World σ, Reachable env g →
    session.after .absent g.history = some g.shared.phase ∧
    g.history.countP builds =
      g.history.countP destroys + (if g.shared.arm.isSome then 1 else 0) ∧
    ∀ later c x earlier, g.history = later ++ ⟨c, x⟩ :: earlier → c.onArm = true →
      earlier.countP builds = earlier.countP destroys + 1 := by
  intro g hg
  have hafter := session_after hg
  refine ⟨hafter, ?_, fun later c x earlier hsplit hc => objects_at_call hafter hsplit hc⟩
  rw [objects_after hafter, Node.phase]
  split <;> rfl

/-- A session that was opened, used and closed. -/
theorem session_protocol_cleanup :
    session.after .absent (benchRun {} [{}] [.changeState .configure, .changeState .activate,
      .service .park (), .changeState .deactivate, .changeState .cleanup]).history =
        some .absent :=
  (session_protocol _ (reachable_benchRun _ _ _)).1

/-! ### The look before a command -/

/-- Behind a look that found the link up, with no command since. -/
def LooksUp (events : List (Event Call.Answer)) : Prop :=
  ∃ gap older, events = gap ++ ⟨.query .isConnected, true⟩ :: older ∧
    ∀ e ∈ gap, e.1 ≠ .query .isConnected ∧ ∀ c, e.1 ≠ .command c

/-- What is neither a look nor a command changes nothing. -/
lemma look_other {c : Call} (hquery : c ≠ .query .isConnected) (hcommand : ∀ c', c ≠ .command c')
    (looked : Bool) (x : c.Answer) : look looked ⟨c, x⟩ = some looked := by
  cases c with
  | query q => cases q <;> first | rfl | exact absurd rfl hquery
  | command c' => exact absurd rfl (hcommand c')
  | _ => rfl

lemma looksUp_of_after {events : List (Event Call.Answer)}
    (h : look.after false events = some true) : LooksUp events := by
  induction events with
  | nil => cases h
  | cons e events ih =>
    obtain ⟨c, x⟩ := e
    obtain ⟨looked, hlooked, hnext⟩ := Option.bind_eq_some_iff.mp h
    by_cases hquery : c = .query .isConnected
    · subst hquery
      cases hnext
      exact ⟨[], events, rfl, by simp⟩
    by_cases hcommand : ∃ c', c = .command c'
    · obtain ⟨c', rfl⟩ := hcommand
      cases looked <;> cases hnext
    · rw [look_other hquery fun c' hc' => hcommand ⟨c', hc'⟩] at hnext
      cases hnext
      obtain ⟨gap, older, rfl, hgap⟩ := ih hlooked
      refine ⟨⟨c, x⟩ :: gap, older, rfl, List.forall_mem_cons.mpr ⟨⟨hquery, ?_⟩, hgap⟩⟩
      exact fun c' hc' => hcommand ⟨c', hc'⟩

/-- Whatever the node's state and the SDK's answers, a service other than `reconnect` sends
each command behind a look at the link that found it up: made in the same call, and the last
of its looks, with no other command in between. -/
theorem looks_before_it_sends (s : Service) (hs : s ≠ .reconnect) (request : s.Request)
    (g : World σ) :
    ∃ new, (step env (.service s request) g).history = new ++ g.history ∧
      ∀ later c x earlier, new = later ++ ⟨.command c, x⟩ :: earlier → LooksUp earlier := by
  have hattends := (served_handle s hs request default).attends g.shared (g.shared.phase, false) rfl
  obtain ⟨new, m, hnew, hm, -⟩ := hattends.run env g
  refine ⟨new, hnew, ?_⟩
  rintro later c x earlier rfl
  obtain ⟨m₀, m₁, hearlier, hnext, -⟩ := Protocol.after_split hm
  have hlooked : look.after false earlier = some m₀.2 := (Protocol.prod_after.mp hearlier).2
  have hup : m₀.2 = true := by
    have hlook := (Protocol.prod_eq_some.mp hnext).2
    cases hm₀ : m₀.2 with
    | true => rfl
    | false =>
      rw [hm₀] at hlook
      cases hlook
  exact looksUp_of_after (hup ▸ hlooked)

theorem looks_before_it_sends_park :
    ∃ new, (step bench (.service .park ()) configuredBench).history =
        new ++ configuredBench.history ∧
      ∀ later c x earlier, new = later ++ ⟨.command c, x⟩ :: earlier → LooksUp earlier :=
  looks_before_it_sends .park (by decide) () configuredBench

end LitearmDriver
