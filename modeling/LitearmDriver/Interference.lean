import LitearmDriver.Blindness
import LitearmDriver.Interaction.Pool
import LitearmDriver.Steps

/-!
# The callbacks under interference

What the handlers, the timers and the transitions call and write when other callbacks move
between any two of their steps. A handler or a timer never destroys the session and writes
only the caches; a transition acts as the lifecycle members it began with allow.
-/

namespace LitearmDriver

open Interaction Program

variable {α β Body : Type}

/-! ### Handlers and timers -/

/-- The write leaves the members of the lifecycle as they are. -/
def KeepsLifecycle (f : Node → Node) : Prop :=
  ∀ node, (f node).lifecycleMembers = node.lifecycleMembers

/-- Code that neither destroys the session nor touches the members of the lifecycle. -/
def Tame (p : Code α) : Prop := p.Within (· ≠ .destroyArm) KeepsLifecycle

lemma tame_bind {p : Code α} {f : α → Code β} (hp : Tame p) (hf : ∀ a, Tame (f a)) :
    Tame (p >>= f) := Within.bind hp hf

/-- What follows only computes a value. -/
lemma tame_fill {p : Code α} {f : α → β} (hp : Tame p) :
    Tame (p >>= fun a => Pure.pure (f a)) := tame_bind hp fun _ => trivial

lemma tame_ite {c : Prop} [Decidable c] {p q : Code α} (hp : Tame p) (hq : Tame q) :
    Tame (if c then p else q) := by
  split
  · exact hp
  · exact hq

lemma tame_self : Tame self := fun _ => trivial

lemma tame_assign {f : Node → Node} (hf : KeepsLifecycle f) : Tame (assign f) := ⟨hf, trivial⟩

lemma tame_ask {c : Call} (hc : c ≠ .destroyArm) : Tame (ask c) := ⟨hc, fun _ => trivial⟩

lemma tame_query (q : Query) : Tame (query q) := ⟨nofun, fun _ => trivial⟩

lemma tame_orThrow (x : Except String α) : Tame (orThrow x) := by
  cases x with
  | ok a => trivial
  | error what => trivial

lemma tame_command (c : Command) : Tame (command c) := ⟨nofun, fun x => tame_orThrow x⟩

lemma tame_catching {p : Code α} {handler : String → Code α} (hp : Tame p)
    (hh : ∀ what, Tame (handler what)) : Tame (catching p handler) := by
  apply Within.tryCatch hp
  intro e
  cases e with
  | exception what => exact hh what
  | undefined => trivial

lemma tame_connected : Tame connected :=
  tame_bind tame_self fun _ => tame_ite trivial (tame_query _)

lemma tame_queryOr (q : Query) (otherwise : q.Answer) : Tame (queryOr q otherwise) :=
  tame_bind tame_self fun _ => tame_ite trivial (tame_query _)

lemma tame_refuseUnless {gate : GateResult} {response : Reply Body} {rest : Code (Reply Body)}
    (h : Tame rest) : Tame (refuseUnless gate response rest) := tame_ite h trivial

lemma tame_runCommand {what : String} {response : Reply Body}
    {fn : Reply Body → Code (Reply Body)} (h : ∀ response, Tame (fn response)) :
    Tame (runCommand what response fn) := by
  refine tame_bind tame_connected fun _ => tame_refuseUnless ?_
  exact tame_catching (tame_bind (h _) fun _ => trivial) fun _ => trivial

lemma tame_frameAge (stamp : Double) : Tame (frameAge stamp) :=
  tame_ite trivial (tame_bind (tame_ask nofun) fun _ => trivial)

lemma tame_buildStatus (fresh : Option RobotState) : Tame (buildStatus fresh) := by
  refine tame_bind (tame_ask nofun) fun _ => tame_bind tame_self fun _ => ?_
  refine tame_bind tame_connected fun _ => tame_bind (tame_queryOr _ _) fun _ => ?_
  refine tame_bind (tame_queryOr _ _) fun _ => tame_bind (tame_queryOr _ _) fun _ => ?_
  refine tame_bind (tame_queryOr _ _) fun _ => tame_bind (tame_queryOr _ _) fun _ => ?_
  exact tame_bind (tame_frameAge _) fun _ => trivial

lemma tame_handleGetStatus (request : GetStatus.Request) (response : Reply LitearmStatus) :
    Tame (handleGetStatus request response) := by
  refine tame_runCommand fun _ => tame_bind (tame_command _) fun _ => ?_
  refine tame_bind (tame_assign ?_) fun _ => tame_fill (tame_buildStatus _)
  intro node
  rfl

/-- What a handler writes to the caches. -/
lemma WritesCache.keepsLifecycle {f : Node → Node} (h : WritesCache f) : KeepsLifecycle f := by
  rcases h with ⟨state, stamp, rfl⟩ | ⟨license, rfl⟩ | ⟨percent, rfl⟩
  · exact fun _ => rfl
  · exact fun _ => rfl
  · exact fun _ => rfl

/-- Every handler. -/
theorem tame_handle (s : Service) (request : s.Request) (response : s.Response) :
    Tame (s.handle request response) := by
  by_cases hs : s = .getStatus
  · subst hs
    exact tame_handleGetStatus _ _
  · apply (blind_handle s hs request response).within.mono
    · rintro c hc rfl
      exact hc
    · exact fun _ => WritesCache.keepsLifecycle

/-! ### Timers -/

lemma tame_cachedState : Tame cachedState := by
  refine tame_bind (tame_bind tame_self fun _ => tame_ite trivial ?_) fun _ => tame_fill tame_self
  refine tame_bind (tame_query _) fun answer => ?_
  rcases answer with what | ⟨_ | state, stamp⟩
  · trivial
  · trivial
  · exact tame_assign fun _ => rfl

lemma tame_publishOn (publisher : Publisher) (p : Publication) : Tame (publishOn publisher p) :=
  tame_ite (tame_ask nofun) trivial

theorem tame_publishStatus : Tame publishStatus := by
  refine tame_bind tame_cachedState fun state => tame_bind (tame_bind tame_self fun node => ?_)
    fun _ => tame_bind tame_self fun node => ?_
  · cases node.statusPublisher with
    | none => trivial
    | some publisher => exact tame_bind (tame_buildStatus _) fun _ => tame_publishOn _ _
  · cases node.jointStatePublisher with
    | none => trivial
    | some publisher =>
      cases state with
      | none => trivial
      | some state => exact tame_bind (tame_ask nofun) fun _ => tame_publishOn _ _

theorem tame_publishDiagnostics : Tame publishDiagnostics := by
  refine tame_bind tame_self fun node => ?_
  cases node.diagnosticsPublisher with
  | none => trivial
  | some publisher =>
    refine tame_bind (tame_ask nofun) fun _ => tame_bind (tame_queryOr _ _) fun _ => ?_
    refine tame_bind tame_connected fun _ => tame_bind (tame_queryOr _ _) fun _ => ?_
    refine tame_bind (tame_queryOr _ _) fun _ => tame_bind tame_connected fun _ => ?_
    refine tame_bind (tame_queryOr _ _) fun _ => tame_bind (tame_frameAge _) fun _ => ?_
    exact tame_publishOn _ _

/-! ### Handlers that send nothing -/

lemma calls_rates (ids : List RateId) : (rates ids).Calls Call.OfTimer := by
  induction ids with
  | nil => trivial
  | cons id ids ih =>
    exact .bind (calls_query trivial) fun _ => .bind (calls_armQuery trivial) fun _ =>
      .bind ih fun _ => trivial

lemma calls_handleGetDiagnostics (response : Reply GetDiagnostics.Body) :
    (handleGetDiagnostics response).Calls Call.OfTimer := by
  refine .bind (calls_connected trivial) fun _ => calls_ite (calls_catching ?_ ?_) trivial
  · refine .bind (calls_armQuery trivial) fun _ => .bind (calls_armQuery trivial) fun _ => ?_
    refine .bind (calls_armQuery trivial) fun _ => .bind (calls_armQuery trivial) fun _ => ?_
    refine .bind (calls_armQuery trivial) fun _ => .bind (calls_armQuery trivial) fun _ => ?_
    refine .bind (calls_armQuery trivial) fun _ => .bind (calls_armQuery trivial) fun _ => ?_
    refine .bind (calls_armQuery trivial) fun _ => .bind (calls_armQuery trivial) fun _ => ?_
    exact .bind (calls_rates _) fun _ => trivial
  · exact fun _ => trivial

/-! ### What a callback may do to the session -/

/-- The transition may begin a command of the SDK on a node with these members. -/
def Transition.commands (t : Transition) (node : Node) : Bool :=
  (t.goal node.currentState).isSome && match t with
    | .configure | .deactivate  => true
    | .activate                 => node.autoEnable
    | .cleanup | .shutdown      => node.arm.isSome

/-- The transition may destroy a session on a node with these members. -/
def Transition.destroys (t : Transition) (node : Node) : Bool :=
  (t.goal node.currentState).isSome && match t with
    | .configure              => true
    | .activate | .deactivate => false
    | .cleanup | .shutdown    => node.arm.isSome

/-- The handlers that send something: all but the two that only read the host. -/
def Service.commands (s : Service) : Bool :=
  decide (s ≠ .getDiagnostics) && decide (s ≠ .getFeedforwardCatalog)

namespace Callback

/-- The callback may begin a command of the SDK. -/
def commands : Callback → Node → Bool
  | .changeState t, node => t.commands node
  | .service s _, _      => s.commands
  | _, _                 => false

/-- The callback may destroy the session. -/
def destroys : Callback → Node → Bool
  | .changeState t, node => t.destroys node
  | _, _                 => false

/-- The callback may call the SDK on the session object. The feedforward catalogue is read
from static tables. -/
def usesArm : Callback → Bool
  | .service s _     => decide (s ≠ .getFeedforwardCatalog)
  | .setParameters _ => false
  | _                => true

end Callback

/-- The accessors of the session object; the others are static tables and constants. -/
def Query.onArm : Query → Bool
  | .ffVecItems | .ffScalarItems | .ffScalarRoItems => false
  | .responseId _ | .sampleSize _ | .kinBenchTimeout => false
  | _ => true

lemma calls_handleGetFeedforwardCatalog (response : Reply GetFeedforwardCatalog.Body) :
    (handleGetFeedforwardCatalog response).Calls
      fun c => ∃ q, c = .query q ∧ q.onArm = false := by
  refine .bind (calls_query ⟨_, rfl, rfl⟩) fun _ => .bind (calls_query ⟨_, rfl, rfl⟩) fun _ => ?_
  exact .bind (calls_query ⟨_, rfl, rfl⟩) fun _ => trivial

/-- A call of the SDK on the session object. -/
def Call.onArm : Call → Bool
  | .query q   => q.onArm
  | .command _ => true
  | _          => false

/-- The calls of a callback that began with these members. -/
def Callback.May (cb : Callback) (node : Node) : Call → Prop
  | .command _  => cb.commands node = true
  | .destroyArm => cb.destroys node = true
  | .query q    => q.onArm = true → cb.usesArm = true
  | _           => True

/-! ### Transitions -/

/-- Others leave the members of the lifecycle as they are. -/
def SameLifecycle (node node' : Node) : Prop :=
  node'.lifecycleMembers = node.lifecycleMembers

lemma SameLifecycle.currentState {node node' : Node} (h : SameLifecycle node node') :
    node'.currentState = node.currentState := by
  have hstate := congrArg Node.currentState h
  exact hstate

lemma SameLifecycle.autoEnable {node node' : Node} (h : SameLifecycle node node') :
    node'.autoEnable = node.autoEnable := by
  have hauto := congrArg Node.autoEnable h
  exact hauto

lemma SameLifecycle.arm {node node' : Node} (h : SameLifecycle node node') :
    node'.arm = node.arm := by
  have harm := congrArg Node.arm h
  exact harm

/-- Nothing is asked of the writes of a transition, nor of what it ends in. -/
abbrev TransitionBound {α : Type} (P : Call → Prop) (p : Code α) (node : Node) : Prop :=
  p.rg SameLifecycle (fun _ _ => True) P (fun _ _ => True) node

variable {P : Call → Prop} {C : Command → Prop} {node node' : Node} {t : Transition}

lemma may_of_transition (hcommands : ∀ c, C c → t.commands node = true)
    (hdestroys : C .connect ∨ C .close → t.destroys node = true) {c : Call}
    (h : c.OfTransition C) : (Callback.changeState t).May node c := by
  cases c with
  | command c => exact hcommands c h
  | destroyArm => exact hdestroys h
  | query q => exact fun _ => rfl
  | _ => trivial

/-- Calls that neither send a command nor destroy the session. -/
lemma may_of_passive {c : Call} (h : c.OfTransition fun _ => False) :
    (Callback.changeState t).May node c :=
  may_of_transition (fun _ hc => hc.elim) (fun hc => (hc.elim id id).elim) h

lemma rg_onConfigure (hgoal : Transition.configure.goal node.currentState ≠ none) :
    TransitionBound ((Callback.changeState .configure).May node) onConfigure node' := by
  refine (calls_onConfigure.mono fun c => may_of_transition ?_ ?_).rg
  · intro c _
    simpa [Transition.commands, Option.isSome_iff_ne_none] using hgoal
  · intro _
    simpa [Transition.destroys, Option.isSome_iff_ne_none] using hgoal

lemma rg_onActivate (hgoal : Transition.activate.goal node.currentState ≠ none)
    (hnode : SameLifecycle node node') :
    TransitionBound ((Callback.changeState .activate).May node) onActivate node' := by
  cases hauto : node.autoEnable with
  | true =>
    refine (calls_onActivate.mono fun c => may_of_transition ?_ ?_).rg
    · intro c _
      simpa [Transition.commands, hauto, Option.isSome_iff_ne_none] using hgoal
    · rintro (⟨attempts, hc⟩ | ⟨attempts, hc⟩) <;> cases hc
  | false =>
    -- ENABLE is not sent: the flag is read later, but nobody else writes it
    intro s hs
    show TransitionBound _ (if s.arm.isNone then _ else _) s
    split
    · trivial
    · refine rg_seq (I := fun _ => True) ?_ fun enabled s' _ =>
        ((calls_finishActivate enabled).mono fun c => may_of_passive).rg
      intro s' hs'
      have hflag : s'.autoEnable = false :=
        hs'.autoEnable.trans (hs.autoEnable.trans (hnode.autoEnable.trans hauto))
      show TransitionBound _ (if s'.autoEnable then _ else _) s'
      rw [hflag]
      trivial

lemma rg_onDeactivate (hgoal : Transition.deactivate.goal node.currentState ≠ none) :
    TransitionBound ((Callback.changeState .deactivate).May node) onDeactivate node' := by
  refine (calls_onDeactivate.mono fun c => may_of_transition ?_ ?_).rg
  · intro c _
    simpa [Transition.commands, Option.isSome_iff_ne_none] using hgoal
  · rintro (hc | hc) <;> cases hc

/-- Destroying entities does not touch the session. -/
lemma rg_destroy {group : EntityGroup} {f : Node → Node} (hgroup : P (.destroy group))
    (hf : ∀ s, (f s).arm = s.arm) (harm : node.arm = none) :
    (ask (.destroy group) >>= fun _ => assign f).rg SameLifecycle (fun _ _ => True) P
      (fun _ s => s.arm = none) node := by
  refine Within.rg (fun s s' hs h => hs.arm.trans h) ?_ harm
  exact ⟨hgroup, fun _ => ⟨fun s => ⟨trivial, fun h => (hf s).trans h⟩, trivial⟩⟩

/-- A cleanup, also the one of a shutdown, closes and destroys a session that exists. -/
lemma rg_onCleanup (hgoal : t.goal node.currentState ≠ none) (ht : t = .cleanup ∨ t = .shutdown)
    (hnode : SameLifecycle node node') :
    TransitionBound ((Callback.changeState t).May node) onCleanup node' := by
  cases harm : node.arm with
  | some arm =>
    refine (calls_onCleanup.mono fun c => may_of_transition ?_ ?_).rg
    · intro c _
      rcases ht with rfl | rfl <;>
        simpa [Transition.commands, harm, Option.isSome_iff_ne_none] using hgoal
    · intro _
      rcases ht with rfl | rfl <;>
        simpa [Transition.destroys, harm, Option.isSome_iff_ne_none] using hgoal
  | none =>
    refine rg_seq (rg_destroy trivial (fun _ => rfl) (hnode.arm.trans harm)) fun _ s hs => ?_
    refine rg_seq (rg_destroy trivial (fun _ => rfl) hs) fun _ s hs => ?_
    refine rg_seq (I := fun s => s.arm = none) ?_ fun _ s hs => ?_
    · exact fun s' hs' => ⟨trivial, hs'.arm.trans hs⟩
    refine rg_seq (rg_destroy trivial (fun _ => rfl) hs) fun _ s hs => ?_
    refine rg_seq (I := fun _ => True) ?_ fun _ s _ =>
      Calls.rg (.bind (calls_assign _) fun _ => trivial)
    intro s' hs'
    show Program.rg _ _ _ (if s'.arm.isNone then _ else _) _ s'
    rw [hs'.arm, hs]
    trivial

/-- A request that is not available does nothing; one that is does what its callback does. -/
theorem rg_changeState (t : Transition) (node : Node) :
    TransitionBound ((Callback.changeState t).May node) (changeState t) node := by
  rw [TransitionBound, changeState, rg_bind]
  intro s hs
  simp only [rg, hs.currentState]
  cases hgoal : t.goal node.currentState with
  | none => trivial
  | some goal =>
    have havailable : t.goal node.currentState ≠ none := by simp [hgoal]
    refine rg_seq (I := fun _ => True) ?_ fun result s' _ => ?_
    · rw [executeCallback, catching, rg_tryCatch]
      have hcallback : TransitionBound ((Callback.changeState t).May node) t.callback s := by
        cases t with
        | configure => exact rg_onConfigure havailable
        | activate => exact rg_onActivate havailable hs
        | deactivate => exact rg_onDeactivate havailable
        | cleanup => exact rg_onCleanup havailable (.inl rfl) hs
        | shutdown => exact rg_onCleanup havailable (.inr rfl) hs
      apply rg_mono hcallback (fun _ hc => hc)
      intro r s' _
      rcases r with (what | _) | result <;> trivial
    · refine Calls.rg (Calls.mono ?_ fun c => may_of_passive)
      cases result with
      | success => exact calls_assign _
      | failure => trivial
      | error =>
        refine .bind (calls_executeCallback calls_onError) fun handled => ?_
        cases handled <;> exact calls_assign _

/-! ### Every callback -/

/-- A handler makes no call it may not make, from whatever members it began with. -/
lemma within_handle (s : Service) (request : s.Request) (response : s.Response) :
    (s.handle request response).Within ((Callback.service s request).May node)
      KeepsLifecycle := by
  have htame := tame_handle s request response
  by_cases hdiagnostics : s = .getDiagnostics
  · subst hdiagnostics
    refine (htame.and_calls (calls_handleGetDiagnostics response)).mono ?_ fun _ hf => hf
    rintro c ⟨hdestroy, htimer⟩
    cases c with
    | command c => exact htimer.elim
    | destroyArm => exact absurd rfl hdestroy
    | query q => exact fun _ => rfl
    | _ => trivial
  by_cases hcatalog : s = .getFeedforwardCatalog
  · subst hcatalog
    refine (htame.and_calls (calls_handleGetFeedforwardCatalog response)).mono ?_ fun _ hf => hf
    rintro c ⟨-, q, rfl, hstatic⟩ honArm
    cases hstatic.symm.trans honArm
  · refine htame.mono (fun c hc => ?_) fun _ hf => hf
    cases c with
    | command c => simp [Callback.May, Callback.commands, Service.commands, *]
    | destroyArm => exact absurd rfl hc
    | query q => simp [Callback.May, Callback.usesArm, *]
    | _ => trivial

/-- A timer only reads the SDK. -/
lemma within_timer {cb : Callback} {p : Code Unit} (htame : Tame p)
    (hcalls : p.Calls Call.OfTimer) (huses : cb.usesArm = true) :
    p.Within (cb.May node) KeepsLifecycle := by
  refine (htame.and_calls hcalls).mono ?_ fun _ hf => hf
  rintro c ⟨hdestroy, htimer⟩
  cases c with
  | command c => exact htimer.elim
  | destroyArm => exact absurd rfl hdestroy
  | query q => exact fun _ => huses
  | _ => trivial

end LitearmDriver
