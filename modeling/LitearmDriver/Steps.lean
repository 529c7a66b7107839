import LitearmDriver.Outcome.Surface
import LitearmDriver.System
import LitearmDriver.Transitions

/-!
# What one callback does

The ways a transition can end, flattened over the state machine, and the members and calls
that services and timers leave alone. Every invariant of a run is proved from these facts.
-/

namespace LitearmDriver

open Interaction Program

variable {σ : Type} {env : Environment σ} {g : World σ}

/-! ### Transitions -/

/-- How a `change_state` request ends. -/
inductive TransitionStep (env : Environment σ) (g : World σ) :
    Transition → Except Abort Unit → World σ → Prop where
  | unavailable {t : Transition} (hgoal : t.goal g.shared.currentState = none) :
    TransitionStep env g t (.ok ()) g
  | unopened (home : Option String) {arm : Option Arm} {g' : World σ}
      (hstate : g.shared.currentState = .unconfigured)
      (harm : arm = g.shared.arm ∨ arm = none)
      (hshared : g'.shared = { g.shared.prepare home with arm := arm })
      (hsent : sent g' = sent g ∨ ∃ x, sent g' = ⟨.connect, x⟩ :: sent g) :
    TransitionStep env g .configure (.ok ()) g'
  | unpublished (home : Option String) (axes : Nat) {x : Except String LicenseInfo}
      {g' : World σ} (hstate : g.shared.currentState = .unconfigured)
      (hframe : g'.shared.withoutEntities =
        ((g.shared.prepare home).openSession axes x).withoutEntities)
      (hsent : sent g' = ⟨.license, x⟩ :: ⟨.connect, .ok ()⟩ :: sent g)
      (hfailed : CreationFailed env g g') :
    TransitionStep env g .configure (.ok ()) g'
  | configured {home : Option String} {axes : Nat} {x : Except String LicenseInfo} {w : σ}
      {g' : World σ} (hstate : g.shared.currentState = .unconfigured)
      (hshared : g'.shared =
        ((g.shared.prepare home).openSession axes x).addPublishers.enter .inactive)
      (hsent : sent g' = ⟨.license, x⟩ :: ⟨.connect, .ok ()⟩ :: sent g)
      (haxes : (env (.query .n) w).1 = axes) (hnames : g'.shared.jointCount = axes)
      (hsteady : Evolves env (Call.OfTransition (· = .license)) w g'.outside) :
    TransitionStep env g .configure (.ok ()) g'
  | sessionless {g' : World σ} (hstate : g.shared.currentState = .inactive)
      (harm : g.shared.arm = none) (hshared : g'.shared = g.shared.enter .unconfigured) :
    TransitionStep env g .activate (.ok ()) g'
  | refused {what : String} {g' : World σ} (hstate : g.shared.currentState = .inactive)
      (harm : g.shared.arm.isSome = true) (hauto : g.shared.autoEnable = true)
      (henable : g.answer env (.command g.shared.enabling) = .error what)
      (hshared : g'.shared = g.shared.enter .unconfigured) :
    TransitionStep env g .activate (.ok ()) g'
  | unserved {g' : World σ} (hstate : g.shared.currentState = .inactive)
      (hframe : g'.shared.withoutEntities = (g.shared.enter .unconfigured).withoutEntities)
      (hfailed : CreationFailed env g g') :
    TransitionStep env g .activate (.ok ()) g'
  | headless {g' : World σ} (hstate : g.shared.currentState = .inactive)
      (hstatus : g.shared.statusPublisher = none) (hshared : g'.shared = g.shared.goActive) :
    TransitionStep env g .activate (.error .undefined) g'
  | activated {g' : World σ} (hstate : g.shared.currentState = .inactive)
      (harm : g.shared.arm.isSome = true) (hstatus : g.shared.statusPublisher ≠ none)
      (hshared : g'.shared = g.shared.goActive.enter .active)
      (hsent : sent g' =
        (if g.shared.autoEnable then [⟨g.shared.enabling, .ok ()⟩] else []) ++ sent g) :
    TransitionStep env g .activate (.ok ()) g'
  | deactivated {g' : World σ} (hstate : g.shared.currentState = .active)
      (hshared : g'.shared = g.shared.goInactive.enter .inactive) :
    TransitionStep env g .deactivate (.ok ()) g'
  | cleaned {g' : World σ} (hstate : g.shared.currentState = .inactive)
      (hshared : g'.shared = g.shared.goUnconfigured.enter .unconfigured) :
    TransitionStep env g .cleanup (.ok ()) g'
  | shutDown {g' : World σ} (hstate : g.shared.currentState ≠ .finalized)
      (hshared : g'.shared = g.shared.goUnconfigured.enter .finalized) :
    TransitionStep env g .shutdown (.ok ()) g'

/-- Each transition is available in its own start states, and leads to its own goal. -/
lemma goal_eq_some {t : Transition} {state goal : PrimaryState} (h : t.goal state = some goal) :
    match t with
    | .configure => state = .unconfigured ∧ goal = .inactive
    | .activate => state = .inactive ∧ goal = .active
    | .deactivate => state = .active ∧ goal = .inactive
    | .cleanup => state = .inactive ∧ goal = .unconfigured
    | .shutdown => state ≠ .finalized ∧ goal = .finalized := by
  revert h
  cases t <;> cases state <;> cases goal <;> decide

lemma enter_self {state : PrimaryState} {node : Node} (h : node.currentState = state) :
    node.enter state = node := by
  rw [← h]
  rfl

lemma withoutEntities_enter (state : PrimaryState) (node : Node) :
    (node.enter state).withoutEntities = node.withoutEntities.enter state := rfl

lemma openSession_currentState (node : Node) (axes : Nat) (x : Except String LicenseInfo) :
    (node.openSession axes x).currentState = node.currentState := by
  cases x <;> rfl

/-- A configuration that failed returns to the state it started from. -/
lemma configure_failed {r : Except Abort CallbackReturn} {g' g'' : World σ}
    (hstate : g.shared.currentState = .unconfigured) (hr : Fails r)
    (hexit : ConfigureExit env g r g') (hquiet : Quiet g' g'') :
    TransitionStep env g .configure (.ok ()) (g''.update (.enter .unconfigured)) := by
  have hsent : sent g'' = sent g' := hquiet.log.sent
  cases hexit with
  | @unbuilt home _ _ hshared hsent' =>
    refine .unopened home hstate (.inl rfl) ?_ (.inl (hsent.trans hsent'))
    rw [Config.update_shared, hquiet.shared, hshared]
    exact enter_self hstate
  | @absent home _ hshared hsent' =>
    refine .unopened home hstate (.inr rfl) ?_ (.inl (hsent.trans hsent'))
    rw [Config.update_shared, hquiet.shared, hshared]
    exact enter_self hstate
  | @unreachable home _ _ hshared hsent' =>
    refine .unopened home hstate (.inr rfl) ?_ (.inr ⟨_, hsent.trans hsent'⟩)
    rw [Config.update_shared, hquiet.shared, hshared]
    exact enter_self hstate
  | @mismatched home _ hshared hsent' =>
    refine .unopened home hstate (.inr rfl) ?_ (.inr ⟨_, hsent.trans hsent'⟩)
    rw [Config.update_shared, hquiet.shared, hshared]
    exact enter_self hstate
  | @broken home axes _ _ _ hframe hsent' hfailed =>
    obtain ⟨new, hnew, -⟩ := hquiet.history
    refine .unpublished home axes hstate ?_ (hsent.trans hsent') (hfailed.of_append ⟨new, hnew⟩)
    rw [Config.update_shared, hquiet.shared, withoutEntities_enter, hframe]
    exact enter_self ((openSession_currentState _ _ _).trans hstate)
  | configured => rcases hr with hr | ⟨what, hr⟩ <;> cases hr

lemma activate_failed {r : Except Abort CallbackReturn} {g' g'' : World σ}
    (hstate : g.shared.currentState = .inactive) (hr : Fails r)
    (hexit : ActivateExit env g r g') (hquiet : Quiet g' g'') :
    TransitionStep env g .activate (.ok ()) (g''.update (.enter .unconfigured)) := by
  cases hexit with
  | unconfigured harm =>
    exact .sessionless hstate harm (by rw [Config.update_shared, hquiet.shared])
  | refused harm hauto henable =>
    exact .refused hstate harm hauto henable
      (by rw [Config.update_shared, hquiet.shared, Config.after_shared])
  | broken hframe hfailed =>
    obtain ⟨new, hnew, -⟩ := hquiet.history
    refine .unserved hstate ?_ (hfailed.of_append ⟨new, hnew⟩)
    rw [Config.update_shared, hquiet.shared, withoutEntities_enter, hframe,
      withoutEntities_enter]
  | headless => rcases hr with hr | ⟨what, hr⟩ <;> cases hr
  | active => rcases hr with hr | ⟨what, hr⟩ <;> cases hr

theorem change_step (t : Transition) :
    (changeState t).wp env (TransitionStep env g t) g := by
  cases hgoal : t.goal g.shared.currentState with
  | none =>
    rw [wp, change_unavailable hgoal]
    exact .unavailable hgoal
  | some goal =>
    refine wp_mono (change_exit hgoal) fun r g' hexit => ?_
    have hends := goal_eq_some hgoal
    cases t with
    | configure =>
      obtain ⟨hstate, rfl⟩ := hends
      cases hexit with
      | done h =>
        cases h with
        | configured hshared hsent haxes hnames hsteady =>
          exact .configured hstate (by rw [Config.update_shared, hshared]) hsent haxes hnames
            hsteady
      | kept h => cases h
      | failed hr h hquiet => exact configure_failed hstate hr h hquiet
      | undefined h => cases h
    | activate =>
      obtain ⟨hstate, rfl⟩ := hends
      cases hexit with
      | done h =>
        cases h with
        | active harm hstatus hshared hsent =>
          exact .activated hstate harm hstatus (by rw [Config.update_shared, hshared]) hsent
      | kept h => cases h
      | failed hr h hquiet => exact activate_failed hstate hr h hquiet
      | undefined h =>
        cases h with
        | headless hstatus hshared => exact .headless hstate hstatus hshared
    | deactivate =>
      obtain ⟨hstate, rfl⟩ := hends
      cases hexit with
      | done h => exact .deactivated hstate (by rw [Config.update_shared, h.2])
      | kept h => cases h.1
      | failed hr h hquiet => rcases hr with rfl | ⟨what, rfl⟩ <;> cases h.1
      | undefined h => cases h.1
    | cleanup =>
      obtain ⟨hstate, rfl⟩ := hends
      cases hexit with
      | done h => exact .cleaned hstate (by rw [Config.update_shared, h.2])
      | kept h => cases h.1
      | failed hr h hquiet => rcases hr with rfl | ⟨what, rfl⟩ <;> cases h.1
      | undefined h => cases h.1
    | shutdown =>
      obtain ⟨hstate, rfl⟩ := hends
      cases hexit with
      | done h => exact .shutDown hstate (by rw [Config.update_shared, h.2])
      | kept h => cases h.1
      | failed hr h hquiet => rcases hr with rfl | ⟨what, rfl⟩ <;> cases h.1
      | undefined h => cases h.1

/-- Only an activation without a status publisher ends in undefined behaviour. -/
lemma TransitionStep.returns {t : Transition} {r : Except Abort Unit} {g' : World σ}
    (h : TransitionStep env g t r g') :
    r = .ok () ∨ g.shared.currentState = .inactive ∧ g.shared.statusPublisher = none := by
  cases h with
  | headless hstate hstatus => exact .inr ⟨hstate, hstatus⟩
  | _ => exact .inl rfl

/-- The states in which the joint names are settled and the session is in use. -/
def PrimaryState.Configured : PrimaryState → Prop
  | .inactive | .active => True
  | _ => False

/-- How a transition leads into a configured state. -/
inductive Settled (env : Environment σ) (g : World σ) : Transition → World σ → Prop where
  | unavailable {t : Transition} : Settled env g t g
  | configured {home : Option String} {axes : Nat} {x : Except String LicenseInfo} {w : σ}
      {g' : World σ} (hstate : g.shared.currentState = .unconfigured)
      (hshared : g'.shared =
        ((g.shared.prepare home).openSession axes x).addPublishers.enter .inactive)
      (haxes : (env (.query .n) w).1 = axes) (hnames : g'.shared.jointCount = axes)
      (hsteady : Evolves env (Call.OfTransition (· = .license)) w g'.outside) :
    Settled env g .configure g'
  | headless {g' : World σ} (hstate : g.shared.currentState = .inactive)
      (hshared : g'.shared = g.shared.goActive) : Settled env g .activate g'
  | activated {g' : World σ} (hstate : g.shared.currentState = .inactive)
      (hshared : g'.shared = g.shared.goActive.enter .active)
      (hsent : sent g' =
        (if g.shared.autoEnable then [⟨g.shared.enabling, .ok ()⟩] else []) ++ sent g) :
    Settled env g .activate g'
  | deactivated {g' : World σ} (hstate : g.shared.currentState = .active)
      (hshared : g'.shared = g.shared.goInactive.enter .inactive) :
    Settled env g .deactivate g'

/-- Every failure, a cleanup and a shutdown leave the configured states. -/
lemma TransitionStep.settled {t : Transition} {r : Except Abort Unit} {g' : World σ}
    (h : TransitionStep env g t r g') :
    ¬ g'.shared.currentState.Configured ∨ Settled env g t g' := by
  have hleft {state : PrimaryState} (hstate : g'.shared.currentState = state)
      (hout : ¬ state.Configured) : ¬ g'.shared.currentState.Configured ∨ Settled env g t g' := by
    rw [hstate]
    exact .inl hout
  cases h with
  | unavailable => exact .inr .unavailable
  | unopened home hstate harm hshared =>
    exact hleft ((congrArg Node.currentState hshared).trans hstate) id
  | unpublished home axes hstate hframe =>
    have hstate' := (congrArg Node.currentState hframe).trans (openSession_currentState _ _ _)
    exact hleft (hstate'.trans hstate) id
  | configured hstate hshared hsent haxes hnames hsteady =>
    exact .inr (.configured hstate hshared haxes hnames hsteady)
  | sessionless hstate harm hshared => exact hleft (congrArg Node.currentState hshared) id
  | refused hstate harm hauto henable hshared =>
    exact hleft (congrArg Node.currentState hshared) id
  | unserved hstate hframe =>
    have hstate' := congrArg Node.currentState hframe
    exact hleft hstate' id
  | headless hstate hstatus hshared => exact .inr (.headless hstate hshared)
  | activated hstate harm hstatus hshared hsent => exact .inr (.activated hstate hshared hsent)
  | deactivated hstate hshared => exact .inr (.deactivated hstate hshared)
  | cleaned hstate hshared => exact hleft (congrArg Node.currentState hshared) id
  | shutDown hstate hshared => exact hleft (congrArg Node.currentState hshared) id

/-- A transition after which the node is newly active is an activation that succeeded. -/
lemma TransitionStep.activates {t : Transition} {r : Except Abort Unit} {g' : World σ}
    (h : TransitionStep env g t r g') (hbefore : g.shared.currentState ≠ .active)
    (hactive : g'.shared.currentState = .active) :
    g'.shared = g.shared.goActive.enter .active ∧ sent g' =
      (if g.shared.autoEnable then [⟨g.shared.enabling, .ok ()⟩] else []) ++ sent g := by
  rcases h.settled with hout | hsettled
  · rw [hactive] at hout
    exact absurd trivial hout
  cases hsettled with
  | unavailable => exact absurd hactive hbefore
  | configured hstate hshared => cases (congrArg Node.currentState hshared).symm.trans hactive
  | headless hstate hshared =>
    have hstate' := (congrArg Node.currentState hshared).trans g.shared.goActive_currentState
    cases (hstate'.trans hstate).symm.trans hactive
  | activated hstate hshared hsent => exact ⟨hshared, hsent⟩
  | deactivated hstate hshared => cases (congrArg Node.currentState hshared).symm.trans hactive

/-- A configuration after which the node is inactive is one that succeeded. -/
lemma TransitionStep.configures {r : Except Abort Unit} {g' : World σ}
    (h : TransitionStep env g .configure r g')
    (hbefore : g.shared.currentState = .unconfigured)
    (hinactive : g'.shared.currentState = .inactive) :
    ∃ home axes x, g'.shared =
      ((g.shared.prepare home).openSession axes x).addPublishers.enter .inactive := by
  rcases h.settled with hout | hsettled
  · rw [hinactive] at hout
    exact absurd trivial hout
  cases hsettled with
  | unavailable => cases hbefore.symm.trans hinactive
  | configured hstate hshared => exact ⟨_, _, _, hshared⟩

/-- What the node holds of its session: the licence record and the cached frame. -/
structure SessionData where
  licenseValid : Bool
  license : LicenseInfo
  haveState : Bool
  lastState : RobotState
  lastStateStamp : Double

def Node.sessionData (node : Node) : SessionData :=
  ⟨node.licenseValid, node.license, node.haveState, node.lastState, node.lastStateStamp⟩

lemma sessionData_withoutEntities {node node' : Node}
    (h : node'.withoutEntities = node.withoutEntities) : node'.sessionData = node.sessionData := by
  have hdata := congrArg Node.sessionData h
  exact hdata

/-- A transition that is no configuration keeps the data of the session, or ends it. -/
lemma TransitionStep.keepsSession {t : Transition} {r : Except Abort Unit} {g' : World σ}
    (h : TransitionStep env g t r g') (ht : t ≠ .configure) :
    g'.shared.sessionData = g.shared.sessionData ∨ g'.shared = g'.shared.endSession := by
  cases h with
  | unavailable => exact .inl rfl
  | unopened => exact absurd rfl ht
  | unpublished => exact absurd rfl ht
  | configured => exact absurd rfl ht
  | sessionless hstate harm hshared =>
    rw [hshared]
    exact .inl rfl
  | refused hstate harm hauto henable hshared =>
    rw [hshared]
    exact .inl rfl
  | unserved hstate hframe =>
    have hdata := sessionData_withoutEntities hframe
    exact .inl hdata
  | headless hstate hstatus hshared =>
    rw [hshared]
    exact .inl (sessionData_withoutEntities (touchesEntities_goActive _))
  | activated hstate harm hstatus hshared =>
    have hdata := sessionData_withoutEntities (touchesEntities_goActive g.shared)
    rw [hshared]
    exact .inl hdata
  | deactivated hstate hshared =>
    rw [hshared]
    exact .inl rfl
  | cleaned hstate hshared =>
    rw [hshared]
    exact .inr rfl
  | shutDown hstate hshared =>
    rw [hshared]
    exact .inr rfl

/-! ### Services and timers -/

/-- Every handler replies. -/
lemma ServiceExit.replies {s : Service} {r : Except Abort s.Response} {g' : World σ}
    (h : ServiceExit env g s r g') : ∃ response, r = .ok response := by
  cases h <;> exact ⟨_, rfl⟩

/-- The members that only transitions write, the others at their defaults. -/
def Node.lifecycleMembers (node : Node) : Node :=
  { node with
    parameters := {}, licenseValid := false, license := ⟨0, "", "", false⟩, speedScaling := 100
    lastState := ⟨false, false, false, false, 0, 0, "", 0, "", []⟩, haveState := false
    lastStateStamp := 0 }

lemma Command.effect_lifecycleMembers (c : Command) (x : Except String c.Answer) (node : Node) :
    (c.effect x node).lifecycleMembers = node.lifecycleMembers := by
  cases x with
  | ok a => cases c <;> rfl
  | error what => rw [c.effect_error]

lemma ServiceExit.lifecycleMembers {s : Service} {r : Except Abort s.Response} {g' : World σ}
    (h : ServiceExit env g s r g') :
    g'.shared.lifecycleMembers = g.shared.lifecycleMembers := by
  cases h with
  | declined hlog hshared => rw [hshared]
  | issued hs howner hlog hshared => rw [hshared, Command.effect_lifecycleMembers]
  | reconnected hmessage hexit =>
    cases hexit with
    | unconfigured => rfl
    | unreachable => rfl
    | unlicensed => rfl
    | rebuilt => rfl

lemma Refreshed.lifecycleMembers {g' : World σ} (h : Refreshed env g g') :
    g'.shared.lifecycleMembers = g.shared.lifecycleMembers := by
  cases h <;> rfl

lemma ServiceExit.history {s : Service} {r : Except Abort s.Response} {g' : World σ}
    (h : ServiceExit env g s r g') :
    ∃ new, g'.history = new ++ g.history ∧ ∀ e ∈ new, e.1.isLocal = true := by
  cases h with
  | declined hlog =>
    obtain ⟨new, hnew, -, hall⟩ := hlog
    exact ⟨new, hnew, hall⟩
  | issued hs howner hlog =>
    obtain ⟨new, hnew, -, hall⟩ := hlog
    exact ⟨new, hnew, hall⟩
  | reconnected hmessage hexit =>
    cases hexit with
    | unconfigured => exact ⟨[], rfl, by simp⟩
    | unreachable => exact ⟨[_], rfl, by simp [Call.isLocal]⟩
    | unlicensed => exact ⟨[_, _], rfl, by simp [Call.isLocal]⟩
    | rebuilt => exact ⟨[_, _, _, _], rfl, by simp [Call.isLocal]⟩

/-- Only a transition changes the members of the lifecycle. -/
theorem step_lifecycleMembers (env : Environment σ) (g : World σ) {cb : Callback}
    (hcb : ∀ t, cb ≠ .changeState t) :
    (step env cb g).shared.lifecycleMembers = g.shared.lifecycleMembers := by
  cases cb with
  | changeState t => exact absurd rfl (hcb t)
  | service s request =>
    have hexit : (s.handle request default).wp env (ServiceExit env g s) g :=
      handle_exit s request default
    exact hexit.lifecycleMembers
  | statusTimer =>
    obtain ⟨-, g₁, hrefreshed, hpublishes⟩ : publishStatus.wp env _ g := publishStatus_exit
    exact (congrArg Node.lifecycleMembers hpublishes.shared).trans hrefreshed.lifecycleMembers
  | diagnosticsTimer =>
    obtain ⟨-, hpublishes⟩ : publishDiagnostics.wp env _ g := publishDiagnostics_exit
    exact congrArg Node.lifecycleMembers hpublishes.shared
  | setParameters p => rfl

/-- Of what depends on the members of the lifecycle alone, only transitions need be
considered. -/
lemma step_keeps {I : Node → Prop} (hI : ∀ node, I node.lifecycleMembers ↔ I node)
    {cb : Callback} (hchange : ∀ t, cb = .changeState t → I (step env cb g).shared)
    (h : I g.shared) : I (step env cb g).shared := by
  by_cases hcb : ∃ t, cb = .changeState t
  · obtain ⟨t, ht⟩ := hcb
    exact hchange t ht
  · rw [← hI, step_lifecycleMembers env g fun t ht => hcb ⟨t, ht⟩, hI]
    exact h

lemma step_currentState {cb : Callback} (hcb : ∀ t, cb ≠ .changeState t) :
    (step env cb g).shared.currentState = g.shared.currentState := by
  have h := congrArg Node.currentState (step_lifecycleMembers env g hcb)
  exact h

lemma step_jointCount {cb : Callback} (hcb : ∀ t, cb ≠ .changeState t) :
    (step env cb g).shared.jointCount = g.shared.jointCount := by
  have h := congrArg Node.jointCount (step_lifecycleMembers env g hcb)
  exact h

/-! ### Who sends what -/

/-- The commands a callback may send. -/
def Callback.MaySend : Callback → Command → Prop
  | .changeState t, c => t.Sends c
  | .service s _, c   => c.owner = some s ∨ s = .reconnect ∧ c = .license
  | _, _              => False

lemma calls_sent {α : Type} {P : Call → Prop} {p : Code α} (hp : p.Calls P)
    (env : Environment σ) (g : World σ) :
    ∃ new, sent (p.run env g).2 = new ++ sent g ∧ ∀ e ∈ new, P (.command e.1) := by
  obtain ⟨new, hnew, hall⟩ := hp.history env g
  refine ⟨commandsOf new, by rw [LitearmDriver.sent, hnew, commandsOf_append]; rfl, ?_⟩
  exact fun e he => hall _ (mem_commandsOf.mp he)

/-- The handler of a service sends commands of its own, and `reconnect` also reads the
licence record. -/
lemma ServiceExit.sent {s : Service} {r : Except Abort s.Response} {g' : World σ}
    (h : ServiceExit env g s r g') : ∃ new, LitearmDriver.sent g' = new ++ LitearmDriver.sent g ∧
      ∀ e ∈ new, e.1.owner = some s ∨ s = .reconnect ∧ e.1 = .license := by
  cases h with
  | declined hlog => exact ⟨[], hlog.sent, by simp⟩
  | issued hs howner hlog => exact ⟨_, hlog.sent, by simpa using .inl howner⟩
  | reconnected hmessage hexit =>
    rcases hexit.sent with ⟨hsent, -⟩ | ⟨what, hsent, -⟩ | ⟨x, hsent, -⟩
    · exact ⟨[], hsent, by simp⟩
    · exact ⟨[_], hsent, by simp [Command.owner]⟩
    · exact ⟨[_, _], hsent, by simp [Command.owner]⟩

/-- What one callback sends. -/
theorem step_sent (env : Environment σ) (g : World σ) (cb : Callback) :
    ∃ new, sent (step env cb g) = new ++ sent g ∧ ∀ e ∈ new, cb.MaySend e.1 := by
  cases cb with
  | changeState t => exact calls_sent (calls_changeState t) env g
  | service s request =>
    have hexit : (s.handle request default).wp env (ServiceExit env g s) g :=
      handle_exit s request default
    exact ServiceExit.sent hexit
  | statusTimer => exact calls_sent calls_publishStatus env g
  | diagnosticsTimer => exact calls_sent calls_publishDiagnostics env g
  | setParameters p => exact ⟨[], rfl, by simp⟩

/-! ### Opening a session -/

/-- Calls that build or open a session. -/
def Call.Opens : Call → Prop
  | .command .connect   => True
  | .command .reconnect => True
  | .createArm _        => True
  | _                   => False

/-- Callbacks that may open a session. -/
def Callback.MayOpen : Callback → Prop
  | .changeState .configure => True
  | .service .reconnect _   => True
  | _                       => False

lemma Callback.mayOpen_iff {cb : Callback} :
    cb.MayOpen ↔ cb = .changeState .configure ∨ cb = .service .reconnect () := by
  constructor
  · intro h
    cases cb with
    | changeState t =>
      cases t with
      | configure => exact .inl rfl
      | _ => exact absurd h id
    | service s request =>
      cases s with
      | reconnect => exact .inr rfl
      | _ => exact absurd h id
    | _ => exact absurd h id
  · rintro (rfl | rfl)
    · trivial
    · trivial

/-- Between two moments no session was opened. -/
def Unopened (env : Environment σ) (g g' : World σ) : Prop :=
  Evolves env (fun c => ¬ c.Opens) g.outside g'.outside ∧
    ∃ new, g'.history = new ++ g.history ∧ ∀ e ∈ new, ¬ e.1.Opens

lemma unopened_of_calls {α : Type} {p : Code α} {P : Call → Prop} (hp : p.Calls P)
    (hP : ∀ c, P c → ¬ c.Opens) : Unopened env g (p.run env g).2 := by
  obtain ⟨new, hnew, hall⟩ := hp.history env g
  exact ⟨(hp.evolves env g).mono hP, new, hnew, fun e he => hP _ (hall e he)⟩

/-- A run that sends no opening command opens nothing. -/
lemma unopened_of_log {α : Type} {p : Code α} {cs : List Sent}
    (hlog : Log cs g (p.run env g).2) (hcs : ∀ e ∈ cs, ¬ (Call.command e.1).Opens) :
    Unopened env g (p.run env g).2 := by
  obtain ⟨new, hnew, hcommands, hlocal⟩ := hlog
  have hclosed : ∀ e ∈ new, ¬ e.1.Opens := by
    intro e he
    obtain ⟨c, x⟩ := e
    cases c with
    | command c =>
      exact hcs ⟨c, x⟩ (hcommands ▸ mem_commandsOf.mpr he)
    | createArm => simpa [Call.isLocal] using hlocal _ he
    | _ => exact id
  obtain ⟨new', hnew', hevolves⟩ := run_evolves env p g
  obtain rfl : new' = new := List.append_cancel_right (hnew'.symm.trans hnew)
  refine ⟨hevolves.mono ?_, new', hnew, hclosed⟩
  rintro c ⟨e, he, rfl⟩
  exact hclosed e he

lemma Command.owner_opens {c : Command} {s : Service} (hs : s ≠ .reconnect)
    (h : c.owner = some s) : ¬ (Call.command c).Opens := by
  cases c with
  | connect => simp [Command.owner] at h
  | reconnect => exact absurd (Option.some.inj h).symm hs
  | _ => exact id

lemma Call.OfTransition.not_opens {C : Command → Prop} (hconnect : ¬ C .connect)
    (hreconnect : ¬ C .reconnect) {c : Call} (h : c.OfTransition C) : ¬ c.Opens := by
  cases c with
  | command c =>
    cases c with
    | connect => exact absurd h hconnect
    | reconnect => exact absurd h hreconnect
    | _ => exact id
  | createArm options => exact absurd h hconnect
  | _ => exact id

lemma Call.OfTimer.not_opens {c : Call} (h : c.OfTimer) : ¬ c.Opens := by
  cases c with
  | command c => exact absurd h id
  | createArm options => exact absurd h id
  | _ => exact id

lemma Transition.not_sends_opening {t : Transition} (ht : t ≠ .configure) :
    ¬ t.Sends .connect ∧ ¬ t.Sends .reconnect := by
  cases t with
  | configure => exact absurd rfl ht
  | _ => simp [Transition.Sends]

/-- A callback that is no opening operation leaves the session as it is. -/
theorem step_unopened (env : Environment σ) (g : World σ) {cb : Callback} (hcb : ¬ cb.MayOpen) :
    Unopened env g (step env cb g) := by
  cases cb with
  | changeState t =>
    have ht : t ≠ .configure := by
      rintro rfl
      exact hcb trivial
    obtain ⟨hconnect, hreconnect⟩ := Transition.not_sends_opening ht
    exact unopened_of_calls (calls_changeState t) fun c hc => hc.not_opens hconnect hreconnect
  | service s request =>
    have hs : s ≠ .reconnect := by
      rintro rfl
      exact hcb trivial
    have hexit : (s.handle request default).wp env (ServiceExit env g s) g :=
      handle_exit s request default
    rw [wp] at hexit
    generalize hr : ((s.handle request default).run env g).1 = r at hexit
    cases hexit with
    | declined hlog => exact unopened_of_log hlog (by simp)
    | issued _ howner hlog =>
      refine unopened_of_log hlog ?_
      simpa using Command.owner_opens hs howner
    | reconnected => exact absurd rfl hs
  | statusTimer => exact unopened_of_calls calls_publishStatus fun c hc => hc.not_opens
  | diagnosticsTimer =>
    exact unopened_of_calls calls_publishDiagnostics fun c hc => hc.not_opens
  | setParameters p => exact ⟨.refl, [], rfl, by simp⟩

/-! ### Publications -/

/-- Every publication in a history satisfies `R` at the events before it. -/
def EveryPublication (R : Publication → List (Event Call.Answer) → Prop) :
    List (Event Call.Answer) → Prop
  | []                   => True
  | ⟨.publish p, _⟩ :: old => R p old ∧ EveryPublication R old
  | _ :: old             => EveryPublication R old

/-- Calls of a tick that has looked at the frame: it reads quietly and publishes. -/
def Call.isReporting : Call → Bool
  | .publish _ => true
  | c          => c.isQuiet

variable {R : Publication → List (Event Call.Answer) → Prop}

/-- What publishes nothing makes no difference. -/
lemma everyPublication_append {new old : List (Event Call.Answer)}
    (h : EveryPublication R old) (hnew : ∀ e ∈ new, ∀ p, e.1 ≠ .publish p) :
    EveryPublication R (new ++ old) := by
  induction new with
  | nil => exact h
  | cons e new ih =>
    have hrest := ih fun e he => hnew e (List.mem_cons_of_mem _ he)
    have hfirst := hnew e List.mem_cons_self
    obtain ⟨c, x⟩ := e
    cases c with
    | publish p => exact absurd rfl (hfirst p)
    | _ => exact hrest

lemma everyPublication_of_calls {P : Call → Prop} {new old : List (Event Call.Answer)}
    (h : EveryPublication R old) (hP : ∀ p, ¬ P (.publish p)) (hall : ∀ e ∈ new, P e.1) :
    EveryPublication R (new ++ old) := by
  apply everyPublication_append h
  intro e he p hp
  have hcall := hall e he
  rw [hp] at hcall
  exact hP p hcall

/-- Reports that say what the node says satisfy `R` if every such report does. -/
lemma everyPublication_reports {g₁ g' : World σ} (h : EveryPublication R g₁.history)
    (hpublishes : Publishes g₁ g')
    (hreport : ∀ p : Publication, p.ReportOf g₁.shared → ∀ rest : List (Event Call.Answer),
      (∀ e ∈ rest, e.1.isReporting = true) → R p (rest ++ g₁.history)) :
    EveryPublication R g'.history := by
  obtain ⟨-, new, hnew, hall⟩ := hpublishes
  rw [hnew]
  clear hnew
  have hreporting : ∀ e ∈ new, e.1.isReporting = true := by
    intro e he
    rcases hall e he with hquiet | ⟨p, rfl, -⟩
    · obtain ⟨c, x⟩ := e
      cases c with
      | publish p => rfl
      | _ => exact hquiet
    · rfl
  induction new with
  | nil => exact h
  | cons e new ih =>
    have hrest := ih (fun e he => hall e (List.mem_cons_of_mem _ he))
      fun e he => hreporting e (List.mem_cons_of_mem _ he)
    rcases hall e List.mem_cons_self with hquiet | ⟨p, rfl, hp⟩
    · obtain ⟨c, x⟩ := e
      cases c with
      | publish p => cases hquiet
      | _ => exact hrest
    · exact ⟨hreport p hp new fun e he => hreporting e (List.mem_cons_of_mem _ he), hrest⟩

lemma Refreshed.history {g₁ : World σ} (h : Refreshed env g g₁) :
    ∃ new, g₁.history = new ++ g.history ∧ ∀ e ∈ new, e.1 = .query .getState := by
  cases h with
  | unasked => exact ⟨[], rfl, by simp⟩
  | missed => exact ⟨[_], rfl, by simp⟩
  | held => exact ⟨[_], rfl, by simp⟩

/-- One callback publishes only what the node says, after a look at the SDK's frame or
without one. -/
theorem everyPublication_step (cb : Callback) (h : EveryPublication R g.history)
    (hreport : ∀ g₁ : World σ, g₁ = g ∨ Refreshed env g g₁ →
      ∀ p : Publication, p.ReportOf g₁.shared → ∀ rest : List (Event Call.Answer),
        (∀ e ∈ rest, e.1.isReporting = true) → R p (rest ++ g₁.history)) :
    EveryPublication R (step env cb g).history := by
  cases cb with
  | changeState t =>
    obtain ⟨new, hnew, hall⟩ := (calls_changeState t).history env g
    rw [step, Callback.code, hnew]
    exact everyPublication_of_calls h (fun p => id) hall
  | service s request =>
    have hexit : (s.handle request default).wp env (ServiceExit env g s) g :=
      handle_exit s request default
    obtain ⟨new, hnew, hall⟩ := ServiceExit.history hexit
    rw [step, Callback.code, hnew]
    exact everyPublication_of_calls (P := (·.isLocal = true)) h (by simp [Call.isLocal]) hall
  | statusTimer =>
    obtain ⟨-, g₁, hrefreshed, hpublishes⟩ : publishStatus.wp env _ g := publishStatus_exit
    obtain ⟨new, hnew, hall⟩ := hrefreshed.history
    refine everyPublication_reports ?_ hpublishes (hreport g₁ (.inr hrefreshed))
    rw [hnew]
    exact everyPublication_of_calls (P := (· = .query .getState)) h (by simp) hall
  | diagnosticsTimer =>
    obtain ⟨-, hpublishes⟩ : publishDiagnostics.wp env _ g := publishDiagnostics_exit
    exact everyPublication_reports h hpublishes (hreport g (.inl rfl))
  | setParameters p => exact h

/-- Only the timers publish. -/
lemma publish_by_timer {cb : Callback} {new : List (Event Call.Answer)} {p : Publication}
    (hnew : (step env cb g).history = new ++ g.history) (hp : ⟨.publish p, ()⟩ ∈ new) :
    cb = .statusTimer ∨ cb = .diagnosticsTimer := by
  cases cb with
  | changeState t =>
    exact absurd ((calls_changeState t).permits hnew _ hp) id
  | service s request =>
    have hexit : (s.handle request default).wp env (ServiceExit env g s) g :=
      handle_exit s request default
    obtain ⟨new', hnew', hall⟩ := ServiceExit.history hexit
    obtain rfl : new' = new := List.append_cancel_right (hnew'.symm.trans hnew)
    cases hall _ hp
  | statusTimer => exact .inl rfl
  | diagnosticsTimer => exact .inr rfl
  | setParameters p =>
    obtain rfl : new = [] := List.append_cancel_right (hnew.symm.trans (List.nil_append _).symm)
    cases hp

/-- What a callback publishes is made from the node it leaves: that of a status tick after its
look at the SDK's frame, or that of a diagnostics tick as it was. -/
theorem published_madeFrom {cb : Callback} {new : List (Event Call.Answer)} {p : Publication}
    (hnew : (step env cb g).history = new ++ g.history) (hp : ⟨.publish p, ()⟩ ∈ new) :
    ∃ g₁ later, (cb = .statusTimer ∧ Refreshed env g g₁ ∨ cb = .diagnosticsTimer ∧ g₁ = g) ∧
      (step env cb g).shared = g₁.shared ∧ (step env cb g).history = later ++ g₁.history ∧
      (∀ e ∈ later, e ∈ new) ∧ p.MadeFrom g₁.shared later := by
  have hmade {g₁ : World σ} {later : List (Event Call.Answer)} (hmem : ⟨.publish p, ()⟩ ∈ later)
      (hall : ∀ e ∈ later, e.1.isQuiet = true ∨
        ∃ p : Publication, e = ⟨.publish p, ()⟩ ∧ p.MadeFrom g₁.shared later) :
      p.MadeFrom g₁.shared later := by
    rcases hall _ hmem with hquiet | ⟨p', hp', hmade⟩
    · cases hquiet
    · cases hp'
      exact hmade
  rcases publish_by_timer hnew hp with rfl | rfl
  · obtain ⟨-, g₁, hrefreshed, hshared, later, hlater, hall⟩ : publishStatus.wp env _ g :=
      publishStatus_delivers
    obtain ⟨looked, hlooked, hframe⟩ := hrefreshed.history
    have hsplit : new = later ++ looked := events_split hnew hlooked hlater
    rw [hsplit] at hp ⊢
    refine ⟨g₁, later, .inl ⟨rfl, hrefreshed⟩, hshared, hlater, ?_, ?_⟩
    · intro e he
      exact List.mem_append_left _ he
    · rcases List.mem_append.mp hp with hp | hp
      · exact hmade hp hall
      · cases hframe _ hp
  · obtain ⟨-, hshared, later, hlater, hall⟩ : publishDiagnostics.wp env _ g :=
      publishDiagnostics_delivers
    obtain rfl : later = new := List.append_cancel_right (hlater.symm.trans hnew)
    exact ⟨g, later, .inr ⟨rfl, rfl⟩, hshared, hlater, fun e he => he, hmade hp hall⟩

end LitearmDriver
