import LitearmDriver.Bench
import LitearmDriver.Steps

/-!
# Publishers and timers follow the latest configuration

What an active node publishes, and how often, is meant to be what the parameters said when
the latest successful configuration read them. A configuration only adds entities, so this
rests on the node holding no entity from an earlier attempt that the parameters do not ask
for.
-/

namespace LitearmDriver

open Interaction Program

variable {σ : Type} {env : Environment σ} {g : World σ} {p : Parameters}

/-! ### Runs with the configuration they go by -/

/-- The callback is a configuration that succeeds from here. -/
def Configures (env : Environment σ) (cb : Callback) (g : World σ) : Prop :=
  cb = .changeState .configure ∧ g.shared.currentState = .unconfigured ∧
    (step env cb g).shared.currentState = .inactive

/-- A run, and the parameters at the start of its latest successful configuration. -/
inductive ConfiguredRun (env : Environment σ) (admitted : Callback → World σ → Prop) :
    Option Parameters → World σ → Prop where
  | fresh (name : String) (p : Parameters) (outside : σ) :
    ConfiguredRun env admitted none (.fresh name p outside)
  | configured {cb : Callback} {last : Option Parameters} {g : World σ} (hcb : admitted cb g)
      (h : ConfiguredRun env admitted last g) (hconfigures : Configures env cb g) :
    ConfiguredRun env admitted (some g.shared.parameters) (step env cb g)
  | other {cb : Callback} {last : Option Parameters} {g : World σ} (hcb : admitted cb g)
      (h : ConfiguredRun env admitted last g) (hother : ¬ Configures env cb g) :
    ConfiguredRun env admitted last (step env cb g)

/-! ### What the parameters ask for -/

/-- The publishers are those the parameters ask for. -/
structure PublishersFollow (p : Parameters) (node : Node) : Prop where
  jointState : node.jointStatePublisher.map Publisher.topic =
    if p.publishJointStates then some p.jointStatesTopic else none
  diagnostics : node.diagnosticsPublisher.isSome = p.publishDiagnostics

/-- Publishers and timers are those the parameters ask for. -/
structure Follows (p : Parameters) (node : Node) : Prop extends PublishersFollow p node where
  statusTimer : node.statusTimer.isSome = true ↔ 0 < p.statusRateHz
  diagnosticsTimer : node.diagnosticsTimer.isSome = true ↔
    p.publishDiagnostics = true ∧ 0 < p.diagnosticsRateHz

/-- The members that decide what an activation starts are those of the parameters. -/
structure ReadFrom (p : Parameters) (node : Node) : Prop where
  statusRateHz : node.statusRateHz = p.statusRateHz
  diagnosticsRateHz : node.diagnosticsRateHz = p.diagnosticsRateHz

/-- No timer runs that the parameters do not ask for. -/
structure NoExtraTimer (p : Parameters) (node : Node) : Prop where
  statusTimer : node.statusTimer.isSome = true → 0 < p.statusRateHz
  diagnosticsTimer : node.diagnosticsTimer.isSome = true →
    p.publishDiagnostics = true ∧ 0 < p.diagnosticsRateHz

/-- The node holds no entity from an earlier attempt that its parameters do not ask for. -/
structure NoLeftover (node : Node) : Prop extends NoExtraTimer node.parameters node where
  jointState : node.jointStatePublisher.isSome = true → node.parameters.publishJointStates = true
  diagnostics : node.diagnosticsPublisher.isSome = true → node.parameters.publishDiagnostics = true

/-! ### One configuration and one activation -/

/-- The members after a configuration that succeeded. -/
abbrev Node.configure (node : Node) (home : Option String) (axes : Nat)
    (x : Except String LicenseInfo) : Node :=
  ((node.prepare home).openSession axes x).addPublishers

variable {home : Option String} {axes : Nat} {x : Except String LicenseInfo} {node : Node}

/-- What opening a session leaves of the entities, and what it reads of the parameters. -/
structure OpenedFrom (node opened : Node) : Prop where
  publishJointStates : opened.publishJointStates = node.parameters.publishJointStates
  jointStatesTopic : opened.jointStatesTopic = node.parameters.jointStatesTopic
  publishDiagnostics : opened.publishDiagnostics = node.parameters.publishDiagnostics
  statusRateHz : opened.statusRateHz = node.parameters.statusRateHz
  diagnosticsRateHz : opened.diagnosticsRateHz = node.parameters.diagnosticsRateHz
  jointStatePublisher : opened.jointStatePublisher = node.jointStatePublisher
  diagnosticsPublisher : opened.diagnosticsPublisher = node.diagnosticsPublisher
  statusTimer : opened.statusTimer = node.statusTimer
  diagnosticsTimer : opened.diagnosticsTimer = node.diagnosticsTimer

lemma openedFrom : OpenedFrom node ((node.prepare home).openSession axes x) := by
  cases x <;> exact ⟨rfl, rfl, rfl, rfl, rfl, rfl, rfl, rfl, rfl⟩

lemma addPublishers_jointStatePublisher : node.addPublishers.jointStatePublisher =
    if node.publishJointStates then some ⟨node.jointStatesTopic, false⟩
    else node.jointStatePublisher := by
  rw [Node.addPublishers_eq]

lemma addPublishers_diagnosticsPublisher : node.addPublishers.diagnosticsPublisher =
    if node.publishDiagnostics then some ⟨"/diagnostics", false⟩
    else node.diagnosticsPublisher := by
  rw [Node.addPublishers_eq]

/-- The members a publisher is not one of. -/
lemma addPublishers_frame (node : Node) :
    node.addPublishers.statusRateHz = node.statusRateHz ∧
    node.addPublishers.diagnosticsRateHz = node.diagnosticsRateHz ∧
    node.addPublishers.statusTimer = node.statusTimer ∧
    node.addPublishers.diagnosticsTimer = node.diagnosticsTimer := by
  rw [Node.addPublishers_eq]
  exact ⟨rfl, rfl, rfl, rfl⟩

lemma configure_publishersFollow :
    PublishersFollow node.parameters (node.configure home axes x) ↔
      (node.jointStatePublisher.isSome = true → node.parameters.publishJointStates = true) ∧
        (node.diagnosticsPublisher.isSome = true → node.parameters.publishDiagnostics = true) := by
  have hopened : OpenedFrom node ((node.prepare home).openSession axes x) := openedFrom
  have hjoint : (node.configure home axes x).jointStatePublisher.map Publisher.topic =
      (if node.parameters.publishJointStates then some node.parameters.jointStatesTopic else none)
        ↔ (node.jointStatePublisher.isSome = true →
          node.parameters.publishJointStates = true) := by
    rw [addPublishers_jointStatePublisher, hopened.publishJointStates, hopened.jointStatesTopic,
      hopened.jointStatePublisher]
    cases node.parameters.publishJointStates <;> cases node.jointStatePublisher <;> simp
  have hdiagnostics : (node.configure home axes x).diagnosticsPublisher.isSome =
      node.parameters.publishDiagnostics ↔ (node.diagnosticsPublisher.isSome = true →
        node.parameters.publishDiagnostics = true) := by
    rw [addPublishers_diagnosticsPublisher, hopened.publishDiagnostics,
      hopened.diagnosticsPublisher]
    cases node.parameters.publishDiagnostics <;> cases node.diagnosticsPublisher <;> simp
  rw [← hjoint, ← hdiagnostics]
  exact ⟨fun h => ⟨h.1, h.2⟩, fun h => ⟨h.1, h.2⟩⟩

/-- A configuration that succeeds has the publishers and timers right exactly when nothing is
left over from before. -/
lemma configure_follows : PublishersFollow node.parameters (node.configure home axes x) ∧
    NoExtraTimer node.parameters (node.configure home axes x) ↔ NoLeftover node := by
  have hopened : OpenedFrom node ((node.prepare home).openSession axes x) := openedFrom
  obtain ⟨-, -, hstatus, hdiagnostics⟩ :=
    addPublishers_frame ((node.prepare home).openSession axes x)
  have htimers : NoExtraTimer node.parameters (node.configure home axes x) ↔
      NoExtraTimer node.parameters node := by
    have hstatus' := hstatus.trans hopened.statusTimer
    have hdiagnostics' := hdiagnostics.trans hopened.diagnosticsTimer
    exact ⟨fun h => ⟨hstatus' ▸ h.1, hdiagnostics' ▸ h.2⟩,
      fun h => ⟨hstatus'.symm ▸ h.1, hdiagnostics'.symm ▸ h.2⟩⟩
  rw [configure_publishersFollow, htimers]
  exact ⟨fun h => ⟨h.2, h.1.1, h.1.2⟩, fun h => ⟨⟨h.2, h.3⟩, h.1⟩⟩

lemma configure_readFrom : ReadFrom node.parameters (node.configure home axes x) := by
  have hopened : OpenedFrom node ((node.prepare home).openSession axes x) := openedFrom
  obtain ⟨hstatus, hdiagnostics, -, -⟩ :=
    addPublishers_frame ((node.prepare home).openSession axes x)
  exact ⟨hstatus.trans hopened.statusRateHz, hdiagnostics.trans hopened.diagnosticsRateHz⟩

lemma goActive_jointStatePublisher :
    node.goActive.jointStatePublisher.map Publisher.topic =
      node.jointStatePublisher.map Publisher.topic := by
  rw [Node.goActive_eq]
  simp [Node.switchPublishers, Node.serve, Function.comp_def]

lemma goActive_diagnosticsPublisher :
    node.goActive.diagnosticsPublisher.isSome = node.diagnosticsPublisher.isSome := by
  rw [Node.goActive_eq]
  simp [Node.switchPublishers, Node.serve]

lemma goActive_statusTimer : node.goActive.statusTimer =
    if 0 < node.statusRateHz then some ⟨1 / node.statusRateHz⟩ else node.statusTimer := by
  rw [Node.goActive_eq]

lemma goActive_diagnosticsTimer : node.goActive.diagnosticsTimer =
    if node.diagnosticsPublisher.isSome ∧ 0 < node.diagnosticsRateHz then
      some ⟨1 / node.diagnosticsRateHz⟩
    else node.diagnosticsTimer := by
  rw [Node.goActive_eq]

/-- An activation that succeeds makes the timers right exactly when none was left over. -/
lemma goActive_follows (hread : ReadFrom p node) :
    Follows p node.goActive ↔ PublishersFollow p node ∧ NoExtraTimer p node := by
  have hpublishers : PublishersFollow p node.goActive ↔ PublishersFollow p node :=
    ⟨fun h => ⟨goActive_jointStatePublisher.symm.trans h.1,
      goActive_diagnosticsPublisher.symm.trans h.2⟩,
      fun h => ⟨goActive_jointStatePublisher.trans h.1, goActive_diagnosticsPublisher.trans h.2⟩⟩
  have hstatus : (node.goActive.statusTimer.isSome = true ↔ 0 < p.statusRateHz) ↔
      (node.statusTimer.isSome = true → 0 < p.statusRateHz) := by
    rw [goActive_statusTimer, hread.statusRateHz]
    by_cases hrate : 0 < p.statusRateHz
    · simp [hrate]
    · simp [hrate]
  have hdiagnostics (hpublisher : node.diagnosticsPublisher.isSome = p.publishDiagnostics) :
      (node.goActive.diagnosticsTimer.isSome = true ↔
        p.publishDiagnostics = true ∧ 0 < p.diagnosticsRateHz) ↔
      (node.diagnosticsTimer.isSome = true →
        p.publishDiagnostics = true ∧ 0 < p.diagnosticsRateHz) := by
    rw [goActive_diagnosticsTimer, hread.diagnosticsRateHz, hpublisher]
    by_cases hasked : p.publishDiagnostics = true ∧ 0 < p.diagnosticsRateHz
    · simp [hasked]
    · simp [hasked]
  constructor
  · intro h
    have hfollow := hpublishers.mp h.toPublishersFollow
    exact ⟨hfollow, hstatus.mp h.statusTimer,
      (hdiagnostics hfollow.diagnostics).mp h.diagnosticsTimer⟩
  · rintro ⟨hfollow, htimers⟩
    exact ⟨hpublishers.mpr hfollow, hstatus.mpr htimers.statusTimer,
      (hdiagnostics hfollow.diagnostics).mpr htimers.diagnosticsTimer⟩

/-! ### Runs -/

/-- The node is ready to be activated as the parameters ask. -/
structure Prepared (p : Parameters) (node : Node) : Prop
    extends PublishersFollow p node, ReadFrom p node, NoExtraTimer p node

/-- A configured node goes by the parameters of the latest successful configuration. -/
structure FollowsLatest (last : Option Parameters) (node : Node) : Prop where
  inactive : node.currentState = .inactive → ∃ p, last = some p ∧ Prepared p node
  active : node.currentState = .active → ∃ p, last = some p ∧ Prepared p node ∧ Follows p node

lemma prepared_lifecycleMembers : Prepared p node.lifecycleMembers ↔ Prepared p node :=
  ⟨fun h => ⟨⟨h.jointState, h.diagnostics⟩, ⟨h.statusRateHz, h.diagnosticsRateHz⟩,
      ⟨h.statusTimer, h.diagnosticsTimer⟩⟩,
    fun h => ⟨⟨h.jointState, h.diagnostics⟩, ⟨h.statusRateHz, h.diagnosticsRateHz⟩,
      ⟨h.statusTimer, h.diagnosticsTimer⟩⟩⟩

lemma follows_lifecycleMembers : Follows p node.lifecycleMembers ↔ Follows p node :=
  ⟨fun h => ⟨⟨h.jointState, h.diagnostics⟩, h.statusTimer, h.diagnosticsTimer⟩,
    fun h => ⟨⟨h.jointState, h.diagnostics⟩, h.statusTimer, h.diagnosticsTimer⟩⟩

lemma followsLatest_lifecycleMembers {last : Option Parameters} (node : Node) :
    FollowsLatest last node.lifecycleMembers ↔ FollowsLatest last node := by
  constructor
  · intro h
    constructor
    · intro hinactive
      obtain ⟨p, hlast, hprepared⟩ := h.inactive hinactive
      exact ⟨p, hlast, prepared_lifecycleMembers.mp hprepared⟩
    · intro hactive
      obtain ⟨p, hlast, hprepared, hfollows⟩ := h.active hactive
      exact ⟨p, hlast, prepared_lifecycleMembers.mp hprepared,
        follows_lifecycleMembers.mp hfollows⟩
  · intro h
    constructor
    · intro hinactive
      obtain ⟨p, hlast, hprepared⟩ := h.inactive hinactive
      exact ⟨p, hlast, prepared_lifecycleMembers.mpr hprepared⟩
    · intro hactive
      obtain ⟨p, hlast, hprepared, hfollows⟩ := h.active hactive
      exact ⟨p, hlast, prepared_lifecycleMembers.mpr hprepared,
        follows_lifecycleMembers.mpr hfollows⟩

/-- In a state that is no configured one there is nothing to follow. -/
lemma FollowsLatest.of_unconfigured {last : Option Parameters}
    (hinactive : node.currentState ≠ .inactive) (hactive : node.currentState ≠ .active) :
    FollowsLatest last node :=
  ⟨fun h => absurd h hinactive, fun h => absurd h hactive⟩

/-- An activation keeps a node prepared, and makes it follow the parameters. -/
lemma Prepared.goActive (h : Prepared p node) :
    Prepared p node.goActive ∧ Follows p node.goActive := by
  have hfollows : Follows p node.goActive :=
    (goActive_follows h.toReadFrom).mpr ⟨h.toPublishersFollow, h.toNoExtraTimer⟩
  have hrates : node.goActive.statusRateHz = node.statusRateHz ∧
      node.goActive.diagnosticsRateHz = node.diagnosticsRateHz := by
    rw [Node.goActive_eq]
    exact ⟨rfl, rfl⟩
  refine ⟨⟨hfollows.toPublishersFollow, ⟨?_, ?_⟩, ?_, ?_⟩, hfollows⟩
  · exact hrates.1.trans h.statusRateHz
  · exact hrates.2.trans h.diagnosticsRateHz
  · exact hfollows.statusTimer.mp
  · exact hfollows.diagnosticsTimer.mp

lemma Prepared.goInactive (h : Prepared p node) : Prepared p node.goInactive := by
  refine ⟨⟨?_, ?_⟩, ⟨h.statusRateHz, h.diagnosticsRateHz⟩, nofun, nofun⟩
  · rw [← h.jointState]
    simp [Node.goInactive, Node.switchPublishers, Function.comp_def]
  · rw [← h.diagnostics]
    simp [Node.goInactive, Node.switchPublishers]

lemma Prepared.enter (h : Prepared p node) (state : PrimaryState) :
    Prepared p (node.enter state) :=
  ⟨⟨h.jointState, h.diagnostics⟩, ⟨h.statusRateHz, h.diagnosticsRateHz⟩,
    ⟨h.statusTimer, h.diagnosticsTimer⟩⟩

lemma Follows.enter (h : Follows p node) (state : PrimaryState) : Follows p (node.enter state) :=
  ⟨⟨h.jointState, h.diagnostics⟩, h.statusTimer, h.diagnosticsTimer⟩

/-- A transition that is no successful configuration keeps the node at the same parameters. -/
lemma followsLatest_change {t : Transition} {last : Option Parameters}
    {r : Except Abort Unit} {g' : World σ} (h : FollowsLatest last g.shared)
    (hstep : TransitionStep env g t r g')
    (hother : ¬ (t = .configure ∧ g.shared.currentState = .unconfigured ∧
      g'.shared.currentState = .inactive)) : FollowsLatest last g'.shared := by
  rcases hstep.settled with hout | hsettled
  · apply FollowsLatest.of_unconfigured
    · intro hinactive
      exact hout (by rw [hinactive]; trivial)
    · intro hactive
      exact hout (by rw [hactive]; trivial)
  cases hsettled with
  | unavailable => exact h
  | configured hstate hshared =>
    exact absurd ⟨rfl, hstate, congrArg Node.currentState hshared⟩ hother
  | headless hstate hshared =>
    obtain ⟨p, hlast, hprepared⟩ := h.inactive hstate
    obtain ⟨hprepared', hfollows⟩ := hprepared.goActive
    rw [hshared]
    exact ⟨fun _ => ⟨p, hlast, hprepared'⟩, fun _ => ⟨p, hlast, hprepared', hfollows⟩⟩
  | activated hstate hshared =>
    obtain ⟨p, hlast, hprepared⟩ := h.inactive hstate
    obtain ⟨hprepared', hfollows⟩ := hprepared.goActive
    rw [hshared]
    exact ⟨nofun, fun _ => ⟨p, hlast, hprepared'.enter _, hfollows.enter _⟩⟩
  | deactivated hstate hshared =>
    obtain ⟨p, hlast, hprepared, -⟩ := h.active hstate
    rw [hshared]
    exact ⟨fun _ => ⟨p, hlast, hprepared.goInactive.enter _⟩, nofun⟩

/-- A configuration that succeeds on a node without leftovers prepares it. -/
lemma NoLeftover.configure (h : NoLeftover node) :
    Prepared node.parameters (node.configure home axes x) := by
  obtain ⟨hpublishers, htimers⟩ := configure_follows.mpr h
  exact ⟨hpublishers, configure_readFrom, htimers⟩

/-- An activation right after a configuration makes the node follow the parameters exactly
when nothing was left over. -/
lemma follows_iff_noLeftover : Follows node.parameters
    (((node.configure home axes x).enter .inactive).goActive.enter .active) ↔ NoLeftover node := by
  have hread : ReadFrom node.parameters ((node.configure home axes x).enter .inactive) :=
    ⟨configure_readFrom.statusRateHz, configure_readFrom.diagnosticsRateHz⟩
  rw [← @configure_follows home axes x node]
  constructor
  · intro h
    have hactive :
        Follows node.parameters ((node.configure home axes x).enter .inactive).goActive :=
      ⟨⟨h.jointState, h.diagnostics⟩, h.statusTimer, h.diagnosticsTimer⟩
    obtain ⟨hpublishers, htimers⟩ := (goActive_follows hread).mp hactive
    exact ⟨⟨hpublishers.1, hpublishers.2⟩, htimers.1, htimers.2⟩
  · rintro ⟨hpublishers, htimers⟩
    refine Follows.enter ((goActive_follows hread).mpr ?_) _
    exact ⟨⟨hpublishers.1, hpublishers.2⟩, htimers.1, htimers.2⟩

/-- A successful configuration starts from a node without leftovers. -/
def StartsClean (env : Environment σ) (cb : Callback) (g : World σ) : Prop :=
  Configures env cb g → NoLeftover g.shared

/-- Callbacks that configure nothing go on with the run. -/
lemma ConfiguredRun.others {last : Option Parameters}
    (h : ConfiguredRun env (StartsClean env) last g) (cbs : List Callback)
    (hcbs : ∀ cb ∈ cbs, cb ≠ .changeState .configure) :
    ConfiguredRun env (StartsClean env) last (cbs.foldl (fun g cb => step env cb g) g) := by
  induction cbs generalizing g with
  | nil => exact h
  | cons cb cbs ih =>
    have hother : ¬ Configures env cb g := fun hcb => hcbs cb List.mem_cons_self hcb.1
    exact ih (.other (absurd · hother) h hother) fun cb hcb => hcbs cb (List.mem_cons_of_mem _ hcb)

theorem followsLatest_run {last : Option Parameters}
    (h : ConfiguredRun env (StartsClean env) last g) : FollowsLatest last g.shared := by
  induction h with
  | fresh name p outside =>
    apply FollowsLatest.of_unconfigured <;> intro hstate <;> cases hstate
  | @configured cb last g hcb h hconfigures ih =>
    obtain ⟨rfl, hbefore, hafter⟩ := id hconfigures
    have hstep : (changeState .configure).wp env (TransitionStep env g .configure) g :=
      change_step .configure
    obtain ⟨home, axes, x, hshared⟩ := TransitionStep.configures hstep hbefore hafter
    have hprepared :
        Prepared g.shared.parameters (step env (.changeState .configure) g).shared := by
      rw [step, Callback.code, hshared]
      exact (hcb hconfigures).configure.enter _
    refine ⟨fun _ => ⟨_, rfl, hprepared⟩, fun hactive => ?_⟩
    cases hafter.symm.trans hactive
  | @other cb last g hcb h hother ih =>
    refine step_keeps followsLatest_lifecycleMembers ?_ ih
    rintro t rfl
    apply followsLatest_change ih (change_step t)
    rintro ⟨rfl, hbefore, hafter⟩
    exact hother ⟨rfl, hbefore, hafter⟩

/-- In every run whose successful configurations start from a node without leftovers, an
active node has the publishers and timers the parameters asked for when the latest
successful configuration read them. Conversely, after a configuration and an activation that
both succeed this holds only if nothing was left over. -/
theorem configuration_followed :
    (∀ (last : Option Parameters) (g : World σ), ConfiguredRun env (StartsClean env) last g →
      g.shared.currentState = .active → ∃ p, last = some p ∧ Follows p g.shared) ∧
    (∀ g : World σ, Configures env (.changeState .configure) g →
      (step env (.changeState .activate)
        (step env (.changeState .configure) g)).shared.currentState = .active →
      (Follows g.shared.parameters (step env (.changeState .activate)
        (step env (.changeState .configure) g)).shared ↔ NoLeftover g.shared)) := by
  constructor
  · intro last g hrun hactive
    obtain ⟨p, hlast, -, hfollows⟩ := (followsLatest_run hrun).active hactive
    exact ⟨p, hlast, hfollows⟩
  · rintro g ⟨-, hbefore, hafter⟩ hactive
    have hfirst : (changeState .configure).wp env (TransitionStep env g .configure) g :=
      change_step .configure
    have hsecond : (changeState .activate).wp env (TransitionStep env
        (step env (.changeState .configure) g) .activate) (step env (.changeState .configure) g) :=
      change_step .activate
    obtain ⟨home, axes, x, hconfigured⟩ := TransitionStep.configures hfirst hbefore hafter
    obtain ⟨hactivated, -⟩ := TransitionStep.activates hsecond
      (fun h => nomatch hafter.symm.trans h) hactive
    change ((changeState .configure).run env g).2.shared = _ at hconfigured
    have hend : (step env (.changeState .activate) (step env (.changeState .configure) g)).shared =
        ((g.shared.configure home axes x).enter .inactive).goActive.enter .active := by
      rw [← hconfigured]
      exact hactivated
    rw [hend]
    exact follows_iff_noLeftover

/-- No joint states, no diagnostics, and no status timer. -/
def quietParameters : Parameters := { statusRateHz := 0, publishDiagnostics := false }

/-- A node that was configured with joint states, cleaned up and configured anew without, and
whose parameters are set once more while it is active. -/
def followingBench : World Bench :=
  benchRun { publishJointStates := true } [{}, {}]
    [.changeState .configure, .changeState .activate, .changeState .deactivate,
      .changeState .cleanup, .setParameters quietParameters, .changeState .configure,
      .changeState .activate, .setParameters {}]

theorem configuration_followed_bench :
    ∃ p, some quietParameters = some p ∧ Follows p followingBench.shared := by
  have hfirst : ConfiguredRun bench (StartsClean bench) (some { publishJointStates := true })
      (benchRun { publishJointStates := true } [{}, {}] [.changeState .configure]) := by
    refine .configured (fun _ => ?_) (.fresh _ _ _) ⟨rfl, rfl, rfl⟩
    exact ⟨⟨nofun, nofun⟩, nofun, nofun⟩
  have hcleaned := hfirst.others [.changeState .activate, .changeState .deactivate,
    .changeState .cleanup, .setParameters quietParameters] (by simp)
  have hsecond := hcleaned.configured (fun _ => ⟨⟨nofun, nofun⟩, nofun, nofun⟩) ⟨rfl, rfl, rfl⟩
  have hactive := hsecond.others [.changeState .activate, .setParameters {}] (by simp)
  exact configuration_followed.1 _ _ hactive rfl

/-- A node whose first activation was refused, and which was then configured without joint
states and activated. -/
def reconfiguredBench : World Bench :=
  benchRun { publishJointStates := true } [{ enable := .error "a fault is latched" }, {}]
    [.changeState .configure, .changeState .activate, .setParameters {},
      .changeState .configure, .changeState .activate]

/-- The joint-state publisher of the first attempt is still there. -/
theorem joint_states_left_over :
    ConfiguredRun bench (fun _ _ => True) (some {}) reconfiguredBench ∧
      reconfiguredBench.shared.currentState = .active ∧ ¬ Follows {} reconfiguredBench.shared := by
  have hactivate (g : World Bench) : ¬ Configures bench (.changeState .activate) g :=
    fun h => nomatch h.1
  have hset (p : Parameters) (g : World Bench) : ¬ Configures bench (.setParameters p) g :=
    fun h => nomatch h.1
  refine ⟨?_, rfl, fun h => ?_⟩
  · refine .other trivial (.configured trivial (.other trivial (.other trivial
      (.configured trivial (.fresh _ _ _) ?_) (hactivate _)) (hset _ _)) ?_) (hactivate _)
    · exact ⟨rfl, rfl, rfl⟩
    · exact ⟨rfl, rfl, rfl⟩
  · have hjoint : reconfiguredBench.shared.jointStatePublisher.map Publisher.topic =
        some "/joint_states" := rfl
    cases hjoint.symm.trans h.jointState

end LitearmDriver
