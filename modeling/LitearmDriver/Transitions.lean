import LitearmDriver.Footprint
import LitearmDriver.Reporting

/-!
# How a transition ends

For each transition callback the exits it has, with the members it leaves and the commands
it sent. Every invariant of the lifecycle is read off these exits.
-/

namespace LitearmDriver

open Interaction Program

variable {σ α : Type} {env : Environment σ} {g : World σ}

/-! ### Creating entities -/

/-- The members other than the entities the node holds. -/
def Node.withoutEntities (node : Node) : Node :=
  { node with
    services := [], statusPublisher := none, jointStatePublisher := none
    diagnosticsPublisher := none, statusTimer := none, diagnosticsTimer := none }

/-- The creation of an entity failed between two moments. -/
def CreationFailed (env : Environment σ) (g g' : World σ) : Prop :=
  ∃ new e what w, g'.history = new ++ g.history ∧ ⟨.create e, .error what⟩ ∈ new ∧
    (env (.create e) w).1 = .error what

/-- The middleware creates what it is asked for. -/
def Creates (env : Environment σ) : Prop := ∀ e w, (env (.create e) w).1 = .ok ()

lemma Creates.not_failed (h : Creates env) {g' : World σ} : ¬ CreationFailed env g g' := by
  rintro ⟨new, e, what, w, -, -, hfailed⟩
  rw [h e w] at hfailed
  cases hfailed

/-- How code that creates entities ends: it did `f`, or a creation failed on the way. -/
structure Built (env : Environment σ) (f : Node → Node) (g : World σ) (r : Except Abort Unit)
    (g' : World σ) : Prop where
  log : ∃ new, g'.history = new ++ g.history
  sent : sent g' = sent g
  outcome : r = .ok () ∧ g'.shared = f g.shared ∨
    (∃ what, r = .error (.exception what)) ∧
      g'.shared.withoutEntities = g.shared.withoutEntities ∧ CreationFailed env g g'

/-- `p` creates entities, and its effect on the members is `f`. -/
def Builds (env : Environment σ) (f : Node → Node) (p : Code Unit) : Prop :=
  ∀ g, p.wp env (Built env f g) g

/-- Only entities are touched. -/
def TouchesEntities (f : Node → Node) : Prop :=
  ∀ node, (f node).withoutEntities = node.withoutEntities

lemma CreationFailed.of_append {g₁ g₂ g₃ : World σ} (h : CreationFailed env g₁ g₂)
    (h' : ∃ new, g₃.history = new ++ g₂.history) : CreationFailed env g₁ g₃ := by
  obtain ⟨new, e, what, w, hnew, hmem, henv⟩ := h
  obtain ⟨new', hnew'⟩ := h'
  exact ⟨new' ++ new, e, what, w, by rw [hnew', hnew, List.append_assoc],
    List.mem_append_right _ hmem, henv⟩

lemma CreationFailed.of_prefix {g₁ g₂ g₃ : World σ} (h' : ∃ new, g₂.history = new ++ g₁.history)
    (h : CreationFailed env g₂ g₃) : CreationFailed env g₁ g₃ := by
  obtain ⟨new, e, what, w, hnew, hmem, henv⟩ := h
  obtain ⟨new', hnew'⟩ := h'
  exact ⟨new ++ new', e, what, w, by rw [hnew, hnew', List.append_assoc],
    List.mem_append_left _ hmem, henv⟩

lemma builds_assign (f : Node → Node) : Builds env f (assign f) :=
  fun _ => ⟨⟨[], rfl⟩, rfl, .inl ⟨rfl, rfl⟩⟩

lemma builds_create (e : Entity) : Builds env id (create e) := by
  intro g
  rw [create, wp_bind, wp_ask]
  dsimp only
  cases hcreated : g.answer env (.create e) with
  | ok _ => exact ⟨⟨[_], rfl⟩, rfl, .inl ⟨rfl, rfl⟩⟩
  | error what =>
    refine ⟨⟨[_], rfl⟩, rfl, .inr ⟨⟨what, rfl⟩, rfl, ?_⟩⟩
    exact ⟨[_], e, what, g.outside, rfl, by simp [hcreated], hcreated⟩

lemma Builds.bind {f f' : Node → Node} {p q : Code Unit} (hp : Builds env f p)
    (hf : TouchesEntities f) (hq : Builds env f' q) :
    Builds env (f' ∘ f) (p >>= fun _ => q) := by
  intro g
  rw [wp_bind]
  refine wp_mono (hp g) ?_
  rintro r g₁ ⟨⟨new, hnew⟩, hsent, ⟨rfl, hshared⟩ | ⟨⟨what, rfl⟩, hframe, hfailed⟩⟩
  · refine wp_mono (hq g₁) ?_
    rintro r g₂ ⟨⟨new', hnew'⟩, hsent', houtcome⟩
    refine ⟨⟨new' ++ new, by rw [hnew', hnew, List.append_assoc]⟩, hsent'.trans hsent, ?_⟩
    rcases houtcome with ⟨rfl, hshared'⟩ | ⟨hr, hframe', hfailed'⟩
    · exact .inl ⟨rfl, hshared'.trans (by rw [hshared, Function.comp_apply])⟩
    · refine .inr ⟨hr, hframe'.trans ?_, hfailed'.of_prefix ⟨new, hnew⟩⟩
      rw [hshared, hf]
  · exact ⟨⟨new, hnew⟩, hsent, .inr ⟨⟨what, rfl⟩, hframe, hfailed⟩⟩

/-- Code that first looks at the members. -/
lemma builds_self {f : Node → Node} {p : Node → Code Unit}
    (h : ∀ g : World σ, (p g.shared).wp env (Built env f g) g) :
    Builds env f (self >>= p) := h

/-- The servers of `services`, after those the node already holds. -/
def Node.serve (node : Node) (services : List Service) : Node :=
  { node with services := node.services ++ services.map Service.name }

lemma builds_createServers (services : List Service) :
    Builds env (Node.serve · services) (createServers services) := by
  induction services with
  | nil =>
    intro g
    refine ⟨⟨[], rfl⟩, rfl, .inl ⟨rfl, ?_⟩⟩
    simp [Node.serve, createServers]
  | cons s services ih =>
    have hserve : (Node.serve · (s :: services)) =
        ((Node.serve · services) ∘ fun node => { node with services := node.services ++ [s.name] })
          ∘ id := by
      funext node
      simp [Node.serve]
    rw [hserve]
    refine (builds_create _).bind (fun _ => rfl) ?_
    exact (builds_assign _).bind (fun _ => rfl) ih

/-- Code that creates one entity if the members ask for it. -/
lemma builds_optional (c : Node → Prop) [DecidablePred c] (e : Node → Entity)
    (f : Node → Node → Node) :
    Builds env (fun node => if c node then f node node else node) (do
      let node ← self
      if c node then
        create (e node)
        assign (f node)
      else return ()) := by
  refine builds_self fun g => ?_
  by_cases h : c g.shared
  · rw [if_pos h]
    refine wp_mono ((builds_create _).bind (fun _ => rfl) (builds_assign _) g) ?_
    rintro r g' ⟨hlog, hsent, ⟨hr, hshared⟩ | hfailed⟩
    · exact ⟨hlog, hsent, .inl ⟨hr, hshared.trans (if_pos h).symm⟩⟩
    · exact ⟨hlog, hsent, .inr hfailed⟩
  · rw [if_neg h]
    exact ⟨⟨[], rfl⟩, rfl, .inl ⟨rfl, (if_neg h).symm⟩⟩

def Node.addStatusPublisher (node : Node) : Node :=
  { node with statusPublisher := some ⟨"status", false⟩ }

def Node.addJointStatePublisher (node : Node) : Node :=
  if node.publishJointStates then
    { node with jointStatePublisher := some ⟨node.jointStatesTopic, false⟩ }
  else node

def Node.addDiagnosticsPublisher (node : Node) : Node :=
  if node.publishDiagnostics then
    { node with diagnosticsPublisher := some ⟨"/diagnostics", false⟩ }
  else node

/-- The publishers a configuration creates. One that is not asked for stays as it is. -/
def Node.addPublishers (node : Node) : Node :=
  node.addStatusPublisher.addJointStatePublisher.addDiagnosticsPublisher

/-- The publishers that are asked for, in one update. -/
lemma Node.addPublishers_eq (node : Node) : node.addPublishers =
    { node with
      statusPublisher := some ⟨"status", false⟩
      jointStatePublisher :=
        if node.publishJointStates then some ⟨node.jointStatesTopic, false⟩
        else node.jointStatePublisher
      diagnosticsPublisher :=
        if node.publishDiagnostics then some ⟨"/diagnostics", false⟩
        else node.diagnosticsPublisher } := by
  by_cases hjoint : node.publishJointStates = true <;>
    by_cases hdiagnostics : node.publishDiagnostics = true <;>
    simp [Node.addPublishers, Node.addDiagnosticsPublisher, Node.addJointStatePublisher,
      Node.addStatusPublisher, hjoint, hdiagnostics]

lemma touchesEntities_addJointStatePublisher :
    TouchesEntities Node.addJointStatePublisher := by
  intro node
  rw [Node.addJointStatePublisher]
  split <;> rfl

lemma touchesEntities_addPublishers : TouchesEntities Node.addPublishers := by
  intro node
  rw [Node.addPublishers_eq]
  rfl

lemma Node.addPublishers_arm (node : Node) : node.addPublishers.arm = node.arm := by
  have h := congrArg Node.arm (touchesEntities_addPublishers node)
  exact h

lemma Node.addPublishers_jointCount (node : Node) :
    node.addPublishers.jointCount = node.jointCount := by
  have h := congrArg Node.jointCount (touchesEntities_addPublishers node)
  exact h

lemma builds_createPublishers : Builds env Node.addPublishers createPublishers := by
  have hstatus : Builds env Node.addStatusPublisher createStatusPublisher :=
    (builds_create _).bind (fun _ => rfl) (builds_assign _)
  have hjoint : Builds env Node.addJointStatePublisher createJointStatePublisher :=
    builds_optional (fun node => node.publishJointStates = true) _ _
  have hdiagnostics : Builds env Node.addDiagnosticsPublisher createDiagnosticsPublisher :=
    builds_optional (fun node => node.publishDiagnostics = true) _ _
  exact hstatus.bind (fun _ => rfl) <|
    hjoint.bind touchesEntities_addJointStatePublisher hdiagnostics

def Node.addStatusTimer (node : Node) : Node :=
  if 0 < node.statusRateHz then { node with statusTimer := some ⟨1 / node.statusRateHz⟩ }
  else node

def Node.addDiagnosticsTimer (node : Node) : Node :=
  if node.diagnosticsPublisher.isSome ∧ 0 < node.diagnosticsRateHz then
    { node with diagnosticsTimer := some ⟨1 / node.diagnosticsRateHz⟩ }
  else node

lemma builds_startTimers :
    Builds env (fun node => node.addStatusTimer.addDiagnosticsTimer) startTimers := by
  have hstatus : Builds env Node.addStatusTimer startStatusTimer :=
    builds_optional (fun node => 0 < node.statusRateHz) _ _
  have hdiagnostics : Builds env Node.addDiagnosticsTimer startDiagnosticsTimer :=
    builds_optional
      (fun node => node.diagnosticsPublisher.isSome = true ∧ 0 < node.diagnosticsRateHz) _ _
  refine hstatus.bind (fun node => ?_) hdiagnostics
  rw [Node.addStatusTimer]
  split <;> rfl

/-- What an activation sets up: the servers, the publishers switched on, the timers. -/
def Node.goActive (node : Node) : Node :=
  ((node.serve Service.all).switchPublishers true).addStatusTimer.addDiagnosticsTimer

/-- The servers, the publishers switched on and the timers, in one update. -/
lemma Node.goActive_eq (node : Node) : node.goActive =
    { (node.serve Service.all).switchPublishers true with
      statusTimer :=
        if 0 < node.statusRateHz then some ⟨1 / node.statusRateHz⟩ else node.statusTimer
      diagnosticsTimer :=
        if node.diagnosticsPublisher.isSome ∧ 0 < node.diagnosticsRateHz then
          some ⟨1 / node.diagnosticsRateHz⟩
        else node.diagnosticsTimer } := by
  by_cases hstatus : 0 < node.statusRateHz <;>
    by_cases hdiagnostics : node.diagnosticsPublisher.isSome ∧ 0 < node.diagnosticsRateHz <;>
    simp [Node.goActive, Node.addStatusTimer, Node.addDiagnosticsTimer, Node.serve,
      Node.switchPublishers, hstatus, hdiagnostics]

lemma builds_goActive :
    Builds env Node.goActive (do
      createServiceServers
      activatePublishers
      startTimers) := by
  have hservers : Builds env (Node.serve · Service.all) createServiceServers :=
    builds_createServers _
  have hactivate : Builds env (Node.switchPublishers true) activatePublishers :=
    builds_assign _
  exact hservers.bind (fun _ => rfl) (hactivate.bind (fun _ => rfl) builds_startTimers)

/-! ### Activation -/

/-- The ENABLE an activation sends. -/
abbrev Node.enabling (node : Node) : Command := .enable node.enableAttempts.toInt

/-- How `on_activate` ends. -/
inductive ActivateExit (env : Environment σ) (g : World σ) :
    Except Abort CallbackReturn → World σ → Prop where
  | unconfigured (harm : g.shared.arm = none) : ActivateExit env g (.ok .error) g
  | refused {what : String} (harm : g.shared.arm.isSome = true)
      (hauto : g.shared.autoEnable = true)
      (henable : g.answer env (.command g.shared.enabling) = .error what) :
    ActivateExit env g (.ok .error) (g.after env (.command g.shared.enabling))
  | broken {what : String} {g' : World σ}
      (hframe : g'.shared.withoutEntities = g.shared.withoutEntities)
      (hfailed : CreationFailed env g g') :
    ActivateExit env g (.error (.exception what)) g'
  | headless {g' : World σ} (hstatus : g.shared.statusPublisher = none)
      (hshared : g'.shared = g.shared.goActive) :
    ActivateExit env g (.error .undefined) g'
  | active {g' : World σ} (harm : g.shared.arm.isSome = true)
      (hstatus : g.shared.statusPublisher ≠ none) (hshared : g'.shared = g.shared.goActive)
      (hsent : sent g' =
        (if g.shared.autoEnable then [⟨g.shared.enabling, .ok ()⟩] else []) ++ sent g) :
    ActivateExit env g (.ok .success) g'

lemma Node.goActive_statusPublisher_eq_none (node : Node) :
    node.goActive.statusPublisher = none ↔ node.statusPublisher = none := by
  rw [Node.goActive_eq]
  simp [Node.switchPublishers, Node.serve]

lemma touchesEntities_goActive : TouchesEntities Node.goActive := by
  intro node
  rw [Node.goActive_eq]
  rfl

lemma Node.goActive_currentState (node : Node) :
    node.goActive.currentState = node.currentState := by
  have h := congrArg Node.currentState (touchesEntities_goActive node)
  exact h

lemma Node.goActive_jointCount (node : Node) : node.goActive.jointCount = node.jointCount := by
  have h := congrArg Node.jointCount (touchesEntities_goActive node)
  exact h

/-- What an activation does once the motors are as it wants them. -/
lemma setUp_exit (harm : g.shared.arm.isSome = true) {before : List Sent} {g₀ : World σ}
    (hshared : g₀.shared = g.shared) (hlog : ∃ new, g₀.history = new ++ g.history)
    (hsent : sent g₀ = before ++ sent g)
    (hbefore : before = if g.shared.autoEnable then [⟨g.shared.enabling, .ok ()⟩] else []) :
    (do
      createServiceServers
      activatePublishers
      startTimers
      let node ← self
      if node.statusPublisher.isNone then .throw .undefined else return CallbackReturn.success
      : Code CallbackReturn).wp env (ActivateExit env g) g₀ := by
  have hassoc : ∀ tail : Code CallbackReturn, (createServiceServers >>= fun _ =>
      activatePublishers >>= fun _ => startTimers >>= fun _ => tail) =
      (createServiceServers >>= fun _ => activatePublishers >>= fun _ => startTimers) >>=
        fun _ => tail := by
    intro tail
    rw [bind_assoc']
    simp only [bind_assoc']
  rw [hassoc, wp_bind]
  refine wp_mono (builds_goActive g₀) ?_
  rintro r g₁ ⟨⟨new, hnew⟩, hsent₁, ⟨rfl, hshared₁⟩ | ⟨⟨what, rfl⟩, hframe, hfailed⟩⟩
  · rw [wp_bind, wp_self]
    dsimp only
    have hiff := g.shared.goActive_statusPublisher_eq_none
    rw [hshared] at hshared₁
    by_cases hstatus : g.shared.statusPublisher = none
    · rw [if_pos (by rw [hshared₁, hiff.mpr hstatus]; rfl)]
      exact .headless hstatus hshared₁
    · have hsome : ¬ g₁.shared.statusPublisher.isNone = true := by
        rw [hshared₁, Option.isNone_iff_eq_none, hiff]
        exact hstatus
      rw [if_neg hsome]
      exact .active harm hstatus hshared₁ (hsent₁.trans (by rw [hsent, hbefore]))
  · refine .broken (hframe.trans (by rw [hshared])) (hfailed.of_prefix hlog)

theorem activate_exit : onActivate.wp env (ActivateExit env g) g := by
  rw [onActivate, wp_bind, wp_self]
  dsimp only
  by_cases hnone : g.shared.arm = none
  · rw [if_pos (by simp [hnone])]
    exact .unconfigured hnone
  have harm : g.shared.arm.isSome = true := by simpa [Option.isSome_iff_ne_none] using hnone
  rw [if_neg (by simpa using hnone), wp_bind, enableOnActivation, wp_bind, wp_self]
  dsimp only
  by_cases hauto : g.shared.autoEnable = true
  · rw [if_pos hauto, wp_catching, wp_bind, wp_armCommand harm, wp_command]
    cases henable : g.answer env (.command g.shared.enabling) with
    | error what => exact .refused harm hauto henable
    | ok _ =>
      have hsent := sent_command env g.shared.enabling g
      rw [henable] at hsent
      exact setUp_exit harm rfl ⟨[_], rfl⟩ hsent (if_pos hauto).symm
  · rw [if_neg hauto]
    exact setUp_exit harm rfl ⟨[], rfl⟩ (List.nil_append _).symm (if_neg hauto).symm

/-! ### Deactivation and cleanup -/

/-- What a deactivation leaves. -/
def Node.goInactive (node : Node) : Node :=
  ({ node with statusTimer := none, diagnosticsTimer := none, services := [] } : Node)
    |>.switchPublishers false

/-- What a cleanup leaves. -/
def Node.goUnconfigured (node : Node) : Node :=
  ({ node with
    statusTimer := none, diagnosticsTimer := none, services := [], statusPublisher := none
    jointStatePublisher := none, diagnosticsPublisher := none, arm := none } : Node).endSession

/-- Zero gravity is left when the SDK reports it, whatever it answers to that. -/
lemma wp_leaveZeroG {Q : Except Abort Unit → World σ → Prop}
    (hclosed : g.shared.arm = none → Q (.ok ()) g)
    (hidle : g.answer env (.query .zeroGActive) = false →
      Q (.ok ()) (g.after env (.query .zeroGActive)))
    (hleft : Q (.ok ())
      ((g.after env (.query .zeroGActive)).after env (.command (.zeroGStop true)))) :
    leaveZeroG.wp env Q g := by
  rw [leaveZeroG, wp_bind, queryOr, wp_bind, wp_self]
  dsimp only
  by_cases hnone : g.shared.arm = none
  · rw [if_pos (by simp [hnone])]
    exact hclosed hnone
  have harm : (g.after env (.query .zeroGActive)).shared.arm.isSome = true := by
    simpa [Option.isSome_iff_ne_none] using hnone
  rw [if_neg (by simpa using hnone), wp_query]
  cases hactive : g.answer env (.query .zeroGActive) with
  | false => exact hidle hactive
  | true =>
    dsimp only
    rw [if_pos rfl, wp_catching, wp_armCommand harm, wp_command]
    cases (g.after env (.query .zeroGActive)).answer env (.command (.zeroGStop true)) with
    | ok _ => exact hleft
    | error what => exact hleft

/-- A deactivation always succeeds. -/
theorem deactivate_exit :
    onDeactivate.wp env (fun r g' => r = .ok .success ∧ g'.shared = g.shared.goInactive) g := by
  rw [onDeactivate, wp_bind]
  exact wp_leaveZeroG (fun _ => ⟨rfl, rfl⟩) (fun _ => ⟨rfl, rfl⟩) ⟨rfl, rfl⟩

/-- Closing the session always gets rid of the object. -/
lemma wp_closeArm {Q : Except Abort Unit → World σ → Prop}
    (h : ∀ g' : World σ, g'.shared = { g.shared with arm := none } → Q (.ok ()) g') :
    closeArm.wp env Q g := by
  rw [closeArm, wp_bind, wp_self]
  dsimp only
  by_cases hnone : g.shared.arm = none
  · rw [if_pos (by simp [hnone])]
    exact h g (by rw [← hnone])
  have harm : g.shared.arm.isSome = true := by simpa [Option.isSome_iff_ne_none] using hnone
  rw [if_neg (by simpa using hnone), wp_bind, wp_catching, wp_armCommand harm, wp_command]
  cases g.answer env (.command .close) with
  | ok _ => exact h _ rfl
  | error what => exact h _ rfl

/-- A cleanup always succeeds. -/
theorem cleanup_exit :
    onCleanup.wp env (fun r g' => r = .ok .success ∧ g'.shared = g.shared.goUnconfigured) g := by
  rw [onCleanup, stopTimers, destroyServiceServers, deactivatePublishers, resetPublishers]
  simp only [wp_bind, ask, wp_call, wp_pure, wp_assign]
  refine wp_closeArm fun g₁ hshared => ?_
  refine ⟨rfl, ?_⟩
  have hend : g₁.shared.endSession = g.shared.goUnconfigured := by
    simp only [hshared, Config.update_shared, Config.after_shared, Node.switchPublishers]
    rfl
  exact hend

/-! ### Configuration -/

/-- The members a configuration starts from. -/
def Node.prepare (home : Option String) (node : Node) : Node :=
  (node.readParameters home).beginSession

/-- The licence record enters the cache if it could be read. -/
def Node.readLicense (x : Except String LicenseInfo) (node : Node) : Node :=
  match x with
  | .ok license => node.holdLicense license
  | .error _    => node

/-- The port a session is opened on; without one the SDK looks for it. -/
abbrev Node.options (node : Node) : ArmOptions :=
  { port := if node.port = "" then none else some node.port }

/-- The members of an open session with `axes` axes. -/
def Node.openSession (node : Node) (axes : Nat) (x : Except String LicenseInfo) : Node :=
  ({ node with
    arm := some ⟨node.options⟩
    jointNames := if node.jointNames.isEmpty then derivedNames axes else node.jointNames } : Node)
    |>.readLicense x

/-- How `on_configure` ends. Only the last two exits leave a session, and only the last one
succeeds: then there is a name for each axis the firmware reported. -/
inductive ConfigureExit (env : Environment σ) (g : World σ) :
    Except Abort CallbackReturn → World σ → Prop where
  | unbuilt {home : Option String} {what : String} {g' : World σ}
      (hshared : g'.shared = g.shared.prepare home) (hsent : sent g' = sent g) :
    ConfigureExit env g (.error (.exception what)) g'
  | absent {home : Option String} {g' : World σ}
      (hshared : g'.shared = { g.shared.prepare home with arm := none })
      (hsent : sent g' = sent g) :
    ConfigureExit env g (.ok .error) g'
  | unreachable {home : Option String} {what : String} {g' : World σ}
      (hshared : g'.shared = { g.shared.prepare home with arm := none })
      (hsent : sent g' = ⟨.connect, .error what⟩ :: sent g) :
    ConfigureExit env g (.ok .error) g'
  | mismatched {home : Option String} {g' : World σ}
      (hshared : g'.shared = { g.shared.prepare home with arm := none })
      (hsent : sent g' = ⟨.connect, .ok ()⟩ :: sent g) :
    ConfigureExit env g (.ok .error) g'
  | broken {home : Option String} {axes : Nat} {x : Except String LicenseInfo} {what : String}
      {g' : World σ}
      (hframe : g'.shared.withoutEntities =
        ((g.shared.prepare home).openSession axes x).withoutEntities)
      (hsent : sent g' = ⟨.license, x⟩ :: ⟨.connect, .ok ()⟩ :: sent g)
      (hfailed : CreationFailed env g g') :
    ConfigureExit env g (.error (.exception what)) g'
  | configured {home : Option String} {axes : Nat} {x : Except String LicenseInfo} {w : σ}
      {g' : World σ}
      (hshared : g'.shared = ((g.shared.prepare home).openSession axes x).addPublishers)
      (hsent : sent g' = ⟨.license, x⟩ :: ⟨.connect, .ok ()⟩ :: sent g)
      (haxes : (env (.query .n) w).1 = axes) (hnames : g'.shared.jointCount = axes)
      (hsteady : Evolves env (Call.OfTransition (· = .license)) w g'.outside) :
    ConfigureExit env g (.ok .success) g'

/-- The history grew, and `cs` are the commands it gained, most recent first. -/
structure Grew (cs : List Sent) (g g' : World σ) : Prop where
  log : ∃ new, g'.history = new ++ g.history
  sent : sent g' = cs ++ sent g

lemma Grew.of_history {g g' : World σ} (h : g'.history = g.history) : Grew [] g g' :=
  ⟨⟨[], h⟩, congrArg commandsOf h⟩

lemma Grew.trans {cs cs' : List Sent} {g₁ g₂ g₃ : World σ} (h : Grew cs g₁ g₂)
    (h' : Grew cs' g₂ g₃) : Grew (cs' ++ cs) g₁ g₃ := by
  obtain ⟨⟨new, hnew⟩, hsent⟩ := h
  obtain ⟨⟨new', hnew'⟩, hsent'⟩ := h'
  exact ⟨⟨new' ++ new, by rw [hnew', hnew, List.append_assoc]⟩,
    by rw [hsent', hsent, List.append_assoc]⟩

lemma wp_readParameters {Q : Except Abort Unit → World σ → Prop}
    (h : ∀ home g', g'.shared = g.shared.readParameters home → Grew [] g g' → Q (.ok ()) g') :
    readParameters.wp env Q g := by
  rw [readParameters, wp_bind, wp_self]
  dsimp only
  split
  · exact h _ _ rfl ⟨⟨[_], rfl⟩, rfl⟩
  · exact h _ _ rfl ⟨⟨[], rfl⟩, rfl⟩

/-- The factory may throw, answer nothing, or hand out a session object. -/
lemma wp_replaceArm {options : ArmOptions} {Q : Except Abort Unit → World σ → Prop}
    (hthrown : ∀ what g', g'.shared = g.shared → Grew [] g g' →
      Q (.error (.exception what)) g')
    (hbuilt : ∀ (built : Bool) g',
      g'.shared = { g.shared with arm := if built then some ⟨options⟩ else none } →
      Grew [] g g' → Q (.ok ()) g') :
    (replaceArm options).wp env Q g := by
  rw [replaceArm, wp_bind, wp_ask]
  dsimp only
  rw [wp_bind]
  cases g.answer env (.createArm options) with
  | error what => exact hthrown what _ rfl ⟨⟨[_], rfl⟩, rfl⟩
  | ok built =>
    rw [wp_orThrow_ok]
    dsimp only
    rw [wp_bind, wp_self]
    dsimp only
    split
    · exact hbuilt built _ rfl ⟨⟨[_, _], rfl⟩, rfl⟩
    · exact hbuilt built _ rfl ⟨⟨[_], rfl⟩, rfl⟩

lemma wp_openArm (harm : g.shared.arm.isSome = true) {Q : Except Abort Bool → World σ → Prop}
    (hopened : ∀ g', g'.shared = g.shared → Grew [⟨.connect, .ok ()⟩] g g' → Q (.ok true) g')
    (hfailed : ∀ what g', g'.shared = { g.shared with arm := none } →
      Grew [⟨.connect, .error what⟩] g g' → Q (.ok false) g') :
    openArm.wp env Q g := by
  rw [openArm, wp_catching, wp_bind, wp_armCommand harm, wp_command]
  have hsent := sent_command env .connect g
  cases hconnect : g.answer env (.command .connect) with
  | ok _ =>
    rw [hconnect] at hsent
    exact hopened _ rfl ⟨⟨[_], rfl⟩, hsent⟩
  | error what =>
    rw [hconnect] at hsent
    exact hfailed what _ rfl ⟨⟨[_, _], rfl⟩, hsent⟩

/-- The names of an open session: those given, or one per axis. -/
lemma wp_establishNames {axes : Nat} {Q : Except Abort Bool → World σ → Prop}
    (hnamed : ∀ g', g'.shared = { g.shared with
        jointNames :=
          if g.shared.jointNames.isEmpty then derivedNames axes else g.shared.jointNames } →
      g'.shared.jointNames.length = axes → g'.outside = g.outside → g'.history = g.history →
      Q (.ok true) g')
    (hmismatch : g.shared.jointNames.length ≠ axes → Q (.ok false) g) :
    (establishNames axes).wp env Q g := by
  rw [establishNames, wp_bind, wp_self]
  dsimp only
  split
  case isTrue hempty =>
    refine hnamed (g.update fun node => { node with jointNames := derivedNames axes })
      (by rw [if_pos hempty]; rfl) ?_ rfl rfl
    simp [derivedNames]
  case isFalse hgiven =>
    by_cases hlength : g.shared.jointNames.length = axes
    · simp only [hlength, decide_true]
      exact hnamed g (by rw [if_neg hgiven]) hlength rfl rfl
    · simp only [hlength, decide_false]
      exact hmismatch hlength

/-- The licence record is read and kept when the read returns. -/
lemma wp_refreshLicense (harm : g.shared.arm.isSome = true)
    {Q : Except Abort Unit → World σ → Prop}
    (h : ∀ x g', g'.shared = g.shared.readLicense x → Grew [⟨.license, x⟩] g g' →
      Q (.ok ()) g') :
    (catching refreshLicenseRecord fun _ => return ()).wp env Q g := by
  have hsome : ¬ g.shared.arm.isNone = true := by simpa [Option.isSome_iff_ne_none] using harm
  rw [wp_catching, refreshLicenseRecord, wp_bind, wp_self]
  dsimp only
  rw [if_neg hsome, wp_bind, wp_command]
  have hgrew : Grew [⟨.license, g.answer env (.command .license)⟩] g
      (g.after env (.command .license)) := ⟨⟨[_], rfl⟩, sent_command env .license g⟩
  cases hlicense : g.answer env (.command .license) with
  | ok license =>
    rw [hlicense] at hgrew
    exact h (.ok license) _ rfl ⟨hgrew.log, hgrew.sent⟩
  | error what =>
    rw [hlicense] at hgrew
    exact h (.error what) _ rfl hgrew

/-- What a configuration does once the names are settled: it reads the licence record, and
creates the publishers unless one of them cannot be created. -/
lemma wp_finishConfigure (harm : g.shared.arm.isSome = true)
    {Q : Except Abort CallbackReturn → World σ → Prop}
    (hdone : ∀ x g', g'.shared = (g.shared.readLicense x).addPublishers →
      Grew [⟨.license, x⟩] g g' → Q (.ok .success) g')
    (hbroken : ∀ x what g',
      g'.shared.withoutEntities = (g.shared.readLicense x).withoutEntities →
      sent g' = ⟨.license, x⟩ :: sent g → CreationFailed env g g' →
      Q (.error (.exception what)) g') :
    finishConfigure.wp env Q g := by
  rw [finishConfigure, wp_bind]
  refine wp_refreshLicense harm fun x g₁ hshared₁ hgrew₁ => ?_
  dsimp only
  rw [wp_bind]
  refine wp_mono (builds_createPublishers g₁) ?_
  rintro r g₂ ⟨hlog, hsent, ⟨rfl, hshared₂⟩ | ⟨⟨what, rfl⟩, hframe, hfailed⟩⟩
  · have harm₂ : g₂.shared.arm.isSome = true := by
      rw [hshared₂, Node.addPublishers_arm, hshared₁]
      cases x <;> exact harm
    have hcreated : Grew [] g₁ g₂ := ⟨hlog, hsent⟩
    have hread : Grew [] g₂
        ((g₂.after env (.query .isConnected)).after env (.query .firmware)) := ⟨⟨[_, _], rfl⟩, rfl⟩
    dsimp only
    rw [wp_bind, wp_armQuery harm₂, wp_query]
    dsimp only
    rw [wp_bind, wp_armQuery (by exact harm₂), wp_query]
    exact hdone x _ (hshared₂.trans (by rw [hshared₁])) ((hgrew₁.trans hcreated).trans hread)
  · refine hbroken x what g₂ (hframe.trans (by rw [hshared₁])) ?_ (hfailed.of_prefix hgrew₁.log)
    rw [hsent, hgrew₁.sent]
    rfl

/-- The end of a configuration, once the names are settled on an open session. -/
lemma finish_exit {home : Option String} {axes : Nat} {w : σ} {g₀ : World σ}
    (hshared : g₀.shared = (g.shared.prepare home).openSession axes (.error ""))
    (hgrew : Grew [⟨.connect, .ok ()⟩] g g₀) (haxes : (env (.query .n) w).1 = axes)
    (hnames : g₀.shared.jointCount = axes) :
    finishConfigure.wp env (fun r g' =>
      Evolves env (Call.OfTransition (· = .license)) w g'.outside → ConfigureExit env g r g')
      g₀ := by
  have harm : g₀.shared.arm.isSome = true := by rw [hshared]; rfl
  have hopen (x : Except String LicenseInfo) :
      g₀.shared.readLicense x = (g.shared.prepare home).openSession axes x := by
    rw [hshared]
    rfl
  refine wp_finishConfigure harm ?_ ?_
  · intro x g' hshared' hgrew' hsteady
    refine .configured (hshared'.trans (by rw [hopen])) ?_ haxes ?_ hsteady
    · rw [hgrew'.sent, hgrew.sent]
      rfl
    · rw [hshared', Node.addPublishers_jointCount]
      cases x <;> exact hnames
  · intro x what g' hframe hsent hfailed _
    refine .broken (hframe.trans (by rw [hopen])) ?_ (hfailed.of_prefix hgrew.log)
    rw [hsent, hgrew.sent]
    rfl

/-- What follows once the link is open. -/
lemma opened_exit {home : Option String} {g₀ : World σ}
    (hshared : g₀.shared =
      { g.shared.prepare home with arm := some ⟨(g.shared.prepare home).options⟩ })
    (hgrew : Grew [⟨.connect, .ok ()⟩] g g₀) :
    (do
      let axes ← armQuery .n
      let named ← establishNames axes
      if !named then
        resetArm
        return .error
      finishConfigure : Code CallbackReturn).wp env (ConfigureExit env g) g₀ := by
  have harm : g₀.shared.arm.isSome = true := by rw [hshared]; rfl
  rw [wp_bind, wp_armQuery harm, wp_query]
  dsimp only
  rw [wp_bind]
  have hread : Grew [] g₀ (g₀.after env (.query .n)) := ⟨⟨[_], rfl⟩, rfl⟩
  have hgrew₁ := hgrew.trans hread
  refine wp_establishNames (fun g₂ hshared₂ hlength houtside hhistory => ?_) fun _ => ?_
  · dsimp only
    rw [Bool.not_true, if_neg Bool.false_ne_true]
    have hopen : g₂.shared =
        (g.shared.prepare home).openSession (g₀.answer env (.query .n)) (.error "") := by
      rw [hshared₂, Config.after_shared, hshared]
      rfl
    refine finish_exit hopen (hgrew₁.trans (.of_history hhistory)) (w := g₀.outside) rfl hlength ?_
    refine .head ⟨.query .n, nofun, houtside.symm⟩ ?_
    have hcalls : finishConfigure.Calls (Call.OfTransition (· = .license)) :=
      calls_finishConfigure (fun _ => trivial) rfl nofun nofun
    exact hcalls.evolves env g₂
  · dsimp only
    rw [Bool.not_false, if_pos rfl]
    refine @ConfigureExit.mismatched _ _ _ home _ ?_ hgrew₁.sent
    change ({ g₀.shared with arm := none } : Node) = _
    rw [hshared]

theorem configure_exit : onConfigure.wp env (ConfigureExit env g) g := by
  rw [onConfigure, wp_bind]
  refine wp_readParameters fun home g₁ hshared₁ hgrew₁ => ?_
  dsimp only
  rw [wp_bind, wp_assign]
  dsimp only
  rw [wp_bind, wp_self]
  dsimp only
  have hprepare : (g₁.update .beginSession).shared = g.shared.prepare home := by
    rw [Config.update_shared, hshared₁]
    rfl
  have hgrew : Grew [] g (g₁.update .beginSession) := ⟨hgrew₁.log, hgrew₁.sent⟩
  generalize g₁.update .beginSession = g₂ at hprepare hgrew
  rw [wp_bind]
  refine wp_replaceArm (fun what g₃ hshared₃ hgrew₃ => ?_) (fun built g₃ hshared₃ hgrew₃ => ?_)
  · exact .unbuilt (hshared₃.trans hprepare) (hgrew.trans hgrew₃).sent
  dsimp only
  rw [hprepare] at hshared₃
  rw [wp_bind, wp_self]
  dsimp only
  cases built with
  | false =>
    rw [if_pos (by rw [hshared₃]; rfl)]
    exact .absent hshared₃ (hgrew.trans hgrew₃).sent
  | true =>
    have harm₃ : g₃.shared.arm.isSome = true := by rw [hshared₃]; rfl
    rw [if_neg (by simpa [Option.isSome_iff_ne_none] using harm₃), wp_bind]
    refine wp_openArm harm₃ (fun g₄ hshared₄ hgrew₄ => ?_) (fun what g₄ hshared₄ hgrew₄ => ?_)
    · exact opened_exit (hshared₄.trans hshared₃) ((hgrew.trans hgrew₃).trans hgrew₄)
    · refine @ConfigureExit.unreachable _ _ _ home what _ (hshared₄.trans ?_) ?_
      · rw [hshared₃]
      · exact ((hgrew.trans hgrew₃).trans hgrew₄).sent

/-! ### The state machine -/

/-- The exits of the callback a transition runs. -/
def Transition.Exit (t : Transition) (env : Environment σ) (g : World σ) :
    Except Abort CallbackReturn → World σ → Prop :=
  match t with
  | .configure          => ConfigureExit env g
  | .activate           => ActivateExit env g
  | .deactivate         => fun r g' => r = .ok .success ∧ g'.shared = g.shared.goInactive
  | .cleanup | .shutdown => fun r g' => r = .ok .success ∧ g'.shared = g.shared.goUnconfigured

theorem callback_exit (t : Transition) : t.callback.wp env (t.Exit env g) g := by
  cases t with
  | configure => exact configure_exit
  | activate => exact activate_exit
  | deactivate => exact deactivate_exit
  | cleanup => exact cleanup_exit
  | shutdown => exact cleanup_exit

/-- `ERROR`, or an exception that counts as one. -/
def Fails (r : Except Abort CallbackReturn) : Prop :=
  r = .ok .error ∨ ∃ what, r = .error (.exception what)

def Node.enter (state : PrimaryState) (node : Node) : Node := { node with currentState := state }

/-- How a transition that is available ends, given the exits of its callback. A failed one is
handled by `on_error`, which reads and does nothing more. -/
inductive ChangeExit (exit : Except Abort CallbackReturn → World σ → Prop)
    (goal : PrimaryState) : Except Abort Unit → World σ → Prop where
  | done {g' : World σ} (h : exit (.ok .success) g') :
    ChangeExit exit goal (.ok ()) (g'.update (.enter goal))
  | kept {g' : World σ} (h : exit (.ok .failure) g') : ChangeExit exit goal (.ok ()) g'
  | failed {r : Except Abort CallbackReturn} {g' g'' : World σ} (hr : Fails r) (h : exit r g')
      (hquiet : Quiet g' g'') :
    ChangeExit exit goal (.ok ()) (g''.update (.enter .unconfigured))
  | undefined {g' : World σ} (h : exit (.error .undefined) g') :
    ChangeExit exit goal (.error .undefined) g'

lemma wp_handleError {Q : Except Abort Unit → World σ → Prop}
    (h : ∀ g', Quiet g g' → Q (.ok ()) (g'.update (.enter .unconfigured))) :
    (do
      let handled ← executeCallback onError
      match handled with
      | .success => enterState .unconfigured
      | .failure | .error => enterState .finalized : Code Unit).wp env Q g := by
  rw [wp_bind, executeCallback, wp_catching, onError, wp_bind]
  exact quiet_connected fun link g' hquiet => h g' hquiet

/-- A transition ends as its callback does. -/
theorem change_exit_of {t : Transition} {goal : PrimaryState}
    (hgoal : t.goal g.shared.currentState = some goal)
    {exit : Except Abort CallbackReturn → World σ → Prop} (hcallback : t.callback.wp env exit g) :
    (changeState t).wp env (ChangeExit exit goal) g := by
  rw [changeState, wp_bind, wp_self]
  dsimp only
  rw [hgoal]
  dsimp only
  rw [wp_bind, executeCallback, wp_catching]
  refine wp_mono hcallback fun r g' hexit => ?_
  match r, hexit with
  | .ok .success, hexit => exact .done hexit
  | .ok .failure, hexit => exact .kept hexit
  | .ok .error, hexit => exact wp_handleError fun g'' hquiet => .failed (.inl rfl) hexit hquiet
  | .error (.exception what), hexit =>
    exact wp_handleError fun g'' hquiet => .failed (.inr ⟨what, rfl⟩) hexit hquiet
  | .error .undefined, hexit => exact .undefined hexit

theorem change_exit {t : Transition} {goal : PrimaryState}
    (hgoal : t.goal g.shared.currentState = some goal) :
    (changeState t).wp env (ChangeExit (t.Exit env g) goal) g :=
  change_exit_of hgoal (callback_exit t)

/-- A transition that is not available changes nothing. -/
theorem change_unavailable {t : Transition} (hgoal : t.goal g.shared.currentState = none) :
    (changeState t).run env g = (.ok (), g) := by
  simp only [changeState, run_bind, self, run, hgoal]
  rfl

end LitearmDriver
