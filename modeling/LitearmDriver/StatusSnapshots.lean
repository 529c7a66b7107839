import LitearmDriver.FeedbackAge

/-!
# Status messages as snapshots

Whatever a status message says of the arm is read from one frame, its age included, or is what
a message says without a frame. The entries of the axes follow the names, whatever the length
of the frame.
-/

namespace LitearmDriver

open Interaction Program

variable {σ : Type} {env : Environment σ} {g : World σ}

/-! ### Messages and frames -/

/-- What a status message takes from a frame, apart from the axes and the age. -/
structure FrameFields where
  enabled : Bool := false
  faulted : Bool := false
  cartBusy : Bool := false
  jointFault : UInt16 := 0
  dropHoldInferred : Bool := false
  mode : UInt16 := 0
  modeName : String := ""
  flags : UInt16 := 0

def LitearmStatus.frameFields (m : LitearmStatus) : FrameFields :=
  ⟨m.enabled, m.faulted, m.cartBusy, m.jointFault, m.dropHoldInferred, m.mode, m.modeName, m.flags⟩

def RobotState.frameFields (state : RobotState) : FrameFields :=
  ⟨state.enabled, state.faulted, state.cartBusy, state.jointFault, state.dropHoldInferred,
    toUInt16 state.mode, state.modeName, state.flags⟩

/-- The entries of the message at this index. -/
structure LitearmStatus.AxisIs (m : LitearmStatus) (i : Nat) (mos coil : Double) (err : UInt8) :
    Prop where
  mos : m.temperatureMos[i]? = some mos
  coil : m.temperatureCoil[i]? = some coil
  err : m.jointErrorCode[i]? = some err

/-- There is one entry of every kind for each name: that of the joint, or a filler where the
frame has no joint. -/
structure LitearmStatus.Aligned (m : LitearmStatus) (joints : List JointFeedback) : Prop where
  mos : m.temperatureMos.length = m.jointNames.length
  coil : m.temperatureCoil.length = m.jointNames.length
  err : m.jointErrorCode.length = m.jointNames.length
  covered : ∀ i, i < m.jointNames.length → ∀ joint, joints[i]? = some joint →
    m.AxisIs i joint.tMos joint.tCoil joint.err
  uncovered : ∀ i, i < m.jointNames.length → joints[i]? = none → m.AxisIs i .nan .nan 0

/-- The message is a snapshot of the frame. Its age is a reading of the clock among the events
minus the stamp of the frame. -/
structure LitearmStatus.TakenFrom (m : LitearmStatus) (f : StampedFrame)
    (events : List (Event Call.Answer)) : Prop where
  fields : m.frameFields = f.1.frameFields
  axes : m.Aligned f.1.joints
  age : ∃ now : Double, ⟨.steadyNow, now⟩ ∈ events ∧ m.feedbackAge = now - f.2

/-- The message says what is said without a frame. -/
structure LitearmStatus.Frameless (m : LitearmStatus) : Prop where
  fields : m.frameFields = {}
  axes : m.Aligned []
  age : m.feedbackAge = -1

/-- The message is a snapshot of the frame that is seen, which was handed out in the run, and
frameless only when none is. -/
structure LitearmStatus.Snapshot (m : LitearmStatus) (names : List String)
    (seen : Option StampedFrame) (history new : List (Event Call.Answer)) : Prop where
  names : m.jointNames = names
  shown : ∀ f, seen = some f → Given history f ∧ m.TakenFrom f new
  blank : seen = none → m.Frameless

lemma LitearmStatus.TakenFrom.mono {m : LitearmStatus} {f : StampedFrame}
    {events events' : List (Event Call.Answer)} (h : m.TakenFrom f events)
    (hsub : ∀ e ∈ events, e ∈ events') : m.TakenFrom f events' := by
  obtain ⟨now, hnow, hage⟩ := h.age
  exact ⟨h.fields, h.axes, now, hsub _ hnow, hage⟩

/-! ### The code that builds a message -/

lemma length_perAxis {α : Type} (count : Nat) (joints : List JointFeedback)
    (f : JointFeedback → α) (missing : α) : (perAxis count joints f missing).length = count := by
  rw [perAxis, List.length_map, List.length_range]

lemma perAxis_getElem? {α : Type} {count i : Nat} (hi : i < count) (joints : List JointFeedback)
    (f : JointFeedback → α) (missing : α) :
    (perAxis count joints f missing)[i]? = some ((joints[i]?.map f).getD missing) := by
  rw [perAxis, List.getElem?_map, List.getElem?_range hi]
  rfl

lemma aligned_of_perAxis {m : LitearmStatus} {joints : List JointFeedback}
    (hmos : m.temperatureMos = perAxis m.jointNames.length joints JointFeedback.tMos .nan)
    (hcoil : m.temperatureCoil = perAxis m.jointNames.length joints JointFeedback.tCoil .nan)
    (herr : m.jointErrorCode = perAxis m.jointNames.length joints JointFeedback.err 0) :
    m.Aligned joints := by
  constructor
  · rw [hmos, length_perAxis]
  · rw [hcoil, length_perAxis]
  · rw [herr, length_perAxis]
  · intro i hi joint hjoint
    constructor
    · rw [hmos, perAxis_getElem? hi, hjoint]
      rfl
    · rw [hcoil, perAxis_getElem? hi, hjoint]
      rfl
    · rw [herr, perAxis_getElem? hi, hjoint]
      rfl
  · intro i hi hnone
    constructor
    · rw [hmos, perAxis_getElem? hi, hnone]
      rfl
    · rw [hcoil, perAxis_getElem? hi, hnone]
      rfl
    · rw [herr, perAxis_getElem? hi, hnone]
      rfl

lemma takenFrom_built {base : LitearmStatus} {names : List String} {state : RobotState}
    {stamp : Double} {events : List (Event Call.Answer)} (valid : Bool) (license : LicenseInfo)
    (hage : ∃ now : Double, ⟨.steadyNow, now⟩ ∈ events ∧ base.feedbackAge = now - stamp) :
    ((base.withState names (some state)).withLicense valid license).TakenFrom (state, stamp)
      events := by
  cases valid with
  | true => exact ⟨rfl, aligned_of_perAxis rfl rfl rfl, hage⟩
  | false => exact ⟨rfl, aligned_of_perAxis rfl rfl rfl, hage⟩

lemma frameless_built {base : LitearmStatus} {names : List String} (valid : Bool)
    (license : LicenseInfo) (hblank : base.blank = base) (hage : base.feedbackAge = -1) :
    ((base.withState names none).withLicense valid license).Frameless := by
  have hfields : base.frameFields = {} := by
    rw [← hblank]
    rfl
  cases valid with
  | true => exact ⟨hfields, aligned_of_perAxis rfl rfl rfl, hage⟩
  | false => exact ⟨hfields, aligned_of_perAxis rfl rfl rfl, hage⟩

/-! ### The cache -/

/-- The stamp is that of the frame in the cache, which came with a positive one, or zero. -/
structure SoundCache (g : World σ) : Prop where
  empty : g.shared.haveState = false → g.shared.lastStateStamp = 0
  held : ∀ f, g.shared.stamped = some f → 0 < f.2 ∧ Given g.history f

/-- Every answer in the history is one of the environment. -/
lemma answered_reachable (h : Reachable env g) :
    ∀ e ∈ g.history, ∃ w, (env e.1 w).1 = e.2 := by
  apply h.invariant (I := fun g => ∀ e ∈ g.history, ∃ w, (env e.1 w).1 = e.2)
  · intro name p w e he
    cases he
  · intro cb g _ hg
    obtain ⟨new, hnew⟩ := run_history cb.code env g
    rw [step, hnew]
    intro e he
    rcases List.mem_append.mp he with he | he
    · exact run_answered hnew e he
    · exact hg e he

lemma soundCache_reachable (hpositive : PositiveStamps env) (h : Reachable env g) :
    SoundCache g := by
  obtain ⟨turns, hturns⟩ := h.traced
  constructor
  · exact (describes_traced hpositive hturns).stamp.mp
  · intro f hf
    obtain ⟨e, he, hframe⟩ := remembers_reachable h f hf
    exact ⟨hpositive.of_answered (answered_reachable h e he) hframe, e, he, hframe⟩

/-- A cache that was just filled with an answer of the SDK is sound. -/
lemma soundCache_of_held {node : Node} {state : RobotState} {stamp : Double}
    {e : Event Call.Answer} (hpositive : PositiveStamps env)
    (hheld : g.shared = node.holdFrame state stamp) (he : e ∈ g.history)
    (hanswered : ∃ w, (env e.1 w).1 = e.2) (hframe : frameOf e = some (state, stamp)) :
    SoundCache g := by
  constructor
  · intro hnone
    rw [hheld] at hnone
    cases hnone
  · intro f hf
    rw [hheld] at hf
    cases hf
    exact ⟨hpositive.of_answered hanswered hframe, e, he, hframe⟩

lemma SoundCache.refreshed {g₁ : World σ} (hpositive : PositiveStamps env) (h : SoundCache g)
    (hrefreshed : Refreshed env g g₁) : SoundCache g₁ := by
  cases hrefreshed with
  | unasked => exact h
  | missed =>
    refine ⟨h.empty, ?_⟩
    intro f hf
    obtain ⟨hpos, hgiven⟩ := h.held f hf
    refine ⟨hpos, hgiven.mono ?_⟩
    intro e he
    exact List.mem_cons_of_mem _ he
  | @held harm state stamp hframe =>
    apply soundCache_of_held hpositive rfl List.mem_cons_self ⟨g.outside, rfl⟩
    rw [hframe]
    rfl

/-- A message built on a sound cache is a snapshot of the frame in it. -/
lemma snapshot_of_builtFrom {g₁ : World σ} {fresh : Option RobotState} {m : LitearmStatus}
    {history later : List (Event Call.Answer)} (hsound : SoundCache g₁)
    (hfresh : (fresh <|> g₁.shared.cached) = g₁.shared.cached)
    (hhistory : ∀ e ∈ g₁.history, e ∈ history) (hm : m.BuiltFrom g₁.shared fresh later) :
    m.Snapshot g₁.shared.jointNames g₁.shared.stamped history later := by
  obtain ⟨base, hblank, -, hage, rfl⟩ := hm
  rw [hfresh]
  rw [AgeIn] at hage
  constructor
  · cases g₁.shared.licenseValid <;> cases g₁.shared.cached <;> rfl
  · intro f hf
    obtain ⟨state, hcached, rfl⟩ := Option.map_eq_some_iff.mp hf
    obtain ⟨hpos, hgiven⟩ := hsound.held _ hf
    rw [if_neg (Double.not_le_of_lt hpos)] at hage
    rw [hcached]
    exact ⟨hgiven.mono hhistory, takenFrom_built _ _ hage⟩
  · intro hnone
    have hcached : g₁.shared.cached = none := Option.map_eq_none_iff.mp hnone
    have hempty : g₁.shared.haveState = false := by
      simpa [Node.cached] using hcached
    rw [hsound.empty hempty, if_pos (by decide)] at hage
    rw [hcached]
    exact frameless_built _ _ hblank hage

lemma LitearmStatus.Snapshot.mono {m : LitearmStatus} {names : List String}
    {seen : Option StampedFrame} {history events events' : List (Event Call.Answer)}
    (h : m.Snapshot names seen history events) (hsub : ∀ e ∈ events, e ∈ events') :
    m.Snapshot names seen history events' := by
  refine ⟨h.names, fun f hf => ?_, h.blank⟩
  obtain ⟨hgiven, htaken⟩ := h.shown f hf
  exact ⟨hgiven, htaken.mono hsub⟩

/-! ### Ticks and replies -/

lemma option_orElse_self {α : Type} (x : Option α) : (x <|> x) = x := by
  cases x <;> rfl

/-- The message a status tick builds, whether or not it is published. -/
def tickStatus : Code LitearmStatus := cachedState >>= buildStatus

lemma snapshot_tickStatus (hsound : SoundCache g) (hpositive : PositiveStamps env) :
    tickStatus.wp env (fun r g' => ∃ m new, r = .ok m ∧ g'.history = new ++ g.history ∧
      m.Snapshot g.shared.jointNames (stampedSeen env g) g'.history new) g := by
  rw [tickStatus, wp_bind]
  refine wp_cachedState fun g₁ hrefreshed => ?_
  dsimp only
  refine builds_buildStatus fun m later g₂ hshared hlater _ hm => ?_
  obtain ⟨looked, hlooked, -⟩ := hrefreshed.history
  refine ⟨m, later ++ looked, rfl, by rw [hlater, hlooked, List.append_assoc], ?_⟩
  rw [← hrefreshed.jointNames, ← hrefreshed.stamped]
  have hold : ∀ e ∈ g₁.history, e ∈ g₂.history := by
    intro e he
    rw [hlater]
    exact List.mem_append_right _ he
  have hsnapshot : m.Snapshot g₁.shared.jointNames g₁.shared.stamped g₂.history later :=
    snapshot_of_builtFrom (hsound.refreshed hpositive hrefreshed) (option_orElse_self _) hold hm
  exact hsnapshot.mono fun e he => List.mem_append_left _ he

/-- The status messages of a state. The one its next tick builds and those it publishes show the
frame of the tick; the next reply of `get_status` shows the frame that its one command was
answered with. -/
structure Snapshots (env : Environment σ) (g : World σ) : Prop where
  built : ∃ m g' new, tickStatus.run env g = (.ok m, g') ∧ g'.history = new ++ g.history ∧
    m.Snapshot g.shared.jointNames (stampedSeen env g) g'.history new
  published : ∀ m new, (step env .statusTimer g).history = new ++ g.history →
    ⟨.publish (.status m), ()⟩ ∈ new →
      m.Snapshot g.shared.jointNames (stampedSeen env g) (step env .statusTimer g).history new
  replied : ∀ request reply g', (handleGetStatus request default).run env g = (.ok reply, g') →
    reply.success = true → ∀ new, g'.history = new ++ g.history → ∃ message,
      commandsOf new = [⟨.getStatusNow request.timeout, .ok message⟩] ∧
      reply.body.Snapshot g.shared.jointNames (some (message.value, message.timestamp))
        g'.history new

lemma snapshot_published (hsound : SoundCache g) (hpositive : PositiveStamps env)
    {m : LitearmStatus} {new : List (Event Call.Answer)}
    (hnew : (step env .statusTimer g).history = new ++ g.history)
    (hm : ⟨.publish (.status m), ()⟩ ∈ new) :
    m.Snapshot g.shared.jointNames (stampedSeen env g) (step env .statusTimer g).history new := by
  obtain ⟨g₁, later, hlooked, -, hlater, hsub, hmade⟩ := published_madeFrom hnew hm
  rcases hlooked with ⟨-, hrefreshed⟩ | ⟨htimer, -⟩
  case inr => cases htimer
  rw [← hrefreshed.jointNames, ← hrefreshed.stamped]
  have hold : ∀ e ∈ g₁.history, e ∈ (step env .statusTimer g).history := by
    intro e he
    rw [hlater]
    exact List.mem_append_right _ he
  exact (snapshot_of_builtFrom (hsound.refreshed hpositive hrefreshed) (option_orElse_self _) hold
    hmade).mono hsub

/-- A reply of `get_status` that reports success is a snapshot of the frame it was answered
with. -/
lemma snapshot_getStatus (hpositive : PositiveStamps env) (request : GetStatus.Request) :
    (handleGetStatus request default).wp env (fun r g' => ∀ reply, r = .ok reply →
      reply.success = true → ∀ new, g'.history = new ++ g.history → ∃ message,
        commandsOf new = [⟨.getStatusNow request.timeout, .ok message⟩] ∧
        reply.body.Snapshot g.shared.jointNames (some (message.value, message.timestamp))
          g'.history new) g := by
  apply wp_mono (builds_handleGetStatus request default)
  rintro r g' ⟨reply, rfl, hbuilt⟩ reply' hreply hsuccess new hnew
  cases hreply
  obtain ⟨hfailed, -⟩ | ⟨-, hbuilt⟩ := hbuilt
  · cases hfailed.symm.trans hsuccess
  obtain ⟨g₁, message, later, hquiet, hanswer, hlater, hall, hheld, hm⟩ := hbuilt
  obtain ⟨-, earlier, hearlier, hbefore⟩ := hquiet
  have hsplit : new =
      later ++ ⟨.command (.getStatusNow request.timeout), .ok message⟩ :: earlier := by
    apply (List.append_left_inj g.history).mp
    rw [← hnew, hlater, hearlier, List.append_assoc, List.cons_append]
  refine ⟨message, ?_, ?_⟩
  · rw [hsplit]
    exact commandsOf_between hall hbefore
  have hsound : SoundCache g' := by
    apply soundCache_of_held (e := ⟨.command (.getStatusNow request.timeout), .ok message⟩)
      hpositive hheld _ ⟨g₁.outside, hanswer⟩ rfl
    rw [hlater]
    exact List.mem_append_right _ List.mem_cons_self
  have hcached : (some message.value <|> g'.shared.cached) = g'.shared.cached := by
    rw [hheld]
    rfl
  have hstamped : g'.shared.stamped = some (message.value, message.timestamp) := by
    rw [hheld]
    rfl
  have hnames : g'.shared.jointNames = g.shared.jointNames := by
    rw [hheld]
    rfl
  rw [← hnames, ← hstamped]
  refine (snapshot_of_builtFrom hsound hcached (fun e he => he) hm).mono fun e he => ?_
  rw [hsplit]
  exact List.mem_append_left _ he

/-- With positive stamps every status message that is built is aligned with the names and shows
the frame it is built from, with the age of that frame; it shows none only when the SDK holds
none and the cache is empty. -/
theorem status_single_frame (hpositive : PositiveStamps env) :
    ∀ g : World σ, Reachable env g → Snapshots env g := by
  intro g hg
  have hsound := soundCache_reachable hpositive hg
  constructor
  · obtain ⟨m, new, hm, hnew, hsnapshot⟩ : tickStatus.wp env _ g :=
      snapshot_tickStatus hsound hpositive
    exact ⟨m, _, new, Prod.ext hm rfl, hnew, hsnapshot⟩
  · intro m new hnew hm
    exact snapshot_published hsound hpositive hnew hm
  · intro request reply g' hrun hsuccess
    have hreply : (handleGetStatus request default).wp env _ g :=
      snapshot_getStatus hpositive request
    rw [wp, hrun] at hreply
    exact hreply reply rfl hsuccess

/-- A node in service on a six-axis arm that sends frames of four joints. -/
def shortFrameBench : World Bench :=
  benchRun {} [{ frame := some (frameOfAxes 4) }] [.changeState .configure, .changeState .activate]

theorem status_single_frame_short : Snapshots bench shortFrameBench :=
  status_single_frame clocked_bench.positive shortFrameBench (reachable_benchRun _ _ _)

end LitearmDriver
