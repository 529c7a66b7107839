import LitearmDriver.FrameSource
import LitearmDriver.HostView

/-!
# How old the reported frame is

The SDK stamps a frame with the clock the node reads, and that clock does not run backwards.
The age in a report is then the time since the frame in the host's view arrived, and never
negative.
-/

namespace LitearmDriver

open Interaction Program

variable {σ : Type} {env : Environment σ} {g : World σ} {clock : σ → ℚ}

/-! ### One clock -/

/-- The node and the SDK read one clock, which does not run backwards; a frame is stamped with
a positive time that has come. -/
structure Clocked (env : Environment σ) (clock : σ → ℚ) : Prop where
  reads : ∀ w, (env .steadyNow w).1 = .finite (clock w)
  forward : ∀ c w, clock w ≤ clock (env c w).2
  stamps : ∀ c w state stamp, frameOf ⟨c, (env c w).1⟩ = some (state, stamp) →
    ∃ q, stamp = .finite q ∧ 0 < q ∧ q ≤ clock (env c w).2

lemma Clocked.positive (h : Clocked env clock) : PositiveStamps env := by
  intro c w state stamp hframe
  obtain ⟨q, rfl, hpos, -⟩ := h.stamps c w state stamp hframe
  exact (Double.finite_lt_finite 0 q).mpr hpos

/-- No reading of the clock lies before the stamp of a frame handed out earlier. -/
def Timely : List (Event Call.Answer) → Prop
  | []       => True
  | e :: old =>
    (∀ now, e = ⟨.steadyNow, now⟩ → ∀ f, Given old f → 0 ≤ now - f.2) ∧ Timely old

lemma Timely.age {later old : List (Event Call.Answer)} {now : Double} {f : StampedFrame}
    (h : Timely (later ++ old)) (hnow : ⟨.steadyNow, now⟩ ∈ later) (hf : Given old f) :
    0 ≤ now - f.2 := by
  induction later with
  | nil => cases hnow
  | cons e later ih =>
    rcases List.mem_cons.mp hnow with he | hnow
    · apply h.1 now he.symm
      apply hf.mono
      intro e he
      exact List.mem_append_right _ he
    · exact ih h.2 hnow

/-- The history is timely, and the clock is past every stamp in it. -/
structure OnTime (clock : σ → ℚ) (g : World σ) : Prop where
  timely : Timely g.history
  past : ∀ f, Given g.history f → ∃ q, f.2 = .finite q ∧ 0 < q ∧ q ≤ clock g.outside

/-- Every call keeps the history timely. -/
lemma OnTime.after (henv : Clocked env clock) (h : OnTime clock g) (c : Call) :
    OnTime clock (g.after env c) := by
  constructor
  · refine ⟨?_, h.timely⟩
    intro now he f hf
    obtain ⟨q, hq, -, hle⟩ := h.past f hf
    obtain ⟨rfl, hanswer⟩ := Sigma.mk.inj he
    have hnow : now = .finite (clock g.outside) :=
      (eq_of_heq hanswer).symm.trans (henv.reads g.outside)
    rw [hnow, hq]
    exact (Double.finite_le_finite 0 _).mpr (sub_nonneg.mpr hle)
  · rintro f ⟨e, he, hframe⟩
    rcases List.mem_cons.mp he with rfl | he
    · exact henv.stamps c g.outside f.1 f.2 hframe
    · obtain ⟨q, hq, hpos, hle⟩ := h.past f ⟨e, he, hframe⟩
      exact ⟨q, hq, hpos, hle.trans (henv.forward c g.outside)⟩

lemma OnTime.run {α : Type} (henv : Clocked env clock) (h : OnTime clock g) (p : Code α) :
    OnTime clock (p.run env g).2 := by
  apply run_preserves p env (I := OnTime clock) _ _ h
  · intro c g hg
    exact hg.after henv c
  · intro f g hg
    exact ⟨hg.timely, hg.past⟩

lemma onTime_reachable (henv : Clocked env clock) (h : Reachable env g) : OnTime clock g := by
  apply h.invariant (I := OnTime clock)
  · intro name p w
    refine ⟨trivial, ?_⟩
    rintro f ⟨e, he, -⟩
    cases he
  · intro cb g _ hg
    exact hg.run henv cb.code

/-! ### Ages -/

/-- The age is unknown exactly when the view has no frame; otherwise it is a reading of the
clock among the events minus the stamp of that frame, and not negative. -/
structure HostView.Dates (v : HostView) (events : List (Event Call.Answer)) (age : Double) :
    Prop where
  unknown : age = -1 ↔ v.frame = none
  known : ∀ f, v.frame = some f →
    0 ≤ age ∧ ∃ now : Double, ⟨.steadyNow, now⟩ ∈ events ∧ age = now - f.2

lemma HostView.dates_of_ageIn {v : HostView} {node : Node} {events : List (Event Call.Answer)}
    {age : Double} (h : v.Describes node) (hage : AgeIn events node.lastStateStamp age)
    (hpositive : ∀ f, v.frame = some f → 0 < f.2)
    (htimely : ∀ f, v.frame = some f → ∀ now : Double,
      ⟨.steadyNow, now⟩ ∈ events → 0 ≤ now - f.2) : v.Dates events age := by
  rw [AgeIn] at hage
  cases hframe : v.frame with
  | none =>
    have hnone : node.haveState = false := by
      have hstamped := h.frame.trans hframe
      cases hheld : node.haveState with
      | false => rfl
      | true => simp [Node.stamped, Node.cached, hheld] at hstamped
    rw [h.stamp.mp hnone, if_pos (by decide)] at hage
    constructor
    · rw [hage, hframe]
      simp
    · intro f hf
      cases hframe.symm.trans hf
  | some f =>
    have hstamp : node.lastStateStamp = f.2 := by
      have hstamped := h.frame.trans hframe
      rw [Node.stamped] at hstamped
      obtain ⟨state, -, rfl⟩ := Option.map_eq_some_iff.mp hstamped
      rfl
    have hnotle : ¬ f.2 ≤ 0 := Double.not_le_of_lt (hpositive f hframe)
    rw [hstamp, if_neg hnotle] at hage
    obtain ⟨now, hnow, rfl⟩ := hage
    have hnonneg := htimely f hframe now hnow
    constructor
    · rw [hframe]
      simp only [reduceCtorEq, iff_false]
      intro hminus
      rw [hminus] at hnonneg
      exact absurd hnonneg (by decide)
    · intro f' hf'
      cases hframe.symm.trans hf'
      exact ⟨hnonneg, now, hnow, rfl⟩

/-! ### Reports -/

/-- The report carries the age of the frame in the view. -/
def Publication.Dated (v : HostView) (events : List (Event Call.Answer)) : Publication → Prop
  | .status m      => v.Dates events m.feedbackAge
  | .jointState _  => True
  | .diagnostics d => ∃ node r, v.Dates events r.age ∧ d = diagnosticsOf node r

/-- What the node works out an age from: a view it describes and a frame it was given. -/
lemma HostView.dates_of_node {v : HostView} {node : Node} {later old : List (Event Call.Answer)}
    {age : Double} {g' : World σ} (h : v.Describes node) (honTime : OnTime clock g')
    (hhistory : g'.history = later ++ old)
    (hgiven : ∀ f, node.stamped = some f → Given old f)
    (hage : AgeIn later node.lastStateStamp age) : v.Dates later age := by
  have hframe : ∀ f, v.frame = some f → Given old f := by
    intro f hf
    exact hgiven f (h.frame.trans hf)
  apply HostView.dates_of_ageIn h hage
  · intro f hf
    obtain ⟨q, hq, hpos, -⟩ := honTime.past f <| by
      rw [hhistory]
      exact (hframe f hf).mono fun e he => List.mem_append_right _ he
    rw [hq]
    exact (Double.finite_lt_finite 0 q).mpr hpos
  · intro f hf now hnow
    have htimely := honTime.timely
    rw [hhistory] at htimely
    exact htimely.age hnow (hframe f hf)

lemma HostView.Dates.mono {v : HostView} {events events' : List (Event Call.Answer)}
    {age : Double} (h : v.Dates events age) (hsub : ∀ e ∈ events, e ∈ events') :
    v.Dates events' age := by
  constructor
  · exact h.unknown
  · intro f hf
    obtain ⟨hnonneg, now, hnow, hage⟩ := h.known f hf
    exact ⟨hnonneg, now, hsub _ hnow, hage⟩

/-- Reports made from a node that describes the view carry the age of its frame. -/
lemma Publication.MadeFrom.dated {v : HostView} {g₁ g' : World σ}
    {later : List (Event Call.Answer)} {p : Publication} (hp : p.MadeFrom g₁.shared later)
    (h : v.Describes g₁.shared) (hgiven : Remembers g₁) (honTime : OnTime clock g')
    (hhistory : g'.history = later ++ g₁.history) : p.Dated v later := by
  cases p with
  | status m =>
    exact HostView.dates_of_node h honTime hhistory hgiven (LitearmStatus.BuiltFrom.ageIn hp)
  | jointState j => trivial
  | diagnostics d =>
    obtain ⟨r, hage, rfl⟩ := hp
    exact ⟨_, r, HostView.dates_of_node h honTime hhistory hgiven hage, rfl⟩

lemma Publication.Dated.mono {v : HostView} {events events' : List (Event Call.Answer)}
    {p : Publication} (h : p.Dated v events) (hsub : ∀ e ∈ events, e ∈ events') :
    p.Dated v events' := by
  cases p with
  | status m => exact HostView.Dates.mono h hsub
  | jointState j => trivial
  | diagnostics d =>
    obtain ⟨node, r, hage, hd⟩ := h
    exact ⟨node, r, hage.mono hsub, hd⟩

/-- Whatever a callback publishes carries the age of the frame in the view it leaves. -/
lemma dated_step (henv : Clocked env clock) {turns : List Turn} (h : Traced env turns g)
    {cb : Callback} {new : List (Event Call.Answer)} {p : Publication}
    (hnew : (step env cb g).history = new ++ g.history) (hp : ⟨.publish p, ()⟩ ∈ new) :
    p.Dated (viewOf (⟨cb, g.shared.currentState, new⟩ :: turns)) new := by
  obtain ⟨g₁, later, hlooked, hshared, hlater, hsub, hmade⟩ := published_madeFrom hnew hp
  have hdescribes : (viewOf (⟨cb, g.shared.currentState, new⟩ :: turns)).Describes g₁.shared := by
    rw [← hshared]
    exact describes_traced henv.positive (.step cb h hnew)
  have hgiven : Remembers g₁ := by
    have hremembers := remembers_reachable h.reachable
    rcases hlooked with ⟨-, hrefreshed⟩ | ⟨-, rfl⟩
    · exact hremembers.refreshed hrefreshed
    · exact hremembers
  have honTime := (onTime_reachable henv h.reachable).run henv cb.code
  exact (hmade.dated hdescribes hgiven honTime hlater).mono hsub

/-- The status in the reply of a `get_status` that succeeded carries the age of its frame. -/
lemma dated_getStatus (henv : Clocked env clock) {turns : List Turn} (h : Traced env turns g)
    (request : GetStatus.Request) :
    (handleGetStatus request default).wp env (fun r g' => ∀ reply new, r = .ok reply →
      g'.history = new ++ g.history → reply.success = true →
        (viewOf (⟨.service .getStatus request, g.shared.currentState, new⟩ :: turns)).Dates new
          reply.body.feedbackAge) g := by
  have hrun := (onTime_reachable henv h.reachable).run henv (handleGetStatus request default)
  have hview {new : List (Event Call.Answer)}
      (hnew : ((handleGetStatus request default).run env g).2.history = new ++ g.history) :
      (viewOf (⟨.service .getStatus request, g.shared.currentState, new⟩ :: turns)).Describes
        ((handleGetStatus request default).run env g).2.shared :=
    describes_traced henv.positive (.step (.service .getStatus request) h hnew)
  obtain ⟨reply, hreply, hbuilt⟩ : (handleGetStatus request default).wp env _ g :=
    builds_handleGetStatus request default
  intro reply' new hreply' hnew hsuccess
  cases hreply.symm.trans hreply'
  rcases hbuilt with ⟨hfailed, -⟩ | ⟨-, g₁, message, later, hquiet, -, hlater, -, hheld, hbuilt⟩
  · cases hfailed.symm.trans hsuccess
  obtain ⟨-, earlier, hearlier, -⟩ := hquiet
  have hbefore : g.history <:+ g₁.history := ⟨earlier, hearlier.symm⟩
  have hsub : ∀ e ∈ later, e ∈ new :=
    mem_of_later hnew (hbefore.trans (List.suffix_cons _ _)) hlater
  refine (HostView.dates_of_node (hview hnew) hrun hlater ?_ hbuilt.ageIn).mono hsub
  intro f hf
  rw [hheld] at hf
  cases hf
  exact ⟨_, List.mem_cons_self, rfl⟩

/-! ### The summary -/

/-- What the node holds and reports is what the view of its history says. -/
structure FaithfulView (env : Environment σ) (turns : List Turn) (g : World σ) : Prop where
  /-- The members are those of the view. -/
  describes : (viewOf turns).Describes g.shared
  /-- A call that reports a failure leaves them as they were. -/
  failed : ∀ s request response g',
    (Service.handle s request default).run env g = (.ok response, g') →
      response.success = false → g'.shared.hostFields = g.shared.hostFields
  /-- So does a tick whose look at the frame throws or finds none. -/
  missed : (∀ state stamp, g.answer env (.query .getState) ≠ .ok ⟨some state, stamp⟩) →
    (step env .statusTimer g).shared.hostFields = g.shared.hostFields
  /-- Every age published next is that of the view. -/
  published : ∀ cb new p, (step env cb g).history = new ++ g.history →
    ⟨.publish p, ()⟩ ∈ new → p.Dated (viewOf (⟨cb, g.shared.currentState, new⟩ :: turns)) new
  /-- So is every age that `get_status` replies next. -/
  replied : ∀ request reply g' new,
    (handleGetStatus request default).run env g = (.ok reply, g') →
      g'.history = new ++ g.history → reply.success = true →
        (viewOf (⟨.service .getStatus request, g.shared.currentState, new⟩ :: turns)).Dates new
          reply.body.feedbackAge

/-- After every run the members of the node and the ages it reports are a summary of the
history of its callbacks. The ages are exact differences; those of the node are these up to
rounding. -/
theorem host_view_faithful (henv : Clocked env clock) {turns : List Turn}
    (h : Traced env turns g) : FaithfulView env turns g := by
  constructor
  · exact describes_traced henv.positive h
  · intro s request response g' hrun hfailed
    have hfields : (s.handle request default).wp env _ g := hostFields_failed s request
    rw [wp, hrun] at hfields
    exact hfields response rfl hfailed
  · exact hostFields_missed
  · intro cb new p hnew hp
    exact dated_step henv h hnew hp
  · intro request reply g' new hrun hnew hsuccess
    have hdated : (handleGetStatus request default).wp env _ g := dated_getStatus henv h request
    rw [wp, hrun] at hdated
    exact hdated reply new rfl hnew hsuccess

/-- On the bench the clock stands at two seconds, and every frame came at one. -/
lemma clocked_bench : Clocked bench fun _ => 2 := by
  constructor
  · intro w
    rfl
  · intro c w
    exact le_rfl
  · intro c w state stamp hframe
    refine ⟨1, ?_, by norm_num, by norm_num⟩
    cases c with
    | query q =>
      cases q with
      | getState =>
        cases hheld : w.current.frame with
        | none => simp [frameOf, bench, Bench.read, hheld] at hframe
        | some state =>
          simp only [frameOf, bench, Bench.read, hheld, Option.some.injEq, Prod.mk.injEq] at hframe
          exact hframe.2.symm
      | _ => cases hframe
    | command c =>
      cases c with
      | getStatusNow timeout =>
        simp only [frameOf, bench, Bench.perform, Option.some.injEq, Prod.mk.injEq] at hframe
        exact hframe.2.symm
      | _ => cases hframe
    | _ => cases hframe

/-- A node that was slowed down to half speed and has seen a frame. -/
def slowedBench : World Bench :=
  benchRun {} [{ frame := some (steadyFrame true) }]
    [.changeState .configure, .changeState .activate, .service .setSpeedScaling ⟨50⟩,
      .statusTimer]

theorem host_view_faithful_slowed :
    ∃ turns, Traced bench turns slowedBench ∧ FaithfulView bench turns slowedBench ∧
      viewOf turns = ⟨50, some (steadyFrame true, 1)⟩ := by
  obtain ⟨turns, h⟩ := (reachable_benchRun _ _ _ : Reachable bench slowedBench).traced
  have hview : FaithfulView bench turns slowedBench := host_view_faithful clocked_bench h
  have hpercent : 50 = (viewOf turns).percent := hview.describes.speed
  have hframe : some (steadyFrame true, 1) = (viewOf turns).frame := hview.describes.frame
  exact ⟨turns, h, hview, (congrArg₂ HostView.mk hpercent hframe).symm⟩

end LitearmDriver
