import LitearmDriver.Rules
import LitearmDriver.Status

/-!
# What the reports carry

Building a report reads the node and the host and changes neither. The rules below follow
the code of the reports, and say what each message is made of.
-/

namespace LitearmDriver

open Interaction Program

variable {σ : Type} {env : Environment σ} {g : World σ}

/-! ### Readings -/

lemma quiet_queryOr {q : Query} {otherwise : q.Answer} (hq : (Call.query q).isQuiet = true)
    {Q : Except Abort q.Answer → World σ → Prop} (h : ∀ a g', Quiet g g' → Q (.ok a) g') :
    (queryOr q otherwise).wp env Q g := by
  rw [queryOr, wp_bind, wp_self]
  dsimp only
  split
  · exact h _ _ (.refl g)
  · exact h _ _ (.after hq g)

lemma wp_queryOr (harm : g.shared.arm.isSome = true) {q : Query} {otherwise : q.Answer}
    {Q : Except Abort q.Answer → World σ → Prop} :
    (queryOr q otherwise).wp env Q g ↔
      Q (.ok (g.answer env (.query q))) (g.after env (.query q)) := by
  rw [queryOr, wp_bind, wp_self]
  dsimp only
  rw [if_neg (by simpa [Option.isSome_iff_ne_none] using harm), wp_query]

/-- The age of a stamp: unknown, or the time since then. -/
def AgeOf (stamp age : Double) : Prop :=
  if stamp ≤ 0 then age = -1 else ∃ now : Double, age = now - stamp

/-- The age that a report made of these events gives to a stamp: unknown, or a reading of the
clock among them minus the stamp. -/
def AgeIn (events : List (Event Call.Answer)) (stamp age : Double) : Prop :=
  if stamp ≤ 0 then age = -1
  else ∃ now : Double, ⟨.steadyNow, now⟩ ∈ events ∧ age = now - stamp

lemma AgeIn.ageOf {events : List (Event Call.Answer)} {stamp age : Double}
    (h : AgeIn events stamp age) : AgeOf stamp age := by
  rw [AgeIn] at h
  rw [AgeOf]
  split
  case isTrue hs => simpa [hs] using h
  case isFalse hs =>
    rw [if_neg hs] at h
    obtain ⟨now, -, hage⟩ := h
    exact ⟨now, hage⟩

lemma AgeIn.mono {events events' : List (Event Call.Answer)} {stamp age : Double}
    (h : AgeIn events stamp age) (hsub : ∀ e ∈ events, e ∈ events') :
    AgeIn events' stamp age := by
  rw [AgeIn] at h ⊢
  split
  case isTrue hs => simpa [hs] using h
  case isFalse hs =>
    rw [if_neg hs] at h
    obtain ⟨now, hnow, hage⟩ := h
    exact ⟨now, hsub _ hnow, hage⟩

/-- Quiet code between two moments that worked out the age of a stamp. -/
structure Aged (g : World σ) (stamp age : Double) (g' : World σ) : Prop where
  shared : g'.shared = g.shared
  history : ∃ new, g'.history = new ++ g.history ∧ (∀ e ∈ new, e.1.isQuiet = true) ∧
    AgeIn new stamp age

lemma Aged.quiet {stamp age : Double} {g' : World σ} (h : Aged g stamp age g') : Quiet g g' := by
  obtain ⟨hshared, new, hnew, hall, -⟩ := h
  exact ⟨hshared, new, hnew, hall⟩

lemma Quiet.aged {g₁ g₂ : World σ} {stamp age : Double} (h : Quiet g g₁)
    (h' : Aged g₁ stamp age g₂) : Aged g stamp age g₂ := by
  obtain ⟨hs, new, hn, hall⟩ := h
  obtain ⟨hs', new', hn', hall', hage⟩ := h'
  refine ⟨hs'.trans hs, new' ++ new, by rw [hn', hn, List.append_assoc], ?_, ?_⟩
  · intro e he
    rcases List.mem_append.mp he with he | he
    · exact hall' e he
    · exact hall e he
  · apply hage.mono
    intro e he
    exact List.mem_append_left _ he

lemma quiet_frameAge {stamp : Double} {Q : Except Abort Double → World σ → Prop}
    (h : ∀ age g', Aged g stamp age g' → Q (.ok age) g') :
    (frameAge stamp).wp env Q g := by
  rw [frameAge]
  split
  case isTrue hs =>
    apply h
    refine ⟨rfl, [], rfl, by simp, ?_⟩
    rw [AgeIn, if_pos hs]
  case isFalse hs =>
    apply h
    refine ⟨rfl, [_], rfl, by simp [Call.isQuiet], ?_⟩
    rw [AgeIn, if_neg hs]
    exact ⟨_, List.mem_singleton_self _, rfl⟩

/-! ### The status message -/

/-- The fields a frame or a licence record determines, at their defaults. -/
def LitearmStatus.blank (m : LitearmStatus) : LitearmStatus :=
  { m with
    enabled := false, faulted := false, cartBusy := false, jointFault := 0,
    dropHoldInferred := false, mode := 0, modeName := "", flags := 0, licenseState := 0,
    licenseStateName := "", licenseUid := "" }

/-- A status message says what the node and `fresh` say. -/
def LitearmStatus.ReportOf (node : Node) (fresh : Option RobotState) (m : LitearmStatus) :
    Prop :=
  ∃ base : LitearmStatus, base.blank = base ∧ AgeOf node.lastStateStamp base.feedbackAge ∧
    m = (base.withState node.jointNames (fresh <|> node.cached)).withLicense
      node.licenseValid node.license

/-- A status message says what the node and `fresh` say, with an age worked out from these
events. -/
def LitearmStatus.BuiltFrom (node : Node) (fresh : Option RobotState)
    (events : List (Event Call.Answer)) (m : LitearmStatus) : Prop :=
  ∃ base : LitearmStatus, base.blank = base ∧ base.speedScaling = node.speedScaling ∧
    AgeIn events node.lastStateStamp base.feedbackAge ∧
    m = (base.withState node.jointNames (fresh <|> node.cached)).withLicense
      node.licenseValid node.license

lemma LitearmStatus.BuiltFrom.reportOf {node : Node} {fresh : Option RobotState}
    {events : List (Event Call.Answer)} {m : LitearmStatus} (h : m.BuiltFrom node fresh events) :
    m.ReportOf node fresh := by
  obtain ⟨base, hblank, -, hage, rfl⟩ := h
  exact ⟨base, hblank, hage.ageOf, rfl⟩

lemma LitearmStatus.BuiltFrom.mono {node : Node} {fresh : Option RobotState}
    {events events' : List (Event Call.Answer)} {m : LitearmStatus}
    (h : m.BuiltFrom node fresh events) (hsub : ∀ e ∈ events, e ∈ events') :
    m.BuiltFrom node fresh events' := by
  obtain ⟨base, hblank, hspeed, hage, rfl⟩ := h
  exact ⟨base, hblank, hspeed, hage.mono hsub, rfl⟩

lemma LitearmStatus.BuiltFrom.ageIn {node : Node} {fresh : Option RobotState}
    {events : List (Event Call.Answer)} {m : LitearmStatus} (h : m.BuiltFrom node fresh events) :
    AgeIn events node.lastStateStamp m.feedbackAge := by
  obtain ⟨base, -, -, hage, rfl⟩ := h
  have hkept : ((base.withState node.jointNames (fresh <|> node.cached)).withLicense
      node.licenseValid node.license).feedbackAge = base.feedbackAge := by
    cases node.licenseValid <;> cases (fresh <|> node.cached) <;> rfl
  rw [hkept]
  exact hage

/-- Building a message reads quietly, and works out its age from what it read. -/
lemma builds_buildStatus {fresh : Option RobotState}
    {Q : Except Abort LitearmStatus → World σ → Prop}
    (h : ∀ m new g', g'.shared = g.shared → g'.history = new ++ g.history →
      (∀ e ∈ new, e.1.isQuiet = true) → m.BuiltFrom g.shared fresh new → Q (.ok m) g') :
    (buildStatus fresh).wp env Q g := by
  rw [buildStatus, wp_bind, wp_ask]
  simp only [wp_bind, wp_self]
  refine quiet_connected fun link g₁ h₁ => ?_
  refine quiet_queryOr rfl fun inDfu g₂ h₂ => ?_
  refine quiet_queryOr rfl fun firmware g₃ h₃ => ?_
  refine quiet_queryOr rfl fun reason g₄ h₄ => ?_
  refine quiet_queryOr rfl fun active g₅ h₅ => ?_
  refine quiet_queryOr rfl fun error g₆ h₆ => ?_
  refine quiet_frameAge fun age g₇ haged => ?_
  have hquiet : Quiet g g₆ := (Quiet.after rfl g).trans <| h₁.trans <| h₂.trans <|
    h₃.trans <| h₄.trans <| h₅.trans h₆
  obtain ⟨hshared, new, hnew, hall, hage⟩ := hquiet.aged haged
  apply h _ new g₇ hshared hnew hall
  exact ⟨_, rfl, rfl, by exact hage, rfl⟩

lemma quiet_buildStatus {fresh : Option RobotState}
    {Q : Except Abort LitearmStatus → World σ → Prop}
    (h : ∀ m g', m.ReportOf g.shared fresh → Quiet g g' → Q (.ok m) g') :
    (buildStatus fresh).wp env Q g := by
  apply builds_buildStatus
  intro m new g' hshared hnew hall hm
  exact h m g' hm.reportOf ⟨hshared, new, hnew, hall⟩

/-! ### Refreshing the cache -/

/-- What looking at the SDK's frame did: a frame it holds entered the cache. -/
inductive Refreshed (env : Environment σ) (g : World σ) : World σ → Prop where
  | unasked (harm : g.shared.arm = none) : Refreshed env g g
  | missed (hmissing : ∀ state stamp,
      g.answer env (.query .getState) ≠ .ok ⟨some state, stamp⟩) :
    Refreshed env g (g.after env (.query .getState))
  | held (harm : g.shared.arm.isSome = true) {state : RobotState} {stamp : Double}
      (hframe : g.answer env (.query .getState) = .ok ⟨some state, stamp⟩) :
    Refreshed env g ((g.after env (.query .getState)).update (.holdFrame state stamp))

lemma wp_cachedState {Q : Except Abort (Option RobotState) → World σ → Prop}
    (h : ∀ g', Refreshed env g g' → Q (.ok g'.shared.cached) g') :
    cachedState.wp env Q g := by
  rw [cachedState, wp_bind, updateCache, wp_bind, wp_self]
  dsimp only
  by_cases hnone : g.shared.arm = none
  · rw [if_pos (by simp [hnone])]
    exact h _ (.unasked hnone)
  have harm : g.shared.arm.isSome = true := by simpa [Option.isSome_iff_ne_none] using hnone
  rw [if_neg (by simpa using hnone), wp_bind, wp_query]
  dsimp only
  cases hanswer : g.answer env (.query .getState) with
  | error what => exact h _ (.missed fun _ _ => by simp [hanswer])
  | ok message =>
    obtain ⟨_ | state, stamp⟩ := message
    · exact h _ (.missed fun _ _ => by simp [hanswer])
    · exact h _ (.held harm hanswer)

/-! ### What the timers publish -/

/-- A publication says what the node says. -/
def Publication.ReportOf (node : Node) : Publication → Prop
  | .status m => m.ReportOf node node.cached
  | .jointState j => ∃ header state, node.cached = some state ∧
      j = jointStateOf header node.jointNames state
  | .diagnostics d => ∃ r : DiagnosticReadings, AgeOf node.lastStateStamp r.age ∧
      d = diagnosticsOf node r

/-- Code that reads quietly and publishes reports of the node. -/
structure Publishes (g g' : World σ) : Prop where
  shared : g'.shared = g.shared
  history : ∃ new, g'.history = new ++ g.history ∧ ∀ e ∈ new,
    e.1.isQuiet = true ∨ ∃ p : Publication, e = ⟨.publish p, ()⟩ ∧ p.ReportOf g.shared

/-- A publication says what the node says, with an age worked out from these events. -/
def Publication.MadeFrom (node : Node) (events : List (Event Call.Answer)) :
    Publication → Prop
  | .status m => m.BuiltFrom node node.cached events
  | .jointState j => ∃ header state, node.cached = some state ∧
      j = jointStateOf header node.jointNames state
  | .diagnostics d => ∃ r : DiagnosticReadings, AgeIn events node.lastStateStamp r.age ∧
      d = diagnosticsOf node r

lemma Publication.MadeFrom.mono {node : Node} {events events' : List (Event Call.Answer)}
    {p : Publication} (h : p.MadeFrom node events) (hsub : ∀ e ∈ events, e ∈ events') :
    p.MadeFrom node events' := by
  cases p with
  | status m => exact LitearmStatus.BuiltFrom.mono h hsub
  | jointState j => exact h
  | diagnostics d =>
    obtain ⟨r, hage, hd⟩ := h
    exact ⟨r, hage.mono hsub, hd⟩

lemma Publication.MadeFrom.reportOf {node : Node} {events : List (Event Call.Answer)}
    {p : Publication} (h : p.MadeFrom node events) : p.ReportOf node := by
  cases p with
  | status m => exact LitearmStatus.BuiltFrom.reportOf h
  | jointState j => exact h
  | diagnostics d =>
    obtain ⟨r, hage, hd⟩ := h
    exact ⟨r, hage.ageOf, hd⟩

/-- Code that reads quietly and publishes reports made of what it read. -/
structure Delivers (g g' : World σ) : Prop where
  shared : g'.shared = g.shared
  history : ∃ new, g'.history = new ++ g.history ∧ ∀ e ∈ new,
    e.1.isQuiet = true ∨ ∃ p : Publication, e = ⟨.publish p, ()⟩ ∧ p.MadeFrom g.shared new

lemma Quiet.delivers {g g' : World σ} (h : Quiet g g') : Delivers g g' := by
  obtain ⟨hshared, new, hnew, hall⟩ := h
  exact ⟨hshared, new, hnew, fun e he => .inl (hall e he)⟩

lemma Delivers.trans {g₁ g₂ g₃ : World σ} (h : Delivers g₁ g₂) (h' : Delivers g₂ g₃) :
    Delivers g₁ g₃ := by
  obtain ⟨hs, new, hn, hall⟩ := h
  obtain ⟨hs', new', hn', hall'⟩ := h'
  refine ⟨hs'.trans hs, new' ++ new, by rw [hn', hn, List.append_assoc], ?_⟩
  intro e he
  rcases List.mem_append.mp he with he | he
  · rcases hall' e he with hquiet | ⟨p, hp, hmade⟩
    · exact .inl hquiet
    · rw [hs] at hmade
      exact .inr ⟨p, hp, hmade.mono fun e he => List.mem_append_left _ he⟩
  · rcases hall e he with hquiet | ⟨p, hp, hmade⟩
    · exact .inl hquiet
    · exact .inr ⟨p, hp, hmade.mono fun e he => List.mem_append_right _ he⟩

lemma Delivers.publishes {g g' : World σ} (h : Delivers g g') : Publishes g g' := by
  obtain ⟨hshared, new, hnew, hall⟩ := h
  refine ⟨hshared, new, hnew, ?_⟩
  intro e he
  rcases hall e he with hquiet | ⟨p, hp, hmade⟩
  · exact .inl hquiet
  · exact .inr ⟨p, hp, hmade.reportOf⟩

/-- What was made of quiet readings is published. -/
lemma wp_publishOn {g₀ : World σ} {new : List (Event Call.Answer)} {publisher : Publisher}
    {p : Publication} (hshared : g.shared = g₀.shared) (hnew : g.history = new ++ g₀.history)
    (hall : ∀ e ∈ new, e.1.isQuiet = true) (hp : p.MadeFrom g₀.shared new)
    {Q : Except Abort Unit → World σ → Prop} (h : ∀ g', Delivers g₀ g' → Q (.ok ()) g') :
    (publishOn publisher p).wp env Q g := by
  rw [publishOn]
  split
  · apply h
    refine ⟨hshared, ⟨.publish p, ()⟩ :: new, congrArg (List.cons _) hnew, ?_⟩
    intro e he
    rcases List.mem_cons.mp he with rfl | he
    · exact .inr ⟨p, rfl, hp.mono fun e he => List.mem_cons_of_mem _ he⟩
    · exact .inl (hall e he)
  · apply h
    exact Quiet.delivers ⟨hshared, new, hnew, hall⟩

/-- A status tick refreshes the cache, and publishes what the node then holds. -/
theorem publishStatus_delivers :
    publishStatus.wp env (fun r g' => r = .ok () ∧ ∃ g₁, Refreshed env g g₁ ∧ Delivers g₁ g')
      g := by
  rw [publishStatus, wp_bind]
  refine wp_cachedState fun g₁ hrefreshed => ?_
  dsimp only
  have hjoint : ∀ g₂ : World σ, Delivers g₁ g₂ →
      (publishJointStateMessage g₁.shared.cached).wp env
        (fun r g' => r = .ok () ∧ ∃ g₁, Refreshed env g g₁ ∧ Delivers g₁ g') g₂ := by
    intro g₂ hstatus
    rw [publishJointStateMessage, wp_bind, wp_self]
    dsimp only
    cases g₂.shared.jointStatePublisher with
    | none => exact ⟨rfl, g₁, hrefreshed, hstatus⟩
    | some publisher =>
      cases hcached : g₁.shared.cached with
      | none => exact ⟨rfl, g₁, hrefreshed, hstatus⟩
      | some state =>
        dsimp only
        rw [wp_bind, wp_ask]
        have hsame : g₂.shared.cached = some state :=
          (congrArg Node.cached hstatus.shared).trans hcached
        have hmade (stamp : Int) : (Publication.jointState (jointStateOf
            ⟨stamp, g₂.shared.frameId⟩ g₂.shared.jointNames state)).MadeFrom g₂.shared [] :=
          ⟨_, state, hsame, rfl⟩
        have hnow : Quiet g₂ (g₂.after env .now) := .after rfl g₂
        obtain ⟨hquiet, new, hnew, hall⟩ := hnow
        apply wp_publishOn hquiet hnew hall ((hmade _).mono (by simp))
        intro g' hdelivers
        exact ⟨rfl, g₁, hrefreshed, hstatus.trans hdelivers⟩
  rw [wp_bind, publishStatusMessage, wp_bind, wp_self]
  dsimp only
  cases g₁.shared.statusPublisher with
  | none => exact hjoint g₁ (Quiet.refl g₁).delivers
  | some publisher =>
    dsimp only
    rw [wp_bind]
    refine builds_buildStatus fun m new g₂ hshared hnew hall hm => ?_
    have hmade : (Publication.status m).MadeFrom g₁.shared new := hm
    exact wp_publishOn hshared hnew hall hmade hjoint

theorem publishStatus_exit :
    publishStatus.wp env (fun r g' => r = .ok () ∧ ∃ g₁, Refreshed env g g₁ ∧ Publishes g₁ g')
      g := by
  apply wp_mono publishStatus_delivers
  rintro r g' ⟨hr, g₁, hrefreshed, hdelivers⟩
  exact ⟨hr, g₁, hrefreshed, hdelivers.publishes⟩

/-- A diagnostics tick publishes what the node holds. -/
theorem publishDiagnostics_delivers :
    publishDiagnostics.wp env (fun r g' => r = .ok () ∧ Delivers g g') g := by
  rw [publishDiagnostics, wp_bind, wp_self]
  dsimp only
  cases g.shared.diagnosticsPublisher with
  | none => exact ⟨rfl, (Quiet.refl g).delivers⟩
  | some publisher =>
    dsimp only
    rw [wp_bind, wp_ask]
    simp only [wp_bind]
    refine quiet_queryOr rfl fun firmware g₁ h₁ => ?_
    refine quiet_connected fun link g₂ h₂ => ?_
    refine quiet_queryOr rfl fun inDfu g₃ h₃ => ?_
    refine quiet_queryOr rfl fun zeroG g₄ h₄ => ?_
    refine quiet_connected fun linkAgain g₅ h₅ => ?_
    refine quiet_queryOr rfl fun zeroGAgain g₆ h₆ => ?_
    refine quiet_frameAge fun age g₇ haged => ?_
    have hquiet : Quiet g g₆ := (Quiet.after rfl g).trans <| h₁.trans <| h₂.trans <|
      h₃.trans <| h₄.trans <| h₅.trans h₆
    obtain ⟨hshared, new, hnew, hall, hage⟩ := hquiet.aged haged
    have hmade (stamp : Int) : (Publication.diagnostics (diagnosticsOf g.shared
        ⟨stamp, firmware, link, inDfu, zeroG, linkAgain, zeroGAgain, age⟩)).MadeFrom g.shared
        new := ⟨_, hage, rfl⟩
    apply wp_publishOn hshared hnew hall (hmade _)
    intro g' hdelivers
    exact ⟨rfl, hdelivers⟩

theorem publishDiagnostics_exit :
    publishDiagnostics.wp env (fun r g' => r = .ok () ∧ Publishes g g') g := by
  apply wp_mono publishDiagnostics_delivers
  rintro r g' ⟨hr, hdelivers⟩
  exact ⟨hr, hdelivers.publishes⟩

end LitearmDriver
