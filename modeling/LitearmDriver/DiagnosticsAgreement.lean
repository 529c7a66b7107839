import LitearmDriver.StatusSnapshots
import LitearmDriver.Text

/-!
# Diagnostics against the status

Both timers report on the arm. The status timer looks at the frame of the SDK first, and the
diagnostics timer takes what is in the cache. The two agree when the cache happens to show what
the frame shows.
-/

namespace LitearmDriver

open Interaction Program

variable {σ : Type} {env : Environment σ} {g : World σ}

/-! ### Reading a report -/

/-- The value the report has for a key. -/
def DiagnosticArray.entry (d : DiagnosticArray) (key : String) : Option String :=
  d.status.head?.bind fun status => status.values.lookup key

def DiagnosticArray.level (d : DiagnosticArray) : Option Level :=
  d.status.head?.map DiagnosticStatus.level

/-- The message of the report notes a fault. -/
def DiagnosticArray.NotesFault (d : DiagnosticArray) : Prop :=
  ∃ status ∈ d.status, "faulted:".toList <:+: status.message.toList

/-- The report says of the arm what the status message says. -/
structure DiagnosticArray.AgreesWith (d : DiagnosticArray) (m : LitearmStatus) : Prop where
  enabled : d.entry "enabled" = some (if m.enabled then "true" else "false")
  mode : d.entry "mode" = some m.modeName
  jointFault : d.entry "joint_fault" = some (toString m.jointFault.toNat)
  fault : d.NotesFault ↔ m.faulted = true

/-! ### Findings -/

/-- The findings of a report, in the order of the checks. -/
def findingsOf (node : Node) (r : DiagnosticReadings) : List Finding :=
  (if !r.link then [⟨.error, "link down"⟩] else []) ++
  (if r.inDfu then [⟨.error, "in DFU"⟩] else []) ++
  (if node.haveState && node.lastState.faulted then
    [⟨.error, "faulted: " ++ node.lastState.faultDetail⟩] else []) ++
  (if node.haveState && node.lastState.dropHoldInferred then
    [⟨.warn, "rigid-hold latch inferred (reset or clear_faults to release)"⟩] else []) ++
  (if node.licenseValid && !node.license.activated then
    [⟨.warn, "licence not activated: ENABLE will be refused"⟩] else []) ++
  (if r.zeroG then [⟨.ok, "zero gravity active"⟩] else [])

/-- How a finding raises the level. -/
def Level.raise (level : Level) (finding : Finding) : Level :=
  match finding.level, level with
  | .error, _ => .error
  | .warn, .ok => .warn
  | _, level => level

lemma raise_eq_error_iff (level : Level) (finding : Finding) :
    level.raise finding = .error ↔ level = .error ∨ finding.level = .error := by
  obtain ⟨raised, text⟩ := finding
  cases level <;> cases raised <;> simp [Level.raise]

/-- The level is an error exactly when one of the findings is. -/
lemma levelOf_eq_error_iff (findings : List Finding) :
    levelOf findings = .error ↔ ∃ f ∈ findings, f.level = .error := by
  have hfold : ∀ level : Level, findings.foldl Level.raise level = .error ↔
      level = .error ∨ ∃ f ∈ findings, f.level = .error := by
    induction findings with
    | nil => simp
    | cons f findings ih =>
      intro level
      rw [List.foldl_cons, ih, raise_eq_error_iff, or_assoc]
      simp only [List.mem_cons, exists_eq_or_imp]
  have hstart := hfold .ok
  rw [or_iff_right (by decide)] at hstart
  exact hstart

lemma exists_mem_ite {α : Type} {P : α → Prop} (c : Prop) [Decidable c] (x : α) :
    (∃ y ∈ (if c then [x] else []), P y) ↔ c ∧ P x := by
  by_cases hc : c
  · simp [hc]
  · simp [hc]

lemma exists_mem_append {α : Type} {P : α → Prop} (xs ys : List α) :
    (∃ y ∈ xs ++ ys, P y) ↔ (∃ y ∈ xs, P y) ∨ ∃ y ∈ ys, P y := by
  simp only [List.mem_append, or_and_right, exists_or]

/-- Which findings have a property, by the checks that make them. -/
lemma exists_mem_findingsOf {P : Finding → Prop} (node : Node) (r : DiagnosticReadings) :
    (∃ f ∈ findingsOf node r, P f) ↔
      (((((!r.link) = true ∧ P ⟨.error, "link down"⟩ ∨ r.inDfu = true ∧ P ⟨.error, "in DFU"⟩) ∨
        (node.haveState && node.lastState.faulted) = true ∧
          P ⟨.error, "faulted: " ++ node.lastState.faultDetail⟩) ∨
        (node.haveState && node.lastState.dropHoldInferred) = true ∧
          P ⟨.warn, "rigid-hold latch inferred (reset or clear_faults to release)"⟩) ∨
        (node.licenseValid && !node.license.activated) = true ∧
          P ⟨.warn, "licence not activated: ENABLE will be refused"⟩) ∨
        r.zeroG = true ∧ P ⟨.ok, "zero gravity active"⟩ := by
  rw [findingsOf]
  simp only [exists_mem_append, exists_mem_ite]

/-- The level of a report. -/
lemma level_diagnosticsOf_iff (node : Node) (r : DiagnosticReadings) :
    (diagnosticsOf node r).level = some .error ↔
      r.link = false ∨ r.inDfu = true ∨ (node.haveState && node.lastState.faulted) = true := by
  have hlevel : (diagnosticsOf node r).level = some (levelOf (findingsOf node r)) := rfl
  rw [hlevel, Option.some.injEq, levelOf_eq_error_iff, exists_mem_findingsOf]
  simp [or_assoc]

lemma infix_problemsOf_iff (findings : List Finding) :
    "faulted:".toList <:+: (problemsOf findings).toList ↔
      ∃ f ∈ findings, "faulted:".toList <:+: f.text.toList := by
  rw [problemsOf, String.toList_intercalate,
    Text.infix_intercalate_iff (by simp) (by simp) (by simp)]
  simp

/-- The message of a report notes a fault exactly when the frame in the cache has one. -/
lemma notesFault_diagnosticsOf_iff (node : Node) (r : DiagnosticReadings) :
    (diagnosticsOf node r).NotesFault ↔ (node.haveState && node.lastState.faulted) = true := by
  have hmessage : (diagnosticsOf node r).NotesFault ↔ "faulted:".toList <:+:
      (if problemsOf (findingsOf node r) = "" then "ok"
        else problemsOf (findingsOf node r)).toList := by
    constructor
    · rintro ⟨status, hstatus, hnoted⟩
      rw [List.mem_singleton.mp hstatus] at hnoted
      exact hnoted
    · intro hnoted
      exact ⟨_, List.mem_singleton_self _, hnoted⟩
  have hshown : "faulted:".toList <:+: (if problemsOf (findingsOf node r) = "" then "ok"
      else problemsOf (findingsOf node r)).toList ↔
        "faulted:".toList <:+: (problemsOf (findingsOf node r)).toList := by
    split
    case isTrue hnone =>
      rw [hnone]
      exact iff_of_false (by decide) (by decide)
    case isFalse => rfl
  rw [hmessage, hshown, infix_problemsOf_iff, exists_mem_findingsOf]
  -- None of the fixed texts contains the word, and the text of a fault starts with it.
  have hlink : ¬ "faulted:".toList <:+: "link down".toList := by decide
  have hdfu : ¬ "faulted:".toList <:+: "in DFU".toList := by decide
  have hdrop : ¬ "faulted:".toList <:+:
      "rigid-hold latch inferred (reset or clear_faults to release)".toList := by decide
  have hlicense : ¬ "faulted:".toList <:+:
      "licence not activated: ENABLE will be refused".toList := by decide
  have hzeroG : ¬ "faulted:".toList <:+: "zero gravity active".toList := by decide
  have hfault : "faulted:".toList <:+: ("faulted: " ++ node.lastState.faultDetail).toList := by
    rw [String.toList_append]
    exact List.infix_append_of_infix_left (by decide)
  simp only [hlink, hdfu, hdrop, hlicense, hzeroG, hfault, and_false, and_true, or_false, false_or]

/-! ### The cache and the frame of the SDK -/

/-- The cache shows of the arm what the frame shows. -/
def CacheShows (node : Node) (state : RobotState) : Prop :=
  match node.cached with
  | some cached => cached.enabled = state.enabled ∧ cached.modeName = state.modeName ∧
      cached.jointFault = state.jointFault ∧ cached.faulted = state.faulted
  | none        => state.enabled = false ∧ state.modeName = "unknown" ∧ state.jointFault = 0 ∧
      state.faulted = false

lemma boolText_inj {a b : Bool} :
    (if a then "true" else "false") = (if b then "true" else "false") ↔ a = b := by
  cases a <;> cases b <;> simp

lemma jointFaultText_inj {a b : UInt16} : toString a.toNat = toString b.toNat ↔ a = b := by
  constructor
  · intro h
    exact UInt16.toNat_inj.mp (Text.toString_injective h)
  · rintro rfl
    rfl

/-- The entries of a report, as the node fills them. -/
lemma entries_diagnosticsOf (node : Node) (r : DiagnosticReadings) :
    (diagnosticsOf node r).entry "enabled" =
        some (if (node.haveState && node.lastState.enabled) then "true" else "false") ∧
      (diagnosticsOf node r).entry "mode" =
        some (if node.haveState then node.lastState.modeName else "unknown") ∧
      (diagnosticsOf node r).entry "joint_fault" =
        some (toString (if node.haveState then node.lastState.jointFault else 0).toNat) := by
  refine ⟨rfl, rfl, ?_⟩
  cases hheld : node.haveState with
  | true => simp [diagnosticsOf, DiagnosticArray.entry, List.lookup_cons, hheld]
  | false => simp [diagnosticsOf, DiagnosticArray.entry, List.lookup_cons, hheld]

/-- What the entries of the report are compared with. -/
lemma cacheShows_iff (node : Node) (state : RobotState) :
    CacheShows node state ↔ (node.haveState && node.lastState.enabled) = state.enabled ∧
      (if node.haveState then node.lastState.modeName else "unknown") = state.modeName ∧
      (if node.haveState then node.lastState.jointFault else 0) = state.jointFault ∧
      (node.haveState && node.lastState.faulted) = state.faulted := by
  rw [CacheShows]
  cases hheld : node.haveState with
  | true => simp [Node.cached, hheld]
  | false =>
    simp only [Node.cached, hheld, Bool.false_eq_true, if_false, Bool.false_and]
    constructor
    · rintro ⟨henabled, hmode, hfault, hfaulted⟩
      exact ⟨henabled.symm, hmode.symm, hfault.symm, hfaulted.symm⟩
    · rintro ⟨henabled, hmode, hfault, hfaulted⟩
      exact ⟨henabled.symm, hmode.symm, hfault.symm, hfaulted.symm⟩

/-- A report on the node agrees with a message about the frame exactly when the cache shows what
the frame shows. -/
lemma agreesWith_iff {node : Node} {r : DiagnosticReadings} {m : LitearmStatus}
    {state : RobotState} (hm : m.frameFields = state.frameFields) :
    (diagnosticsOf node r).AgreesWith m ↔ CacheShows node state := by
  have henabled : m.enabled = state.enabled := congrArg FrameFields.enabled hm
  have hmode : m.modeName = state.modeName := congrArg FrameFields.modeName hm
  have hfault : m.jointFault = state.jointFault := congrArg FrameFields.jointFault hm
  have hfaulted : m.faulted = state.faulted := congrArg FrameFields.faulted hm
  obtain ⟨henabledEntry, hmodeEntry, hfaultEntry⟩ := entries_diagnosticsOf node r
  have hnoted := notesFault_diagnosticsOf_iff node r
  rw [cacheShows_iff, ← henabled, ← hmode, ← hfault, ← hfaulted]
  constructor
  · intro h
    refine ⟨?_, ?_, ?_, ?_⟩
    · exact boolText_inj.mp (Option.some.inj (henabledEntry.symm.trans h.enabled))
    · exact Option.some.inj (hmodeEntry.symm.trans h.mode)
    · exact jointFaultText_inj.mp (Option.some.inj (hfaultEntry.symm.trans h.jointFault))
    · exact Bool.eq_iff_iff.mpr (hnoted.symm.trans h.fault)
  · rintro ⟨henabled', hmode', hfault', hfaulted'⟩
    constructor
    · rw [henabledEntry, henabled']
    · rw [hmodeEntry, hmode']
    · rw [hfaultEntry, hfault']
    · rw [hnoted, hfaulted']

/-! ### One tick -/

/-- The configuration in which a diagnostics tick looks at the link. -/
def beforeLink (env : Environment σ) (g : World σ) : World σ :=
  (g.after env .now).after env (.query .firmware)

/-- The link is up when the tick looks at it. -/
def LinkSeenUp (env : Environment σ) (g : World σ) : Prop :=
  (beforeLink env g).answer env (.query .isConnected) = true

/-- The device is in DFU when the tick looks at it, which is after the link. -/
def DfuSeen (env : Environment σ) (g : World σ) : Prop :=
  ((beforeLink env g).after env (.query .isConnected)).answer env (.query .isInDfu) = true

/-- What a tick with a session publishes is a report with what it read of the link. -/
lemma publishDiagnostics_reads (harm : g.shared.arm.isSome = true) :
    publishDiagnostics.wp env (fun _ g' => ∃ new, g'.history = new ++ g.history ∧
      ∀ d, ⟨.publish (.diagnostics d), ()⟩ ∈ new → ∃ r, d = diagnosticsOf g.shared r ∧
        (r.link = true ↔ LinkSeenUp env g) ∧ (r.inDfu = true ↔ DfuSeen env g)) g := by
  rw [publishDiagnostics, wp_bind, wp_self]
  dsimp only
  cases g.shared.diagnosticsPublisher with
  | none => exact ⟨[], rfl, by simp⟩
  | some publisher =>
    dsimp only
    rw [wp_bind, wp_ask]
    dsimp only
    rw [wp_bind, wp_queryOr (by exact harm)]
    dsimp only
    rw [wp_bind, wp_connected, if_neg (by simpa [Option.isSome_iff_ne_none] using harm)]
    dsimp only
    rw [wp_bind, wp_queryOr (by exact harm)]
    simp only [wp_bind]
    refine quiet_queryOr rfl fun zeroG g₁ h₁ => ?_
    refine quiet_connected fun linkAgain g₂ h₂ => ?_
    refine quiet_queryOr rfl fun zeroGAgain g₃ h₃ => ?_
    refine quiet_frameAge fun age g₄ haged => ?_
    have hquiet : Quiet g g₄ := (Quiet.after rfl g).trans <| (Quiet.after rfl _).trans <|
      (Quiet.after rfl _).trans <| (Quiet.after rfl _).trans <| h₁.trans <| h₂.trans <|
      h₃.trans haged.quiet
    obtain ⟨-, new, hnew, hall⟩ := hquiet
    dsimp only
    rw [publishOn]
    split
    · refine ⟨⟨.publish _, ()⟩ :: new, congrArg (List.cons _) hnew, ?_⟩
      intro d hd
      rcases List.mem_cons.mp hd with hpublished | hread
      · cases hpublished
        exact ⟨_, rfl, Iff.rfl, Iff.rfl⟩
      · cases hall _ hread
    · refine ⟨new, hnew, ?_⟩
      intro d hd
      cases hall _ hd

/-- The message that a status tick builds shows the frame of the tick. -/
lemma tickStatus_shows {state : RobotState} (hseen : frameSeen env g = some state) :
    tickStatus.wp env (fun r _ => ∃ m, r = .ok m ∧ m.frameFields = state.frameFields) g := by
  rw [tickStatus, wp_bind]
  refine wp_cachedState fun g₁ hrefreshed => ?_
  dsimp only
  refine builds_buildStatus fun m later g₂ _ _ _ hm => ?_
  obtain ⟨base, -, -, -, rfl⟩ := hm
  rw [option_orElse_self, hrefreshed.cached, hseen]
  refine ⟨_, rfl, ?_⟩
  cases g₁.shared.licenseValid <;> rfl

/-- The report says what a status tick would say now, and its level is an error exactly when
the link is down, the device is in DFU or the frame of the SDK has a fault. -/
structure TellsTruth (env : Environment σ) (g : World σ) (state : RobotState)
    (d : DiagnosticArray) : Prop where
  agrees : ∃ m g', tickStatus.run env g = (.ok m, g') ∧ d.AgreesWith m
  level : d.level = some .error ↔ ¬ LinkSeenUp env g ∨ DfuSeen env g ∨ state.faulted = true

/-- Whenever a diagnostics tick publishes while the SDK holds a frame, its report agrees with
the status exactly if the cache shows what that frame shows. -/
theorem diagnostics_agree_iff : ∀ g : World σ, Reachable env g → g.shared.arm.isSome = true →
    ∀ state stamp, g.answer env (.query .getState) = .ok ⟨some state, stamp⟩ →
      ∀ d new, (step env .diagnosticsTimer g).history = new ++ g.history →
        ⟨.publish (.diagnostics d), ()⟩ ∈ new →
          (TellsTruth env g state d ↔ CacheShows g.shared state) := by
  intro g _ harm state stamp hframe d new hnew hd
  have hseen : frameSeen env g = some state := frameSeen_of_held harm hframe
  obtain ⟨new', hnew', hreads⟩ : publishDiagnostics.wp env _ g := publishDiagnostics_reads harm
  obtain rfl : new' = new := List.append_cancel_right (hnew'.symm.trans hnew)
  obtain ⟨r, rfl, hlink, hdfu⟩ := hreads d hd
  obtain ⟨m, hm, hfields⟩ : tickStatus.wp env _ g := tickStatus_shows hseen
  constructor
  · intro h
    obtain ⟨m', g', hrun, hagrees⟩ := h.agrees
    rw [hrun] at hm
    cases hm
    exact (agreesWith_iff hfields).mp hagrees
  · intro hshows
    refine ⟨⟨m, _, Prod.ext hm rfl, (agreesWith_iff hfields).mpr hshows⟩, ?_⟩
    obtain ⟨-, -, -, hfaulted⟩ := (cacheShows_iff _ _).mp hshows
    rw [level_diagnosticsOf_iff, hfaulted, ← hlink, ← hdfu, Bool.not_eq_true]

/-- A frame of an arm with a latched fault. -/
def faultedFrame : RobotState := { steadyFrame true with faulted := true }

/-- A node in service that looks at the frame of a faulted arm when its status timer runs. -/
def watchingBench : World Bench :=
  benchRun {} [{ frame := some faultedFrame }]
    [.changeState .configure, .changeState .activate, .statusTimer]

/-- The same node without a status timer. -/
def blindBench : World Bench :=
  benchRun { statusRateHz := 0 } [{ frame := some faultedFrame }]
    [.changeState .configure, .changeState .activate]

/-- The report that is published next on the bench. -/
def reportShown (g : World Bench) (age : Double) : DiagnosticArray :=
  diagnosticsOf g.shared ⟨0, "1.8.0", true, false, false, true, false, age⟩

theorem diagnostics_agree_iff_watched : ∃ d new,
    (step bench .diagnosticsTimer watchingBench).history = new ++ watchingBench.history ∧
      ⟨.publish (.diagnostics d), ()⟩ ∈ new ∧
        (TellsTruth bench watchingBench faultedFrame d ↔
          CacheShows watchingBench.shared faultedFrame) := by
  obtain ⟨new, hnew⟩ := run_history Callback.diagnosticsTimer.code bench watchingBench
  have hd : ⟨.publish (.diagnostics (reportShown watchingBench (2 - 1))), ()⟩ ∈ new :=
    mem_of_last hnew rfl (by decide)
  exact ⟨_, new, hnew, hd, diagnostics_agree_iff watchingBench (reachable_benchRun _ _ _) rfl
    faultedFrame 1 rfl _ new hnew hd⟩

/-- Without a status timer the diagnostics say nothing of a fault the SDK reports. -/
theorem diagnostics_blind_to_fault :
    Reachable bench blindBench ∧ ∃ d new,
      (step bench .diagnosticsTimer blindBench).history = new ++ blindBench.history ∧
        ⟨.publish (.diagnostics d), ()⟩ ∈ new ∧ d.level = some .ok ∧
          ¬ TellsTruth bench blindBench faultedFrame d := by
  obtain ⟨new, hnew⟩ := run_history Callback.diagnosticsTimer.code bench blindBench
  have hd : ⟨.publish (.diagnostics (reportShown blindBench (-1))), ()⟩ ∈ new :=
    mem_of_last hnew rfl (by decide)
  refine ⟨reachable_benchRun _ _ _, _, new, hnew, hd, rfl, ?_⟩
  intro h
  have herror : (reportShown blindBench (-1)).level = some .error :=
    h.level.mpr (.inr (.inr rfl))
  cases herror

end LitearmDriver
