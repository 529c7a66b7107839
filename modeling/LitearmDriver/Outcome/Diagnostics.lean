import LitearmDriver.Outcome.Model

/-!
# Outcomes of the link, diagnostics and log handlers

For each handler the command it issues, and the condition under which it issues it.
`reconnect` is the one service that sends two commands.
-/

namespace LitearmDriver

open Interaction Program

variable {σ : Type} {env : Environment σ} {g : World σ}

/-! ### The link -/

/-- The configuration after a reconnect, in which the licence record is read. -/
abbrev afterReconnect (env : Environment σ) (g : World σ) : World σ :=
  g.after env (.command .reconnect)

/-- The configuration once the record was read and the reply was filled. -/
abbrev afterRebuild (env : Environment σ) (g : World σ) (license : LicenseInfo) : World σ :=
  ((((afterReconnect env g).after env (.command .license)).update (.holdLicense license)).after
    env (.query .portString)).after env (.query .firmware)

/-- How `reconnect` ends. -/
inductive ReconnectExit (env : Environment σ) (g : World σ) (response : Reply Unit) :
    World σ → Prop where
  | unconfigured (harm : g.shared.arm = none) (hfailed : response.success = false) :
    ReconnectExit env g response g
  | unreachable {what : String} (harm : g.shared.arm.isSome = true)
      (hreconnect : g.answer env (.command .reconnect) = .error what)
      (hfailed : response.success = false) :
    ReconnectExit env g response (afterReconnect env g)
  | unlicensed {what : String} (harm : g.shared.arm.isSome = true)
      (hreconnect : g.answer env (.command .reconnect) = .ok ())
      (hlicense : (afterReconnect env g).answer env (.command .license) = .error what)
      (hfailed : response.success = false) :
    ReconnectExit env g response ((afterReconnect env g).after env (.command .license))
  | rebuilt {license : LicenseInfo} (harm : g.shared.arm.isSome = true)
      (hreconnect : g.answer env (.command .reconnect) = .ok ())
      (hlicense : (afterReconnect env g).answer env (.command .license) = .ok license)
      (hok : response.success = true) :
    ReconnectExit env g response (afterRebuild env g license)

theorem reconnect_exit (response : Reply Unit) :
    (handleReconnect response).wp env (fun r g' => ∃ response', r = .ok response' ∧
      response'.message ≠ "" ∧ ReconnectExit env g response' g') g := by
  rw [handleReconnect, wp_catching, wp_bind, wp_self]
  dsimp only
  by_cases hnone : g.shared.arm = none
  · rw [if_pos (by simp [hnone])]
    exact ⟨_, rfl, by simp, .unconfigured hnone rfl⟩
  have harm : g.shared.arm.isSome = true := by simpa [Option.isSome_iff_ne_none] using hnone
  rw [if_neg (by simpa using hnone), wp_bind, wp_armCommand harm, wp_command]
  cases hreconnect : g.answer env (.command .reconnect) with
  | error what =>
    exact ⟨_, rfl, by simp, .unreachable harm hreconnect rfl⟩
  | ok _ =>
    rw [wp_orThrow_ok]
    dsimp only
    rw [wp_bind, refreshLicenseRecord, wp_bind, wp_self]
    dsimp only
    rw [if_neg (by simpa using hnone), wp_bind, wp_command]
    cases hlicense : (afterReconnect env g).answer env (.command .license) with
    | error what =>
      rw [wp_orThrow_error]
      exact ⟨_, rfl, by simp, .unlicensed harm hreconnect hlicense rfl⟩
    | ok license =>
      rw [wp_orThrow_ok]
      dsimp only
      rw [wp_assign]
      dsimp only
      rw [wp_bind, wp_armQuery (by exact harm), wp_query]
      dsimp only
      rw [wp_bind, wp_armQuery (by exact harm), wp_query]
      exact ⟨_, rfl, by simp, .rebuilt harm hreconnect hlicense rfl⟩

/-- What a reconnect has sent, and what its reply says of it. -/
lemma ReconnectExit.sent {response : Reply Unit} {g' : World σ}
    (h : ReconnectExit env g response g') :
    (sent g' = sent g ∧ g'.shared = g.shared ∧ response.success = false) ∨
      (∃ what, sent g' = ⟨.reconnect, .error what⟩ :: sent g ∧ response.success = false) ∨
      ∃ x, sent g' = ⟨.license, x⟩ :: ⟨.reconnect, .ok ()⟩ :: sent g ∧
        (response.success = true ↔ x.isOk = true) := by
  cases h with
  | unconfigured harm hfailed => exact .inl ⟨rfl, rfl, hfailed⟩
  | @unreachable what harm hreconnect hfailed =>
    refine .inr (.inl ⟨what, ?_, hfailed⟩)
    rw [← hreconnect]
    rfl
  | @unlicensed what harm hreconnect hlicense hfailed =>
    refine .inr (.inr ⟨.error what, ?_, by simp [hfailed, Except.isOk, Except.toBool]⟩)
    rw [← hreconnect, ← hlicense]
    rfl
  | @rebuilt license harm hreconnect hlicense hok =>
    refine .inr (.inr ⟨.ok license, ?_, by simp [hok, Except.isOk, Except.toBool]⟩)
    rw [← hreconnect, ← hlicense]
    rfl

/-- A tool pose that was not answered is no success, although the command returned. -/
lemma decides_handleGetTcp (response : Reply GetTcp.Body) :
    Decides env g .getTcp (LinkUp env g) (handleGetTcp response) := by
  refine Decides.congr (iff_of_eq (and_true _)) (decides_connected fun hlink => ?_)
  have harm : (g.after env (.query .isConnected)).shared.arm.isSome = true := hlink.1
  rw [Decides, wp_catching, wp_bind, wp_armCommand harm, wp_command]
  cases htcp : (g.after env (.query .isConnected)).answer env (.command .getTcp) with
  | error what =>
    refine ⟨fun _ => ⟨_, _, .command _ _, rfl, rfl, by simp, ?_⟩, fun h => absurd trivial h⟩
    rw [htcp]
    simp [Command.Accepted]
  | ok pose =>
    rw [wp_orThrow_ok]
    cases pose with
    | none =>
      refine ⟨fun _ => ⟨_, _, .command _ _, rfl, rfl, by simp, ?_⟩, fun h => absurd trivial h⟩
      rw [htcp]
      simp [Command.Accepted]
    | some pose =>
      refine ⟨fun _ => ⟨_, _, .command _ _, rfl, rfl, by simp, ?_⟩, fun h => absurd trivial h⟩
      rw [htcp]
      simp [Command.Accepted]

/-! ### Host diagnostics -/

lemma quiet_armQuery {q : Query} (hq : (Call.query q).isQuiet = true)
    (h : g.shared.arm.isSome = true) {Q : Except Abort q.Answer → World σ → Prop}
    (hQ : ∀ a g', Quiet g g' → g'.shared.arm.isSome = true → Q (.ok a) g') :
    (armQuery q).wp env Q g := by
  rw [wp_armQuery h, wp_query]
  exact hQ _ _ (.after hq g) h

lemma quiet_rates {ids : List RateId} (h : g.shared.arm.isSome = true)
    {Q : Except Abort (List (UInt8 × Double)) → World σ → Prop}
    (hQ : ∀ a g', Quiet g g' → Q (.ok a) g') : (rates ids).wp env Q g := by
  induction ids generalizing g Q with
  | nil => exact hQ _ _ (.refl g)
  | cons id ids ih =>
    rw [rates, wp_bind, wp_query]
    simp only [wp_bind]
    refine quiet_armQuery rfl (by exact h) fun hz g₁ h₁ harm₁ => ?_
    refine ih harm₁ fun rest g₂ h₂ => ?_
    exact hQ _ _ ((Quiet.after rfl _).trans (h₁.trans h₂))

lemma reads_handleGetDiagnostics (response : Reply GetDiagnostics.Body) :
    (handleGetDiagnostics response).wp env (Reads g) g := by
  rw [handleGetDiagnostics, wp_bind, wp_connected]
  by_cases hnone : g.shared.arm = none
  · rw [if_pos (by simp [hnone])]
    exact ⟨.refl g, _, rfl, by simp [Reply.fillFailure, checkConnected]⟩
  have harm : g.shared.arm.isSome = true := by simpa [Option.isSome_iff_ne_none] using hnone
  rw [if_neg (by simpa using hnone)]
  cases g.answer env (.query .isConnected) with
  | false =>
    exact ⟨.after rfl g, _, rfl, by simp [Reply.fillFailure, checkConnected]⟩
  | true =>
    simp only [checkConnected, refuseUnless, Bool.not_true, Bool.false_eq_true, if_false,
      GateResult.pass_ok, if_true, wp_catching, wp_bind]
    refine quiet_armQuery rfl (by exact harm) fun stats g₁ h₁ harm₁ => ?_
    refine quiet_armQuery rfl harm₁ fun banner g₂ h₂ harm₂ => ?_
    refine quiet_armQuery rfl harm₂ fun connected g₃ h₃ harm₃ => ?_
    refine quiet_armQuery rfl harm₃ fun inDfu g₄ h₄ harm₄ => ?_
    refine quiet_armQuery rfl harm₄ fun cartSupported g₅ h₅ harm₅ => ?_
    refine quiet_armQuery rfl harm₅ fun axes g₆ h₆ harm₆ => ?_
    refine quiet_armQuery rfl harm₆ fun statusSeq g₇ h₇ harm₇ => ?_
    refine quiet_armQuery rfl harm₇ fun port g₈ h₈ harm₈ => ?_
    refine quiet_armQuery rfl harm₈ fun firmware g₉ h₉ harm₉ => ?_
    refine quiet_armQuery rfl harm₉ fun reason g₁₀ h₁₀ harm₁₀ => ?_
    refine quiet_rates harm₁₀ fun hz g₁₁ h₁₁ => ?_
    refine ⟨?_, _, rfl, by simp⟩
    exact (Quiet.after rfl g).trans <| h₁.trans <| h₂.trans <| h₃.trans <| h₄.trans <|
      h₅.trans <| h₆.trans <| h₇.trans <| h₈.trans <| h₉.trans <| h₁₀.trans h₁₁

/-! ### Benchmark and tick log -/

lemma decides_handleKinBench (request : KinBench.Request) (response : Reply KinBench.Body) :
    Decides env g
      (.kinBench (orDefault request.timeout
        ((g.after env (.query .isConnected)).answer env (.query .kinBenchTimeout))))
      ((checkTimeout request.timeout "timeout").ok = true ∧ LinkUp env g)
      (handleKinBench request response) := by
  refine decides_refuseUnless (explained_checkTimeout _ _) ?_
  refine .map (Reply.keeps_onSuccess _) (decides_runCommand fun _ => ?_)
  rw [wp_bind, wp_query]
  refine wp_mono (sends_command (fun _ => rfl) fun _ _ => ⟨⟨_, rfl⟩, .refl _, rfl⟩) ?_
  exact fun r g' hsends => hsends.of_log (.query .kinBenchTimeout _) rfl

lemma decides_handleLogStart (request : LogStart.Request) (response : Reply Unit) :
    Decides env g (.logStart request.ticks.toInt)
      (¬ request.ticks.toInt ≤ 0 ∧ LinkUp env g) (handleLogStart request response) := by
  rw [handleLogStart]
  split
  case isTrue hticks =>
    exact ⟨fun h => absurd hticks h.1, fun _ => ⟨.refl g, rfl, _, rfl, rfl, by simp⟩⟩
  case isFalse hticks =>
    refine Decides.congr (and_iff_right hticks).symm ?_
    exact .map (Reply.keeps_onSuccess _) (decides_command (fun _ => rfl) fun _ _ => rfl)

lemma decides_handleLogStop (response : Reply Unit) :
    Decides env g .logStop (LinkUp env g) (handleLogStop response) :=
  decides_command (fun _ => rfl) fun _ _ => rfl

/-- The directory is created before anything is asked of the firmware. -/
abbrev directoryCreated (env : Environment σ) (g : World σ) : Except String Unit :=
  (g.after env (.query .isConnected)).answer env (.createDirectories g.shared.logDir)

lemma decides_handleLogDump (request : LogDump.Request) (response : Reply LogDump.Body) :
    Decides env g
      (.logDump (joinPath g.shared.logDir request.filename) request.wait
        (orDefault request.timeout 1) 3 (orDefault request.timeout (-1)))
      ((checkLogFilename request.filename).ok = true ∧
        (checkTimeout request.timeout "timeout").ok = true ∧ LinkUp env g ∧
        directoryCreated env g = .ok ())
      (handleLogDump request response) := by
  refine decides_refuseUnless (explained_checkLogFilename _) ?_
  refine decides_refuseUnless (explained_checkTimeout _ _) ?_
  refine decides_connected fun hlink => ?_
  have harm : ((g.after env (.query .isConnected)).after env
      (.createDirectories g.shared.logDir)).shared.arm.isSome = true := hlink.1
  have hlog : Log [] (g.after env (.query .isConnected))
      ((g.after env (.query .isConnected)).after env (.createDirectories g.shared.logDir)) :=
    .createDirectories _ _
  rw [Decides, wp_catching, wp_bind, wp_self]
  dsimp only
  rw [wp_bind, Config.after_shared, wp_ask]
  dsimp only
  rw [wp_bind]
  cases hcreated : (g.after env (.query .isConnected)).answer env
    (.createDirectories g.shared.logDir) with
  | error what =>
    rw [wp_orThrow_error]
    refine ⟨fun h => ?_, fun _ => ⟨hlog, rfl, _, rfl, rfl, by simp⟩⟩
    rw [directoryCreated, hcreated] at h
    simp at h
  | ok _ =>
    rw [wp_orThrow_ok]
    dsimp only
    rw [wp_bind, wp_armCommand harm, wp_command]
    generalize hdump : Config.answer env (.command _) _ = x
    cases x with
    | error what =>
      refine ⟨fun _ => ⟨_, _, (Log.command _ _).trans hlog, rfl, rfl, by simp, ?_⟩,
        fun h => absurd hcreated h⟩
      rw [hdump]
      simp [Command.Accepted, Except.isOk, Except.toBool]
    | ok bytes =>
      rw [wp_orThrow_ok]
      dsimp only
      rw [wp_bind, wp_armQuery (by exact harm), wp_query]
      dsimp only
      rw [wp_bind, wp_query]
      refine ⟨fun _ => ⟨_, _, (Log.query _ _).trans <| (Log.query _ _).trans <|
        (Log.command _ _).trans hlog, rfl, rfl, by simp, ?_⟩, fun h => absurd hcreated h⟩
      rw [hdump]
      simp [Command.Accepted, Except.isOk, Except.toBool]

end LitearmDriver
