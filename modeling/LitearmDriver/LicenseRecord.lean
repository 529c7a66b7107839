import LitearmDriver.Bench
import LitearmDriver.Steps

/-!
# The licence record across sessions

A session is opened by `connect` in `on_configure` and by `reconnect` in its handler, and
both read the licence record next. The rule is that a failing read fails neither of them, and
that the node then holds no record at all.
-/

namespace LitearmDriver

open Interaction Program

variable {σ : Type} {env : Environment σ} {g : World σ}

/-! ### The record of the current session -/

/-- What a command says about the record: a read that returned gives it, and after a read
that failed, or once a session was opened, there is none. -/
def Sent.record : Sent → Option (Option LicenseInfo)
  | ⟨.license, .ok license⟩ => some (some license)
  | ⟨.license, .error _⟩    => some none
  | ⟨.connect, .ok _⟩       => some none
  | ⟨.reconnect, .ok _⟩     => some none
  | _                       => none

/-- The record read since the session was opened, from the commands sent, most recent
first. -/
def recordOf : List Sent → Option LicenseInfo
  | []        => none
  | e :: sent => (Sent.record e).getD (recordOf sent)

/-- A record the node holds is the one of the current session. -/
def LicenseCurrent (g : World σ) : Prop :=
  g.shared.licenseValid = true → recordOf (sent g) = some g.shared.license

lemma recordOf_append {new old : List Sent} (h : ∀ e ∈ new, Sent.record e = none) :
    recordOf (new ++ old) = recordOf old := by
  induction new with
  | nil => rfl
  | cons e new ih =>
    rw [List.cons_append, recordOf, h e List.mem_cons_self, Option.getD_none]
    exact ih fun e he => h e (List.mem_cons_of_mem _ he)

/-- What says nothing about the record and leaves the members keeps the record current. -/
lemma LicenseCurrent.of_append {g' : World σ} (h : LicenseCurrent g) (new : List Sent)
    (hsent : sent g' = new ++ sent g) (hnew : ∀ e ∈ new, Sent.record e = none)
    (hvalid : g'.shared.licenseValid = g.shared.licenseValid)
    (hlicense : g'.shared.license = g.shared.license) : LicenseCurrent g' := by
  intro hheld
  rw [hsent, recordOf_append hnew, hlicense]
  exact h (hvalid.symm.trans hheld)

lemma LicenseCurrent.of_invalid (h : g.shared.licenseValid = false) : LicenseCurrent g :=
  fun hheld => nomatch h.symm.trans hheld

/-! ### Opening a session -/

/-- What the node holds after a licence read that ended in `x`. -/
def Holds (node : Node) : Except String LicenseInfo → Prop
  | .ok license => node.licenseValid = true ∧ node.license = license
  | .error _    => node.licenseValid = false

/-- A session was opened by a callback and the licence record read next. -/
def OpensAndReads (g g' : World σ) (x : Except String LicenseInfo) : Prop :=
  sent g' = ⟨.license, x⟩ :: ⟨.connect, .ok ()⟩ :: sent g ∨
    sent g' = ⟨.license, x⟩ :: ⟨.reconnect, .ok ()⟩ :: sent g

/-- The operation did not fail, or only for want of an entity. -/
def Succeeds (env : Environment σ) (cb : Callback) (g : World σ) : Prop :=
  match cb with
  | .changeState _ => (step env cb g).shared.currentState = .inactive ∨
      CreationFailed env g (step env cb g)
  | .service s request => ∃ response : s.Response,
      ((Callback.service s request).code.run env g).1 = .ok response ∧ response.success = true
  | _ => False

/-- The rule for an operation that opens a session: the outcome of the read decides what the
node holds, and not whether the operation succeeds. -/
def OpeningRule (env : Environment σ) (cb : Callback) (g : World σ) : Prop :=
  ∀ x, OpensAndReads g (step env cb g) x →
    Holds (step env cb g).shared x ∧ Succeeds env cb g

/-- A reconnect that returned is followed by a licence read that returns. -/
def LicenseReadable (env : Environment σ) (cb : Callback) (g : World σ) : Prop :=
  cb = .service .reconnect () → g.shared.arm.isSome = true →
    g.answer env (.command .reconnect) = .ok () →
    ∀ what, (afterReconnect env g).answer env (.command .license) ≠ .error what

lemma OpensAndReads.commands {g' : World σ} {x : Except String LicenseInfo}
    (h : OpensAndReads g g' x) (new : List Sent) (hsent : sent g' = new ++ sent g) :
    new = [⟨.license, x⟩, ⟨.connect, .ok ()⟩] ∨ new = [⟨.license, x⟩, ⟨.reconnect, .ok ()⟩] := by
  rcases h with h | h
  · exact .inl (List.append_cancel_right (hsent.symm.trans h))
  · exact .inr (List.append_cancel_right (hsent.symm.trans h))

/-- What a configuration holds once it has opened a session. -/
lemma holds_openSession (node : Node) (home : Option String) (axes : Nat)
    (x : Except String LicenseInfo) : Holds ((node.prepare home).openSession axes x) x := by
  cases x with
  | ok license => exact ⟨rfl, rfl⟩
  | error what => rfl

lemma holds_withoutEntities {node node' : Node} {x : Except String LicenseInfo}
    (h : node'.withoutEntities = node.withoutEntities) (hholds : Holds node x) :
    Holds node' x := by
  have hvalid := congrArg Node.licenseValid h
  have hlicense := congrArg Node.license h
  cases x with
  | ok license => exact ⟨hvalid.trans hholds.1, hlicense.trans hholds.2⟩
  | error what => exact hvalid.trans hholds

lemma Holds.enter {node : Node} {x : Except String LicenseInfo} (h : Holds node x)
    (state : PrimaryState) : Holds (node.enter state) x := by
  cases x <;> exact h

lemma opens_configure {r : Except Abort Unit} {g' : World σ} {x : Except String LicenseInfo}
    (hstep : TransitionStep env g .configure r g') (hopens : OpensAndReads g g' x) :
    Holds g'.shared x ∧
      (g'.shared.currentState = .inactive ∨ CreationFailed env g g') := by
  cases hstep with
  | unavailable => rcases hopens.commands [] rfl with h | h <;> cases h
  | unopened home hstate harm hshared hsent =>
    rcases hsent with hsent | ⟨x', hsent⟩
    · rcases hopens.commands [] hsent with h | h <;> cases h
    · rcases hopens.commands [_] hsent with h | h <;> cases h
  | unpublished home axes hstate hframe hsent hfailed =>
    rcases hopens.commands [_, _] hsent with h | h
    · cases h
      exact ⟨holds_withoutEntities hframe (holds_openSession _ _ _ _), .inr hfailed⟩
    · cases h
  | configured hstate hshared hsent =>
    rcases hopens.commands [_, _] hsent with h | h
    · cases h
      rw [hshared]
      refine ⟨Holds.enter ?_ _, .inl rfl⟩
      exact holds_withoutEntities (touchesEntities_addPublishers _) (holds_openSession _ _ _ _)
    · cases h

lemma opens_reconnect {response : Reply Unit} {g' : World σ} {x : Except String LicenseInfo}
    (hexit : ReconnectExit env g response g') (hopens : OpensAndReads g g' x) :
    g.shared.arm.isSome = true ∧ g.answer env (.command .reconnect) = .ok () ∧
      (afterReconnect env g).answer env (.command .license) = x ∧
      (response.success = true ↔ x.isOk = true) ∧ (x.isOk = true → Holds g'.shared x) := by
  cases hexit with
  | unconfigured => rcases hopens.commands [] rfl with h | h <;> cases h
  | unreachable => rcases hopens.commands [_] rfl with h | h <;> cases h
  | unlicensed harm hreconnect hlicense hfailed =>
    rcases hopens.commands [_, _] rfl with h | h
    · cases h
    · have hx := eq_of_heq (Sigma.mk.inj (List.cons.inj h).1).2
      obtain rfl := hlicense.symm.trans hx
      refine ⟨harm, hreconnect, hlicense, ?_, nofun⟩
      simp [hfailed, Except.isOk, Except.toBool]
  | rebuilt harm hreconnect hlicense hok =>
    rcases hopens.commands [_, _] rfl with h | h
    · cases h
    · have hx := eq_of_heq (Sigma.mk.inj (List.cons.inj h).1).2
      obtain rfl := hlicense.symm.trans hx
      refine ⟨harm, hreconnect, hlicense, ?_, fun _ => ⟨rfl, rfl⟩⟩
      simp [hok, Except.isOk, Except.toBool]

/-- Only the two operations that open a session read the record. -/
lemma Callback.MaySend.license {cb : Callback} (h : cb.MaySend .license) : cb.MayOpen := by
  rw [Callback.mayOpen_iff]
  cases cb with
  | changeState t =>
    cases t with
    | configure => exact .inl rfl
    | _ => simp [Callback.MaySend, Transition.Sends] at h
  | service s request =>
    rcases h with howner | ⟨rfl, -⟩
    · cases howner
    · exact .inr rfl
  | _ => exact absurd h id

/-- A reconnect that returned is reported as failed when the read after it throws. -/
lemma reconnect_unlicensed {response : Reply Unit} {g' : World σ} {what : String}
    (harm : g.shared.arm.isSome = true) (hreconnect : g.answer env (.command .reconnect) = .ok ())
    (hlicense : (afterReconnect env g).answer env (.command .license) = .error what)
    (hexit : ReconnectExit env g response g') :
    response.success = false ∧
      sent g' = ⟨.license, .error what⟩ :: ⟨.reconnect, .ok ()⟩ :: sent g := by
  cases hexit with
  | unconfigured hnone =>
    rw [hnone] at harm
    cases harm
  | unreachable _ hfailed => cases hreconnect.symm.trans hfailed
  | unlicensed _ _ _ hfailed =>
    refine ⟨hfailed, ?_⟩
    rw [← hlicense, ← hreconnect]
    rfl
  | rebuilt _ _ hread => cases hlicense.symm.trans hread

/-- A callback obeys the rule exactly when it is no reconnect whose licence read fails. -/
theorem openingRule_iff (cb : Callback) : OpeningRule env cb g ↔ LicenseReadable env cb g := by
  constructor
  · rintro hrule rfl harm hreconnect what hlicense
    have hexit : (handleReconnect default).wp env _ g := reconnect_exit default
    obtain ⟨response, hr, -, hexit⟩ := hexit
    obtain ⟨hfailed, hsent⟩ := reconnect_unlicensed harm hreconnect hlicense hexit
    obtain ⟨-, response', hr', hsuccess⟩ := hrule (.error what) (.inr hsent)
    obtain rfl : response = response' := Except.ok.inj (hr.symm.trans hr')
    rw [hfailed] at hsuccess
    cases hsuccess
  · intro hreadable x hopens
    obtain ⟨new, hsent, hall⟩ := step_sent env g cb
    have hmay : cb.MayOpen := by
      refine (hall ⟨.license, x⟩ ?_).license
      rcases hopens.commands new hsent with rfl | rfl
      · exact List.mem_cons_self
      · exact List.mem_cons_self
    rcases Callback.mayOpen_iff.mp hmay with rfl | rfl
    · exact opens_configure (change_step .configure) hopens
    · have hexit : (handleReconnect default).wp env _ g := reconnect_exit default
      obtain ⟨response, hr, -, hexit⟩ := hexit
      obtain ⟨harm, hreconnect, hlicense, hsuccess, hholds⟩ := opens_reconnect hexit hopens
      have hok : x.isOk = true := by
        cases x with
        | ok license => rfl
        | error what => exact absurd hlicense (hreadable rfl harm hreconnect what)
      exact ⟨hholds hok, response, hr, hsuccess.mpr hok⟩

/-! ### The record stays current -/

/-- What an opening operation holds after its read is the record of the session. -/
lemma LicenseCurrent.of_holds {g' : World σ} {x : Except String LicenseInfo} {rest : List Sent}
    (hsent : sent g' = ⟨.license, x⟩ :: rest) (h : Holds g'.shared x) : LicenseCurrent g' := by
  cases x with
  | ok license =>
    intro _
    rw [hsent, h.2]
    rfl
  | error what => exact .of_invalid h

lemma Command.owner_record {c : Command} {s : Service} {x : Except String c.Answer}
    (hs : s ≠ .reconnect) (h : c.owner = some s) : Sent.record ⟨c, x⟩ = none := by
  cases c with
  | license => cases h
  | connect => cases h
  | reconnect => exact absurd (Option.some.inj h).symm hs
  | _ => rfl

/-- A callback that opens no session says nothing about the record. -/
lemma step_record (env : Environment σ) (g : World σ) {cb : Callback} (hcb : ¬ cb.MayOpen) :
    ∃ new, sent (step env cb g) = new ++ sent g ∧ ∀ e ∈ new, Sent.record e = none := by
  obtain ⟨new, hsent, hall⟩ := step_sent env g cb
  refine ⟨new, hsent, fun e he => ?_⟩
  have hmay := hall e he
  obtain ⟨c, x⟩ := e
  cases cb with
  | changeState t =>
    cases t with
    | configure => exact absurd trivial hcb
    | activate =>
      obtain ⟨attempts, rfl⟩ := hmay
      rfl
    | deactivate | cleanup | shutdown =>
      cases hmay
      rfl
  | service s request =>
    have hs : s ≠ .reconnect := by
      rintro rfl
      exact hcb trivial
    rcases hmay with howner | ⟨hs', -⟩
    · exact Command.owner_record hs howner
    · exact absurd hs' hs
  | _ => exact absurd hmay id

/-- The record a node holds is kept or dropped. -/
def KeepsLicense (node node' : Node) : Prop :=
  node'.licenseValid = false ∨
    node'.licenseValid = node.licenseValid ∧ node'.license = node.license

lemma Command.effect_license (c : Command) (x : Except String c.Answer) (node : Node) :
    (c.effect x node).licenseValid = node.licenseValid ∧
      (c.effect x node).license = node.license := by
  cases x with
  | ok a => cases c <;> exact ⟨rfl, rfl⟩
  | error what => simp [c.effect_error]

lemma Refreshed.license {g₁ : World σ} (h : Refreshed env g g₁) :
    g₁.shared.licenseValid = g.shared.licenseValid ∧ g₁.shared.license = g.shared.license := by
  cases h <;> exact ⟨rfl, rfl⟩

/-- A callback that opens no session keeps or drops the record. -/
lemma step_keepsLicense (env : Environment σ) (g : World σ) {cb : Callback}
    (hcb : ¬ cb.MayOpen) :
    KeepsLicense g.shared (step env cb g).shared := by
  cases cb with
  | changeState t =>
    have hstep : (changeState t).wp env (TransitionStep env g t) g := change_step t
    have ht : t ≠ .configure := by
      rintro rfl
      exact hcb trivial
    rcases TransitionStep.keepsSession hstep ht with hdata | hended
    · exact .inr ⟨congrArg SessionData.licenseValid hdata, congrArg SessionData.license hdata⟩
    · exact .inl (congrArg Node.licenseValid hended)
  | service s request =>
    have hexit : (s.handle request default).wp env (ServiceExit env g s) g :=
      handle_exit s request default
    rw [step, Callback.code]
    rw [wp] at hexit
    generalize ((s.handle request default).run env g).2 = g' at hexit
    generalize ((s.handle request default).run env g).1 = r at hexit
    cases hexit with
    | declined hlog hshared =>
      rw [hshared]
      exact .inr ⟨rfl, rfl⟩
    | issued hs howner hlog hshared =>
      rw [hshared]
      exact .inr (Command.effect_license _ _ _)
    | reconnected => exact absurd trivial hcb
  | statusTimer =>
    obtain ⟨-, g₁, hrefreshed, hpublishes⟩ : publishStatus.wp env _ g := publishStatus_exit
    rw [step, Callback.code, hpublishes.shared]
    exact .inr hrefreshed.license
  | diagnosticsTimer =>
    obtain ⟨-, hpublishes⟩ : publishDiagnostics.wp env _ g := publishDiagnostics_exit
    rw [step, Callback.code, hpublishes.shared]
    exact .inr ⟨rfl, rfl⟩
  | setParameters p => exact .inr ⟨rfl, rfl⟩

lemma licenseCurrent_configure {r : Except Abort Unit} {g' : World σ} (h : LicenseCurrent g)
    (hstep : TransitionStep env g .configure r g') : LicenseCurrent g' := by
  cases hstep with
  | unavailable => exact h
  | unopened home hstate harm hshared =>
    refine .of_invalid ?_
    rw [hshared]
    rfl
  | unpublished home axes hstate hframe hsent =>
    exact .of_holds hsent (holds_withoutEntities hframe (holds_openSession _ _ _ _))
  | configured hstate hshared hsent =>
    refine .of_holds hsent ?_
    rw [hshared]
    refine Holds.enter ?_ _
    exact holds_withoutEntities (touchesEntities_addPublishers _) (holds_openSession _ _ _ _)

lemma licenseCurrent_reconnect {response : Reply Unit} {g' : World σ} (h : LicenseCurrent g)
    (hreadable : LicenseReadable env (.service .reconnect ()) g)
    (hexit : ReconnectExit env g response g') : LicenseCurrent g' := by
  cases hexit with
  | unconfigured => exact h
  | @unreachable what harm hreconnect =>
    refine h.of_append [⟨.reconnect, .error what⟩] ?_ (by simp [Sent.record]) rfl rfl
    rw [← hreconnect]
    rfl
  | unlicensed harm hreconnect hlicense =>
    exact absurd hlicense (hreadable rfl harm hreconnect _)
  | @rebuilt license harm hreconnect hlicense =>
    refine @LicenseCurrent.of_holds _ _ (.ok license) (sent (afterReconnect env g)) ?_ ⟨rfl, rfl⟩
    rw [← hlicense]
    rfl

/-- One callback keeps the record current, unless it is a reconnect whose read fails. -/
theorem licenseCurrent_step {cb : Callback} (hreadable : LicenseReadable env cb g)
    (h : LicenseCurrent g) : LicenseCurrent (step env cb g) := by
  by_cases hcb : cb.MayOpen
  · rcases Callback.mayOpen_iff.mp hcb with rfl | rfl
    · exact licenseCurrent_configure h (change_step .configure)
    · have hexit : (handleReconnect default).wp env _ g := reconnect_exit default
      obtain ⟨response, -, -, hexit⟩ := hexit
      exact licenseCurrent_reconnect h hreadable hexit
  obtain ⟨new, hsent, hnew⟩ := step_record env g hcb
  rcases step_keepsLicense env g hcb with hinvalid | ⟨hvalid, hlicense⟩
  · exact .of_invalid hinvalid
  · exact h.of_append new hsent hnew hvalid hlicense

/-! ### What is reported -/

/-- A status that calls the licence valid carries the given record. -/
def LitearmStatus.Licensed (m : LitearmStatus) (record : Option LicenseInfo) : Prop :=
  m.licenseValid = true → ∃ license, record = some license ∧
    m.licenseState = toUInt8 license.state ∧ m.licenseStateName = license.stateName ∧
    m.licenseUid = license.uidHex

/-- A published status carries the record of the session it is published in. -/
def StatusLicensed : Publication → List (Event Call.Answer) → Prop
  | .status m, before => m.Licensed (recordOf (commandsOf before))
  | _, _ => True

lemma LitearmStatus.ReportOf.licensed {node : Node} {fresh : Option RobotState}
    {m : LitearmStatus} {record : Option LicenseInfo} (h : m.ReportOf node fresh)
    (hcurrent : node.licenseValid = true → record = some node.license) : m.Licensed record := by
  obtain ⟨base, -, -, rfl⟩ := h
  intro hvalid
  cases hheld : node.licenseValid with
  | true => exact ⟨node.license, hcurrent hheld, rfl, rfl, rfl⟩
  | false =>
    rw [hheld] at hvalid
    cases hvalid

lemma commandsOf_reporting {events : List (Event Call.Answer)}
    (h : ∀ e ∈ events, e.1.isReporting = true) : commandsOf events = [] := by
  induction events with
  | nil => rfl
  | cons e events ih =>
    have hcall := h e List.mem_cons_self
    have hrest := ih fun e he => h e (List.mem_cons_of_mem _ he)
    obtain ⟨c, x⟩ := e
    cases c with
    | command c => cases hcall
    | _ => exact hrest

lemma Refreshed.sent {g₁ : World σ} (h : Refreshed env g g₁) :
    LitearmDriver.sent g₁ = LitearmDriver.sent g := by
  cases h <;> rfl

theorem statusLicensed_step (cb : Callback) (hcurrent : LicenseCurrent g)
    (h : EveryPublication StatusLicensed g.history) :
    EveryPublication StatusLicensed (step env cb g).history := by
  refine everyPublication_step cb h fun g₁ hg₁ p hp rest hrest => ?_
  cases p with
  | status m =>
    have hsame : LitearmDriver.sent g₁ = LitearmDriver.sent g ∧
        g₁.shared.licenseValid = g.shared.licenseValid ∧
        g₁.shared.license = g.shared.license := by
      rcases hg₁ with rfl | hrefreshed
      · exact ⟨rfl, rfl, rfl⟩
      · exact ⟨hrefreshed.sent, hrefreshed.license⟩
    obtain ⟨hsent, hvalid, hlicense⟩ := hsame
    refine LitearmStatus.ReportOf.licensed hp fun hheld => ?_
    rw [commandsOf_append, commandsOf_reporting hrest, List.nil_append, hlicense]
    exact (congrArg recordOf hsent).trans (hcurrent (hvalid.symm.trans hheld))
  | _ => trivial

/-- In every reachable state an operation that opens a session obeys the rule exactly when it
is no reconnect whose licence read throws. In every run without such a reconnect, the record
the node holds is that of the current session, and so is the record of every status message,
published or asked for. -/
theorem license_record :
    (∀ g : World σ, Reachable env g → ∀ cb : Callback,
      OpeningRule env cb g ↔ LicenseReadable env cb g) ∧
    (∀ g : World σ, ReachableWhen env (LicenseReadable env) g →
      LicenseCurrent g ∧ EveryPublication StatusLicensed g.history ∧
      ∀ (request : GetStatus.Request) (reply : Reply LitearmStatus),
        ((Callback.service .getStatus request).code.run env g).1 = .ok reply →
        reply.body.Licensed
          (recordOf (sent (step env (.service .getStatus request) g)))) := by
  refine ⟨fun g _ cb => openingRule_iff cb, fun g hg => ?_⟩
  have hinv : LicenseCurrent g ∧ EveryPublication StatusLicensed g.history :=
    hg.invariant (I := fun g => LicenseCurrent g ∧ EveryPublication StatusLicensed g.history)
      (fun _ _ _ => ⟨.of_invalid rfl, trivial⟩) fun cb _ hreadable h =>
        ⟨licenseCurrent_step hreadable h.1, statusLicensed_step cb h.1 h.2⟩
  refine ⟨hinv.1, hinv.2, fun request reply hreply => ?_⟩
  have hcurrent : LicenseCurrent (step env (.service .getStatus request) g) :=
    licenseCurrent_step nofun hinv.1
  have hreports : (handleGetStatus request default).wp env _ g := reports_handleGetStatus _ _
  rcases hreports reply hreply with hbody | ⟨frame, hreport⟩
  · rw [hbody]
    exact nofun
  · exact LitearmStatus.ReportOf.licensed hreport hcurrent

/-- A node whose device was swapped for another one. -/
def replacedBench : World Bench :=
  benchRun {} [{}, { license := .ok (activatedLicense "B2") }]
    [.changeState .configure, .service .reconnect ()]

theorem license_record_replaced :
    recordOf (sent replacedBench) = some (activatedLicense "B2") := by
  have hrun : ReachableWhen bench (LicenseReadable bench) replacedBench := by
    refine .step _ ?_ (.step _ ?_ (.fresh _ _ _))
    · exact fun _ _ _ _ => nofun
    · exact nofun
  exact (license_record.2 _ hrun).1 rfl

/-- A node in service whose device was swapped for one that does not answer the read. -/
def unreadableBench : World Bench :=
  benchRun {} [{}, { license := .error "no answer to the licence read" }]
    [.changeState .configure, .changeState .activate, .service .reconnect (), .statusTimer]

/-- The reconnect is reported as failed, and the status published next carries the record of
the device before. -/
theorem stale_license_published :
    Reachable bench unreadableBench ∧
      ¬ OpeningRule bench (.service .reconnect ())
        (benchRun {} [{}, { license := .error "no answer to the licence read" }]
          [.changeState .configure, .changeState .activate]) ∧
      ¬ EveryPublication StatusLicensed unreadableBench.history := by
  refine ⟨reachable_benchRun _ _ _, fun h => ?_, fun h => ?_⟩
  · obtain ⟨hholds, -⟩ := h (.error "no answer to the licence read") (.inr rfl)
    cases hholds
  · obtain ⟨hlicensed, -⟩ := h
    obtain ⟨license, hrecord, -⟩ := hlicensed rfl
    cases hrecord

end LitearmDriver
