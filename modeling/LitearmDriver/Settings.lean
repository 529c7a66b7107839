import LitearmDriver.Bench
import LitearmDriver.Interaction.Knowledge
import LitearmDriver.OptIns
import LitearmDriver.Outcome.Surface

/-!
# What was written is read back

The firmware keeps the feedforward registers, the staged model and the joint parameters, and
clamps what is written to them. A client that sees nothing but the replies of the node keeps a
table of the values it knows: what it wrote with success, clamped, and what it was told. On a
firmware that keeps its settings the table is right throughout every run, so no reply ever
tells a value that contradicts it.
-/

namespace LitearmDriver

open Interaction Program

variable {σ Body : Type} {env : Environment σ} {g g' : World σ} {c : Command}

/-! ### Settings -/

/-- A value that the firmware keeps and that services write and read. -/
inductive Setting where
  | feedforwardMask
  | feedforwardScalar (item sub : Int)
  | feedforwardVector (item : Int)
  | modelBody (body : Int)
  | modelJm
  | jointGains (joint : Int)
  | jointLimits (joint : Int)
  deriving DecidableEq

/-- The gains are `kp`, `kd` and `tau_max`, the limits `q_min` and `q_max`. -/
abbrev Setting.Value : Setting → Type
  | .feedforwardMask => UInt32
  | .feedforwardScalar .. => Double
  | .feedforwardVector _ | .modelBody _ | .modelJm => List Double
  | .jointGains _ => Double × Double × Double
  | .jointLimits _ => Double × Double

/-- A setting together with a value. -/
abbrev Entry := Σ setting : Setting, setting.Value

def Setting.isFeedforward : Setting → Bool
  | .feedforwardMask | .feedforwardScalar .. | .feedforwardVector _ => true
  | _ => false

def Setting.isModel : Setting → Bool
  | .modelBody _ | .modelJm => true
  | _ => false

/-- What a row of the parameter table says of an axis. -/
def JointParam.entries (param : JointParam) (joint : Int) : List Entry :=
  [⟨.jointGains joint, (param.kp, param.kd, param.tauMax)⟩,
    ⟨.jointLimits joint, (param.qMin, param.qMax)⟩]

/-! ### The device's side -/

/-- The setting a command writes. -/
def Command.writes : Command → Option Entry
  | .setFfMask mask => some ⟨.feedforwardMask, mask⟩
  | .setFfScalar item sub value => some ⟨.feedforwardScalar item sub, value⟩
  | .setFfVec item values => some ⟨.feedforwardVector item, values⟩
  | .modelSetBody body values => some ⟨.modelBody body, values⟩
  | .modelSetJm values => some ⟨.modelJm, values⟩
  | .setJointParam joint kp kd tauMax => some ⟨.jointGains joint, (kp, kd, tauMax)⟩
  | .setJointLimits joint qMin qMax => some ⟨.jointLimits joint, (qMin, qMax)⟩
  | _ => none

/-- What the answer to a command tells of the settings. -/
def Command.tells : (c : Command) → c.Answer → List Entry
  | .getFfMask, mask => [⟨.feedforwardMask, toUInt32 mask⟩]
  | .getFfScalar item sub, value => [⟨.feedforwardScalar item sub, value⟩]
  | .getFfVec item, values => [⟨.feedforwardVector item, values⟩]
  | .modelGetBody body, values => [⟨.modelBody body, values⟩]
  | .modelGetJm, values => [⟨.modelJm, values⟩]
  | .getJointParam joint, param => param.entries joint
  | .allJointParams, params => params.flatMap fun param => param.entries param.index.toInt
  | _, _ => []

/-- The command may change the setting: it writes it, it writes it among others, or it resets or
replaces the device. -/
def Command.touches (c : Command) (setting : Setting) : Bool :=
  match c with
  | .connect | .close | .reconnect | .reset | .resetFactory | .enterDfu => true
  | .ffPreset _ | .setPayload .. | .setGravityScale _ | .setInertiaScale _
  | .setGravityVector _ => setting.isFeedforward
  | .modelCommit _ | .modelRevert => setting.isModel
  | c => c.writes.elim false (·.1 = setting)

/-- A firmware that keeps its settings. A write that is accepted leaves what the firmware makes
of the value, an answer tells what is kept, and only a command that may changes a setting. -/
structure KeepsSettings (env : Environment σ) (content : σ → (setting : Setting) → setting.Value)
    (clamp : (setting : Setting) → setting.Value → setting.Value) : Prop where
  kept : ∀ c w setting, (∀ command, c = .command command → command.touches setting = false) →
    content (env c w).2 setting = content w setting
  written : ∀ c e w a, Command.writes c = some e → (env (.command c) w).1 = .ok a →
    content (env (.command c) w).2 e.1 = clamp e.1 e.2
  told : ∀ c w a, (env (.command c) w).1 = .ok a → ∀ e ∈ c.tells a, content w e.1 = e.2

/-! ### The client's side -/

/-- The setting a request writes. -/
def Service.writes : (s : Service) → s.Request → Option Entry
  | .setFeedforwardMask, request => some ⟨.feedforwardMask, request.mask⟩
  | .setFeedforwardScalar, request =>
    some ⟨.feedforwardScalar request.item.toInt request.sub.toInt, request.value⟩
  | .setFeedforwardVector, request =>
    some ⟨.feedforwardVector request.item.toInt, request.values⟩
  | .setModelBody, request => some ⟨.modelBody request.body.toInt, request.values⟩
  | .setModelJm, request => some ⟨.modelJm, request.values⟩
  | .setJointGains, request =>
    some ⟨.jointGains request.joint.toInt, (request.kp, request.kd, request.tauMax)⟩
  | .setJointLimits, request =>
    some ⟨.jointLimits request.joint.toInt, (request.qMin, request.qMax)⟩
  | _, _ => none

/-- What a response tells of the settings. A negative axis asks for the whole table. -/
def Service.tells : (s : Service) → s.Request → s.Response → List Entry
  | .getFeedforwardMask, _, response => [⟨.feedforwardMask, response.body⟩]
  | .getFeedforwardScalar, request, response =>
    [⟨.feedforwardScalar request.item.toInt request.sub.toInt, response.body⟩]
  | .getFeedforwardVector, request, response =>
    [⟨.feedforwardVector request.item.toInt, response.body⟩]
  | .getModelBody, request, response => [⟨.modelBody request.body.toInt, response.body⟩]
  | .getModelJm, _, response => [⟨.modelJm, response.body⟩]
  | .getJointParams, request, response => response.body.flatMap fun param =>
    param.entries (if 0 ≤ request.joint.toInt then request.joint.toInt else param.index.toInt)
  | _, _, _ => []

/-- The service may change the setting. -/
def Service.touches (s : Service) (request : s.Request) (setting : Setting) : Bool :=
  match s with
  | .reconnect | .reset | .resetFactoryParams | .enterDfu => true
  | .setFeedforwardPreset | .setPayload | .setGravityScale | .setInertiaScale
  | .setGravityVector => setting.isFeedforward
  | .commitModel | .revertModel => setting.isModel
  | s => (s.writes request).elim false (·.1 = setting)

/-- The callback may change the setting. -/
def Callback.touches : Callback → Setting → Bool
  | .changeState .configure, _ | .changeState .cleanup, _ | .changeState .shutdown, _ => true
  | .service s request, setting => s.touches request setting
  | _, _ => false

/-- What a reply adds to what a client knows: the value that a write left, or what was read. -/
def Callback.news (clamp : (setting : Setting) → setting.Value → setting.Value) :
    (cb : Callback) → Except Abort cb.Result → List Entry
  | .service s request, .ok response => if response.success then
      (s.writes request).toList.map (fun e => ⟨e.1, clamp e.1 e.2⟩) ++ s.tells request response
    else []
  | _, _ => []

/-- The client forgets what a callback may have changed and learns what its reply says. -/
def learn (clamp : (setting : Setting) → setting.Value → setting.Value) (cb : Callback)
    (r : Except Abort cb.Result) (known : Known Setting.Value) : Known Setting.Value :=
  (cb.news clamp r).foldl Known.learn (known.forget cb.touches)

/-! ### What a history does to the settings -/

variable {α : Type} {content : σ → (setting : Setting) → setting.Value}
  {clamp : (setting : Setting) → setting.Value → setting.Value}

/-- The moment of the one command among the events. -/
lemma commandsOf_single {new : List (Event Call.Answer)} {e : Sent} (h : commandsOf new = [e]) :
    ∃ later earlier, new = later ++ ⟨.command e.1, e.2⟩ :: earlier ∧ commandsOf later = [] ∧
      commandsOf earlier = [] := by
  induction new with
  | nil => cases h
  | cons e' new ih =>
    obtain ⟨c, x⟩ := e'
    cases c with
    | command c =>
      obtain ⟨rfl, hnew⟩ := List.cons.inj h
      exact ⟨[], new, rfl, rfl, hnew⟩
    | _ =>
      obtain ⟨later, earlier, rfl, hlater, hearlier⟩ := ih h
      exact ⟨_ :: later, earlier, rfl, hlater, hearlier⟩

/-- A setting that no command among the events may change stays as it was. -/
lemma KeepsSettings.replay (henv : KeepsSettings env content clamp)
    {events : List (Event Call.Answer)} {w w' : σ} (h : Replay env events w w')
    {setting : Setting} (hcs : ∀ e ∈ commandsOf events, e.1.touches setting = false) :
    content w' setting = content w setting := by
  refine h.invariant (I := fun w' => content w' setting = content w setting) ?_ rfl
  rintro ⟨c, x⟩ he w' hw'
  refine (henv.kept c w' setting ?_).trans hw'
  rintro c rfl
  exact hcs _ (mem_commandsOf.mpr he)

/-- A run keeps the settings that none of its commands may change. -/
lemma KeepsSettings.run (henv : KeepsSettings env content clamp) {p : Code α} {cs : List Sent}
    (h : Log cs g (p.run env g).2) {setting : Setting}
    (hcs : ∀ e ∈ cs, e.1.touches setting = false) :
    content (p.run env g).2.outside setting = content g.outside setting := by
  obtain ⟨new, hnew, rfl, -⟩ := h
  exact henv.replay (replay_of_history hnew) hcs

/-- A run of one command: the settings are those before until it is sent, and those it leaves
from then on. -/
lemma KeepsSettings.moment (henv : KeepsSettings env content clamp) {p : Code α}
    {x : Except String c.Answer} (h : Log [⟨c, x⟩] g (p.run env g).2) :
    ∃ w, (env (.command c) w).1 = x ∧ content w = content g.outside ∧
      content (p.run env g).2.outside = content (env (.command c) w).2 := by
  obtain ⟨new, hnew, hcs, -⟩ := h
  obtain ⟨later, earlier, rfl, hlater, hearlier⟩ := commandsOf_single hcs
  obtain ⟨w, hbefore, hx, hafter⟩ := (replay_of_history hnew).split
  refine ⟨w, hx, ?_, ?_⟩
  · funext setting
    exact henv.replay hbefore (by simp [hearlier])
  · funext setting
    exact henv.replay hafter (by simp [hlater])

/-! ### Services that write -/

/-- The write was refused, or sent as the one command. -/
def Wrote (e : Entry) (g : World σ) (r : Except Abort (Reply Body)) (g' : World σ) : Prop :=
  ∃ response, r = .ok response ∧ (Log [] g g' ∧ response.success = false ∨
    ∃ c x, Command.writes c = some e ∧ Log [⟨c, x⟩] g g' ∧
      (response.success = true → ∃ a, x = .ok a))

lemma Decides.wrote {G : Prop} {p : Code (Reply Body)} {e : Entry} (h : Decides env g c G p)
    (hc : c.writes = some e) : p.wp env (Wrote e g) g := by
  refine wp_mono h fun r g' hd => ?_
  by_cases hG : G
  · obtain ⟨x, response, hlog, -, rfl, -, hsuccess⟩ := hd.issued hG
    refine ⟨response, rfl, .inr ⟨c, x, hc, hlog, fun h => ?_⟩⟩
    cases x with
    | ok a => exact ⟨a, rfl⟩
    | error what => exact absurd (hsuccess.mp h) (c.not_accepted_error what)
  · obtain ⟨hlog, -, response, rfl, hfailed, -⟩ := hd.refused hG
    exact ⟨response, rfl, .inl ⟨hlog, hfailed⟩⟩

/-- A service that writes a setting sends that one write or nothing. -/
lemma wrote_handle {s : Service} {request : s.Request} {e : Entry}
    (h : s.writes request = some e) (response : s.Response) :
    (s.handle request response).wp env (Wrote e g) g := by
  cases s with
  | setFeedforwardMask => exact (decides_handleSetFeedforwardMask _ _).wrote h
  | setFeedforwardScalar => exact (decides_handleSetFeedforwardScalar _ _).wrote h
  | setFeedforwardVector => exact (decides_handleSetFeedforwardVector _ _).wrote h
  | setModelBody => exact (decides_handleSetModelBody _ _).wrote h
  | setModelJm => exact (decides_handleSetModelJm _ _).wrote h
  | setJointGains => exact (decides_handleSetJointGains _ _).wrote h
  | setJointLimits => exact (decides_handleSetJointLimits _ _).wrote h
  | _ => cases h

/-! ### Services that read -/

/-- What a success tells was answered to the one command that was sent, and which changes
nothing. -/
def Told (tells : Reply Body → List Entry) (g : World σ) (r : Except Abort (Reply Body))
    (g' : World σ) : Prop :=
  ∀ response, r = .ok response → response.success = true → ∀ e ∈ tells response,
    ∃ (c : Command) (a : c.Answer), Log [⟨c, .ok a⟩] g g' ∧ e ∈ c.tells a ∧
      ∀ setting, c.touches setting = false

section Told

variable {tells : Reply Body → List Entry} {response : Reply Body}

lemma Told.of_log {r : Except Abort (Reply Body)} {g₁ : World σ} (hlog : Log [] g g₁)
    (h : Told tells g₁ r g') : Told tells g r g' := by
  intro response hr hsuccess e he
  obtain ⟨c, a, hsent, htells⟩ := h response hr hsuccess e he
  exact ⟨c, a, hsent.trans hlog, htells⟩

lemma told_of_failure (h : response.success = false) : Told tells g (.ok response) g' := by
  rintro _ ⟨⟩ hsuccess
  cases h.symm.trans hsuccess

lemma told_refuseUnless {gate : GateResult} {rest : Code (Reply Body)}
    (h : rest.wp env (Told tells g) g) :
    (refuseUnless gate response rest).wp env (Told tells g) g := by
  rw [wp_refuseUnless]
  split
  case isTrue => exact h
  case isFalse => exact told_of_failure rfl

/-- The link is looked at first. -/
lemma told_connected {rest : Code (Reply Body)} (h : ∀ g₁, rest.wp env (Told tells g₁) g₁) :
    (connected >>= fun link => refuseUnless (checkConnected link) response rest).wp env
      (Told tells g) g := by
  have hstart : ∀ g₁ link, Log [] g g₁ →
      (refuseUnless (checkConnected link) response rest).wp env (Told tells g) g₁ := by
    intro g₁ link hlog
    exact wp_mono (told_refuseUnless (h g₁)) fun _ _ => .of_log hlog
  rw [wp_bind]
  apply connected_looks
  rintro link g₁ (rfl | rfl)
  · exact hstart _ link (.refl _)
  · exact hstart _ link (.query _ g)

/-- The common case: one command that reads, and a reply filled from its answer. -/
lemma told_runCommand {what : String} {f : Reply Body → c.Answer → Reply Body}
    (htells : ∀ a success message, ∀ e ∈ tells { f response a with success, message },
      e ∈ c.tells a)
    (hc : ∀ setting, c.touches setting = false) :
    (runCommand what response fun response => command c >>= fun a =>
      Pure.pure (f response a)).wp env (Told tells g) g := by
  refine told_connected fun g₁ => ?_
  have hlog : Log [⟨c, g₁.answer env (.command c)⟩] g₁ (g₁.after env (.command c)) :=
    .command c g₁
  rw [wp_catching, wp_bind, wp_bind, wp_command]
  generalize g₁.answer env (.command c) = x at hlog
  cases x with
  | ok a =>
    rintro _ ⟨⟩ - e he
    exact ⟨c, a, hlog, htells a _ _ e he, hc⟩
  | error what => exact told_of_failure rfl

end Told

lemma told_handleGetJointParams (request : GetJointParams.Request)
    (response : Reply (List JointParam)) :
    (handleGetJointParams request response).wp env
      (Told (Service.getJointParams.tells request) g) g := by
  by_cases hjoint : 0 ≤ request.joint.toInt
  · simp only [handleGetJointParams, if_pos hjoint]
    rw [refuseUnlessConnected_eq]
    refine told_connected fun g₁ => ?_
    rw [wp_bind]
    by_cases harm : g₁.shared.arm.isSome = true
    · rw [wp_armQuery harm, wp_query]
      refine wp_mono (told_refuseUnless ?_) fun _ _ => .of_log (.query _ _)
      refine told_runCommand (c := .getJointParam _) (fun a _ _ e he => ?_) fun _ => rfl
      simpa [Service.tells, hjoint, Command.tells] using he
    · have hnone : g₁.shared.arm.isNone = true := by simpa using harm
      simp only [armQuery, wp_bind, wp_derefArm, hnone, if_true]
      rintro _ ⟨⟩
  · simp only [handleGetJointParams, if_neg hjoint]
    rw [refuseUnlessConnected_eq]
    refine told_connected fun g₁ => ?_
    refine told_runCommand (c := .allJointParams) (fun a _ _ e he => ?_) fun _ => rfl
    simpa [Service.tells, hjoint, Command.tells] using he

lemma told_handleGetFeedforwardMask (response : Reply UInt32) :
    (handleGetFeedforwardMask response).wp env (Told (Service.getFeedforwardMask.tells ()) g) g :=
  told_runCommand (c := .getFfMask) (fun _ _ _ _ => id) fun _ => rfl

lemma told_handleGetFeedforwardScalar (request : GetFeedforwardScalar.Request)
    (response : Reply Double) :
    (handleGetFeedforwardScalar request response).wp env
      (Told (Service.getFeedforwardScalar.tells request) g) g :=
  told_runCommand (c := .getFfScalar _ _) (fun _ _ _ _ => id) fun _ => rfl

lemma told_handleGetFeedforwardVector (request : GetFeedforwardVector.Request)
    (response : Reply (List Double)) :
    (handleGetFeedforwardVector request response).wp env
      (Told (Service.getFeedforwardVector.tells request) g) g :=
  told_runCommand (c := .getFfVec _) (fun _ _ _ _ => id) fun _ => rfl

lemma told_handleGetModelBody (request : GetModelBody.Request) (response : Reply (List Double)) :
    (handleGetModelBody request response).wp env
      (Told (Service.getModelBody.tells request) g) g :=
  told_runCommand (c := .modelGetBody _) (fun _ _ _ _ => id) fun _ => rfl

lemma told_handleGetModelJm (response : Reply (List Double)) :
    (handleGetModelJm response).wp env (Told (Service.getModelJm.tells ()) g) g :=
  told_runCommand (c := .modelGetJm) (fun _ _ _ _ => id) fun _ => rfl

/-- A service that tells of settings reads them by one command, which changes none. -/
lemma told_handle (s : Service) (request : s.Request) (response : s.Response) :
    (s.handle request response).wp env (Told (s.tells request) g) g := by
  cases s with
  | getFeedforwardMask => exact told_handleGetFeedforwardMask response
  | getFeedforwardScalar => exact told_handleGetFeedforwardScalar request response
  | getFeedforwardVector => exact told_handleGetFeedforwardVector request response
  | getModelBody => exact told_handleGetModelBody request response
  | getModelJm => exact told_handleGetModelJm response
  | getJointParams => exact told_handleGetJointParams request response
  | _ => exact fun _ _ _ e he => absurd he List.not_mem_nil

/-! ### The table is right -/

/-- A service that writes no setting of its own changes only what its command may. -/
lemma Command.touches_of_owner {s : Service} {request : s.Request} (hs : s.writes request = none)
    (howner : c.owner = some s) {setting : Setting} (hc : c.touches setting = true) :
    s.touches request setting = true := by
  cases c <;> cases howner <;> first | exact hc | cases hs

lemma Command.touches_of_writes {e : Entry} (h : c.writes = some e) (setting : Setting) :
    c.touches setting = decide (e.1 = setting) := by
  cases c <;> cases h <;> rfl

lemma Service.touches_of_writes {s : Service} {request : s.Request} {e : Entry}
    (h : s.writes request = some e) (setting : Setting) :
    s.touches request setting = decide (e.1 = setting) := by
  cases s <;> cases h <;> rfl

/-- What no command of the callback may change stays as it was. -/
lemma KeepsSettings.calls (henv : KeepsSettings env content clamp) {p : Code α}
    {C : Command → Prop} (hp : p.Calls (Call.Sends C)) {setting : Setting}
    (hC : ∀ c, C c → c.touches setting = false) :
    content (p.run env g).2.outside setting = content g.outside setting := by
  refine hp.preserves env
    (I := fun g' => content g'.outside setting = content g.outside setting) ?_ (fun _ _ => id) rfl
  intro c g' hc hg'
  refine (henv.kept c g'.outside setting ?_).trans hg'
  rintro c rfl
  exact hC c hc

theorem KeepsSettings.untouched (henv : KeepsSettings env content clamp) {cb : Callback}
    {setting : Setting} (hcb : cb.touches setting = false) :
    content (step env cb g).outside setting = content g.outside setting := by
  cases cb with
  | changeState t =>
    refine henv.calls (calls_code (.changeState t)) fun c hc => ?_
    cases t with
    | configure | cleanup | shutdown => cases hcb
    | activate =>
      obtain ⟨attempts, rfl⟩ := hc
      rfl
    | deactivate =>
      obtain rfl : c = .zeroGStop true := hc
      rfl
  | service s request =>
    cases hwrites : s.writes request with
    | none =>
      refine henv.calls (calls_code (.service s request)) fun c hc => ?_
      rcases hc with howner | ⟨-, rfl⟩
      · refine Bool.eq_false_iff.mpr fun htouches => ?_
        exact Bool.eq_false_iff.mp hcb (Command.touches_of_owner hwrites howner htouches)
      · rfl
    | some e =>
      have hwrote : (s.handle request default).wp env (Wrote e g) g := wrote_handle hwrites _
      obtain ⟨-, -, ⟨hlog, -⟩ | ⟨c, x, hc, hlog, -⟩⟩ := hwrote
      · exact henv.run hlog (by simp)
      · refine henv.run hlog fun e' he' => ?_
        obtain rfl := List.mem_singleton.mp he'
        rw [Command.touches_of_writes hc, ← Service.touches_of_writes hwrites]
        exact hcb
  | _ => exact henv.calls (calls_code _) fun _ => False.elim

/-- What a reply says is the case. -/
theorem KeepsSettings.news (henv : KeepsSettings env content clamp) {cb : Callback} {e : Entry}
    (he : e ∈ cb.news clamp (cb.code.run env g).1) :
    content (step env cb g).outside e.1 = e.2 := by
  cases cb with
  | service s request =>
    have htold : (s.handle request default).wp env (Told (s.tells request) g) g :=
      told_handle s request _
    generalize hr : ((Callback.service s request).code.run env g).1 = r at he
    cases r with
    | error e => cases he
    | ok response =>
      rw [Callback.news] at he
      split at he
      case isFalse => cases he
      case isTrue hsuccess =>
      rcases List.mem_append.mp he with he | he
      · obtain ⟨e', he', rfl⟩ := List.mem_map.mp he
        have hwrites : s.writes request = some e' := by simpa using he'
        have hwrote : (s.handle request default).wp env (Wrote e' g) g := wrote_handle hwrites _
        obtain ⟨response', hr', ⟨-, hfailed⟩ | ⟨c, x, hc, hlog, hx⟩⟩ := hwrote
        · cases hr.symm.trans hr'
          cases hfailed.symm.trans hsuccess
        · cases hr.symm.trans hr'
          obtain ⟨a, rfl⟩ := hx hsuccess
          obtain ⟨w, hx, -, hafter⟩ := henv.moment hlog
          exact (congrFun hafter _).trans (henv.written c e' w a hc hx)
      · obtain ⟨c, a, hlog, hmem, htouches⟩ := htold response hr hsuccess e he
        obtain ⟨w, hx, hbefore, -⟩ := henv.moment hlog
        have hkept : content (step env (.service s request) g).outside e.1 =
            content g.outside e.1 := henv.run hlog (by simp [htouches])
        exact hkept.trans ((congrFun hbefore _).symm.trans (henv.told c w a hx e hmem))
  | _ => cases he

/-- A reading changes nothing of what it tells. -/
lemma Service.touches_of_tells {s : Service} {request : s.Request} {response : s.Response}
    {e : Entry} (he : e ∈ s.tells request response) (setting : Setting) :
    s.touches request setting = false := by
  cases s <;> first | rfl | cases he

/-- Throughout a run the client's table is right. -/
theorem known_settings (henv : KeepsSettings env content clamp) (cbs : List Callback)
    (g : World σ) : (follow env Callback.code (learn clamp) cbs g fun _ => none).Of
      (content (runAll env Callback.code cbs g).outside) := by
  refine follow_sound (I := fun (known : Known Setting.Value) (g : World σ) =>
    known.Of (content g.outside)) ?_ cbs .nothing
  intro cb known g h
  exact (h.forget fun setting hcb => henv.untouched hcb).learnAll fun e he => henv.news he

/-- On a firmware that keeps its settings a successful reading tells, of every setting that the
client knows from the replies it got before, the value it knows. -/
theorem settings_read_back (henv : KeepsSettings env content clamp) (cbs : List Callback)
    (g : World σ) (s : Service) (request : s.Request) {response : s.Response}
    (hreply : ((Callback.service s request).code.run env
      (runAll env Callback.code cbs g)).1 = .ok response)
    (hsuccess : response.success = true) {e : Entry} (he : e ∈ s.tells request response)
    {v : e.1.Value}
    (hv : follow env Callback.code (learn clamp) cbs g (fun _ => none) e.1 = some v) :
    e.2 = v := by
  have hnews : e ∈ (Callback.service s request).news clamp
      ((Callback.service s request).code.run env (runAll env Callback.code cbs g)).1 := by
    rw [hreply, Callback.news, if_pos hsuccess]
    exact List.mem_append_right _ he
  have hkept : content (step env (.service s request) (runAll env Callback.code cbs g)).outside
      e.1 = content (runAll env Callback.code cbs g).outside e.1 :=
    henv.untouched (Service.touches_of_tells he e.1)
  calc e.2 = content (step env (.service s request) (runAll env Callback.code cbs g)).outside e.1 :=
        (henv.news hnews).symm
    _ = content (runAll env Callback.code cbs g).outside e.1 := hkept
    _ = v := known_settings henv cbs g e.1 v hv

/-! ### A device that stores -/

/-- The values a device keeps. -/
abbrev Settings := (setting : Setting) → setting.Value

/-- What the readings of a device answer that keeps these values. -/
def Settings.recall (settings : Settings) :
    (c : Command) → Except String c.Answer → Except String c.Answer
  | .getFfMask, _ => .ok (settings .feedforwardMask).toNat
  | .getFfScalar item sub, _ => .ok (settings (.feedforwardScalar item sub))
  | .getFfVec item, _ => .ok (settings (.feedforwardVector item))
  | .modelGetBody body, _ => .ok (settings (.modelBody body))
  | .modelGetJm, _ => .ok (settings .modelJm)
  | .getJointParam joint, _ =>
    let (kp, kd, tauMax) := settings (.jointGains joint)
    let (qMin, qMax) := settings (.jointLimits joint)
    .ok ⟨.ofInt joint, kp, kd, tauMax, qMin, qMax⟩
  | _, x => x

/-- The firmware of the bench stores no negative scalar. -/
def clampScalar : (setting : Setting) → setting.Value → setting.Value
  | .feedforwardScalar .., value => if value < 0 then 0 else value
  | _, value => value

def Settings.store (settings : Settings) (e : Entry) : Settings :=
  Function.update settings e.1 (clampScalar e.1 e.2)

/-- The bench with a device that stores what is written to it. -/
def storingBench : Environment (Bench × Settings)
  | .command c, (b, settings) =>
    let x := bench (.command c) b
    (settings.recall c x.1, x.2, c.writes.elim settings settings.store)
  | c, (b, settings) => ((bench c b).1, (bench c b).2, settings)

lemma toUInt32_toNat (x : UInt32) : toUInt32 x.toNat = x := by
  have hx : x.toNat < 4294967296 := x.toNat_lt
  have hmod : ((x.toNat : Int) % 4294967296).toNat = x.toNat := by omega
  rw [toUInt32, hmod, UInt32.ofNat_toNat]

lemma keepsSettings_storingBench : KeepsSettings storingBench Prod.snd clampScalar := by
  constructor
  · rintro c ⟨b, settings⟩ setting hc
    cases c with
    | command c =>
      have htouches := hc c rfl
      change c.writes.elim settings settings.store setting = settings setting
      cases hwrites : c.writes with
      | none => rfl
      | some e =>
        rw [Command.touches_of_writes hwrites] at htouches
        exact Function.update_of_ne (Ne.symm (by simpa using htouches)) _ _
    | _ => rfl
  · rintro c e ⟨b, settings⟩ a hwrites -
    change c.writes.elim settings settings.store e.1 = _
    rw [hwrites]
    exact Function.update_self ..
  · rintro c ⟨b, settings⟩ a ha e he
    change settings.recall c (bench (.command c) b).1 = .ok a at ha
    change settings e.1 = e.2
    cases c with
    | getFfMask =>
      obtain rfl := Except.ok.inj ha
      obtain rfl := List.mem_singleton.mp he
      exact (toUInt32_toNat _).symm
    | getFfScalar | getFfVec | modelGetBody | modelGetJm =>
      obtain rfl := Except.ok.inj ha
      obtain rfl := List.mem_singleton.mp he
      rfl
    | getJointParam joint =>
      obtain rfl := Except.ok.inj ha
      rcases List.mem_cons.mp he with rfl | he
      · rfl
      · obtain rfl := List.mem_singleton.mp he
        rfl
    | allJointParams =>
      obtain rfl := Except.ok.inj ha
      cases he
    | _ => cases he

/-- A node that was just constructed, for a device whose settings are all zero. -/
def storingNode : World (Bench × Settings) :=
  .fresh "litearm_driver" {} ({ upcoming := [{}] }, fun setting => match setting with
    | .feedforwardMask => 0
    | .feedforwardScalar .. => 0
    | .feedforwardVector _ | .modelBody _ | .modelJm => []
    | .jointGains _ => (0, 0, 0)
    | .jointLimits _ => (0, 0))

/-- Two scalars are written, one of them negative, and the node pauses. -/
def writingSession : List Callback :=
  [.changeState .configure, .changeState .activate,
    .service .setFeedforwardScalar ⟨1, 0, -2⟩, .statusTimer,
    .service .setFeedforwardScalar ⟨2, 0, 5⟩, .changeState .deactivate, .changeState .activate]

theorem settings_read_back_scalar : ∃ response : Reply Double,
    ((Callback.service .getFeedforwardScalar ⟨1, 0⟩).code.run storingBench
      (runAll storingBench Callback.code writingSession storingNode)).1 = .ok response ∧
      response.body = 0 :=
  ⟨_, rfl, settings_read_back keepsSettings_storingBench writingSession storingNode
    .getFeedforwardScalar ⟨1, 0⟩ rfl rfl (List.mem_singleton_self _) rfl⟩

end LitearmDriver
