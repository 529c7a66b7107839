import LitearmDriver.Executor
import LitearmDriver.ServiceCode

/-!
# Authority in every interleaving

The executor lets a transition and a parameter update run beside a handler. Still every
command in progress is one of the callback that waits for it, and while an opt-in is missing
from the parameter storage no service that waits for it begins a command.
-/

namespace LitearmDriver

open Interaction Program

variable {α : Type} {admitted : Callback → Executor → Prop}

/-! ### What a callback may send -/

/-- A call that is no command, or a command in `C`. -/
def Call.Sends (C : Command → Prop) : Call → Prop
  | .command c => C c
  | _          => True

lemma Call.Sends.mono {C C' : Command → Prop} (hC : ∀ c, C c → C' c) {c : Call}
    (h : c.Sends C) : c.Sends C' := by
  cases c with
  | command c => exact hC c h
  | _ => trivial

lemma sends_of_isAside {C : Command → Prop} {c : Call} (h : c.isAside = true) : c.Sends C := by
  cases c with
  | command c => cases h
  | _ => trivial

/-- Service code makes no calls but accessors, the commands of its bound and calls aside. -/
theorem Serving.calls {C : Command → Prop} {st : Stage} {p : Code α} (h : Serving C st p)
    {P : Call → Prop} (hcommand : ∀ c, C c → P (.command c)) (hquery : ∀ q, P (.query q))
    (haside : ∀ c : Call, c.isAside = true → P c) : p.Calls P := by
  induction h with
  | pure a => trivial
  | throw e => trivial
  | bind hp hf ihp ihf => exact .bind ihp ihf
  | catching hp hh ihp ihh => exact calls_catching ihp ihh
  | read hf h ih => exact ih
  | write hf => trivial
  | aside hc h ih => exact ⟨haside _ hc, ih⟩
  | unlessNone hp hq ihp ihq => exact .bind calls_self fun _ => calls_ite ihp ihq
  | accessor q => exact calls_query (hquery q)
  | command hc => exact calls_command (hcommand _ hc)
  | look h ih => exact .bind (calls_connected (hquery _)) fun _ => calls_ite ih trivial
  | later h ih => exact ih

lemma Serving.sendsOnly {C : Command → Prop} {st : Stage} {p : Code α} (h : Serving C st p) :
    p.Calls (Call.Sends C) :=
  h.calls (fun _ hc => hc) (fun _ => trivial) fun _ => sends_of_isAside

lemma Served.calls {s : Service} {p : Code α} (h : Served s p) {P : Call → Prop}
    (hcommand : ∀ c, Owned s c → P (.command c)) (hquery : ∀ q, P (.query q))
    (haside : ∀ c : Call, c.isAside = true → P c) : p.Calls P := by
  cases h with
  | plain hs h => exact h.calls hcommand hquery haside
  | consulting hf h hlocked => exact fun node => (h node).calls hcommand hquery haside

lemma calls_handleReconnect (response : Reply Unit) {P : Call → Prop}
    (hreconnect : P (.command .reconnect)) (hlicense : P (.command .license))
    (hquery : ∀ q, P (.query q)) : (handleReconnect response).Calls P := by
  refine calls_catching (.bind calls_self fun _ => calls_ite trivial ?_) fun _ => trivial
  refine .bind (calls_armCommand hreconnect) fun _ => .bind ?_ fun _ => ?_
  · refine .bind calls_self fun _ => calls_ite trivial ?_
    exact .bind (calls_command hlicense) fun _ => calls_assign _
  · refine .bind (calls_armQuery (hquery _)) fun _ => ?_
    exact .bind (calls_armQuery (hquery _)) fun _ => trivial

/-- A callback sends what it may, whatever the others do meanwhile. -/
theorem calls_code (cb : Callback) : cb.code.Calls (Call.Sends cb.MaySend) := by
  cases cb with
  | changeState t =>
    refine (calls_changeState t).mono fun c hc => ?_
    cases c with
    | command c => exact hc
    | _ => trivial
  | service s request =>
    by_cases hs : s = .reconnect
    · subst hs
      exact calls_handleReconnect _ (.inl rfl) (.inr ⟨rfl, rfl⟩) fun _ => trivial
    · exact (served_handle s hs request default).calls (fun _ => .inl) (fun _ => trivial)
        fun _ => sends_of_isAside
  | statusTimer => exact Serving.publishStatus.sendsOnly
  | diagnosticsTimer => exact Serving.publishDiagnostics.sendsOnly
  | setParameters p => exact trivial

/-! ### Every command in progress has its owner -/

/-- The calls alone, whatever the groups write. -/
theorem attributed : Pool.Bounds Callback.group Callback.execute (fun _ _ _ => True)
    (fun _ _ _ => True) fun t => Call.Sends t.callback.MaySend where
  code cb _ := Calls.rg ((calls_code cb).bind fun _ => trivial)
  refl _ _ := trivial
  trans _ _ _ _ _ _ := trivial
  fits _ _ _ _ := trivial

/-- Whatever order the groups move in, a command in progress is one that the callback which
waits for it may send. -/
theorem command_in_progress {w : Executor} (h : Interleaved admitted w) {g : CallbackGroup}
    {c : Command} (hc : (w.activity g).waiting = some (.command c)) :
    ∃ t, (w.activity g).task = some t ∧ t.callback.MaySend c :=
  h.may_waiting attributed hc

/-- A session is closed beside a status request, and both commands have their owners. -/
theorem command_in_progress_close :
    ∃ w : Executor, (∃ t, (w.activity .defaultGroup).task = some t ∧ t.callback.MaySend .close) ∧
      ∃ t, (w.activity .sdkGroup).task = some t ∧ t.callback.MaySend (.getStatusNow 1) := by
  have hactive : Interleaved (fun _ _ => True) (.quiescent activeBench.shared) :=
    (interleaved_of_reachable (reachable_benchRun _ _ _)).mono fun _ _ _ => trivial
  have hstatus := hactive.enters bench Call.isSession (l := .service .getStatus ⟨1⟩) rfl trivial
    (f := activeBench) rfl rfl
  have hclose := hstatus.enters bench Call.isSession (l := .changeState .shutdown) rfl trivial
    (f := activeBench) rfl rfl
  exact ⟨_, command_in_progress hclose rfl, command_in_progress hclose rfl⟩

/-! ### While an opt-in is missing -/

/-- Until its opt-in is given, a service sends nothing. -/
lemma Served.withheld {s : Service} {p : Code α} (h : Served s p) {node : Node}
    (hlocked : s.locked node.parameters = true) :
    p.rg (fun _ node => s.locked node.parameters = true) (fun _ _ => True)
      (Call.Sends fun c => c.owner ≠ some s) (fun _ _ => True) node := by
  cases h with
  | plain hs h => cases (hs _).symm.trans hlocked
  | consulting hf h hclosed =>
    intro node' hnode'
    refine ((hclosed node' hnode').sendsOnly.mono fun _ => Call.Sends.mono ?_).rg
    exact fun _ => False.elim

/-- A callback of another service, or of none, sends no command of a service that waits for an
opt-in. -/
lemma Callback.MaySend.owner_ne {s : Service} {p : Parameters} (hlocked : s.locked p = true)
    {cb : Callback} (hcb : ∀ request, cb ≠ .service s request) {c : Command}
    (h : cb.MaySend c) : c.owner ≠ some s := by
  cases cb with
  | service s' request =>
    rcases h with howner | ⟨-, rfl⟩
    · intro hs
      obtain rfl : s' = s := Option.some.inj (howner.symm.trans hs)
      exact hcb request rfl
    · rintro ⟨⟩
  | changeState t =>
    intro hs
    cases t with
    | configure => rcases h with rfl | rfl <;> cases hs
    | activate =>
      obtain ⟨attempts, rfl⟩ := h
      cases hs
      cases hlocked
    | deactivate =>
      obtain rfl : c = .zeroGStop true := h
      cases hs
      cases hlocked
    | cleanup | shutdown =>
      obtain rfl : c = .close := h
      cases hs
  | _ => exact absurd h id

lemma withheld_execute {s : Service} (cb : Callback) {node : Node}
    (hlocked : s.locked node.parameters = true) :
    cb.execute.rg (fun _ node => s.locked node.parameters = true) (fun _ _ => True)
      (Call.Sends fun c => c.owner ≠ some s) (fun _ _ => True) node := by
  refine rg_seq (I := fun _ => True) ?_ fun _ _ _ => trivial
  by_cases hcb : ∃ request, cb = .service s request
  · obtain ⟨request, rfl⟩ := hcb
    have hs : s ≠ .reconnect := by
      rintro rfl
      cases hlocked
    exact (served_handle s hs request default).withheld hlocked
  · refine ((calls_code cb).mono fun _ => Call.Sends.mono fun _ hc => ?_).rg
    exact hc.owner_ne hlocked fun request h => hcb ⟨request, h⟩

/-- As long as the opt-in that a service waits for is missing, a group that was idle at first
begins none of its commands, whatever the other groups do. -/
theorem no_command_while_locked {s : Service} {w w' : Executor} {g : CallbackGroup}
    (hidle : w.activity g = .idle) (hlocked : s.locked w.shared.parameters = true)
    (h : Relation.ReflTransGen (Pool.StepInto Callback.group Callback.execute admitted
      fun node => s.locked node.parameters = true) w w')
    {c : Command} (hc : (w'.activity g).waiting = some (.command c)) : c.owner ≠ some s := by
  obtain ⟨-, hbounded⟩ := Pool.bounded_while
    (I := fun node : Node => s.locked node.parameters = true)
    (fun cb _ node hnode => withheld_execute cb hnode) hidle hlocked h
  obtain ⟨t, -, hsends⟩ := hbounded.waiting hc
  exact hsends

/-- A node that is not told to allow motion is about to be stopped. -/
theorem no_command_while_locked_emergency_stop :
    ∃ w' : Executor, (w'.activity .sdkGroup).waiting = some (.command .emergencyStop) ∧
      Command.emergencyStop.owner ≠ some .moveJ := by
  let w : Executor := .quiescent { arm := some ⟨{}⟩ }
  let Path := Relation.ReflTransGen (Pool.StepInto Callback.group Callback.execute
    (fun _ _ => True) fun node => Service.moveJ.locked node.parameters = true)
  have htail {w₁ w₂ : Executor} (h : Path w w₁)
      (hstep : Pool.Step Callback.group Callback.execute (fun _ _ => True) w₁ w₂)
      (hlocked : Service.moveJ.locked w₂.shared.parameters = true) : Path w w₂ :=
    h.tail ⟨hstep, hlocked⟩
  have hbegin := htail .refl (.begin (.service .emergencyStop ()) rfl trivial) rfl
  have hread := htail hbegin (.read (g := .sdkGroup) rfl) rfl
  have hask := htail hread (.call (g := .sdkGroup) rfl) rfl
  have hanswer := htail hask (.answer (g := .sdkGroup) (x := true) rfl) rfl
  have hsend := htail hanswer (.call (g := .sdkGroup) rfl) rfl
  have hwitness {w' : Executor} (h : Path w w')
      (hc : (w'.activity .sdkGroup).waiting = some (.command .emergencyStop)) :
      ∃ w' : Executor, (w'.activity .sdkGroup).waiting = some (.command .emergencyStop) ∧
        Command.emergencyStop.owner ≠ some .moveJ :=
    ⟨w', hc, no_command_while_locked rfl rfl h hc⟩
  exact hwitness hsend rfl

end LitearmDriver
