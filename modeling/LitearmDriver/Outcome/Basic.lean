import LitearmDriver.Rules
import LitearmDriver.Handlers.Diagnostics

/-!
# Outcomes of service calls

A service call is either refused, which leaves the node as it was and sends nothing, or it
issues one command and reports whether that command was accepted. `Decides c p G` states
which of the two happens: `p` issues `c` when `G` holds and refuses otherwise. The rules of
this file follow the shape of a handler: gates, the link check of `runCommand`, the command,
and text added to the reply.
-/

namespace LitearmDriver

open Interaction Program

variable {σ α Body : Type} {env : Environment σ} {g g₀ : World σ} {c : Command} {G H : Prop}

/-! ### The two outcomes -/

/-- The command did what was asked: it returned, and a tool pose was answered to `get_tcp`. -/
def Command.Accepted : (c : Command) → Except String c.Answer → Prop
  | .getTcp, .ok pose => pose.isSome = true
  | .getTcp, .error _ => False
  | _, x              => x.isOk = true

/-- What the node remembers of a command: the frame it was handed, and the percentage the
governor was set to. -/
def Command.effect : (c : Command) → Except String c.Answer → Node → Node
  | .getStatusNow _, .ok message, node => node.holdFrame message.value message.timestamp
  | .setSpeed percent, .ok _, node     => { node with speedScaling := .ofNat percent.toNat }
  | _, _, node                         => node

/-- A command that failed leaves no trace in the node. -/
lemma Command.effect_error (c : Command) (what : String) (node : Node) :
    c.effect (.error what) node = node := by
  cases c <;> rfl

lemma Command.not_accepted_error (c : Command) (what : String) :
    ¬ c.Accepted (.error what) := by
  cases c <;> simp [Command.Accepted, Except.isOk, Except.toBool]

lemma Command.effect_of_not_accepted {c : Command} {x : Except String c.Answer}
    (h : ¬ c.Accepted x) (node : Node) : c.effect x node = node := by
  cases x with
  | error what => exact c.effect_error what node
  | ok a =>
    cases c with
    | getStatusNow timeout => exact absurd rfl h
    | setSpeed percent => exact absurd rfl h
    | _ => rfl

/-- The call was refused with a reason. -/
structure Refused (g : World σ) (r : Except Abort (Reply Body)) (g' : World σ) : Prop where
  log : Log [] g g'
  shared : g'.shared = g.shared
  reply : ∃ response, r = .ok response ∧ response.success = false ∧ response.message ≠ ""

/-- The call sent `c` and nothing else, and the reply says whether it was accepted. -/
def Issued (c : Command) (g : World σ) (r : Except Abort (Reply Body)) (g' : World σ) : Prop :=
  ∃ x response, Log [⟨c, x⟩] g g' ∧ g'.shared = c.effect x g.shared ∧ r = .ok response ∧
    response.message ≠ "" ∧ (response.success = true ↔ c.Accepted x)

/-- The call issues `c` when `G` holds, and is refused when it does not. -/
structure Decided (c : Command) (G : Prop) (g : World σ) (r : Except Abort (Reply Body))
    (g' : World σ) : Prop where
  issued : G → Issued c g r g'
  refused : ¬ G → Refused g r g'

/-- `p` started from `g` issues `c` exactly when `G` holds. -/
def Decides (env : Environment σ) (g : World σ) (c : Command) (G : Prop)
    (p : Code (Reply Body)) : Prop :=
  p.wp env (Decided c G g) g

/-- The last step of a handler on a live link: `c` is sent, and the code goes on exactly
when it was accepted. -/
def Sends (c : Command) (g : World σ) (r : Except Abort α) (g' : World σ) : Prop :=
  ∃ x, Log [⟨c, x⟩] g g' ∧ g'.shared = c.effect x g.shared ∧
    ((∃ a, r = .ok a) ∧ c.Accepted x ∨ (∃ what, r = .error (.exception what)) ∧ ¬ c.Accepted x)

/-! ### Gates -/

lemma Decided.congr (h : G ↔ H) {r : Except Abort (Reply Body)} {g' : World σ}
    (hd : Decided c G g r g') : Decided c H g r g' :=
  ⟨fun hh => hd.issued (h.mpr hh), fun hh => hd.refused fun hg => hh (h.mp hg)⟩

lemma Decides.congr {p : Code (Reply Body)} (h : G ↔ H) (hd : Decides env g c G p) :
    Decides env g c H p :=
  Decided.congr h hd

/-- What was read before makes no difference to the outcome. -/
lemma Decided.of_log (hlog : Log [] g g₀) (hshared : g₀.shared = g.shared)
    {r : Except Abort (Reply Body)} {g' : World σ} (hd : Decided c G g₀ r g') :
    Decided c G g r g' := by
  refine ⟨fun hG => ?_, fun hG => ?_⟩
  · obtain ⟨x, response, hx, heffect, h⟩ := hd.issued hG
    exact ⟨x, response, hx.trans hlog, heffect.trans (by rw [hshared]), h⟩
  · obtain ⟨h₁, h₂, h₃⟩ := hd.refused hG
    exact ⟨h₁.trans hlog, h₂.trans hshared, h₃⟩

/-- A reading that sends nothing may come first. -/
lemma Decides.of_reading {w : World σ} {p : Code α} {f : α → Code (Reply Body)} {a : α}
    (hp : p.wp env (fun r g' => r = .ok a ∧ g' = w) g) (hlog : Log [] g w)
    (hshared : w.shared = g.shared) (hf : Decides env w c G (f a)) :
    Decides env g c G (p >>= f) := by
  rw [Decides, wp_bind]
  refine wp_mono hp ?_
  rintro _ _ ⟨rfl, rfl⟩
  exact wp_mono hf fun r g' hd => hd.of_log hlog hshared

lemma decides_self {f : Node → Code (Reply Body)} (h : Decides env g c G (f g.shared)) :
    Decides env g c G (self >>= f) := by
  refine Decides.of_reading (w := g) ?_ (.refl g) rfl h
  exact ⟨rfl, rfl⟩

lemma refused_fillFailure {gate : GateResult} (hgate : gate.Explained) (hok : gate.ok = false)
    (response : Reply Body) : Refused g (.ok (response.fillFailure gate)) g :=
  ⟨.refl g, rfl, _, rfl, rfl, hgate hok⟩

lemma decides_refuseUnless {gate : GateResult} (hgate : gate.Explained)
    {response : Reply Body} {rest : Code (Reply Body)}
    (h : Decides env g c G rest) :
    Decides env g c (gate.ok = true ∧ G) (refuseUnless gate response rest) := by
  rw [Decides, wp_refuseUnless]
  split
  case isTrue hok =>
    exact Decided.congr (by simp [hok]) h
  case isFalse hok =>
    have hfalse : gate.ok = false := by simpa using hok
    refine ⟨fun hG => absurd hG.1 hok, fun _ => refused_fillFailure hgate hfalse response⟩

/-! ### The link check and the command -/

/-- A command followed by code that only fills the reply and remembers the answer. -/
lemma sends_command {f : c.Answer → Code α} (hc : ∀ a, c.Accepted (.ok a))
    (hf : ∀ a g', (f a).wp env (fun r g'' => (∃ b, r = .ok b) ∧ Log [] g' g'' ∧
      g''.shared = c.effect (.ok a) g'.shared) g') :
    (command c >>= f).wp env (Sends c g) g := by
  have hlog : Log [⟨c, g.answer env (.command c)⟩] g (g.after env (.command c)) := .command c g
  rw [wp_bind, wp_command]
  generalize g.answer env (.command c) = x at hlog
  cases x with
  | ok a =>
    rw [wp_orThrow_ok]
    refine wp_mono (hf a _) ?_
    rintro r g'' ⟨hr, hquiet, heffect⟩
    exact ⟨.ok a, hquiet.trans hlog, heffect, .inl ⟨hr, hc a⟩⟩
  | error what =>
    rw [wp_orThrow_error]
    exact ⟨.error what, hlog, (c.effect_error what _).symm,
      .inr ⟨⟨what, rfl⟩, c.not_accepted_error what⟩⟩

lemma Sends.of_log (hlog : Log [] g g₀) (hshared : g₀.shared = g.shared)
    {r : Except Abort α} {g' : World σ} (h : Sends c g₀ r g') : Sends c g r g' := by
  obtain ⟨x, hx, heffect, h⟩ := h
  exact ⟨x, hx.trans hlog, heffect.trans (by rw [hshared]), h⟩

/-- The link check passes exactly on a live link. -/
theorem decides_connected {response : Reply Body} {rest : Code (Reply Body)}
    (h : LinkUp env g → Decides env (g.after env (.query .isConnected)) c G rest) :
    Decides env g c (LinkUp env g ∧ G)
      (connected >>= fun link => refuseUnless (checkConnected link) response rest) := by
  have hdown : ∀ g' : World σ, ¬ LinkUp env g → g'.shared = g.shared → Log [] g g' →
      Decided c (LinkUp env g ∧ G) g (.ok (response.fillFailure (checkConnected false))) g' := by
    intro g' hlink hshared hlog
    exact ⟨fun hG => absurd hG.1 hlink, fun _ =>
      ⟨hlog, hshared, _, rfl, rfl, by simp [Reply.fillFailure, checkConnected]⟩⟩
  rw [Decides, wp_bind, wp_connected]
  by_cases harm : g.shared.arm = none
  · rw [if_pos (by simp [harm])]
    exact hdown g (fun hlink => by simpa [harm] using hlink.1) rfl (.refl g)
  rw [if_neg (by simpa using harm)]
  by_cases hup : g.answer env (.query .isConnected) = true
  · have hlink : LinkUp env g := ⟨by simpa [Option.isSome_iff_ne_none] using harm, hup⟩
    simp only [hup, checkConnected, refuseUnless]
    refine wp_mono (h hlink) fun r g' hd => ?_
    exact (hd.of_log (.query _ g) rfl).congr (and_iff_right hlink).symm
  · have hfalse : g.answer env (.query .isConnected) = false := by simpa using hup
    simp only [hfalse]
    exact hdown _ (fun hlink => hup hlink.2) rfl (.query _ g)

/-- `runCommand` issues the command of its function exactly on a live link. -/
theorem decides_runCommand {what : String} {response : Reply Body}
    {fn : Reply Body → Code (Reply Body)}
    (hfn : LinkUp env g → (fn response).wp env (Sends c (g.after env (.query .isConnected)))
      (g.after env (.query .isConnected))) :
    Decides env g c (LinkUp env g) (runCommand what response fn) := by
  refine Decides.congr (iff_of_eq (and_true _)) (decides_connected fun hlink => ?_)
  rw [Decides, wp_catching, wp_bind]
  refine wp_mono (hfn hlink) ?_
  rintro r g' ⟨x, hx, heffect, ⟨⟨a, rfl⟩, hacc⟩ | ⟨⟨error, rfl⟩, hacc⟩⟩
  · refine ⟨fun _ => ⟨x, _, hx, heffect, rfl, ?_, by simp [hacc]⟩, fun h => absurd trivial h⟩
    by_cases hmessage : a.message = ""
    · simp [hmessage]
    · simp [hmessage]
  · exact ⟨fun _ => ⟨x, _, hx, heffect, rfl, by simp, by simp [hacc]⟩,
      fun h => absurd trivial h⟩

/-- The common case: one command, and a reply filled from its answer. -/
lemma decides_command {what : String} {response : Reply Body}
    {f : Reply Body → c.Answer → Reply Body} (hc : ∀ a, c.Accepted (.ok a))
    (heffect : ∀ a node, c.effect (.ok a) node = node) :
    Decides env g c (LinkUp env g)
      (runCommand what response fun response => command c >>= fun a =>
        Pure.pure (f response a)) :=
  decides_runCommand fun _ => sends_command hc fun _ g' =>
    ⟨⟨_, rfl⟩, .refl g', (heffect _ _).symm⟩

/-! ### Text added to the reply -/

/-- Code after the reply was filled keeps the outcome and leaves some message. -/
def Reply.Keeps (f : Reply Body → Reply Body) : Prop :=
  ∀ response, (f response).success = response.success ∧
    (response.message ≠ "" → (f response).message ≠ "")

lemma Reply.keeps_onSuccess (text : String) :
    Reply.Keeps fun response : Reply Body => response.onSuccess text := by
  intro response
  simp only [Reply.onSuccess]
  split <;> simp +contextual

lemma Reply.keeps_replaceOnSuccess {text : String} (h : text ≠ "") :
    Reply.Keeps fun response : Reply Body => response.replaceOnSuccess text := by
  intro response
  simp only [Reply.replaceOnSuccess]
  split <;> simp [h]

/-- Text added only when `p` fails. -/
lemma Reply.Keeps.unless {f : Reply Body → Reply Body} (hf : Reply.Keeps f) (p : Prop)
    [Decidable p] : Reply.Keeps fun response => if p then response else f response := by
  intro response
  dsimp only
  split
  · exact ⟨rfl, id⟩
  · exact hf response

lemma Reply.Keeps.comp {f f' : Reply Body → Reply Body} (hf' : Reply.Keeps f')
    (hf : Reply.Keeps f) : Reply.Keeps fun response => f' (f response) := by
  intro response
  obtain ⟨hsuccess, hmessage⟩ := hf response
  obtain ⟨hsuccess', hmessage'⟩ := hf' (f response)
  exact ⟨hsuccess'.trans hsuccess, hmessage' ∘ hmessage⟩

lemma Decides.map {p : Code (Reply Body)} {f : Reply Body → Reply Body} (hf : Reply.Keeps f)
    (hp : Decides env g c G p) :
    Decides env g c G (p >>= fun response => Pure.pure (f response)) := by
  rw [Decides, wp_bind]
  refine wp_mono hp fun r g' hd => ?_
  by_cases hG : G
  · obtain ⟨x, response, hx, heffect, rfl, hmessage, hsuccess⟩ := hd.issued hG
    obtain ⟨hkeep, hnonempty⟩ := hf response
    refine ⟨fun _ => ⟨x, _, hx, heffect, rfl, hnonempty hmessage, ?_⟩, fun h => absurd hG h⟩
    rw [hkeep, hsuccess]
  · obtain ⟨hlog, hshared, response, rfl, hfalse, hmessage⟩ := hd.refused hG
    obtain ⟨hkeep, hnonempty⟩ := hf response
    exact ⟨fun h => absurd h hG,
      fun _ => ⟨hlog, hshared, _, rfl, hkeep.trans hfalse, hnonempty hmessage⟩⟩

end LitearmDriver
