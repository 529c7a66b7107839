import LitearmDriver.Bench
import LitearmDriver.Outcome.Surface

/-!
# The outcome contract of the service surface

Whatever is asked of any service, in any state and on any SDK, the call ends with a reply
that says something: it was declined, or it carried out the exchange the service is for.
-/

namespace LitearmDriver

open Interaction Program

variable {σ : Type} {env : Environment σ} {g : World σ}

/-! ### The contract -/

/-- What a service sends when it acts, most recent first: its own command once, and after a
reconnect that returned one licence read. -/
def Service.Exchange : Service → List Sent → Prop
  | .reconnect, commands => (∃ what, commands = [⟨.reconnect, .error what⟩]) ∨
      ∃ x, commands = [⟨.license, x⟩, ⟨.reconnect, .ok ()⟩]
  | s, commands => ∃ e : Sent, commands = [e] ∧ e.1.owner = some s

/-- Nothing was sent and nothing changed. Only the two services that read the host alone may
still report a success. -/
structure Declined (s : Service) (g : World σ) (response : s.Response) (g' : World σ) :
    Prop where
  sent : sent g' = sent g
  shared : g'.shared = g.shared
  failed : s ≠ .getFeedforwardCatalog → s ≠ .getDiagnostics → response.success = false

/-- The service's exchange took place, and the reply says whether every part of it was
accepted. -/
def Performed (s : Service) (g : World σ) (response : s.Response) (g' : World σ) : Prop :=
  ∃ commands, LitearmDriver.sent g' = commands ++ LitearmDriver.sent g ∧
    s.Exchange commands ∧ (response.success = true ↔ ∀ e ∈ commands, e.1.Accepted e.2)

/-- The contract of one call: it replies, and was either declined or performed. -/
def Contract (s : Service) (g : World σ) (r : Except Abort s.Response) (g' : World σ) : Prop :=
  ∃ response : s.Response, r = .ok response ∧ response.message ≠ "" ∧
    (Declined s g response g' ∨ Performed s g response g')

/-! ### The handlers fulfil it -/

lemma Service.exchange_single {s : Service} (hs : s ≠ .reconnect) {e : Sent}
    (h : e.1.owner = some s) : s.Exchange [e] := by
  cases s with
  | reconnect => exact absurd rfl hs
  | _ => exact ⟨e, rfl, h⟩

lemma ReconnectExit.contract {response : Reply Unit} {g' : World σ}
    (hexit : ReconnectExit env g response g') :
    Declined .reconnect g response g' ∨ Performed .reconnect g response g' := by
  rcases hexit.sent with ⟨hsent, hshared, hfailed⟩ | ⟨what, hsent, hfailed⟩ | ⟨x, hsent, hok⟩
  · exact .inl ⟨hsent, hshared, fun _ _ => hfailed⟩
  · refine .inr ⟨[⟨.reconnect, .error what⟩], hsent, .inl ⟨what, rfl⟩, ?_⟩
    simpa [hfailed] using Command.not_accepted_error .reconnect what
  · refine .inr ⟨[⟨.license, x⟩, ⟨.reconnect, .ok ()⟩], hsent, .inr ⟨x, rfl⟩, ?_⟩
    rw [hok]
    simp [Command.Accepted, Except.isOk, Except.toBool]

/-- Every handler fulfils the contract, whatever response it starts from. -/
theorem handle_contract (s : Service) (request : s.Request) (response : s.Response) :
    (s.handle request response).wp env (Contract s g) g := by
  refine wp_mono (handle_exit s request response) fun r g' hexit => ?_
  cases hexit with
  | declined hlog hshared hmessage hfailed =>
    exact ⟨_, rfl, hmessage, .inl ⟨hlog.sent, hshared, hfailed⟩⟩
  | issued hs howner hlog hshared hmessage hsuccess =>
    refine ⟨_, rfl, hmessage, .inr ⟨_, hlog.sent, s.exchange_single hs howner, ?_⟩⟩
    simpa using hsuccess
  | reconnected hmessage hexit => exact ⟨_, rfl, hmessage, hexit.contract⟩

/-! ### The two cases exclude each other -/

lemma Service.Exchange.ne_nil {s : Service} {commands : List Sent} (h : s.Exchange commands) :
    commands ≠ [] := by
  cases s with
  | reconnect =>
    rcases h with ⟨what, rfl⟩ | ⟨x, rfl⟩
    · simp
    · simp
  | _ =>
    obtain ⟨e, rfl, -⟩ := h
    simp

lemma Declined.not_performed {s : Service} {response : s.Response} {g' : World σ}
    (h : Declined s g response g') : ¬ Performed s g response g' := by
  rintro ⟨commands, hsent, hexchange, -⟩
  rw [h.sent] at hsent
  exact hexchange.ne_nil (List.self_eq_append_left.mp hsent)

/-- In every reachable state and for every request, the handler of a service replies with a
message and without touching a null session, and the call was either declined or performed,
never both. -/
theorem outcome_contract : ∀ g : World σ, Reachable env g →
    ∀ (s : Service) (request : s.Request),
      ∃ response : s.Response,
        ((Callback.service s request).code.run env g).1 = .ok response ∧
        response.message ≠ "" ∧
        Xor (Declined s g response (step env (.service s request) g))
          (Performed s g response (step env (.service s request) g)) := by
  intro g _ s request
  obtain ⟨response, hr, hmessage, hcase⟩ :=
    (handle_contract s request default : (s.handle request default).wp env (Contract s g) g)
  refine ⟨response, hr, hmessage, ?_⟩
  rcases hcase with hdeclined | hperformed
  · exact .inl ⟨hdeclined, hdeclined.not_performed⟩
  · exact .inr ⟨hperformed, fun hdeclined => hdeclined.not_performed hperformed⟩

theorem outcome_contract_enable : ∃ response : Service.enable.Response,
    ((Callback.service .enable ()).code.run bench
      (benchRun {} [{}] [.changeState .configure])).1 = .ok response ∧ response.message ≠ "" := by
  obtain ⟨response, hr, hmessage, -⟩ :=
    outcome_contract _ (reachable_benchRun {} [{}] [.changeState .configure]) .enable ()
  exact ⟨response, hr, hmessage⟩

end LitearmDriver
