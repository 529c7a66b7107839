import LitearmDriver.Bench
import LitearmDriver.Outcome.Surface

/-!
# One call of a service

A call is refused, or sends one command. Both are read off the condition under which the
handler issues its command.
-/

namespace LitearmDriver

open Interaction Program

variable {σ : Type} {env : Environment σ} {g : World σ} {s : Service} {request : s.Request}
  {c : Command} {G : Prop}

/-- The call is answered with `success = false`, and nothing is sent. -/
def Refuses (env : Environment σ) (g : World σ) (s : Service) (request : s.Request) : Prop :=
  sent (step env (.service s request) g) = sent g ∧ ∃ response : s.Response,
    ((Callback.service s request).code.run env g).1 = .ok response ∧ response.success = false

/-- The call sends `c`, and nothing else. -/
def SendsOnly (env : Environment σ) (g : World σ) (s : Service) (request : s.Request)
    (c : Command) : Prop :=
  ∃ x, sent (step env (.service s request) g) = ⟨c, x⟩ :: sent g

lemma refuses_of_decides (hd : Decides env g c G (s.handle request default)) (hG : ¬ G) :
    Refuses env g s request := by
  obtain ⟨hlog, -, response, hr, hfailed, -⟩ := hd.refused hG
  exact ⟨hlog.sent, response, hr, hfailed⟩

lemma sendsOnly_of_decides (hd : Decides env g c G (s.handle request default)) (hG : G) :
    SendsOnly env g s request c := by
  obtain ⟨x, response, hlog, -⟩ := hd.issued hG
  exact ⟨x, hlog.sent⟩

/-- A call that sends a command adds to what was sent. -/
lemma SendsOnly.not_silent (h : SendsOnly env g s request c) :
    sent (step env (.service s request) g) ≠ sent g := by
  obtain ⟨x, hsent⟩ := h
  rw [hsent]
  exact List.cons_ne_self _ _

/-- A call that sends something is not refused. -/
lemma SendsOnly.not_refuses (h : SendsOnly env g s request c) : ¬ Refuses env g s request := by
  rintro ⟨hsame, -⟩
  exact h.not_silent hsame

/-- A call sends at most one command. -/
lemma SendsOnly.unique {c' : Command} (h : SendsOnly env g s request c)
    (h' : SendsOnly env g s request c') : c = c' := by
  obtain ⟨x, hsent⟩ := h
  obtain ⟨x', hsent'⟩ := h'
  have hhead := (List.cons.inj (hsent.symm.trans hsent')).1
  exact congrArg Sigma.fst hhead

lemma sendsOnly_iff_of_decides (hd : Decides env g c G (s.handle request default))
    (c' : Command) : SendsOnly env g s request c' ↔ G ∧ c' = c := by
  constructor
  · intro hsends
    by_cases hG : G
    · exact ⟨hG, hsends.unique (sendsOnly_of_decides hd hG)⟩
    · exact absurd (refuses_of_decides hd hG) hsends.not_refuses
  · rintro ⟨hG, rfl⟩
    exact sendsOnly_of_decides hd hG

/-- Whatever the call sends is the command, and is sent because its condition holds. -/
lemma sent_of_decides (hd : Decides env g c G (s.handle request default)) {new : List Sent}
    (hnew : sent (step env (.service s request) g) = new ++ sent g) :
    ∀ e ∈ new, G ∧ e.1 = c := by
  intro e he
  by_cases hG : G
  · obtain ⟨x, hsent⟩ := sendsOnly_of_decides hd hG
    have hone : new = [⟨c, x⟩] := List.append_cancel_right (hnew.symm.trans hsent)
    rw [hone] at he
    rw [List.mem_singleton.mp he]
    exact ⟨hG, rfl⟩
  · obtain ⟨hsame, -⟩ := refuses_of_decides hd hG
    have hnone : new = [] :=
      List.append_cancel_right (hnew.symm.trans (hsame.trans (List.nil_append _).symm))
    rw [hnone] at he
    cases he

end LitearmDriver
