import LitearmDriver.Bench
import LitearmDriver.Contract

/-!
# The flash-write interlock

Three services write flash or reset the stored parameters. The rule is that each of them is
refused exactly while the motors are reported enabled.
-/

namespace LitearmDriver

open Interaction Program

variable {σ : Type} {env : Environment σ} {g : World σ}

/-- The command a request of a flash or parameter-reset service asks for. -/
def Service.flashCommand : (s : Service) → s.Request → Option Command
  | .saveParams, _ => some .saveParams
  | .resetFactoryParams, _ => some .resetFactory
  | .commitModel, r => some (.modelCommit r.expectedMask.toUInt16)
  | _, _ => none

/-- The link is up when the handler looks at it, which is after the frame was read. -/
def LinkUpAfterRead (env : Environment σ) (g : World σ) : Prop :=
  LinkUp env (g.after env (.query .getState))

/-- The rule for one call: refused while the motors are reported enabled, and carried out on
a live link while they are not. -/
structure Interlocked (env : Environment σ) (g : World σ) (s : Service) (request : s.Request)
    (c : Command) : Prop where
  refused : MotorsReported env g = true →
    sent (step env (.service s request) g) = sent g ∧ ∃ response : s.Response,
      ((Callback.service s request).code.run env g).1 = .ok response ∧ response.success = false
  issued : MotorsReported env g = false → LinkUpAfterRead env g →
    ∃ x, sent (step env (.service s request) g) = ⟨c, x⟩ :: sent g

/-- A handler whose gate is closed exactly while the motors are reported obeys the rule. -/
lemma interlocked_of_decides {s : Service} {request : s.Request} {c : Command}
    (hd : Decides env g c (MotorsReported env g = false ∧ LinkUpAfterRead env g)
      (s.handle request default)) : Interlocked env g s request c := by
  refine ⟨fun hon => ?_, fun hoff hlink => ?_⟩
  · obtain ⟨hlog, -, response, hr, hfailed, -⟩ := hd.refused fun h => by simp [hon] at h
    exact ⟨hlog.sent, response, hr, hfailed⟩
  · obtain ⟨x, response, hlog, -⟩ := hd.issued ⟨hoff, hlink⟩
    exact ⟨x, hlog.sent⟩

/-- A handler with the opposite gate breaks the rule on every live link, and obeys it on a
dead one only because it is refused there anyway. -/
lemma interlocked_of_decides_negated {s : Service} {request : s.Request} {c : Command}
    (hd : Decides env g c ((!MotorsReported env g) = false ∧ LinkUpAfterRead env g)
      (s.handle request default)) :
    Interlocked env g s request c ↔ ¬ LinkUpAfterRead env g := by
  constructor
  · rintro ⟨hrefused, hissued⟩ hlink
    cases hon : MotorsReported env g with
    | true =>
      obtain ⟨x, response, hlog, -⟩ := hd.issued ⟨by simp [hon], hlink⟩
      have hsent := hlog.sent.symm.trans (hrefused hon).1
      simp at hsent
    | false =>
      obtain ⟨x, hsent⟩ := hissued hon hlink
      obtain ⟨hlog, -⟩ := hd.refused fun h => by simp [hon] at h
      have hsame := hlog.sent.symm.trans hsent
      simp at hsame
  · intro hlink
    obtain ⟨hlog, -, response, hr, hfailed, -⟩ := hd.refused fun h => hlink h.2
    exact ⟨fun _ => ⟨hlog.sent, response, hr, hfailed⟩, fun _ h => absurd h hlink⟩

/-- In every reachable state, a call of one of the three services obeys the rule exactly
when it is not a commit of the model on a live link. -/
theorem interlock_iff : ∀ g : World σ, Reachable env g →
    ∀ (s : Service) (request : s.Request) (c : Command), s.flashCommand request = some c →
      (Interlocked env g s request c ↔ (s ≠ .commitModel ∨ ¬ LinkUpAfterRead env g)) := by
  intro g _ s request c hc
  cases s with
  | saveParams =>
    cases hc
    refine iff_of_true (interlocked_of_decides ?_) (.inl (by decide))
    exact decides_handleSaveParams default
  | resetFactoryParams =>
    cases hc
    refine iff_of_true (interlocked_of_decides ?_) (.inl (by decide))
    exact decides_handleResetFactoryParams default
  | commitModel =>
    cases hc
    rw [interlocked_of_decides_negated (decides_handleCommitModel request default)]
    simp
  | _ => exact absurd hc (by simp [Service.flashCommand])

/-- A node in service, on an arm whose motors are enabled. -/
def enabledBench : World Bench :=
  benchRun {} [{ frame := some (steadyFrame true) }]
    [.changeState .configure, .changeState .activate]

theorem interlock_iff_save_params :
    Interlocked bench enabledBench .saveParams () .saveParams ↔
      (Service.saveParams ≠ .commitModel ∨ ¬ LinkUpAfterRead bench enabledBench) :=
  interlock_iff enabledBench (reachable_benchRun _ _ _) .saveParams () .saveParams rfl

/-- With the motors reported enabled, `commit_model` reaches the firmware. -/
theorem commit_model_while_enabled :
    Reachable bench enabledBench ∧ MotorsReported bench enabledBench = true ∧
      ¬ Interlocked bench enabledBench .commitModel ⟨3⟩ (.modelCommit 3) := by
  refine ⟨reachable_benchRun _ _ _, rfl, fun h => ?_⟩
  have hsent := (h.refused rfl).1
  have hlength := congrArg List.length hsent
  revert hlength
  decide +kernel

end LitearmDriver
