import LitearmDriver.Outcome.Administration
import LitearmDriver.Outcome.Motion

/-!
# Outcomes of the feedforward reads and the model store

For each handler the command it issues, and the condition under which it issues it.
-/

namespace LitearmDriver

open Interaction Program

variable {σ Body : Type} {env : Environment σ} {g : World σ}

/-- A service that only reads the host: whatever it answers, nothing is sent. -/
def Reads (g : World σ) (r : Except Abort (Reply Body)) (g' : World σ) : Prop :=
  Quiet g g' ∧ ∃ response, r = .ok response ∧ response.message ≠ ""

lemma reads_handleGetFeedforwardCatalog (response : Reply GetFeedforwardCatalog.Body) :
    (handleGetFeedforwardCatalog response).wp env (Reads g) g := by
  rw [handleGetFeedforwardCatalog, wp_bind, wp_query]
  dsimp only
  rw [wp_bind, wp_query]
  dsimp only
  rw [wp_bind, wp_query]
  refine ⟨?_, _, rfl, by simp⟩
  exact (Quiet.after rfl _).trans ((Quiet.after rfl _).trans (.after rfl _))

lemma decides_handleGetFeedforwardVector (request : GetFeedforwardVector.Request)
    (response : Reply (List Double)) :
    Decides env g (.getFfVec request.item.toInt) (LinkUp env g)
      (handleGetFeedforwardVector request response) :=
  decides_command (fun _ => rfl) fun _ _ => rfl

lemma decides_handleGetFeedforwardMask (response : Reply UInt32) :
    Decides env g .getFfMask (LinkUp env g) (handleGetFeedforwardMask response) :=
  decides_command (fun _ => rfl) fun _ _ => rfl

lemma decides_handleSetGravityScale (request : SetGravityScale.Request)
    (response : Reply Unit) :
    Decides env g (.setGravityScale request.values)
      ((checkFiniteValuesN request.values 7 "values").ok = true ∧ LinkUp env g)
      (handleSetGravityScale request response) :=
  decides_refuseUnless (explained_checkFiniteValuesN _ _ _)
    (decides_command (fun _ => rfl) fun _ _ => rfl)

lemma decides_handleSetInertiaScale (request : SetInertiaScale.Request)
    (response : Reply Unit) :
    Decides env g (.setInertiaScale request.values)
      ((checkFiniteValuesN request.values 7 "values").ok = true ∧ LinkUp env g)
      (handleSetInertiaScale request response) := by
  refine decides_refuseUnless (explained_checkFiniteValuesN _ _ _) ?_
  exact .map (Reply.keeps_onSuccess _) (decides_command (fun _ => rfl) fun _ _ => rfl)

lemma decides_handleSetGravityVector (request : SetGravityVector.Request)
    (response : Reply Unit) :
    Decides env g (.setGravityVector request.g)
      ((checkFiniteVector3 request.g).ok = true ∧ LinkUp env g)
      (handleSetGravityVector request response) :=
  decides_refuseUnless (explained_checkFiniteVector3 _)
    (decides_command (fun _ => rfl) fun _ _ => rfl)

lemma decides_handleProbeModel (response : Reply Bool) :
    Decides env g .modelProbe (LinkUp env g) (handleProbeModel response) :=
  decides_command (fun _ => rfl) fun _ _ => rfl

lemma decides_handleGetModelBody (request : GetModelBody.Request)
    (response : Reply (List Double)) :
    Decides env g (.modelGetBody request.body.toInt) (LinkUp env g)
      (handleGetModelBody request response) :=
  decides_command (fun _ => rfl) fun _ _ => rfl

lemma decides_handleSetModelBody (request : SetModelBody.Request) (response : Reply Unit) :
    Decides env g (.modelSetBody request.body.toInt request.values)
      ((checkFiniteValues request.values "values").ok = true ∧ LinkUp env g)
      (handleSetModelBody request response) := by
  refine decides_refuseUnless (explained_checkFiniteValues _ _) ?_
  exact .map (Reply.keeps_onSuccess _) (decides_command (fun _ => rfl) fun _ _ => rfl)

lemma decides_handleGetModelJm (response : Reply (List Double)) :
    Decides env g .modelGetJm (LinkUp env g) (handleGetModelJm response) :=
  decides_command (fun _ => rfl) fun _ _ => rfl

lemma decides_handleSetModelJm (request : SetModelJm.Request) (response : Reply Unit) :
    Decides env g (.modelSetJm request.values)
      ((checkFiniteValues request.values "values").ok = true ∧ LinkUp env g)
      (handleSetModelJm request response) := by
  refine decides_refuseUnless (explained_checkFiniteValues _ _) ?_
  exact .map (Reply.keeps_onSuccess _) (decides_command (fun _ => rfl) fun _ _ => rfl)

/-- The polarity of the gate is the opposite of that in `save_params`. -/
lemma decides_handleCommitModel (request : CommitModel.Request) (response : Reply Unit) :
    Decides env g (.modelCommit request.expectedMask.toUInt16)
      ((!MotorsReported env g) = false ∧ LinkUp env (g.after env (.query .getState)))
      (handleCommitModel request response) :=
  decides_interlocked (!·) fun _ _ =>
    .map (Reply.keeps_onSuccess _) (decides_command (fun _ => rfl) fun _ _ => rfl)

lemma decides_handleRevertModel (response : Reply Unit) :
    Decides env g .modelRevert (LinkUp env g) (handleRevertModel response) :=
  decides_command (fun _ => rfl) fun _ _ => rfl

lemma decides_handleGetModelStatus (response : Reply GetModelStatus.Body) :
    Decides env g .modelStatus (LinkUp env g) (handleGetModelStatus response) :=
  decides_command (fun _ => rfl) fun _ _ => rfl

end LitearmDriver
