import LitearmDriver.Outcome.Basic

/-!
# Outcomes of the motion handlers

For each handler the command it issues, and the gates in front of it.
-/

namespace LitearmDriver

open Interaction Program

variable {σ Body : Type} {env : Environment σ} {g : World σ} {c : Command} {G : Prop}

/-- The opt-in comes first, and is read at the time of the call. -/
lemma decides_requireMotionAllowed {response : Reply Body} {rest : Code (Reply Body)}
    (h : Decides env g c G rest) :
    Decides env g c (g.shared.parameters.allowMotion = true ∧ G)
      (requireMotionAllowed response rest) := by
  refine Decides.congr (by rw [checkParameterAllows_ok]) (decides_self
    (decides_refuseUnless (explained_checkParameterAllows _ _) h))

/-! ### Lists of gates -/

lemma explained_checkOptionalValues (values : List Double) (expected : Nat) (what : String) :
    (checkOptionalValues values expected what).Explained :=
  .ite GateResult.explained_pass (explained_checkFiniteValuesN _ _ _)

lemma checkOptionalValues_ok_iff {expected : Nat} (h : 0 < expected) (values : List Double)
    (what : String) :
    (checkOptionalValues values expected what).ok = true ↔
      values = [] ∨ values.length = expected ∧ AllFinite values := by
  rw [checkOptionalValues]
  by_cases hempty : values = []
  · simp [hempty]
  · rw [if_neg (by simpa using hempty), checkFiniteValuesN_ok_iff h]
    simp [hempty]

lemma explained_firstRefusal {gates : List GateResult} (h : ∀ gate ∈ gates, gate.Explained) :
    (firstRefusal gates).Explained := by
  induction gates with
  | nil => exact GateResult.explained_pass
  | cons gate gates ih =>
    refine .ite (ih fun gate' h' => h gate' (List.mem_cons_of_mem _ h')) ?_
    exact h gate List.mem_cons_self

/-- Gates checked in order pass when every one of them passes. -/
lemma firstRefusal_ok_iff (gates : List GateResult) :
    (firstRefusal gates).ok = true ↔ ∀ gate ∈ gates, gate.ok = true := by
  induction gates with
  | nil => simp [firstRefusal]
  | cons gate gates ih =>
    rw [firstRefusal]
    by_cases hok : gate.ok = true
    · rw [if_pos hok, ih]
      simp [hok]
    · rw [if_neg hok]
      simp [hok]

lemma checkNamedPose_ok (name : String) (pose : Pose) :
    (checkNamedPose name pose).ok = (checkFinitePose pose).ok := by
  rw [checkNamedPose]
  split <;> rfl

lemma explained_checkNamedPose (name : String) (pose : Pose) :
    (checkNamedPose name pose).Explained := by
  intro hok
  rw [checkNamedPose_ok] at hok
  rw [checkNamedPose]
  rw [if_neg (by simp [hok])]
  simp

/-! ### Waypoints -/

lemma poseAt_isSome {flat : List Double} {i : Nat} (h : i + 5 < flat.length) :
    ∃ pose, poseAt flat i = some pose := by
  refine ⟨#v[flat[i], flat[i + 1], flat[i + 2], flat[i + 3], flat[i + 4], flat[i + 5]], ?_⟩
  rw [poseAt, List.getElem?_eq_getElem (by omega), List.getElem?_eq_getElem (by omega),
    List.getElem?_eq_getElem (by omega), List.getElem?_eq_getElem (by omega),
    List.getElem?_eq_getElem (by omega), List.getElem?_eq_getElem h]
  rfl

/-- With whole waypoints only, every read stays inside the list. -/
lemma poseIndices_lt {size i : Nat} (hsize : size % 6 = 0) (h : i ∈ poseIndices size) :
    i + 5 < size := by
  obtain ⟨k, hk, rfl⟩ := List.mem_map.mp h
  have hk' := List.mem_range.mp hk
  omega

lemma mapM_isSome {α β : Type} {f : α → Option β} {xs : List α}
    (h : ∀ x ∈ xs, ∃ y, f x = some y) : ∃ ys, xs.mapM f = some ys := by
  induction xs with
  | nil => exact ⟨[], rfl⟩
  | cons x xs ih =>
    obtain ⟨y, hy⟩ := h x List.mem_cons_self
    obtain ⟨ys, hys⟩ := ih fun x' h' => h x' (List.mem_cons_of_mem _ h')
    exact ⟨y :: ys, by simp [List.mapM_cons, hy, hys]⟩

/-- The waypoints of a flat list. -/
def posesOf (flat : List Double) : List Pose :=
  ((poseIndices flat.length).mapM (poseAt flat)).getD []

/-- The list is usable: not empty, finite, and made of whole waypoints. -/
def Waypoints (flat : List Double) : Prop :=
  flat ≠ [] ∧ AllFinite flat ∧ flat.length % 6 = 0

lemma readPoses_of_waypoints {flat : List Double} (h : Waypoints flat) :
    readPoses flat = .pure (.ok (posesOf flat)) := by
  obtain ⟨hne, hall, hlength⟩ := h
  have hok := (checkFiniteValues_ok_iff flat "poses").mpr ⟨hne, hall⟩
  obtain ⟨poses, hposes⟩ := mapM_isSome fun i hi => poseAt_isSome (poseIndices_lt hlength hi)
  rw [readPoses]
  rw [if_neg (by simp [hok]), if_neg (by simp [hlength]), posesOf, hposes]
  rfl

lemma readPoses_of_not_waypoints {flat : List Double} (h : ¬ Waypoints flat) :
    ∃ gate : GateResult, gate.ok = false ∧ gate.Explained ∧
      readPoses flat = .pure (.error gate) := by
  rw [readPoses]
  by_cases hok : (checkFiniteValues flat "poses").ok = true
  · obtain ⟨hne, hall⟩ := (checkFiniteValues_ok_iff flat "poses").mp hok
    have hlength : flat.length % 6 ≠ 0 := fun hzero => h ⟨hne, hall, hzero⟩
    rw [if_neg (by simp [hok]), if_pos hlength]
    exact ⟨_, rfl, GateResult.explained_fail (by simp), rfl⟩
  · have hfalse : (checkFiniteValues flat "poses").ok = false := by simpa using hok
    rw [if_pos (by simp [hfalse])]
    exact ⟨_, hfalse, explained_checkFiniteValues _ _, rfl⟩

/-! ### The handlers -/

lemma decides_handleMoveJ (request : MoveJ.Request) (response : Reply Unit) :
    Decides env g (.movej request.q request.speed)
      (g.shared.parameters.allowMotion = true ∧
        (checkFiniteValuesN request.q g.shared.jointCount "q").ok = true ∧
        (checkSpeedFraction request.speed).ok = true ∧ LinkUp env g)
      (handleMoveJ request response) := by
  refine decides_requireMotionAllowed (decides_self ?_)
  refine decides_refuseUnless (explained_checkFiniteValuesN _ _ _) ?_
  refine decides_refuseUnless (explained_checkSpeedFraction _) ?_
  exact .map (Reply.keeps_onSuccess _) (decides_command (fun _ => rfl) fun _ _ => rfl)

lemma decides_handleMoveJSync (request : MoveJSync.Request) (response : Reply Unit) :
    Decides env g (.movejSync request.q request.speed)
      (g.shared.parameters.allowMotion = true ∧
        (checkFiniteValuesN request.q g.shared.jointCount "q").ok = true ∧
        (checkSpeedFraction request.speed).ok = true ∧ LinkUp env g)
      (handleMoveJSync request response) := by
  refine decides_requireMotionAllowed (decides_self ?_)
  refine decides_refuseUnless (explained_checkFiniteValuesN _ _ _) ?_
  refine decides_refuseUnless (explained_checkSpeedFraction _) ?_
  exact decides_command (fun _ => rfl) fun _ _ => rfl

lemma decides_handleMoveP (request : MoveP.Request) (response : Reply Unit) :
    Decides env g (.moveP request.pose request.speed request.wait)
      (g.shared.parameters.allowMotion = true ∧ (checkFinitePose request.pose).ok = true ∧
        (checkSpeedFraction request.speed).ok = true ∧ LinkUp env g)
      (handleMoveP request response) := by
  refine decides_requireMotionAllowed ?_
  refine decides_refuseUnless (explained_checkFinitePose _) ?_
  refine decides_refuseUnless (explained_checkSpeedFraction _) ?_
  exact .map (.unless (Reply.keeps_onSuccess _) _) (decides_command (fun _ => rfl) fun _ _ => rfl)

lemma decides_handleMoveJs (request : MoveJs.Request) (response : Reply Unit) :
    Decides env g (.moveJs request.q request.dq request.tauFf)
      (g.shared.parameters.allowMotion = true ∧
        (checkFiniteValuesN request.q g.shared.jointCount "q").ok = true ∧
        (checkOptionalValues request.dq g.shared.jointCount "dq").ok = true ∧
        (checkOptionalValues request.tauFf g.shared.jointCount "tau_ff").ok = true ∧
        LinkUp env g)
      (handleMoveJs request response) := by
  refine decides_requireMotionAllowed (decides_self ?_)
  refine decides_refuseUnless (explained_checkFiniteValuesN _ _ _) ?_
  refine decides_refuseUnless (explained_checkOptionalValues _ _ _) ?_
  refine decides_refuseUnless (explained_checkOptionalValues _ _ _) ?_
  exact .map (.comp (.unless (Reply.keeps_onSuccess _) _) (Reply.keeps_onSuccess _))
    (decides_command (fun _ => rfl) fun _ _ => rfl)

lemma decides_handleSendMit (request : SendMit.Request) (response : Reply Unit) :
    Decides env g
      (.sendMit request.joint.toInt request.q request.dq request.kp request.kd request.tau)
      (g.shared.parameters.allowMotion = true ∧
        (checkJointIndex request.joint.toInt g.shared.jointCount).ok = true ∧
        (checkFiniteValues [request.q, request.dq, request.kp, request.kd, request.tau]
          "q/dq/kp/kd/tau").ok = true ∧ LinkUp env g)
      (handleSendMit request response) := by
  refine decides_requireMotionAllowed (decides_self ?_)
  refine decides_refuseUnless (explained_checkJointIndex _ _) ?_
  refine decides_refuseUnless (explained_checkFiniteValues _ _) ?_
  exact decides_command (fun _ => rfl) fun _ _ => rfl

/-- The arrays of a `send_mit_all` request, in the order in which they are checked. -/
def SendMitAll.Request.arrays (request : SendMitAll.Request) : List (String × List Double) :=
  [("q", request.q), ("dq", request.dq), ("kp", request.kp), ("kd", request.kd),
    ("tau", request.tau)]

lemma decides_handleSendMitAll (request : SendMitAll.Request) (response : Reply Unit) :
    Decides env g (.sendMitAll request.q request.dq request.kp request.kd request.tau)
      (g.shared.parameters.allowMotion = true ∧
        (firstRefusal (request.arrays.map fun entry =>
          checkFiniteValuesN entry.2 g.shared.jointCount entry.1)).ok = true ∧ LinkUp env g)
      (handleSendMitAll request response) := by
  refine decides_requireMotionAllowed (decides_self ?_)
  refine decides_refuseUnless (explained_firstRefusal ?_) ?_
  · intro gate hgate
    obtain ⟨entry, -, rfl⟩ := List.mem_map.mp hgate
    exact explained_checkFiniteValuesN _ _ _
  · exact .map (Reply.keeps_onSuccess _) (decides_command (fun _ => rfl) fun _ _ => rfl)

lemma decides_handleHome (response : Reply Unit) :
    Decides env g .home (g.shared.parameters.allowMotion = true ∧ LinkUp env g)
      (handleHome response) := by
  refine decides_requireMotionAllowed ?_
  exact .map (Reply.keeps_onSuccess _) (decides_command (fun _ => rfl) fun _ _ => rfl)

lemma decides_handleMoveL (request : MoveL.Request) (response : Reply PlanReport) :
    Decides env g (.moveL request.pose request.speed request.wait)
      (g.shared.parameters.allowMotion = true ∧ (checkFinitePose request.pose).ok = true ∧
        (checkSpeedFraction request.speed).ok = true ∧ LinkUp env g)
      (handleMoveL request response) := by
  refine decides_requireMotionAllowed ?_
  refine decides_refuseUnless (explained_checkFinitePose _) ?_
  refine decides_refuseUnless (explained_checkSpeedFraction _) ?_
  exact decides_command (fun _ => rfl) fun _ _ => rfl

lemma decides_handleMoveC (request : MoveC.Request) (response : Reply PlanReport) :
    Decides env g
      (.moveC request.start request.via request.end request.speed request.wait)
      (g.shared.parameters.allowMotion = true ∧
        (firstRefusal [checkNamedPose "start" request.start, checkNamedPose "via" request.via,
          checkNamedPose "end" request.end]).ok = true ∧
        (checkSpeedFraction request.speed).ok = true ∧ LinkUp env g)
      (handleMoveC request response) := by
  refine decides_requireMotionAllowed ?_
  refine decides_refuseUnless (explained_firstRefusal ?_) ?_
  · intro gate hgate
    simp only [List.mem_cons, List.not_mem_nil, or_false] at hgate
    rcases hgate with rfl | rfl | rfl
    · exact explained_checkNamedPose _ _
    · exact explained_checkNamedPose _ _
    · exact explained_checkNamedPose _ _
  refine decides_refuseUnless (explained_checkSpeedFraction _) ?_
  exact decides_command (fun _ => rfl) fun _ _ => rfl

lemma decides_handleMovePath (request : MovePath.Request) (response : Reply PlanReport) :
    Decides env g (.movePath (posesOf request.poses) request.speed request.wait)
      (g.shared.parameters.allowMotion = true ∧ Waypoints request.poses ∧
        (checkSpeedFraction request.speed).ok = true ∧ LinkUp env g)
      (handleMovePath request response) := by
  refine decides_requireMotionAllowed ?_
  by_cases hposes : Waypoints request.poses
  · rw [readPoses_of_waypoints hposes, pure_bind']
    refine Decides.congr (and_iff_right hposes).symm ?_
    refine decides_refuseUnless (explained_checkSpeedFraction _) ?_
    exact decides_command (fun _ => rfl) fun _ _ => rfl
  · obtain ⟨gate, hok, hgate, hread⟩ := readPoses_of_not_waypoints hposes
    rw [hread, pure_bind']
    exact ⟨fun h => absurd h.1 hposes, fun _ => refused_fillFailure hgate hok response⟩

/-! ### Handlers that do not move the arm -/

lemma decides_handlePollCart (response : Reply PollCart.Body) :
    Decides env g .pollCart (LinkUp env g) (handlePollCart response) := by
  refine decides_runCommand fun _ => sends_command (fun _ => rfl) fun plan g' => ?_
  cases plan with
  | none => exact ⟨⟨_, rfl⟩, .refl _, rfl⟩
  | some plan => exact ⟨⟨_, rfl⟩, .refl _, rfl⟩

lemma decides_handleInverseKinematics (request : InverseKinematics.Request)
    (response : Reply (List Double)) :
    Decides env g (.ik request.pose request.seed (orDefault request.timeout 3))
      ((checkFinitePose request.pose).ok = true ∧
        (checkOptionalValues request.seed 7 "seed").ok = true ∧
        (checkTimeout request.timeout "timeout").ok = true ∧ LinkUp env g)
      (handleInverseKinematics request response) := by
  refine decides_refuseUnless (explained_checkFinitePose _) ?_
  refine decides_refuseUnless (explained_checkOptionalValues _ _ _) ?_
  refine decides_refuseUnless (explained_checkTimeout _ _) ?_
  exact decides_command (fun _ => rfl) fun _ _ => rfl

end LitearmDriver
