import LitearmDriver.ServiceCalls

/-!
# Waypoints

A path comes as one flat list of numbers, six for each waypoint. It reaches the SDK as it was
sent, waypoint by waypoint, or not at all.
-/

namespace LitearmDriver

open Interaction Program

variable {σ : Type} {env : Environment σ} {g : World σ}

/-! ### The loop and the out-parameters -/

/-- What a call of `read_poses` leaves: its answer, and its two out-parameters. -/
structure PosesRead where
  answer : Bool
  poses : List Pose
  gate : GateResult

/-- The loop from index `i` on, which appends to the poses so far. There is no result when it
reads outside the list. -/
def readPosesFrom (flat : List Double) (i : Nat) (poses : List Pose) : Option (List Pose) :=
  if i < flat.length then
    match poseAt flat i with
    | some pose => readPosesFrom flat (i + 6) (poses ++ [pose])
    | none      => none
  else some poses
termination_by flat.length - i

/-- `read_poses` on the poses the caller already has. -/
def readPosesInto (flat : List Double) (poses : List Pose) : Option PosesRead :=
  let gate := checkFiniteValues flat "poses"
  if !gate.ok then some ⟨false, poses, gate⟩
  else if flat.length % 6 ≠ 0 then
    some ⟨false, poses, { gate with
      ok := false
      message := "poses must hold six values per waypoint; got " ++ toString flat.length ++
        ", which is not a multiple of six" }⟩
  else (readPosesFrom flat 0 poses).map fun poses => ⟨true, poses, gate⟩

/-- The loop runs through the indices of the waypoints. -/
lemma readPosesFrom_eq_mapM (flat : List Double) (k : Nat) (poses : List Pose) :
    readPosesFrom flat (6 * k) poses =
      (((List.range' k ((flat.length + 5) / 6 - k)).map (6 * ·)).mapM (poseAt flat)).map
        (poses ++ ·) := by
  induction hleft : (flat.length + 5) / 6 - k generalizing k poses with
  | zero =>
    rw [readPosesFrom, if_neg (by omega)]
    simp
  | succ left ih =>
    rw [readPosesFrom, if_pos (by omega), List.range'_succ, List.map_cons, List.mapM_cons]
    cases poseAt flat (6 * k) with
    | none => rfl
    | some pose =>
      have hrest : readPosesFrom flat (6 * k + 6) (poses ++ [pose]) = _ :=
        ih (k + 1) (poses ++ [pose]) (by omega)
      dsimp only
      rw [hrest]
      cases ((List.range' (k + 1) left).map (6 * ·)).mapM (poseAt flat) with
      | none => rfl
      | some rest => simp

lemma readPosesFrom_zero (flat : List Double) (poses : List Pose) :
    readPosesFrom flat 0 poses =
      ((poseIndices flat.length).mapM (poseAt flat)).map (poses ++ ·) := by
  have hloop := readPosesFrom_eq_mapM flat 0 poses
  rw [Nat.mul_zero, Nat.sub_zero, ← List.range_eq_range'] at hloop
  exact hloop

/-- A handler that reads the poses starts from an empty list, and takes them if the answer is
true. -/
theorem readPoses_eq (flat : List Double) :
    readPoses flat = match readPosesInto flat [] with
      | some r => .pure (if r.answer then .ok r.poses else .error r.gate)
      | none   => .throw .undefined := by
  rw [readPoses, readPosesInto]
  split
  · rfl
  split
  · rfl
  rw [readPosesFrom_zero]
  cases (poseIndices flat.length).mapM (poseAt flat) with
  | none => rfl
  | some poses => rfl

/-! ### What is read -/

/-- A read inside the list yields the next six numbers. -/
lemma poseAt_inside {flat : List Double} {i : Nat} (h : i + 5 < flat.length) :
    ∃ pose, poseAt flat i = some pose ∧ pose.toList ++ flat.drop (i + 6) = flat.drop i := by
  obtain ⟨pose, hpose⟩ := poseAt_isSome h
  refine ⟨pose, hpose, ?_⟩
  rw [poseAt, List.getElem?_eq_getElem (by omega), List.getElem?_eq_getElem (by omega),
    List.getElem?_eq_getElem (by omega), List.getElem?_eq_getElem (by omega),
    List.getElem?_eq_getElem (by omega), List.getElem?_eq_getElem h] at hpose
  rw [← Option.some.inj hpose, List.drop_eq_getElem_cons (by omega : i < flat.length),
    List.drop_eq_getElem_cons (by omega : i + 1 < flat.length),
    List.drop_eq_getElem_cons (by omega : i + 2 < flat.length),
    List.drop_eq_getElem_cons (by omega : i + 3 < flat.length),
    List.drop_eq_getElem_cons (by omega : i + 4 < flat.length), List.drop_eq_getElem_cons h]
  rfl

/-- From a whole number of waypoints before the end the loop reads all that is left, in order. -/
lemma readPosesFrom_reads {flat : List Double} {i : Nat} (poses : List Pose)
    (hwhole : (flat.length - i) % 6 = 0) :
    ∃ read, readPosesFrom flat i poses = some (poses ++ read) ∧
      6 * read.length = flat.length - i ∧ read.flatMap Vector.toList = flat.drop i := by
  fun_induction readPosesFrom flat i poses with
  | case1 i poses hi pose hpose ih =>
    have hinside : i + 5 < flat.length := by omega
    obtain ⟨pose', hpose', hnext⟩ := poseAt_inside hinside
    cases hpose.symm.trans hpose'
    obtain ⟨read, hread, hcount, hsame⟩ := ih (by omega)
    refine ⟨pose :: read, ?_, ?_, ?_⟩
    · rw [hread, List.append_assoc]
      rfl
    · rw [List.length_cons]
      omega
    · rw [List.flatMap_cons, hsame, hnext]
  | case2 i poses hi hnone =>
    have hinside : i + 5 < flat.length := by omega
    obtain ⟨pose, hpose, -⟩ := poseAt_inside hinside
    cases hnone.symm.trans hpose
  | case3 i poses hi =>
    refine ⟨[], by rw [List.append_nil], ?_, ?_⟩
    · simp
      omega
    · rw [List.drop_eq_nil_of_le (by omega)]
      rfl

/-- The poses are the waypoints of the flat list, in order. -/
structure PathOf (flat : List Double) (path : List Pose) : Prop where
  count : path.length = flat.length / 6
  same : path.flatMap Vector.toList = flat

lemma readPosesFrom_whole {flat : List Double} (poses : List Pose)
    (hwhole : flat.length % 6 = 0) :
    ∃ path, readPosesFrom flat 0 poses = some (poses ++ path) ∧ PathOf flat path := by
  obtain ⟨path, hpath, hcount, hsame⟩ := readPosesFrom_reads (i := 0) poses hwhole
  refine ⟨path, hpath, ?_, hsame⟩
  omega

/-- The waypoints a handler takes from a usable list are those of the list. -/
lemma pathOf_posesOf {flat : List Double} (h : Waypoints flat) : PathOf flat (posesOf flat) := by
  obtain ⟨path, hpath, hpathOf⟩ := readPosesFrom_whole [] h.2.2
  rw [readPosesFrom_zero] at hpath
  obtain ⟨poses, hposes, hsame⟩ := Option.map_eq_some_iff.mp hpath
  obtain rfl : poses = path := hsame
  rw [posesOf, hposes]
  exact hpathOf

/-- The answer is true exactly for a usable list. Then its waypoints are appended to the poses;
otherwise none is, and the gate says why. -/
structure DecodesInto (flat : List Double) (poses : List Pose) (r : PosesRead) : Prop where
  answer : r.answer = true ↔ flat ≠ [] ∧ AllFinite flat ∧ flat.length % 6 = 0
  decoded : r.answer = true → ∃ path, r.poses = poses ++ path ∧ PathOf flat path
  refused : r.answer = false → r.poses = poses ∧ r.gate.ok = false ∧ r.gate.message ≠ ""

lemma readPosesInto_decodes (flat : List Double) (poses : List Pose) :
    ∃ r, readPosesInto flat poses = some r ∧ DecodesInto flat poses r := by
  rw [readPosesInto]
  split
  case isTrue hgate =>
    have hrefused : (checkFiniteValues flat "poses").ok = false := by simpa using hgate
    refine ⟨_, rfl, ?_, nofun, ?_⟩
    · simp only [Bool.false_eq_true, false_iff]
      rintro ⟨hne, hall, -⟩
      have hok := (checkFiniteValues_ok_iff flat "poses").mpr ⟨hne, hall⟩
      cases hrefused.symm.trans hok
    · intro _
      exact ⟨rfl, hrefused, explained_checkFiniteValues _ _ hrefused⟩
  case isFalse hgate =>
    have hok : (checkFiniteValues flat "poses").ok = true := by simpa using hgate
    obtain ⟨hne, hall⟩ := (checkFiniteValues_ok_iff flat "poses").mp hok
    split
    case isTrue hlength =>
      refine ⟨_, rfl, ?_, nofun, ?_⟩
      · simp only [Bool.false_eq_true, false_iff]
        exact fun h => hlength h.2.2
      · intro _
        exact ⟨rfl, rfl, by simp⟩
    case isFalse hlength =>
      have hwhole : flat.length % 6 = 0 := by simpa using hlength
      obtain ⟨path, hpath, hpathOf⟩ := readPosesFrom_whole poses hwhole
      rw [hpath]
      exact ⟨_, rfl, iff_of_true rfl ⟨hne, hall, hwhole⟩, fun _ => ⟨path, rfl, hpathOf⟩, nofun⟩

/-- What a handler takes from the list is what `read_poses` leaves in its empty list. -/
lemma readPoses_decodes (flat : List Double) :
    ∃ r, readPosesInto flat [] = some r ∧ DecodesInto flat [] r ∧
      readPoses flat = .pure (if r.answer then .ok r.poses else .error r.gate) := by
  obtain ⟨r, hr, hdecodes⟩ := readPosesInto_decodes flat []
  refine ⟨r, hr, hdecodes, ?_⟩
  rw [readPoses_eq, hr]

/-! ### The service -/

/-- The call hands the SDK the path of the request, or it is refused and nothing is sent. -/
def PathKept (env : Environment σ) (g : World σ) (request : MovePath.Request) : Prop :=
  (∃ path, PathOf request.poses path ∧
    SendsOnly env g .movePath request (.movePath path request.speed request.wait)) ∨
  Refuses env g .movePath request

lemma pathKept_movePath (request : MovePath.Request) : PathKept env g request := by
  have hdecides : Decides env g (.movePath (posesOf request.poses) request.speed request.wait) _
      (Service.handle .movePath request default) := decides_handleMovePath request default
  by_cases hsent : g.shared.parameters.allowMotion = true ∧ Waypoints request.poses ∧
      (checkSpeedFraction request.speed).ok = true ∧ LinkUp env g
  · exact .inl ⟨_, pathOf_posesOf hsent.2.1, sendsOnly_of_decides hdecides hsent⟩
  · exact .inr (refuses_of_decides hdecides hsent)

/-- Every flat list is decoded without a read outside it, into exactly its waypoints or into a
refusal, and that is what the handler takes; the path of every call arrives so or not at all. -/
theorem waypoints_kept :
    (∀ flat poses, ∃ r, readPosesInto flat poses = some r ∧ DecodesInto flat poses r) ∧
      (∀ flat, ∃ r, readPosesInto flat [] = some r ∧ DecodesInto flat [] r ∧
        readPoses flat = .pure (if r.answer then .ok r.poses else .error r.gate)) ∧
      ∀ (g : World σ) (request : MovePath.Request), PathKept env g request := by
  refine ⟨readPosesInto_decodes, readPoses_decodes, ?_⟩
  intro g request
  exact pathKept_movePath request

end LitearmDriver
