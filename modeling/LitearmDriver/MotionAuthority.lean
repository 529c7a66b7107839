import LitearmDriver.Bench
import LitearmDriver.Steps

/-!
# Motion authority

Which callback may send which command, and when a motion handler sends its own: only with
the opt-in given, on a live link, and for a request whose numbers are usable.
-/

namespace LitearmDriver

open Interaction Program

variable {σ : Type} {env : Environment σ} {g : World σ}

/-! ### Who sends a motion command -/

lemma Callback.MaySend.motion {cb : Callback} {c : Command} (h : cb.MaySend c)
    (hc : c.isMotion = true) : ∃ s request, cb = .service s request ∧ c.owner = some s := by
  cases cb with
  | service s request =>
    rcases h with howner | ⟨-, rfl⟩
    · exact ⟨s, request, rfl, howner⟩
    · simp [Command.isMotion] at hc
  | changeState t =>
    cases t with
    | configure => rcases h with rfl | rfl <;> simp [Command.isMotion] at hc
    | activate =>
      obtain ⟨attempts, rfl⟩ := h
      simp [Command.isMotion] at hc
    | deactivate | cleanup | shutdown =>
      cases h
      simp [Command.isMotion] at hc
  | _ => exact absurd h id

/-! ### What is admitted -/

/-- One finite value for every axis. -/
def JointArray (axes : Nat) (values : List Double) : Prop :=
  values.length = axes ∧ AllFinite values

/-- A fraction of full speed. -/
def SpeedFraction (speed : Double) : Prop := speed.isFinite = true ∧ 0 < speed ∧ speed ≤ 1

/-- The requests a motion service is meant to carry out on an arm with `axes` axes. -/
def Admissible (axes : Nat) : (s : Service) → s.Request → Prop
  | .moveJ, r => JointArray axes r.q ∧ SpeedFraction r.speed
  | .moveJSync, r => JointArray axes r.q ∧ SpeedFraction r.speed
  | .moveP, r => AllFinite r.pose.toList ∧ SpeedFraction r.speed
  | .moveJs, r => JointArray axes r.q ∧ (r.dq = [] ∨ JointArray axes r.dq) ∧
      (r.tauFf = [] ∨ JointArray axes r.tauFf)
  | .sendMit, r => (0 ≤ r.joint.toInt ∧ r.joint.toInt < axes) ∧
      AllFinite [r.q, r.dq, r.kp, r.kd, r.tau]
  | .sendMitAll, r => JointArray axes r.q ∧ JointArray axes r.dq ∧ JointArray axes r.kp ∧
      JointArray axes r.kd ∧ JointArray axes r.tau
  | .home, _ => True
  | .moveL, r => AllFinite r.pose.toList ∧ SpeedFraction r.speed
  | .moveC, r => (AllFinite r.start.toList ∧ AllFinite r.via.toList ∧
      AllFinite r.end.toList) ∧ SpeedFraction r.speed
  | .movePath, r => (r.poses ≠ [] ∧ AllFinite r.poses ∧ r.poses.length % 6 = 0) ∧
      SpeedFraction r.speed
  | _, _ => False

/-- The motion command a request of a motion service asks for. -/
def Service.motionCommand : (s : Service) → s.Request → Option Command
  | .moveJ, r => some (.movej r.q r.speed)
  | .moveJSync, r => some (.movejSync r.q r.speed)
  | .moveP, r => some (.moveP r.pose r.speed r.wait)
  | .moveJs, r => some (.moveJs r.q r.dq r.tauFf)
  | .sendMit, r => some (.sendMit r.joint.toInt r.q r.dq r.kp r.kd r.tau)
  | .sendMitAll, r => some (.sendMitAll r.q r.dq r.kp r.kd r.tau)
  | .home, _ => some .home
  | .moveL, r => some (.moveL r.pose r.speed r.wait)
  | .moveC, r => some (.moveC r.start r.via r.end r.speed r.wait)
  | .movePath, r => some (.movePath (posesOf r.poses) r.speed r.wait)
  | _, _ => none

lemma arrays_ok_iff {axes : Nat} (h : 0 < axes) (request : SendMitAll.Request) :
    (firstRefusal (request.arrays.map fun entry =>
        checkFiniteValuesN entry.2 axes entry.1)).ok = true ↔
      JointArray axes request.q ∧ JointArray axes request.dq ∧ JointArray axes request.kp ∧
        JointArray axes request.kd ∧ JointArray axes request.tau := by
  rw [firstRefusal_ok_iff]
  simp [SendMitAll.Request.arrays, checkFiniteValuesN_ok_iff h, JointArray]

lemma namedPoses_ok_iff (request : MoveC.Request) :
    (firstRefusal [checkNamedPose "start" request.start, checkNamedPose "via" request.via,
        checkNamedPose "end" request.end]).ok = true ↔
      AllFinite request.start.toList ∧ AllFinite request.via.toList ∧
        AllFinite request.end.toList := by
  rw [firstRefusal_ok_iff]
  simp [checkNamedPose_ok, checkFinitePose_ok_iff]

/-- A motion handler issues its command exactly when motion is allowed, the link is up and
the request is admissible. -/
theorem decides_motion {s : Service} {request : s.Request} {c : Command}
    (hn : 0 < g.shared.jointCount) (hc : s.motionCommand request = some c)
    (response : s.Response) :
    Decides env g c (g.shared.parameters.allowMotion = true ∧ LinkUp env g ∧
      Admissible g.shared.jointCount s request) (s.handle request response) := by
  cases s with
  | moveJ =>
    cases hc
    refine Decides.congr ?_ (decides_handleMoveJ request response)
    rw [checkFiniteValuesN_ok_iff hn, checkSpeedFraction_ok_iff]
    simp only [Admissible, JointArray, SpeedFraction]
    tauto
  | moveJSync =>
    cases hc
    refine Decides.congr ?_ (decides_handleMoveJSync request response)
    rw [checkFiniteValuesN_ok_iff hn, checkSpeedFraction_ok_iff]
    simp only [Admissible, JointArray, SpeedFraction]
    tauto
  | moveP =>
    cases hc
    refine Decides.congr ?_ (decides_handleMoveP request response)
    rw [checkFinitePose_ok_iff, checkSpeedFraction_ok_iff]
    simp only [Admissible, SpeedFraction]
    tauto
  | moveJs =>
    cases hc
    refine Decides.congr ?_ (decides_handleMoveJs request response)
    rw [checkFiniteValuesN_ok_iff hn, checkOptionalValues_ok_iff hn, checkOptionalValues_ok_iff hn]
    simp only [Admissible, JointArray]
    tauto
  | sendMit =>
    cases hc
    refine Decides.congr ?_ (decides_handleSendMit request response)
    rw [checkJointIndex_ok_iff, checkFiniteValues_ok_iff]
    simp only [Admissible]
    tauto
  | sendMitAll =>
    cases hc
    refine Decides.congr ?_ (decides_handleSendMitAll request response)
    rw [arrays_ok_iff hn]
    simp only [Admissible]
    tauto
  | home =>
    cases hc
    refine Decides.congr ?_ (decides_handleHome response)
    simp only [Admissible]
    tauto
  | moveL =>
    cases hc
    refine Decides.congr ?_ (decides_handleMoveL request response)
    rw [checkFinitePose_ok_iff, checkSpeedFraction_ok_iff]
    simp only [Admissible, SpeedFraction]
    tauto
  | moveC =>
    cases hc
    refine Decides.congr ?_ (decides_handleMoveC request response)
    rw [namedPoses_ok_iff, checkSpeedFraction_ok_iff]
    simp only [Admissible, SpeedFraction]
    tauto
  | movePath =>
    cases hc
    refine Decides.congr ?_ (decides_handleMovePath request response)
    rw [checkSpeedFraction_ok_iff]
    simp only [Admissible, Waypoints, SpeedFraction]
    tauto
  | _ => exact absurd hc (by simp [Service.motionCommand])

/-- In every reachable state of a session with at least one axis: a motion command is sent
only by the handler of its own service, and that handler sends it, once, if and only if
motion is allowed at that moment, the link is up and the request is admissible; otherwise
it sends nothing and reports a failure. -/
theorem motion_authority : ∀ g : World σ, Reachable env g → 0 < g.shared.jointCount →
    (∀ cb : Callback, ∃ new, sent (step env cb g) = new ++ sent g ∧
      ∀ e ∈ new, e.1.isMotion = true →
        ∃ s request, cb = .service s request ∧ e.1.owner = some s) ∧
    (∀ (s : Service) (request : s.Request) (c : Command), s.motionCommand request = some c →
      ∃ new, sent (step env (.service s request) g) = new ++ sent g ∧
        ((g.shared.parameters.allowMotion = true ∧ LinkUp env g ∧
            Admissible g.shared.jointCount s request) →
          ∃ x, new = [⟨c, x⟩]) ∧
        (¬ (g.shared.parameters.allowMotion = true ∧ LinkUp env g ∧
            Admissible g.shared.jointCount s request) →
          new = [] ∧ ∃ response : s.Response,
            ((Callback.service s request).code.run env g).1 = .ok response ∧
            response.success = false)) := by
  intro g _ hn
  constructor
  · intro cb
    obtain ⟨new, hsent, hall⟩ := step_sent env g cb
    exact ⟨new, hsent, fun e he hmotion => (hall e he).motion hmotion⟩
  · intro s request c hc
    have hd : Decides env g c _ (s.handle request default) := decides_motion hn hc default
    by_cases hG : g.shared.parameters.allowMotion = true ∧ LinkUp env g ∧
        Admissible g.shared.jointCount s request
    · obtain ⟨x, response, hlog, -, -, -, -⟩ := hd.issued hG
      exact ⟨_, hlog.sent, fun _ => ⟨x, rfl⟩, fun h => absurd hG h⟩
    · obtain ⟨hlog, -, response, hr, hfailed, -⟩ := hd.refused hG
      exact ⟨[], hlog.sent, fun h => absurd h hG, fun _ => ⟨rfl, response, hr, hfailed⟩⟩

/-- A configured and activated node that allows motion. -/
def movableBench : World Bench :=
  benchRun { allowMotion := true } [{}] [.changeState .configure, .changeState .activate]

/-- A request for six axes at a tenth of full speed. -/
def smallMove : MoveJ.Request := ⟨[0, 0.1, -0.2, 0, 0.3, 0], 0.1⟩

lemma smallMove_admissible : Admissible 6 .moveJ smallMove := by
  refine ⟨⟨rfl, ?_⟩, rfl, ?_, ?_⟩
  · intro v hv
    simp only [smallMove, List.mem_cons, List.not_mem_nil, or_false] at hv
    rcases hv with rfl | rfl | rfl | rfl | rfl | rfl <;> rfl
  · exact (Double.finite_lt_finite 0 0.1).mpr (by norm_num)
  · exact (Double.finite_le_finite 0.1 1).mpr (by norm_num)

/-- The move is sent; without the value of one axis it is not. -/
theorem motion_authority_moveJ :
    (∃ x, sent (step bench (.service .moveJ smallMove) movableBench) =
      ⟨.movej smallMove.q smallMove.speed, x⟩ :: sent movableBench) ∧
    sent (step bench (.service .moveJ ⟨smallMove.q.tail, smallMove.speed⟩) movableBench) =
      sent movableBench := by
  obtain ⟨-, hmotion⟩ :=
    motion_authority movableBench (reachable_benchRun _ _ _) (by decide : 0 < 6)
  constructor
  · obtain ⟨new, hsent, hadmitted, -⟩ := hmotion .moveJ smallMove _ rfl
    obtain ⟨x, rfl⟩ := hadmitted ⟨rfl, ⟨rfl, rfl⟩, smallMove_admissible⟩
    exact ⟨x, hsent⟩
  · obtain ⟨new, hsent, -, hrefused⟩ :=
      hmotion .moveJ ⟨smallMove.q.tail, smallMove.speed⟩ _ rfl
    obtain ⟨rfl, -⟩ := hrefused fun h => nomatch h.2.2.1.1
    exact hsent

end LitearmDriver
