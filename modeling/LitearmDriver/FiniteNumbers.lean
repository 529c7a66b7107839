import LitearmDriver.ServiceCalls

/-!
# Non-finite numbers in maintenance requests

A maintenance request that carries a NaN or an infinity is to be refused, so that every value,
gain, limit and deadline the SDK is given is finite. Most handlers check their numbers; four
send them as they come.
-/

namespace LitearmDriver

open Interaction Program

variable {σ : Type} {env : Environment σ} {g : World σ}

/-! ### Numbers -/

/-- The services outside the motion surface that take floating-point input. -/
def Service.takesNumbers : Service → Bool
  | .setPayload | .setFeedforwardScalar | .setFeedforwardVector | .setGravityScale
  | .setInertiaScale | .setGravityVector | .setJointGains | .setJointLimits | .setModelBody
  | .setModelJm | .inverseKinematics | .kinBench | .logDump | .getStatus | .zeroG => true
  | _ => false

/-- The floating-point input of a call. Zero gravity takes its keep-alive period from the
parameters, and only to enter. -/
def Service.numbers (p : Parameters) : (s : Service) → s.Request → List Double
  | .setPayload, r           => r.mass :: r.com.toList
  | .setFeedforwardScalar, r => [r.value]
  | .setFeedforwardVector, r => r.values
  | .setGravityScale, r      => r.values
  | .setInertiaScale, r      => r.values
  | .setGravityVector, r     => r.g.toList
  | .setJointGains, r        => [r.kp, r.kd, r.tauMax]
  | .setJointLimits, r       => [r.qMin, r.qMax]
  | .setModelBody, r         => r.values
  | .setModelJm, r           => r.values
  | .inverseKinematics, r    => r.pose.toList ++ r.seed ++ [r.timeout]
  | .kinBench, r             => [r.timeout]
  | .logDump, r              => [r.timeout]
  | .getStatus, r            => [r.timeout]
  | .zeroG, r                => if r.data then [p.zeroGKeepalivePeriodS] else []
  | _, _                     => []

/-- The floating-point arguments of a command. -/
def Command.numbers : Command → List Double
  | .zeroGStart periodS           => [periodS]
  | .getStatusNow timeout         => [timeout]
  | .setPayload mass com          => mass :: com.toList
  | .setFfScalar _ _ value        => [value]
  | .setFfVec _ values            => values
  | .setGravityScale values       => values
  | .setInertiaScale values       => values
  | .setGravityVector g           => g.toList
  | .setJointParam _ kp kd tauMax => [kp, kd, tauMax]
  | .setJointLimits _ qMin qMax   => [qMin, qMax]
  | .movej q speed                => q ++ [speed]
  | .movejSync q speed            => q ++ [speed]
  | .moveP pose speed _           => pose.toList ++ [speed]
  | .moveJs q dq tauFf            => q ++ dq ++ tauFf
  | .sendMit _ q dq kp kd tau     => [q, dq, kp, kd, tau]
  | .sendMitAll q dq kp kd tau    => q ++ dq ++ kp ++ kd ++ tau
  | .moveL pose speed _           => pose.toList ++ [speed]
  | .moveC start via last speed _ => start.toList ++ via.toList ++ last.toList ++ [speed]
  | .movePath poses speed _       => poses.flatMap Vector.toList ++ [speed]
  | .ik pose seed timeout         => pose.toList ++ seed ++ [timeout]
  | .modelSetBody _ values        => values
  | .modelSetJm values            => values
  | .kinBench timeout             => [timeout]
  | .logDump _ _ timeout _ wait   => [timeout, wait]
  | _                             => []

/-- A call with a non-finite number is refused, and whatever is sent carries finite ones. -/
structure NumbersGuarded (env : Environment σ) (g : World σ) (s : Service)
    (request : s.Request) : Prop where
  refused : ¬ AllFinite (s.numbers g.shared.parameters request) → Refuses env g s request
  finite : ∀ new, sent (step env (.service s request) g) = new ++ sent g →
    ∀ e ∈ new, AllFinite (Command.numbers e.1)

/-- A handler guards its numbers when those of its request and those of its command are finite
whenever it issues the command. -/
lemma guarded_iff_of_decides {s : Service} {request : s.Request} {c : Command} {G : Prop}
    (hd : Decides env g c G (s.handle request default)) :
    NumbersGuarded env g s request ↔
      (G → AllFinite (s.numbers g.shared.parameters request) ∧ AllFinite c.numbers) := by
  constructor
  · rintro ⟨hrefused, hfinite⟩ hG
    obtain ⟨x, hsent⟩ := sendsOnly_of_decides hd hG
    constructor
    · by_contra hnot
      exact SendsOnly.not_refuses ⟨x, hsent⟩ (hrefused hnot)
    · exact hfinite [⟨c, x⟩] hsent ⟨c, x⟩ (List.mem_singleton_self _)
  · intro h
    constructor
    · intro hnot
      apply refuses_of_decides hd
      intro hG
      exact hnot (h hG).1
    · intro new hnew e he
      obtain ⟨hG, hc⟩ := sent_of_decides hd hnew e he
      rw [hc]
      exact (h hG).2

/-! ### What the gates let through -/

@[simp] lemma allFinite_nil : AllFinite [] := by
  intro x hx
  cases hx

@[simp] lemma allFinite_cons {x : Double} {xs : List Double} :
    AllFinite (x :: xs) ↔ x.isFinite = true ∧ AllFinite xs := List.forall_mem_cons

@[simp] lemma allFinite_append {xs ys : List Double} :
    AllFinite (xs ++ ys) ↔ AllFinite xs ∧ AllFinite ys := List.forall_mem_append

lemma allFinite_of_not_any {xs : List Double} (h : ¬ xs.any (!·.isFinite) = true) :
    AllFinite xs := by
  simpa [AllFinite] using h

lemma checkMass_finite {mass : Double} (h : (checkMass mass).ok = true) :
    mass.isFinite = true := by
  rw [checkMass] at h
  split at h
  · cases h
  · rename_i hfinite
    simpa using hfinite

lemma checkZeroGPeriod_finite {periodS : Double} (h : (checkZeroGPeriod periodS).ok = true) :
    periodS.isFinite = true := by
  rw [checkZeroGPeriod] at h
  split at h
  · cases h
  · rename_i hfinite
    simpa using hfinite

lemma checkTimeout_finite {timeout : Double} {what : String}
    (h : (checkTimeout timeout what).ok = true) : timeout.isFinite = true := by
  rw [checkTimeout] at h
  split at h
  · cases h
  · rename_i hfinite
    simpa using hfinite

lemma checkCom_finite {com : Vector3} (h : (checkCom com).ok = true) : AllFinite com.toList := by
  rw [checkCom] at h
  split at h
  · cases h
  · rename_i hfinite
    exact allFinite_of_not_any hfinite

lemma checkFfValues_finite {values : List Double} (h : (checkFfValues values).ok = true) :
    AllFinite values := by
  rw [checkFfValues] at h
  split at h
  · cases h
  · split at h
    · cases h
    · rename_i hfinite
      exact allFinite_of_not_any hfinite

lemma checkFiniteVector3_finite {values : Vector3} (h : (checkFiniteVector3 values).ok = true) :
    AllFinite values.toList :=
  ((checkFiniteValuesImpl_ok_iff _ _ _).mp h).2.2

lemma checkFiniteValuesN_finite {values : List Double} {expected : Nat} {what : String}
    (h : (checkFiniteValuesN values expected what).ok = true) : AllFinite values :=
  ((checkFiniteValuesImpl_ok_iff _ _ _).mp h).2.2

lemma checkOptionalValues_finite {values : List Double} {expected : Nat} {what : String}
    (h : (checkOptionalValues values expected what).ok = true) : AllFinite values := by
  rw [checkOptionalValues] at h
  split at h
  · rename_i hempty
    rw [List.isEmpty_iff.mp hempty]
    exact allFinite_nil
  · exact checkFiniteValuesN_finite h

lemma orDefault_finite {timeout default : Double} (h : timeout.isFinite = true)
    (hdefault : default.isFinite = true) : (orDefault timeout default).isFinite = true := by
  rw [orDefault]
  split
  · exact h
  · exact hdefault

/-! ### Which handlers check -/

/-- The deadline the SDK uses for a benchmark when none is given is a finite constant. -/
def FiniteKinBenchTimeout (env : Environment σ) : Prop :=
  ∀ w, Double.isFinite (env (.query .kinBenchTimeout) w).1 = true

/-- The handler sends its numbers unchecked, and gets as far as sending them. -/
def SendsUnchecked (env : Environment σ) (g : World σ) : (s : Service) → s.Request → Prop
  | .getStatus, _            => LinkUp env g
  | .setFeedforwardScalar, _ => LinkUp env g
  | .setJointGains, r        => LinkUp env g ∧
      (checkJointIndex r.joint.toInt (axesSeen env g)).ok = true ∧ LinkUp env (afterAxes env g)
  | .setJointLimits, r       => LinkUp env g ∧
      (checkJointIndex r.joint.toInt (axesSeen env g)).ok = true ∧ LinkUp env (afterAxes env g)
  | _, _                     => False

section
variable {s : Service} {request : s.Request} {c : Command} {G : Prop}

/-- A handler that checks its numbers guards them. -/
lemma guarded_iff_of_checked (hd : Decides env g c G (s.handle request default))
    (hG : G → AllFinite (s.numbers g.shared.parameters request) ∧ AllFinite c.numbers)
    (hnever : ¬ SendsUnchecked env g s request) : NumbersGuarded env g s request ↔
      (SendsUnchecked env g s request → AllFinite (s.numbers g.shared.parameters request)) := by
  apply iff_of_true
  · exact (guarded_iff_of_decides hd).mpr hG
  · intro hsends
    exact absurd hsends hnever

/-- A handler that sends the numbers of its request, once they are checked, guards them. -/
lemma guarded_iff_of_same (hd : Decides env g c G (s.handle request default))
    (hsame : c.numbers = s.numbers g.shared.parameters request)
    (hG : G → AllFinite (s.numbers g.shared.parameters request))
    (hnever : ¬ SendsUnchecked env g s request) : NumbersGuarded env g s request ↔
      (SendsUnchecked env g s request → AllFinite (s.numbers g.shared.parameters request)) := by
  apply guarded_iff_of_checked hd _ hnever
  intro hissued
  rw [hsame]
  exact ⟨hG hissued, hG hissued⟩

/-- A handler that sends the numbers of its request unchecked guards them if they are finite. -/
lemma guarded_iff_of_unchecked
    (hd : Decides env g c (SendsUnchecked env g s request) (s.handle request default))
    (hsame : c.numbers = s.numbers g.shared.parameters request) :
    NumbersGuarded env g s request ↔
      (SendsUnchecked env g s request → AllFinite (s.numbers g.shared.parameters request)) := by
  rw [guarded_iff_of_decides hd, hsame, and_self_iff]

end

/-- In every reachable state a maintenance request is guarded against non-finite numbers
exactly when its handler checks them, does not get as far as sending them, or there are none
among them. -/
theorem finite_numbers_iff (hdefault : FiniteKinBenchTimeout env) :
    ∀ g : World σ, Reachable env g → ∀ s : Service, s.takesNumbers = true →
      ∀ request : s.Request, NumbersGuarded env g s request ↔
        (SendsUnchecked env g s request → AllFinite (s.numbers g.shared.parameters request)) := by
  intro g _ s hs request
  cases s with
  | getStatus => exact guarded_iff_of_unchecked (decides_handleGetStatus request default) rfl
  | setFeedforwardScalar =>
    exact guarded_iff_of_unchecked (decides_handleSetFeedforwardScalar request default) rfl
  | setJointGains =>
    exact guarded_iff_of_unchecked (decides_handleSetJointGains request default) rfl
  | setJointLimits =>
    exact guarded_iff_of_unchecked (decides_handleSetJointLimits request default) rfl
  | setPayload =>
    apply guarded_iff_of_same (decides_handleSetPayload request default) rfl _ id
    rintro ⟨hmass, hcom, -⟩
    exact allFinite_cons.mpr ⟨checkMass_finite hmass, checkCom_finite hcom⟩
  | setFeedforwardVector =>
    apply guarded_iff_of_same (decides_handleSetFeedforwardVector request default) rfl _ id
    rintro ⟨hvalues, -⟩
    exact checkFfValues_finite hvalues
  | setGravityScale =>
    apply guarded_iff_of_same (decides_handleSetGravityScale request default) rfl _ id
    rintro ⟨hvalues, -⟩
    exact checkFiniteValuesN_finite hvalues
  | setInertiaScale =>
    apply guarded_iff_of_same (decides_handleSetInertiaScale request default) rfl _ id
    rintro ⟨hvalues, -⟩
    exact checkFiniteValuesN_finite hvalues
  | setGravityVector =>
    apply guarded_iff_of_same (decides_handleSetGravityVector request default) rfl _ id
    rintro ⟨hvalues, -⟩
    exact checkFiniteVector3_finite hvalues
  | setModelBody =>
    apply guarded_iff_of_same (decides_handleSetModelBody request default) rfl _ id
    rintro ⟨hvalues, -⟩
    exact ((checkFiniteValues_ok_iff _ _).mp hvalues).2
  | setModelJm =>
    apply guarded_iff_of_same (decides_handleSetModelJm request default) rfl _ id
    rintro ⟨hvalues, -⟩
    exact ((checkFiniteValues_ok_iff _ _).mp hvalues).2
  | inverseKinematics =>
    apply guarded_iff_of_checked (decides_handleInverseKinematics request default) _ id
    rintro ⟨hpose, hseed, htimeout, -⟩
    have hpose' := (checkFinitePose_ok_iff _).mp hpose
    have hseed' := checkOptionalValues_finite hseed
    have htimeout' := checkTimeout_finite htimeout
    constructor
    · simp [Service.numbers, hpose', hseed', htimeout']
    · have hdeadline : (orDefault request.timeout 3).isFinite = true :=
        orDefault_finite htimeout' (by rfl)
      simp [Command.numbers, hpose', hseed', hdeadline]
  | kinBench =>
    apply guarded_iff_of_checked (decides_handleKinBench request default) _ id
    rintro ⟨htimeout, -⟩
    have htimeout' := checkTimeout_finite htimeout
    constructor
    · simp [Service.numbers, htimeout']
    · have hdeadline := orDefault_finite htimeout'
        (hdefault (g.after env (.query .isConnected)).outside)
      exact allFinite_cons.mpr ⟨hdeadline, allFinite_nil⟩
  | logDump =>
    apply guarded_iff_of_checked (decides_handleLogDump request default) _ id
    rintro ⟨-, htimeout, -⟩
    have htimeout' := checkTimeout_finite htimeout
    constructor
    · simp [Service.numbers, htimeout']
    · have hdeadline : (orDefault request.timeout 1).isFinite = true :=
        orDefault_finite htimeout' (by rfl)
      have hwait : (orDefault request.timeout (-1)).isFinite = true :=
        orDefault_finite htimeout' (by rfl)
      simp [Command.numbers, hdeadline, hwait]
  | zeroG =>
    cases hdata : request.data with
    | true =>
      apply guarded_iff_of_checked (decides_handleZeroG_start hdata default) _ id
      rintro ⟨hperiod, -⟩
      have hfinite := checkZeroGPeriod_finite hperiod
      constructor
      · simp [Service.numbers, hdata, hfinite]
      · simp [Command.numbers, hfinite]
    | false =>
      apply guarded_iff_of_checked (decides_handleZeroG_stop hdata default) _ id
      intro _
      simp [Service.numbers, Command.numbers, hdata]
  | _ => cases hs

theorem finite_numbers_iff_mass :
    NumbersGuarded bench configuredBench .setPayload ⟨.nan, #v[0, 0, 0]⟩ ↔
      (SendsUnchecked bench configuredBench .setPayload ⟨.nan, #v[0, 0, 0]⟩ →
        AllFinite (Service.numbers configuredBench.shared.parameters .setPayload
          ⟨.nan, #v[0, 0, 0]⟩)) :=
  finite_numbers_iff (fun _ => rfl) configuredBench (reachable_benchRun _ _ _) .setPayload rfl _

/-- A NaN written to a feedforward scalar reaches the firmware. -/
theorem nan_scalar_sent :
    Reachable bench configuredBench ∧
      ¬ NumbersGuarded bench configuredBench .setFeedforwardScalar ⟨4, 0, .nan⟩ := by
  refine ⟨reachable_benchRun _ _ _, ?_⟩
  intro h
  have hsent : sent (step bench (.service .setFeedforwardScalar ⟨4, 0, .nan⟩) configuredBench) =
      [⟨.setFfScalar 4 0 .nan, .ok ()⟩] ++ sent configuredBench := rfl
  have hfinite := h.finite _ hsent _ (List.mem_singleton_self _)
  exact absurd (allFinite_cons.mp hfinite).1 (by decide)

end LitearmDriver
