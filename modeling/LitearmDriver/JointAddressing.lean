import LitearmDriver.ServiceCalls

/-!
# Addressing one joint

Four services name a joint by its index. Each is to reach the joint with exactly that index, or
to refuse the call. Reading the parameters has one more value, `-1`, for the whole table.
-/

namespace LitearmDriver

open Interaction Program

variable {σ : Type} {env : Environment σ} {g : World σ} {n : Nat} {s : Service}
  {request : s.Request}

/-- The joint a request names, for the services that name one. -/
def Service.namedJoint : (s : Service) → s.Request → Option Int
  | .getJointParams, r => some r.joint.toInt
  | .setJointGains, r  => some r.joint.toInt
  | .setJointLimits, r => some r.joint.toInt
  | .sendMit, r        => some r.joint.toInt
  | _, _               => none

/-- The joint a command is about. -/
def Command.namedJoint : Command → Option Int
  | .getJointParam joint    => some joint
  | .setJointParam joint .. => some joint
  | .setJointLimits joint _ _ => some joint
  | .sendMit joint ..       => some joint
  | _                       => none

/-- Motion is allowed and the values are finite, for the service that needs it. -/
def Unlocked (g : World σ) : (s : Service) → s.Request → Prop
  | .sendMit, r => g.shared.parameters.allowMotion = true ∧
      AllFinite [r.q, r.dq, r.kp, r.kd, r.tau]
  | _, _        => True

/-- The link is up whenever the handler looks. The handlers of the parameter table look once
before the index is checked and once before the command. -/
def LinkSeen (env : Environment σ) (g : World σ) : (s : Service) → s.Request → Prop
  | .getJointParams, r => LinkUp env g ∧
      LinkUp env (if 0 ≤ r.joint.toInt then afterAxes env g else g.after env (.query .isConnected))
  | .setJointGains, _  => LinkUp env g ∧ LinkUp env (afterAxes env g)
  | .setJointLimits, _ => LinkUp env g ∧ LinkUp env (afterAxes env g)
  | _, _               => LinkUp env g

/-- The values by which the whole table may be read. -/
def NamesTable (s : Service) (joint : Int) : Prop := s = .getJointParams ∧ joint = -1

/-- A call reaches the joint it names on an arm of `n` axes, reads the whole table when it
asks for it, and is refused otherwise. -/
structure JointAddressed (env : Environment σ) (g : World σ) (n : Nat) (s : Service)
    (request : s.Request) (joint : Int) : Prop where
  reached : (∃ c, SendsOnly env g s request c ∧ c.namedJoint = some joint) ↔
    LinkSeen env g s request ∧ 0 ≤ joint ∧ joint < n
  table : SendsOnly env g s request .allJointParams ↔
    LinkSeen env g s request ∧ NamesTable s joint
  refused : ¬ (LinkSeen env g s request ∧ (0 ≤ joint ∧ joint < n ∨ NamesTable s joint)) →
    Refuses env g s request

section
variable {joint : Int}

/-- A handler that issues a command on the joint exactly for the indices of the axes. -/
lemma addressed_of_decides {c : Command} {G : Prop}
    (hd : Decides env g c G (s.handle request default)) (hc : c.namedJoint = some joint)
    (hG : G ↔ LinkSeen env g s request ∧ 0 ≤ joint ∧ joint < n)
    (htable : ¬ NamesTable s joint) : JointAddressed env g n s request joint := by
  constructor
  · constructor
    · rintro ⟨c', hsends, -⟩
      exact hG.mp ((sendsOnly_iff_of_decides hd c').mp hsends).1
    · intro hreached
      exact ⟨c, sendsOnly_of_decides hd (hG.mpr hreached), hc⟩
  · constructor
    · intro hsends
      rw [← ((sendsOnly_iff_of_decides hd _).mp hsends).2] at hc
      cases hc
    · rintro ⟨-, hnames⟩
      exact absurd hnames htable
  · intro hnot
    apply refuses_of_decides hd
    intro hissued
    obtain ⟨hlink, hrange⟩ := hG.mp hissued
    exact hnot ⟨hlink, .inl hrange⟩

/-- A handler that reads the whole table on a live link does so for the right value only if
it is not called with another one. -/
lemma addressed_iff_of_table (hd : Decides env g .allJointParams (LinkSeen env g s request)
    (s.handle request default)) (hs : s = .getJointParams) (hjoint : joint < 0) :
    JointAddressed env g n s request joint ↔ ¬ (joint < -1 ∧ LinkSeen env g s request) := by
  constructor
  · rintro h ⟨hbelow, hlink⟩
    obtain ⟨-, -, hminus⟩ := h.table.mp (sendsOnly_of_decides hd hlink)
    omega
  · intro h
    constructor
    · constructor
      · rintro ⟨c, hsends, hc⟩
        rw [((sendsOnly_iff_of_decides hd c).mp hsends).2] at hc
        cases hc
      · rintro ⟨-, hnonneg, -⟩
        omega
    · rw [sendsOnly_iff_of_decides hd]
      constructor
      · rintro ⟨hlink, -⟩
        refine ⟨hlink, hs, ?_⟩
        by_contra hminus
        exact h ⟨by omega, hlink⟩
      · rintro ⟨hlink, -⟩
        exact ⟨hlink, rfl⟩
    · intro hnot
      apply refuses_of_decides hd
      intro hlink
      apply hnot
      refine ⟨hlink, .inr ⟨hs, ?_⟩⟩
      by_contra hminus
      exact h ⟨by omega, hlink⟩

end

/-- The index check of the parameter table, for an arm that reports `n` axes on a live link. -/
lemma tableGate_iff {r : Int32} (hn : LinkUp env g → axesSeen env g = n) :
    (LinkUp env g ∧ (checkJointIndex r.toInt (axesSeen env g)).ok = true ∧
        LinkUp env (afterAxes env g)) ↔
      (LinkUp env g ∧ LinkUp env (afterAxes env g)) ∧ 0 ≤ r.toInt ∧ r.toInt < n := by
  rw [checkJointIndex_ok_iff]
  constructor
  · rintro ⟨hlink, hrange, hagain⟩
    rw [hn hlink] at hrange
    exact ⟨⟨hlink, hagain⟩, hrange⟩
  · rintro ⟨⟨hlink, hagain⟩, hrange⟩
    rw [hn hlink]
    exact ⟨hlink, hrange, hagain⟩

/-- A call that names a joint reaches that joint or is refused, exactly when it is not a read
of the parameters with an index below `-1` on a live link. -/
theorem joint_addressed_iff : ∀ (g : World σ) (n : Nat), g.shared.jointCount = n →
    (LinkUp env g → axesSeen env g = n) →
      ∀ (s : Service) (request : s.Request) (joint : Int), s.namedJoint request = some joint →
        Unlocked g s request → (JointAddressed env g n s request joint ↔
          ¬ (s = .getJointParams ∧ joint < -1 ∧ LinkSeen env g s request)) := by
  intro g n hcount hn s request joint hjoint hunlocked
  have hpinned {c : Command} {G : Prop} (hd : Decides env g c G (s.handle request default))
      (hc : c.namedJoint = some joint)
      (hG : G ↔ LinkSeen env g s request ∧ 0 ≤ joint ∧ joint < n)
      (hother : s ≠ .getJointParams ∨ 0 ≤ joint) : JointAddressed env g n s request joint ↔
        ¬ (s = .getJointParams ∧ joint < -1 ∧ LinkSeen env g s request) := by
    apply iff_of_true
    · apply addressed_of_decides hd hc hG
      rintro ⟨hs, hminus⟩
      rcases hother with hother | hnonneg
      · exact hother hs
      · omega
    · rintro ⟨hs, hbelow, -⟩
      rcases hother with hother | hnonneg
      · exact hother hs
      · omega
  cases s with
  | getJointParams =>
    cases hjoint
    by_cases hnonneg : 0 ≤ request.joint.toInt
    · apply hpinned (decides_handleGetJointParams_one hnonneg default) rfl _ (.inr hnonneg)
      rw [LinkSeen, if_pos hnonneg]
      exact tableGate_iff hn
    · have hlink : LinkSeen env g .getJointParams request ↔
          LinkUp env g ∧ LinkUp env (g.after env (.query .isConnected)) := by
        rw [LinkSeen, if_neg hnonneg]
      rw [addressed_iff_of_table
        ((decides_handleGetJointParams_all hnonneg default).congr hlink.symm) rfl (by omega)]
      simp
  | setJointGains =>
    cases hjoint
    exact hpinned (decides_handleSetJointGains request default) rfl (tableGate_iff hn)
      (.inl (by decide))
  | setJointLimits =>
    cases hjoint
    exact hpinned (decides_handleSetJointLimits request default) rfl (tableGate_iff hn)
      (.inl (by decide))
  | sendMit =>
    cases hjoint
    obtain ⟨hallowed, hfinite⟩ := hunlocked
    apply hpinned (decides_handleSendMit request default) rfl _ (.inl (by decide))
    rw [checkJointIndex_ok_iff, hcount]
    have hvalues := (checkFiniteValues_ok_iff [request.q, request.dq, request.kp, request.kd,
      request.tau] "q/dq/kp/kd/tau").mpr ⟨by simp, hfinite⟩
    constructor
    · rintro ⟨-, hrange, -, hlink⟩
      exact ⟨hlink, hrange⟩
    · rintro ⟨hlink, hrange⟩
      exact ⟨hallowed, hrange, hvalues, hlink⟩
  | _ => cases hjoint

theorem joint_addressed_iff_last :
    JointAddressed bench configuredBench 6 .setJointGains ⟨5, 0, 0, 0⟩ 5 ↔
      ¬ (Service.setJointGains = .getJointParams ∧ (5 : Int) < -1 ∧
        LinkSeen bench configuredBench .setJointGains ⟨5, 0, 0, 0⟩) :=
  joint_addressed_iff configuredBench 6 rfl (fun _ => rfl) .setJointGains _ 5 rfl trivial

/-- Asking for the parameters of joint `-2` reads the whole table. -/
theorem table_read_for_joint_minus_two :
    Reachable bench configuredBench ∧ configuredBench.shared.jointCount = 6 ∧
      axesSeen bench configuredBench = 6 ∧
      ¬ JointAddressed bench configuredBench 6 .getJointParams ⟨-2⟩ (-2) := by
  refine ⟨reachable_benchRun _ _ _, rfl, rfl, ?_⟩
  intro h
  have hsends : SendsOnly bench configuredBench .getJointParams ⟨-2⟩ .allJointParams :=
    ⟨.ok [], rfl⟩
  obtain ⟨-, -, hminus⟩ := h.table.mp hsends
  exact absurd hminus (by decide)

end LitearmDriver
