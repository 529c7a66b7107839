import LitearmDriver.FrameSource

/-!
# Joint states

A joint state is to carry one value of every kind for each name. The node gives it every name,
and the values of the axes that the frame has.
-/

namespace LitearmDriver

open Interaction Program

variable {σ : Type} {env : Environment σ} {g : World σ}

/-- The arrays of values are as long as the array of names. -/
structure JointState.Aligned (j : JointState) : Prop where
  position : j.position.length = j.name.length
  velocity : j.velocity.length = j.name.length
  effort : j.effort.length = j.name.length

/-- The entries at the index are those of the joint. -/
structure JointState.Reports (j : JointState) (i : Nat) (joint : JointFeedback) : Prop where
  position : j.position[i]? = some joint.q
  velocity : j.velocity[i]? = some joint.dq
  effort : j.effort[i]? = some joint.tau

/-- The arrays have one common length, and the values at each index are those of the joint of
that name in one frame handed out by the SDK. -/
structure JointState.WellFormed (j : JointState) (names : List String)
    (events : List (Event Call.Answer)) : Prop where
  aligned : j.Aligned
  named : j.name = names
  single : ∃ f, Given events f ∧ ∀ i, i < j.name.length →
    ∃ joint, f.1.joints[i]? = some joint ∧ j.Reports i joint

section
variable {header : Header} {names : List String} {state : RobotState}

/-- The arrays agree in length exactly when the frame has a joint for each name. -/
lemma aligned_jointStateOf_iff :
    (jointStateOf header names state).Aligned ↔ names.length ≤ state.joints.length := by
  have hlength {α : Type} (f : JointFeedback → α) :
      ((state.joints.take (min names.length state.joints.length)).map f).length =
        min names.length state.joints.length := by
    rw [List.length_map, List.length_take]
    omega
  constructor
  · intro h
    have hposition : min names.length state.joints.length = names.length :=
      (hlength JointFeedback.q).symm.trans h.position
    omega
  · intro hcovers
    have hall : min names.length state.joints.length = names.length := by omega
    exact ⟨(hlength _).trans hall, (hlength _).trans hall, (hlength _).trans hall⟩

/-- Below both lengths the entries are those of the joint at the index. -/
lemma reports_jointStateOf {i : Nat} {joint : JointFeedback} (hi : i < names.length)
    (hjoint : state.joints[i]? = some joint) :
    (jointStateOf header names state).Reports i joint := by
  have hbound : i < min names.length state.joints.length := by
    have hlength := (List.getElem?_eq_some_iff.mp hjoint).1
    omega
  have hentry {α : Type} (f : JointFeedback → α) :
      ((state.joints.take (min names.length state.joints.length)).map f)[i]? =
        some (f joint) := by
    rw [List.getElem?_map, List.getElem?_take, if_pos hbound, hjoint]
    rfl
  exact ⟨hentry _, hentry _, hentry _⟩

end

/-- The frame of the tick has a joint for every name. -/
def CoversNames (env : Environment σ) (g : World σ) : Prop :=
  ∀ state, frameSeen env g = some state → g.shared.jointNames.length ≤ state.joints.length

/-- Every joint state that a status tick publishes is well formed exactly when the frame of
the tick has a joint for every name. -/
theorem joint_state_well_formed_iff : ∀ g : World σ, Reachable env g → ∀ new j,
    (step env .statusTimer g).history = new ++ g.history → ⟨.publish (.jointState j), ()⟩ ∈ new →
      (j.WellFormed g.shared.jointNames (step env .statusTimer g).history ↔
        CoversNames env g) := by
  intro g hg new j hnew hj
  obtain ⟨g₁, later, hlooked, -, hlater, -, header, state, hcached, rfl⟩ :=
    published_madeFrom hnew hj
  rcases hlooked with ⟨-, hrefreshed⟩ | ⟨htimer, -⟩
  case inr => cases htimer
  have hseen : frameSeen env g = some state := hrefreshed.cached.symm.trans hcached
  rw [hrefreshed.jointNames]
  constructor
  · intro h state' hstate'
    cases hseen.symm.trans hstate'
    exact aligned_jointStateOf_iff.mp h.aligned
  · intro hcovers
    have hlength := hcovers state hseen
    refine ⟨aligned_jointStateOf_iff.mpr hlength, rfl, (state, g₁.shared.lastStateStamp), ?_, ?_⟩
    · rw [hlater]
      have hheld : g₁.shared.stamped = some (state, g₁.shared.lastStateStamp) := by
        rw [Node.stamped, hcached]
        rfl
      apply (((remembers_reachable hg).refreshed hrefreshed) _ hheld).mono
      intro e he
      exact List.mem_append_right _ he
    · intro i hi
      have hjoint := List.getElem?_eq_getElem (hi.trans_le hlength)
      exact ⟨_, hjoint, reports_jointStateOf hi hjoint⟩

/-- A node that publishes joint states, on a six-axis arm that sends frames of `axes` axes. -/
def jointStateBench (axes : Nat) : World Bench :=
  benchRun { publishJointStates := true } [{ frame := some (frameOfAxes axes) }]
    [.changeState .configure, .changeState .activate]

/-- The joint state that is published next on the bench. -/
abbrev jointStateShown (axes : Nat) : JointState :=
  jointStateOf ⟨0, (jointStateBench axes).shared.frameId⟩ (derivedNames 6) (frameOfAxes axes)

theorem joint_state_well_formed_iff_full : ∃ new,
    (step bench .statusTimer (jointStateBench 6)).history = new ++ (jointStateBench 6).history ∧
      ((jointStateShown 6).WellFormed (jointStateBench 6).shared.jointNames
        (step bench .statusTimer (jointStateBench 6)).history ↔
        CoversNames bench (jointStateBench 6)) := by
  obtain ⟨new, hnew⟩ := run_history Callback.statusTimer.code bench (jointStateBench 6)
  exact ⟨new, hnew, joint_state_well_formed_iff (jointStateBench 6) (reachable_benchRun _ _ _)
    new _ hnew (mem_of_last hnew rfl (by decide))⟩

/-- A frame of four joints is published under six names. -/
theorem joint_state_of_short_frame :
    Reachable bench (jointStateBench 4) ∧ ∃ new j,
      (step bench .statusTimer (jointStateBench 4)).history = new ++ (jointStateBench 4).history ∧
        ⟨.publish (.jointState j), ()⟩ ∈ new ∧
          ¬ j.WellFormed (jointStateBench 4).shared.jointNames
            (step bench .statusTimer (jointStateBench 4)).history := by
  obtain ⟨new, hnew⟩ := run_history Callback.statusTimer.code bench (jointStateBench 4)
  refine ⟨reachable_benchRun _ _ _, new, jointStateShown 4, hnew,
    mem_of_last hnew rfl (by decide), ?_⟩
  intro h
  exact absurd h.aligned.position (by decide)

end LitearmDriver
