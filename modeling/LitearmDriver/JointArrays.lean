import LitearmDriver.AxisCount
import LitearmDriver.Configuration
import LitearmDriver.ServiceCalls
import LitearmDriver.Text

/-!
# Joint arrays of the right length

A joint array is to have one value for each axis the firmware reported. The gate that checks it
takes an expected length of zero to mean any length, and zero axes are recorded like any other
count.
-/

namespace LitearmDriver

open Interaction Program

variable {σ : Type} {env : Environment σ} {g : World σ}

/-! ### The gate -/

/-- The text of a refusal for the value at this index. -/
def notFinite (what : String) (i : Nat) : String :=
  what ++ "[" ++ toString i ++ "] is not finite"

/-- The value at the index is the first one that is not finite. -/
structure FirstNonFinite (values : List Double) (i : Nat) : Prop where
  found : ∃ x, values[i]? = some x ∧ x.isFinite = false
  before : ∀ j, j < i → ∀ x, values[j]? = some x → x.isFinite = true

/-- The values would be let through if their number was right. -/
def Usable (values : List Double) : Prop := values ≠ [] ∧ AllFinite values

/-- The gate lets through the finite lists of the expected length that are not empty. A list of
that length is otherwise refused for the first of its values that is not finite. -/
structure ExactGate (values : List Double) (expected : Nat) (what : String) : Prop where
  accepts : (checkFiniteValuesN values expected what).ok = true ↔
    values ≠ [] ∧ values.length = expected ∧ AllFinite values
  refuses : values ≠ [] → values.length = expected → ¬ AllFinite values →
    ∃ i, checkFiniteValuesN values expected what = fail (notFinite what i)
  reports : ∀ i, checkFiniteValuesN values expected what = fail (notFinite what i) →
    FirstNonFinite values i

lemma toList_notFinite (what : String) (i : Nat) : (notFinite what i).toList =
    what.toList ++ '[' :: ((toString i).toList ++ "] is not finite".toList) := by
  simp [notFinite]

lemma notFinite_injective {what : String} {i j : Nat} (h : notFinite what i = notFinite what j) :
    i = j := by
  have hlists := congrArg String.toList h
  rw [toList_notFinite, toList_notFinite] at hlists
  have hnumbers := (List.cons.inj (List.append_cancel_left hlists)).2
  exact Text.toString_injective (String.toList_inj.mp (List.append_cancel_right hnumbers))

/-- A text that goes on after the name with a blank is about something else. -/
lemma notFinite_ne {what rest : String} {i : Nat} (h : rest.toList.head? = some ' ') :
    what ++ rest ≠ notFinite what i := by
  intro hsame
  have hlists := congrArg String.toList hsame
  rw [String.toList_append, toList_notFinite] at hlists
  rw [List.append_cancel_left hlists] at h
  cases h

lemma firstNonFinite_of_findIdx {values : List Double} {i : Nat}
    (h : values.findIdx? (!·.isFinite) = some i) : FirstNonFinite values i := by
  obtain ⟨hi, hfound, hbefore⟩ := List.findIdx?_eq_some_iff_getElem.mp h
  constructor
  · exact ⟨values[i], List.getElem?_eq_getElem hi, by simpa using hfound⟩
  · intro j hj x hx
    obtain ⟨hjlength, rfl⟩ := List.getElem?_eq_some_iff.mp hx
    simpa using hbefore j hj

/-- Whatever length is expected, a refusal for a value names the first one that is not finite. -/
lemma firstNonFinite_of_refused {values : List Double} {expected i : Nat} {what : String}
    (h : checkFiniteValuesN values expected what = fail (notFinite what i)) :
    FirstNonFinite values i := by
  rw [checkFiniteValuesN, checkFiniteValuesImpl] at h
  split at h
  · exact absurd (congrArg GateResult.message h) (notFinite_ne rfl)
  split at h
  · have htext := congrArg GateResult.message h
    simp only [fail_message, String.append_assoc] at htext
    exact absurd htext (notFinite_ne (by simp))
  split at h
  case h_1 j hfind =>
    have hindex : j = i := notFinite_injective (congrArg GateResult.message h)
    rw [hindex] at hfind
    exact firstNonFinite_of_findIdx hfind
  case h_2 =>
    cases congrArg GateResult.ok h

/-- A list of an admitted length that has a value which is not finite is refused for it. -/
lemma refused_of_not_finite {values : List Double} {expected : Nat} (what : String)
    (hne : values ≠ []) (hlength : values.length = expected) (hnot : ¬ AllFinite values) :
    ∃ i, checkFiniteValuesN values expected what = fail (notFinite what i) := by
  rw [checkFiniteValuesN, checkFiniteValuesImpl, if_neg (by simpa using hne),
    if_neg (by simp [hlength])]
  cases hfind : values.findIdx? (!·.isFinite) with
  | some i => exact ⟨i, rfl⟩
  | none =>
    apply absurd _ hnot
    simpa [AllFinite, List.findIdx?_eq_none_iff] using hfind

/-- The gate is exact unless it expects zero values and is given some that are finite. -/
lemma exactGate_iff (values : List Double) (expected : Nat) (what : String) :
    ExactGate values expected what ↔ ¬ (expected = 0 ∧ Usable values) := by
  have haccepts := checkFiniteValuesImpl_ok_iff values expected what
  constructor
  · rintro h ⟨rfl, hne, hall⟩
    obtain ⟨-, hlength, -⟩ := h.accepts.mp (haccepts.mpr ⟨hne, .inl rfl, hall⟩)
    exact hne (List.length_eq_zero_iff.mp hlength)
  · intro h
    refine ⟨?_, refused_of_not_finite what, fun i => firstNonFinite_of_refused⟩
    rw [checkFiniteValuesN, haccepts]
    constructor
    · rintro ⟨hne, hzero | hlength, hall⟩
      · exact absurd ⟨hzero, hne, hall⟩ h
      · exact ⟨hne, hlength, hall⟩
    · rintro ⟨hne, hlength, hall⟩
      exact ⟨hne, .inr hlength, hall⟩

/-! ### The recorded axis count -/

/-- The axis count in the latest answer of the firmware. -/
def axesAnswered : List (Event Call.Answer) → Option Nat
  | []                    => none
  | ⟨.query .n, axes⟩ :: _ => some axes
  | _ :: old              => axesAnswered old

lemma axesAnswered_append {new old : List (Event Call.Answer)}
    (h : ∀ e ∈ new, e.1 ≠ .query .n) : axesAnswered (new ++ old) = axesAnswered old := by
  induction new with
  | nil => rfl
  | cons e new ih =>
    have hrest := ih fun e he => h e (List.mem_cons_of_mem _ he)
    have hfirst := h e List.mem_cons_self
    obtain ⟨c, x⟩ := e
    cases c with
    | query q =>
      cases q with
      | n => exact absurd rfl hfirst
      | _ => exact hrest
    | _ => exact hrest

/-- The joint names are as many as the firmware last reported axes. -/
def Counted (g : World σ) : Prop := axesAnswered g.history = some g.shared.jointCount

lemma finishConfigure_counts (harm : g.shared.arm.isSome = true) (h : Counted g) :
    finishConfigure.wp env (fun r g' => r = .ok .success → Counted g') g := by
  -- The firmware is not asked again once the names are settled.
  have hsilent : finishConfigure.wp env
      (fun _ g' => axesAnswered g'.history = axesAnswered g.history) g := by
    have hcalls : finishConfigure.Calls (· ≠ .query .n) :=
      calls_finishConfigure nofun nofun (by simp) (by simp)
    obtain ⟨new, hnew, hall⟩ := hcalls.history env g
    rw [wp, hnew, axesAnswered_append hall]
  have hnames : finishConfigure.wp env
      (fun r g' => r = .ok .success → g'.shared.jointCount = g.shared.jointCount) g := by
    refine wp_finishConfigure harm ?_ ?_
    · intro x g' hshared _ _
      rw [hshared, Node.addPublishers_jointCount]
      cases x <;> rfl
    · rintro x what g' - - - ⟨⟩
  rw [wp] at hsilent hnames ⊢
  intro hr
  rw [Counted, hsilent, hnames hr]
  exact h

/-- A configuration that succeeds leaves as many names as the firmware answered. -/
theorem configure_counts :
    onConfigure.wp env (fun r g' => r = .ok .success → Counted g') g := by
  rw [onConfigure]
  -- What comes before the question for the axes makes no difference.
  refine wp_bind_ok fun _ g₁ => wp_bind_ok fun _ g₂ => wp_bind_ok fun _ g₃ => ?_
  refine wp_bind_ok fun _ g₄ => wp_bind_ok fun _ g₅ => ?_
  split
  case isTrue => rintro ⟨⟩
  refine wp_bind_ok fun opened g₆ => ?_
  split
  case isTrue => rintro ⟨⟩
  rw [wp_bind, armQuery, wp_bind, wp_derefArm]
  split
  case isTrue => rintro ⟨⟩
  case isFalse harm =>
    dsimp only
    rw [wp_query]
    dsimp only
    rw [wp_bind]
    refine wp_establishNames (fun g₇ hshared₇ hlength _ hhistory => ?_) fun _ => ?_
    · apply finishConfigure_counts
      · rw [hshared₇]
        simpa [Option.isSome_iff_ne_none] using harm
      · rw [Counted, hhistory, Node.jointCount, hlength]
        rfl
    · rintro ⟨⟩

lemma Configures.counts {cb : Callback} (h : Configures env cb g) : Counted (step env cb g) := by
  obtain ⟨rfl, hbefore, hafter⟩ := h
  have hgoal : Transition.goal .configure g.shared.currentState = some .inactive := by
    rw [hbefore]
    rfl
  have hexits : onConfigure.wp env
      (fun r g' => ConfigureExit env g r g' ∧ (r = .ok .success → Counted g')) g :=
    ⟨configure_exit, configure_counts⟩
  have hexit : (changeState .configure).wp env _ g := change_exit_of hgoal hexits
  have hstep : step env (.changeState .configure) g = ((changeState .configure).run env g).2 := rfl
  rw [wp] at hexit
  rw [hstep] at hafter ⊢
  generalize (changeState .configure).run env g = out at hexit hafter ⊢
  obtain ⟨r, g'⟩ := out
  dsimp only at hexit hafter ⊢
  cases hexit with
  | done h => exact h.2 rfl
  | kept h => cases h.1
  | failed hr h hquiet => cases hafter
  | undefined h => cases h.1

/-- A run, and the axis count that the firmware had answered last when its latest successful
configuration ended. -/
inductive CountedRun (env : Environment σ) : Option Nat → World σ → Prop where
  | fresh (name : String) (p : Parameters) (outside : σ) :
    CountedRun env none (.fresh name p outside)
  | configured {cb : Callback} {last : Option Nat} {g : World σ} (h : CountedRun env last g)
      (hconfigures : Configures env cb g) :
    CountedRun env (axesAnswered (step env cb g).history) (step env cb g)
  | other {cb : Callback} {last : Option Nat} {g : World σ} (h : CountedRun env last g)
      (hother : ¬ Configures env cb g) : CountedRun env last (step env cb g)

/-- The names of a configured node are as many as the axes of its latest configuration. -/
theorem CountedRun.recorded {last : Option Nat} (h : CountedRun env last g)
    (hconfigured : g.shared.currentState.Configured) : last = some g.shared.jointCount := by
  induction h with
  | fresh name p outside => exact absurd hconfigured id
  | configured h hconfigures => exact hconfigures.counts
  | other h hother ih =>
    obtain ⟨hbefore, hcount⟩ := step_keeps_names hother hconfigured
    rw [hcount]
    exact ih hbefore

lemma Reachable.counted (h : Reachable env g) : ∃ last, CountedRun env last g := by
  apply h.invariant (I := fun g => ∃ last, CountedRun env last g)
  · intro name p w
    exact ⟨none, .fresh name p w⟩
  · rintro cb g - ⟨last, hrun⟩
    by_cases hconfigures : Configures env cb g
    · exact ⟨_, .configured hrun hconfigures⟩
    · exact ⟨last, .other hrun hconfigures⟩

/-- So a configured node has been told as many axes as it has names. -/
lemma Reachable.counted_configured (h : Reachable env g)
    (hconfigured : g.shared.currentState.Configured) :
    CountedRun env (some g.shared.jointCount) g := by
  obtain ⟨last, hrun⟩ := h.counted
  rw [← hrun.recorded hconfigured]
  exact hrun

/-! ### The services -/

/-- The joint arrays of a request that go through the gate, with their names. The `dq` and the
`tau_ff` of `move_js` may be left out. -/
def Service.jointArrays : (s : Service) → s.Request → List (String × List Double)
  | .moveJ, r      => [("q", r.q)]
  | .moveJSync, r  => [("q", r.q)]
  | .moveJs, r     =>
    ("q", r.q) :: [("dq", r.dq), ("tau_ff", r.tauFf)].filter fun array => !array.2.isEmpty
  | .sendMitAll, r => r.arrays
  | _, _           => []

/-- The gate lets no joint array of the request through that has another length than `axes`,
and a call with such an array is refused. -/
structure LengthsKept (env : Environment σ) (g : World σ) (axes : Nat) (s : Service)
    (request : s.Request) : Prop where
  gate : ∀ array ∈ s.jointArrays request,
    (checkFiniteValuesN array.2 g.shared.jointCount array.1).ok = true → array.2.length = axes
  refused : (∃ array ∈ s.jointArrays request, array.2.length ≠ axes) → Refuses env g s request

lemma checkOptionalValues_of_nonempty {values : List Double} (h : values.isEmpty = false)
    (expected : Nat) (what : String) :
    checkOptionalValues values expected what = checkFiniteValuesN values expected what := by
  rw [checkOptionalValues, h]
  rfl

/-- A call is refused when one of its joint arrays is. -/
lemma refuses_of_array {s : Service} {request : s.Request} {array : String × List Double}
    (harray : array ∈ s.jointArrays request)
    (hgate : ¬ (checkFiniteValuesN array.2 g.shared.jointCount array.1).ok = true) :
    Refuses env g s request := by
  cases s with
  | moveJ =>
    cases List.mem_singleton.mp harray
    apply refuses_of_decides (decides_handleMoveJ request default)
    rintro ⟨-, hq, -⟩
    exact hgate hq
  | moveJSync =>
    cases List.mem_singleton.mp harray
    apply refuses_of_decides (decides_handleMoveJSync request default)
    rintro ⟨-, hq, -⟩
    exact hgate hq
  | moveJs =>
    apply refuses_of_decides (decides_handleMoveJs request default)
    rintro ⟨-, hq, hdq, htau, -⟩
    rcases List.mem_cons.mp harray with rfl | hoptional
    · exact hgate hq
    obtain ⟨hmem, hgiven⟩ := List.mem_filter.mp hoptional
    rw [← checkOptionalValues_of_nonempty (by simpa using hgiven)] at hgate
    simp only [List.mem_cons, List.not_mem_nil, or_false] at hmem
    rcases hmem with rfl | rfl
    · exact hgate hdq
    · exact hgate htau
  | sendMitAll =>
    apply refuses_of_decides (decides_handleSendMitAll request default)
    rintro ⟨-, hall, -⟩
    exact hgate ((firstRefusal_ok_iff _).mp hall _ (List.mem_map.mpr ⟨array, harray, rfl⟩))
  | _ => cases harray

lemma lengthsKept_iff (s : Service) (request : s.Request) :
    LengthsKept env g g.shared.jointCount s request ↔
      ¬ (g.shared.jointCount = 0 ∧ ∃ array ∈ s.jointArrays request, Usable array.2) := by
  constructor
  · rintro h ⟨hzero, array, harray, husable⟩
    have hok : (checkFiniteValuesN array.2 g.shared.jointCount array.1).ok = true :=
      (checkFiniteValuesImpl_ok_iff _ _ _).mpr ⟨husable.1, .inl hzero, husable.2⟩
    have hlength := h.gate array harray hok
    rw [hzero] at hlength
    exact husable.1 (List.length_eq_zero_iff.mp hlength)
  · intro h
    have hgate : ∀ array ∈ s.jointArrays request,
        (checkFiniteValuesN array.2 g.shared.jointCount array.1).ok = true →
          array.2.length = g.shared.jointCount := by
      intro array harray hok
      have hexact := (exactGate_iff array.2 g.shared.jointCount array.1).mpr
        fun hopen => h ⟨hopen.1, array, harray, hopen.2⟩
      exact (hexact.accepts.mp hok).2.1
    refine ⟨hgate, ?_⟩
    rintro ⟨array, harray, hlength⟩
    exact refuses_of_array harray fun hok => hlength (hgate array harray hok)

/-- The gate is exact for every list but the finite ones where it expects no values, and in
every run the joint arrays of a configured node have as many values as its latest configuration
was told axes, exactly unless that was none and a call brings a finite array. -/
theorem exact_length_iff :
    (∀ values expected what,
      ExactGate values expected what ↔ ¬ (expected = 0 ∧ Usable values)) ∧
    ∀ last (g : World σ), CountedRun env last g → g.shared.currentState.Configured →
      ∃ axes, last = some axes ∧ ∀ (s : Service) (request : s.Request),
        LengthsKept env g axes s request ↔
          ¬ (axes = 0 ∧ ∃ array ∈ s.jointArrays request, Usable array.2) := by
  constructor
  · exact exactGate_iff
  · intro last g hrun hconfigured
    exact ⟨g.shared.jointCount, hrun.recorded hconfigured, lengthsKept_iff⟩

/-- A node in service that may move an arm of `axes` axes. -/
def movingBench (axes : Nat) : World Bench :=
  benchRun { allowMotion := true } [{ axes := axes }]
    [.changeState .configure, .changeState .activate]

lemma reachable_movingBench (axes : Nat) : Reachable bench (movingBench axes) :=
  reachable_benchRun _ _ _

theorem exact_length_iff_six :
    LengthsKept bench (movingBench 6) 6 .moveJ ⟨[0, 0, 0, 0, 0, 0], 1⟩ ↔
      ¬ (6 = 0 ∧ ∃ array ∈ Service.jointArrays .moveJ ⟨[0, 0, 0, 0, 0, 0], 1⟩, Usable array.2) := by
  have hstate : (movingBench 6).shared.currentState = .active := rfl
  have hconfigured : (movingBench 6).shared.currentState.Configured := by
    rw [hstate]
    trivial
  have hrun : CountedRun bench (some 6) (movingBench 6) :=
    (reachable_movingBench 6).counted_configured hconfigured
  have hcounts := exact_length_iff.2 (some 6) (movingBench 6) hrun
  obtain ⟨axes, haxes, h⟩ := hcounts hconfigured
  cases haxes
  exact h .moveJ ⟨[0, 0, 0, 0, 0, 0], 1⟩

/-- On an arm that reports no axes a joint array of one value passes the gate, and is sent. -/
theorem joint_array_without_axes :
    ¬ ExactGate [0] 0 "q" ∧ CountedRun bench (some 0) (movingBench 0) ∧
      (movingBench 0).shared.currentState = .active ∧
      SendsOnly bench (movingBench 0) .moveJ ⟨[0], 1⟩ (.movej [0] 1) ∧
      ¬ LengthsKept bench (movingBench 0) 0 .moveJ ⟨[0], 1⟩ := by
  have hsends : SendsOnly bench (movingBench 0) .moveJ ⟨[0], 1⟩ (.movej [0] 1) := ⟨.ok (), rfl⟩
  refine ⟨?_, (reachable_movingBench 0).counted_configured trivial, rfl, hsends, ?_⟩
  · intro h
    have hlength := (h.accepts.mp rfl).2.1
    cases hlength
  · intro h
    apply hsends.not_refuses
    exact h.refused ⟨("q", [0]), List.mem_singleton_self _, by simp⟩

end LitearmDriver
