import LitearmDriver.Interlock
import LitearmDriver.ServiceCalls

/-!
# Integers on their way to the SDK

An integer of a request is to reach the SDK unchanged, or not at all. Every handler widens its
integers but one: the mask of a commit is cut down to sixteen bits.
-/

namespace LitearmDriver

open Interaction Program

variable {σ : Type} {env : Environment σ} {g : World σ}

/-! ### Integers -/

/-- The services that forward integers of their request. -/
def Service.forwardsIntegers : Service → Bool
  | .setSpeedScaling | .setMotionMode | .setFeedforwardMask | .setFeedforwardPreset
  | .setFeedforwardScalar | .setFeedforwardVector | .getFeedforwardScalar
  | .getFeedforwardVector | .getModelBody | .setModelBody | .getJointParams | .setJointGains
  | .setJointLimits | .sendMit | .logStart | .commitModel => true
  | _ => false

/-- The integers of a request. -/
def Service.integers : (s : Service) → s.Request → List Int
  | .setSpeedScaling, r      => [r.percent.toNat]
  | .setMotionMode, r        => [r.mode.toInt]
  | .setFeedforwardMask, r   => [r.mask.toNat]
  | .setFeedforwardPreset, r => [r.preset.toInt]
  | .setFeedforwardScalar, r => [r.item.toInt, r.sub.toInt]
  | .setFeedforwardVector, r => [r.item.toInt]
  | .getFeedforwardScalar, r => [r.item.toInt, r.sub.toInt]
  | .getFeedforwardVector, r => [r.item.toInt]
  | .getModelBody, r         => [r.body.toInt]
  | .setModelBody, r         => [r.body.toInt]
  | .getJointParams, r       => [r.joint.toInt]
  | .setJointGains, r        => [r.joint.toInt]
  | .setJointLimits, r       => [r.joint.toInt]
  | .sendMit, r              => [r.joint.toInt]
  | .logStart, r             => [r.ticks.toInt]
  | .commitModel, r          => [r.expectedMask.toNat]
  | _, _                     => []

/-- The integer arguments of a command. -/
def Command.integers : Command → List Int
  | .setSpeed percent       => [percent]
  | .setMotionMode mode     => [mode]
  | .setFfMask mask         => [mask.toNat]
  | .ffPreset preset        => [preset]
  | .setFfScalar item sub _ => [item, sub]
  | .setFfVec item _        => [item]
  | .getFfScalar item sub   => [item, sub]
  | .getFfVec item          => [item]
  | .modelGetBody body      => [body]
  | .modelSetBody body _    => [body]
  | .getJointParam joint    => [joint]
  | .setJointParam joint .. => [joint]
  | .setJointLimits joint _ _ => [joint]
  | .sendMit joint ..       => [joint]
  | .logStart ticks         => [ticks]
  | .modelCommit mask       => [mask.toNat]
  | _                       => []

/-- The command carries the integers unchanged. A read of the whole table takes none. -/
def Command.Carries (c : Command) (xs : List Int) : Prop := c = .allJointParams ∨ c.integers = xs

/-! ### The firmware's check of a commit -/

/-- A firmware that accepts a commit exactly when the mask it receives is the one it has
staged, reports that mask, and changes it on commands only. -/
structure ExactFirmware (env : Environment σ) (staged : σ → UInt32) : Prop where
  accepts : ∀ mask w, (env (.command (.modelCommit mask)) w).1 = .ok () ↔
    mask.toNat = (staged w).toNat
  reports : ∀ w (status : ModelStatus), (env (.command .modelStatus) w).1 = .ok status →
    status.stagedMask = staged w
  steady : ∀ q w, staged (env (.query q) w).2 = staged w

/-- A commit that succeeds was made with the whole of the staged mask. -/
def CommitsStaged (env : Environment σ) (g : World σ) : (s : Service) → s.Request → Prop
  | .commitModel, r => ∀ staged : σ → UInt32, ExactFirmware env staged →
      ∀ response : Reply Unit, ((handleCommitModel r default).run env g).1 = .ok response →
        response.success = true → r.expectedMask = staged g.outside
  | _, _            => True

/-- The integers of a call arrive as they were sent, or the call is refused. -/
structure ArgumentsKept (env : Environment σ) (g : World σ) (s : Service)
    (request : s.Request) : Prop where
  refused : sent (step env (.service s request) g) = sent g → Refuses env g s request
  kept : ∀ new, sent (step env (.service s request) g) = new ++ sent g →
    ∀ e ∈ new, Command.Carries e.1 (s.integers request)
  commits : CommitsStaged env g s request

/-- What a handler sends carries the integers of the request when its command does. -/
lemma kept_iff_of_decides {s : Service} {request : s.Request} {c : Command} {G : Prop}
    (hd : Decides env g c G (s.handle request default)) :
    ArgumentsKept env g s request ↔
      (G → c.Carries (s.integers request)) ∧ CommitsStaged env g s request := by
  constructor
  · intro h
    refine ⟨?_, h.commits⟩
    intro hG
    obtain ⟨x, hsent⟩ := sendsOnly_of_decides hd hG
    exact h.kept [⟨c, x⟩] hsent ⟨c, x⟩ (List.mem_singleton_self _)
  · rintro ⟨hcarries, hcommits⟩
    refine ⟨?_, ?_, hcommits⟩
    · intro hsame
      apply refuses_of_decides hd
      intro hG
      exact (sendsOnly_of_decides hd hG).not_silent hsame
    · intro new hnew e he
      obtain ⟨hG, hc⟩ := sent_of_decides hd hnew e he
      rw [hc]
      exact hcarries hG

/-! ### The mask of a commit -/

/-- On an exact firmware the command of a commit returns only for the staged mask. -/
lemma accepted_runCommand {staged : σ → UInt32} (hfirmware : ExactFirmware env staged)
    (mask : UInt16) (response : Reply Unit) :
    (runCommand "commit_model" response fun response => do
      command (.modelCommit mask)
      return response).wp env (fun r _ => ∃ reply, r = .ok reply ∧
        (reply.success = true → mask.toNat = (staged g.outside).toNat)) g := by
  rw [runCommand, wp_bind]
  refine connected_looks fun link g₁ hlooked => ?_
  have hsame : staged g₁.outside = staged g.outside := by
    rcases hlooked with rfl | rfl
    · rfl
    · exact hfirmware.steady _ _
  dsimp only
  rw [wp_refuseUnless]
  split
  case isFalse => exact ⟨_, rfl, fun h => by cases h⟩
  rw [wp_catching, wp_bind, wp_bind, wp_command]
  cases hanswer : g₁.answer env (.command (.modelCommit mask)) with
  | ok a =>
    have haccepted := (hfirmware.accepts mask g₁.outside).mp hanswer
    rw [hsame] at haccepted
    exact ⟨_, rfl, fun _ => haccepted⟩
  | error what => exact ⟨_, rfl, fun h => by cases h⟩

/-- On an exact firmware a commit succeeds only if the staged mask is the mask as it was sent,
which is the lower half of the one requested. -/
lemma accepted_handleCommitModel {staged : σ → UInt32} (hfirmware : ExactFirmware env staged)
    (request : CommitModel.Request) (response : Reply Unit) :
    (handleCommitModel request response).wp env (fun r _ => ∀ reply, r = .ok reply →
      reply.success = true →
        request.expectedMask.toUInt16.toNat = (staged g.outside).toNat) g := by
  have hread : motorsEnabled.wp env (fun r g₁ => (∃ enabled, r = .ok enabled) ∧
      staged g₁.outside = staged g.outside) g := by
    rw [wp_motorsEnabled]
    split
    · exact ⟨⟨_, rfl⟩, rfl⟩
    · exact ⟨⟨_, rfl⟩, hfirmware.steady _ _⟩
  rw [handleCommitModel, wp_bind]
  apply wp_mono hread
  rintro r g₁ ⟨⟨enabled, rfl⟩, hsame⟩
  dsimp only
  rw [wp_refuseUnless]
  split
  case isFalse =>
    intro reply hreply hsuccess
    cases hreply
    cases hsuccess
  rw [wp_bind]
  apply wp_mono (accepted_runCommand hfirmware request.expectedMask.toUInt16 response)
  rintro r g₂ ⟨reply, rfl, haccepted⟩ reply' hreply' hsuccess
  cases hreply'
  rw [hsame] at haccepted
  have hkept := Reply.keeps_onSuccess
    (" (expected_mask must match what the firmware has staged, " ++
      "or it refuses the commit)") reply
  exact haccepted (hkept.1 ▸ hsuccess)

/-! ### The condition -/

/-- The mask fits into sixteen bits, or the commit is refused before it is made. -/
def MaskFits (env : Environment σ) (g : World σ) : (s : Service) → s.Request → Prop
  | .commitModel, r => r.expectedMask.toNat < 65536 ∨
      ¬ (MotorsReported env g = true ∧ LinkUpAfterRead env g)
  | _, _            => True

lemma carries_commit_iff (mask : UInt32) :
    (Command.modelCommit mask.toUInt16).Carries [(mask.toNat : Int)] ↔ mask.toNat < 65536 := by
  simp only [Command.Carries, Command.integers, reduceCtorEq, false_or, List.cons.injEq, and_true,
    UInt32.toNat_toUInt16, Nat.cast_inj]
  omega

lemma kept_commitModel (request : CommitModel.Request) :
    ArgumentsKept env g .commitModel request ↔ MaskFits env g .commitModel request := by
  have hdecides : Decides env g (.modelCommit request.expectedMask.toUInt16) _
      (Service.handle .commitModel request default) := decides_handleCommitModel request default
  rw [kept_iff_of_decides hdecides]
  have hreached : ((!MotorsReported env g) = false ∧ LinkUp env (g.after env (.query .getState))) ↔
      MotorsReported env g = true ∧ LinkUpAfterRead env g := by
    rw [Bool.not_eq_false']
    rfl
  constructor
  · rintro ⟨hcarries, -⟩
    by_cases hG : MotorsReported env g = true ∧ LinkUpAfterRead env g
    · exact .inl ((carries_commit_iff _).mp (hcarries (hreached.mpr hG)))
    · exact .inr hG
  · intro hfits
    have hmask (hG : MotorsReported env g = true ∧ LinkUpAfterRead env g) :
        request.expectedMask.toNat < 65536 := by
      rcases hfits with hfits | hnot
      · exact hfits
      · exact absurd hG hnot
    constructor
    · intro hG
      exact (carries_commit_iff _).mpr (hmask (hreached.mp hG))
    · intro staged hfirmware response hresponse hsuccess
      by_cases hG : MotorsReported env g = true ∧ LinkUpAfterRead env g
      · have haccepted : (handleCommitModel request default).wp env _ g :=
          accepted_handleCommitModel hfirmware request default
        have hsame := haccepted response hresponse hsuccess
        have hsmall := hmask hG
        rw [UInt32.toNat_toUInt16] at hsame
        apply UInt32.toNat_inj.mp
        omega
      · obtain ⟨-, response', hresponse', hfailed⟩ :=
          refuses_of_decides hdecides fun h => hG (hreached.mp h)
        cases hresponse.symm.trans hresponse'
        cases hfailed.symm.trans hsuccess

/-- In every reachable state the integers of a call arrive as they were sent, or it is refused,
exactly when it is not a commit that is made with a mask of more than sixteen bits. -/
theorem arguments_kept_iff : ∀ g : World σ, Reachable env g →
    ∀ s : Service, s.forwardsIntegers = true → ∀ request : s.Request,
      ArgumentsKept env g s request ↔ MaskFits env g s request := by
  intro g _ s hs request
  have hwidened {c : Command} {G : Prop} (hd : Decides env g c G (s.handle request default))
      (hc : c.Carries (s.integers request)) (hcommit : s ≠ .commitModel) :
      ArgumentsKept env g s request ↔ MaskFits env g s request := by
    have hother : MaskFits env g s request ∧ CommitsStaged env g s request := by
      cases s with
      | commitModel => exact absurd rfl hcommit
      | _ => exact ⟨trivial, trivial⟩
    exact iff_of_true ((kept_iff_of_decides hd).mpr ⟨fun _ => hc, hother.2⟩) hother.1
  cases s with
  | setSpeedScaling =>
    exact hwidened (decides_handleSetSpeedScaling request default) (.inr rfl) (by decide)
  | setMotionMode =>
    exact hwidened (decides_handleSetMotionMode request default) (.inr rfl) (by decide)
  | setFeedforwardMask =>
    exact hwidened (decides_handleSetFeedforwardMask request default) (.inr rfl) (by decide)
  | setFeedforwardPreset =>
    exact hwidened (decides_handleSetFeedforwardPreset request default) (.inr rfl) (by decide)
  | setFeedforwardScalar =>
    exact hwidened (decides_handleSetFeedforwardScalar request default) (.inr rfl) (by decide)
  | setFeedforwardVector =>
    exact hwidened (decides_handleSetFeedforwardVector request default) (.inr rfl) (by decide)
  | getFeedforwardScalar =>
    exact hwidened (decides_handleGetFeedforwardScalar request default) (.inr rfl) (by decide)
  | getFeedforwardVector =>
    exact hwidened (decides_handleGetFeedforwardVector request default) (.inr rfl) (by decide)
  | getModelBody =>
    exact hwidened (decides_handleGetModelBody request default) (.inr rfl) (by decide)
  | setModelBody =>
    exact hwidened (decides_handleSetModelBody request default) (.inr rfl) (by decide)
  | getJointParams =>
    by_cases hjoint : 0 ≤ request.joint.toInt
    · exact hwidened (decides_handleGetJointParams_one hjoint default) (.inr rfl) (by decide)
    · exact hwidened (decides_handleGetJointParams_all hjoint default) (.inl rfl) (by decide)
  | setJointGains =>
    exact hwidened (decides_handleSetJointGains request default) (.inr rfl) (by decide)
  | setJointLimits =>
    exact hwidened (decides_handleSetJointLimits request default) (.inr rfl) (by decide)
  | sendMit => exact hwidened (decides_handleSendMit request default) (.inr rfl) (by decide)
  | logStart => exact hwidened (decides_handleLogStart request default) (.inr rfl) (by decide)
  | commitModel => exact kept_commitModel request
  | _ => cases hs

/-- The bench with a model store that has mask 3 staged and checks a commit against it. -/
def stagingBench : Environment Bench
  | .command (.modelCommit mask), b => (if mask = 3 then .ok () else .error "mask mismatch", b)
  | .command .modelStatus, b        => (.ok ⟨0, 3, 1⟩, b)
  | c, b                            => bench c b

lemma exactFirmware_stagingBench : ExactFirmware stagingBench fun _ => 3 := by
  constructor
  · intro mask b
    by_cases hmask : mask = 3
    · subst hmask
      exact iff_of_true rfl rfl
    · apply iff_of_false
      · simp [stagingBench, hmask]
      · intro hsame
        exact hmask (UInt16.toNat_inj.mp hsame)
  · intro b status hstatus
    cases hstatus
    rfl
  · intro q b
    rfl

/-- A node in service whose arm reports its motors enabled. -/
def stagingNode : World Bench :=
  runAll stagingBench Callback.code [.changeState .configure, .changeState .activate]
    (World.fresh "litearm_driver" {} { upcoming := [{ frame := some (steadyFrame true) }] })

lemma reachable_stagingNode : Reachable stagingBench stagingNode :=
  reachable_runAll _ (.fresh _ _ _)

theorem arguments_kept_iff_commit :
    ArgumentsKept stagingBench stagingNode .commitModel ⟨3⟩ ↔
      MaskFits stagingBench stagingNode .commitModel ⟨3⟩ :=
  arguments_kept_iff stagingNode reachable_stagingNode .commitModel rfl ⟨3⟩

/-- A commit with mask 65539 succeeds on a firmware that has mask 3 staged. -/
theorem folded_mask_committed :
    Reachable stagingBench stagingNode ∧ ExactFirmware stagingBench (fun _ => 3) ∧
      (∃ response : Reply Unit,
        ((handleCommitModel ⟨65539⟩ default).run stagingBench stagingNode).1 = .ok response ∧
          response.success = true) ∧
      ¬ ArgumentsKept stagingBench stagingNode .commitModel ⟨65539⟩ := by
  refine ⟨reachable_stagingNode, exactFirmware_stagingBench, ⟨_, rfl, rfl⟩, ?_⟩
  intro h
  have hmask : (65539 : UInt32) = 3 :=
    h.commits (fun _ => 3) exactFirmware_stagingBench _ rfl rfl
  exact absurd hmask (by decide)

end LitearmDriver
