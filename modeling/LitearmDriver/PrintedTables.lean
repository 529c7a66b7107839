import LitearmDriver.Outcome.Diagnostics
import LitearmDriver.Services
import LitearmDriver.Text
import Mathlib.Data.List.Forall2

/-!
# Printed tables

Three services answer with tables: the feedforward items and the benchmark timings as lines of
text, the message rates as two arrays side by side. Nothing is lost in them, a client can
read back what the SDK answered.
-/

namespace LitearmDriver

open Interaction Program

variable {σ : Type} {env : Environment σ} {g : World σ}

/-! ### Reading a line -/

/-- Read a line `item: name`. -/
def readItem (line : String) : Option (Int × String) :=
  match Text.cut ':' line.toList with
  | some (item, ' ' :: name) => some (Text.readInt item, String.ofList name)
  | _                        => none

lemma readItem_line (item : Int) (name : String) :
    readItem (toString item ++ ": " ++ name) = some (item, name) := by
  have hline : (toString item ++ ": " ++ name).toList =
      (toString item).toList ++ ':' :: ' ' :: name.toList := by simp
  rw [readItem, hline, Text.cut_append (Text.not_mem_toString rfl (by decide) item)]
  simp only [Text.readInt_toString, String.ofList_toList]

lemma readItem_formatItems (items : List (Int × String)) :
    (formatItems items).map readItem = items.map some := by
  rw [formatItems, List.map_map]
  exact List.map_congr_left fun entry _ => readItem_line entry.1 entry.2

/-- Read a line `name=n,avg,max`. -/
def readTiming (line : String) : Option (String × List Int) :=
  (Text.cut '=' line.toList).map fun parts =>
    (String.ofList parts.1, (Text.components ',' parts.2).map Text.readInt)

/-- The values of a line, separated by commas. -/
lemma components_values (values : List Int) :
    (Text.components ',' (",".intercalate (values.map toString)).toList).map Text.readInt =
      values := by
  have hnumber : ∀ part ∈ (values.map toString).map String.toList,
      ∃ i : Int, part = (toString i).toList := by
    intro part hpart
    obtain ⟨_, htext, rfl⟩ := List.mem_map.mp hpart
    obtain ⟨i, -, rfl⟩ := List.mem_map.mp htext
    exact ⟨i, rfl⟩
  rw [String.toList_intercalate]
  change (Text.components ',' ([','].intercalate _)).map Text.readInt = values
  rw [Text.components_intercalate]
  · simp only [List.map_map]
    exact (List.map_congr_left fun i _ => Text.readInt_toString i).trans (List.map_id _)
  · intro part hpart
    obtain ⟨i, rfl⟩ := hnumber part hpart
    exact Text.toList_toString_ne_nil i
  · intro part hpart
    obtain ⟨i, rfl⟩ := hnumber part hpart
    exact Text.not_mem_toString rfl (by decide) i

lemma readTiming_timingLine {entry : String × List Int} (h : '=' ∉ entry.1.toList) :
    readTiming (timingLine entry) = some entry := by
  have hline : (timingLine entry).toList =
      entry.1.toList ++ '=' :: (",".intercalate (entry.2.map toString)).toList := by
    simp [timingLine]
  rw [readTiming, hline, Text.cut_append h, Option.map_some, components_values,
    String.ofList_toList]

/-! ### The replies -/

/-- The run ends with a reply, of which `Kept` holds. -/
def Replies {Body : Type} (Kept : World σ → Reply Body → World σ → Prop) (env : Environment σ)
    (p : Code (Reply Body)) (g : World σ) : Prop :=
  p.wp env (fun r g' => ∃ response, r = .ok response ∧ Kept g response g') g

/-- The lines of the feedforward catalogue read as the tables the SDK answered in this call. -/
def CatalogKept (g : World σ) (response : Reply GetFeedforwardCatalog.Body) (g' : World σ) :
    Prop :=
  ∃ vector scalar readOnly,
    g'.history = ⟨.query .ffScalarRoItems, readOnly⟩ :: ⟨.query .ffScalarItems, scalar⟩ ::
      ⟨.query .ffVecItems, vector⟩ :: g.history ∧
    response.body.vectorItems.map readItem = vector.map some ∧
    response.body.scalarItems.map readItem = scalar.map some ∧
    response.body.scalarReadOnlyItems.map readItem = readOnly.map some

/-- Each timing line reads as what the benchmark of this call measured, if its name has no
equals sign. -/
def TimingsKept (g : World σ) (response : Reply KinBench.Body) (g' : World σ) : Prop :=
  response.success = true → ∃ timeout result new, g'.history = new ++ g.history ∧
    ⟨.command (.kinBench timeout), .ok result⟩ ∈ new ∧
    List.Forall₂ (fun line entry => '=' ∉ entry.1.toList → readTiming line = some entry)
      response.body.timings result.timings

/-- The SDK answered this rate for the id. -/
def RateAnswered (events : List (Event Call.Answer)) (id : RateId) (rate : UInt8 × Double) : Prop :=
  ⟨.query (.responseId id), rate.1⟩ ∈ events ∧ ⟨.query (.msgHz rate.1), rate.2⟩ ∈ events

/-- The two arrays of the message rates pair each response id with the rate the SDK answered
for it in this call. -/
def RatesKept (g : World σ) (response : Reply GetDiagnostics.Body) (g' : World σ) : Prop :=
  response.success = true → ∃ new, g'.history = new ++ g.history ∧
    response.body.msgIds.length = response.body.msgHz.length ∧
    List.Forall₂ (RateAnswered new) rateIds (response.body.msgIds.zip response.body.msgHz)

lemma replies_handleGetFeedforwardCatalog (response : Reply GetFeedforwardCatalog.Body) :
    Replies CatalogKept env (handleGetFeedforwardCatalog response) g := by
  refine ⟨_, rfl, _, _, _, rfl, ?_, ?_, ?_⟩ <;> exact readItem_formatItems _

lemma replies_handleKinBench (request : KinBench.Request) (response : Reply KinBench.Body) :
    Replies TimingsKept env (handleKinBench request response) g := by
  rw [Replies, handleKinBench, wp_refuseUnless]
  split
  case isFalse => exact ⟨_, rfl, fun h => by cases h⟩
  case isTrue =>
    rw [wp_bind, runCommand, wp_bind]
    refine quiet_connected fun link g₁ hquiet => ?_
    obtain ⟨-, older, holder, -⟩ := hquiet
    dsimp only
    rw [wp_refuseUnless]
    split
    case isFalse => exact ⟨_, rfl, fun h => by cases h⟩
    case isTrue =>
      rw [wp_catching, wp_bind, wp_bind, wp_query]
      dsimp only
      generalize hdefault : g₁.answer env (.query .kinBenchTimeout) = limit
      have hlimit : (g₁.after env (.query .kinBenchTimeout)).history =
          ⟨.query .kinBenchTimeout, limit⟩ :: older ++ g.history := by
        rw [← hdefault, List.cons_append, ← holder]
        rfl
      generalize g₁.after env (.query .kinBenchTimeout) = g₂ at hlimit
      rw [wp_bind, wp_command]
      cases hanswer : g₂.answer env (.command (.kinBench (orDefault request.timeout limit))) with
      | error what => exact ⟨_, rfl, fun h => by cases h⟩
      | ok result =>
        refine ⟨_, rfl, fun _ => ⟨_, result,
          ⟨.command (.kinBench (orDefault request.timeout limit)), .ok result⟩ ::
            ⟨.query .kinBenchTimeout, limit⟩ :: older, ?_, List.mem_cons_self, ?_⟩⟩
        · change ⟨_, g₂.answer env _⟩ :: g₂.history = _
          rw [hanswer, hlimit]
          rfl
        · exact List.forall₂_map_left_iff.mpr
            (List.forall₂_same.mpr fun entry _ => readTiming_timingLine)

lemma RateAnswered.mono {events events' : List (Event Call.Answer)} {id : RateId}
    {rate : UInt8 × Double} (h : RateAnswered events id rate) (hevents : events ⊆ events') :
    RateAnswered events' id rate := ⟨hevents h.1, hevents h.2⟩

/-- The rates are asked for one after another. -/
lemma rates_answered {ids : List RateId} (harm : g.shared.arm.isSome = true) :
    (rates ids).wp env (fun r g' => ∃ pairs new, r = .ok pairs ∧
      g'.history = new ++ g.history ∧ List.Forall₂ (RateAnswered new) ids pairs) g := by
  induction ids generalizing g with
  | nil => exact ⟨[], [], rfl, rfl, .nil⟩
  | cons id ids ih =>
    rw [rates, wp_bind, wp_query]
    generalize hcode : g.answer env (.query (.responseId id)) = code
    dsimp only
    rw [wp_bind, wp_armQuery (by exact harm), wp_query]
    generalize hrate : Config.answer env (.query (.msgHz code)) _ = rate
    dsimp only
    rw [wp_bind]
    refine wp_mono (ih (by exact harm)) ?_
    rintro _ g' ⟨pairs, new, rfl, hnew, hpairs⟩
    refine ⟨(code, rate) :: pairs,
      new ++ [⟨.query (.msgHz code), rate⟩, ⟨.query (.responseId id), code⟩], rfl, ?_, ?_⟩
    · change g'.history = _
      simp [hnew, hcode, hrate]
    · refine .cons ⟨by simp, by simp⟩ (hpairs.imp fun id rate h => h.mono ?_)
      exact List.subset_append_left _ _

lemma replies_handleGetDiagnostics (response : Reply GetDiagnostics.Body) :
    Replies RatesKept env (handleGetDiagnostics response) g := by
  rw [Replies, handleGetDiagnostics, wp_bind, wp_connected]
  by_cases hnone : g.shared.arm.isNone = true
  · rw [if_pos hnone]
    exact ⟨_, rfl, fun h => by cases h⟩
  rw [if_neg hnone]
  have harm : g.shared.arm.isSome = true := by simpa [Option.isSome_iff_ne_none] using hnone
  cases g.answer env (.query .isConnected) with
  | false => exact ⟨_, rfl, fun h => by cases h⟩
  | true =>
    simp only [checkConnected, refuseUnless, Bool.not_true, Bool.false_eq_true, if_false,
      GateResult.pass_ok, if_true, wp_catching, wp_bind]
    refine quiet_armQuery rfl (by exact harm) fun stats g₁ h₁ harm₁ => ?_
    refine quiet_armQuery rfl harm₁ fun banner g₂ h₂ harm₂ => ?_
    refine quiet_armQuery rfl harm₂ fun connected g₃ h₃ harm₃ => ?_
    refine quiet_armQuery rfl harm₃ fun inDfu g₄ h₄ harm₄ => ?_
    refine quiet_armQuery rfl harm₄ fun cartSupported g₅ h₅ harm₅ => ?_
    refine quiet_armQuery rfl harm₅ fun axes g₆ h₆ harm₆ => ?_
    refine quiet_armQuery rfl harm₆ fun statusSeq g₇ h₇ harm₇ => ?_
    refine quiet_armQuery rfl harm₇ fun port g₈ h₈ harm₈ => ?_
    refine quiet_armQuery rfl harm₈ fun firmware g₉ h₉ harm₉ => ?_
    refine quiet_armQuery rfl harm₉ fun reason g₁₀ h₁₀ harm₁₀ => ?_
    obtain ⟨-, older, holder, -⟩ : Quiet g g₁₀ := (Quiet.after rfl g).trans <| h₁.trans <|
      h₂.trans <| h₃.trans <| h₄.trans <| h₅.trans <| h₆.trans <| h₇.trans <| h₈.trans <|
      h₉.trans h₁₀
    refine wp_mono (rates_answered harm₁₀) ?_
    rintro _ g' ⟨pairs, new, rfl, hnew, hpairs⟩
    refine ⟨_, rfl, fun _ => ⟨new ++ older, ?_, by simp, ?_⟩⟩
    · change g'.history = _
      rw [hnew, holder, List.append_assoc]
    · have hzip : pairs = (pairs.map Prod.fst).zip (pairs.map Prod.snd) :=
        List.zip_of_prod rfl rfl
      change List.Forall₂ _ rateIds ((pairs.map Prod.fst).zip (pairs.map Prod.snd))
      rw [← hzip]
      exact hpairs.imp fun id rate h => h.mono (List.subset_append_left _ _)

/-- Whatever the node's state and the SDK's answers, the three services reply, and a client
reads back from the lines and arrays of a success what the SDK answered in that call. -/
theorem tables_read_back (env : Environment σ) (g : World σ) :
    Replies CatalogKept env (Service.getFeedforwardCatalog.handle () default) g ∧
    (∀ request, Replies TimingsKept env (Service.kinBench.handle request default) g) ∧
    Replies RatesKept env (Service.getDiagnostics.handle () default) g :=
  ⟨replies_handleGetFeedforwardCatalog default, fun request => replies_handleKinBench request _,
    replies_handleGetDiagnostics _⟩

end LitearmDriver
