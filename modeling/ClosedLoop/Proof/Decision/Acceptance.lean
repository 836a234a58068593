import ClosedLoop.Proof.Decision.Verdict
import Mathlib.Data.List.TakeWhile

namespace ClosedLoop.Response

open ClosedLoop.Library

section Labels

/-- The label of a number matters to its errors only. -/
theorem finiteNumber_relabel {value : Json} {label : String} (other : String) {number : Double} :
    finiteNumber value label = .ok number ↔ finiteNumber value other = .ok number := by
  have one : ∀ label other, finiteNumber value label = .ok number → finiteNumber value other = .ok number := by
    intro label other passed
    have found := finiteNumber_label passed
    unfold finiteOf at found
    unfold finiteNumber at found ⊢
    split at found
    · split at found
      · rename_i bounded
        rw [if_pos bounded]
        simpa [Except.toOption] using found
      · cases found
    · split at found
      · rename_i finite
        rw [if_pos finite]
        simpa [Except.toOption] using found
      · cases found
    · cases found
  exact ⟨one label other, one other label⟩

/-- The label in an error changes no number that is read. -/
theorem numberField_relabel {fields : List (String × Json)} {label name : String} (other : String)
    {found : Option Double} : numberField fields label name = .ok found ↔ numberField fields other name = .ok found := by
  unfold numberField
  split
  · rfl
  · simp only [Check.bind_ok, Check.guard_ok, Check.pure_ok]
    rw [exists_congr fun number => and_congr_left fun _ => finiteNumber_relabel (other ++ "." ++ name)]

theorem wholeField_relabel {fields : List (String × Json)} {label name : String} (other : String)
    {found : Option Nat} : wholeField fields label name = .ok found ↔ wholeField fields other name = .ok found := by
  unfold wholeField
  simp only [Check.bind_ok]
  refine exists_congr fun number => and_congr (numberField_relabel other) ?_
  split
  · rfl
  · simp only [Check.bind_ok, Check.guard_ok]

theorem confidenceField_relabel {fields : List (String × Json)} {label : String} (other : String)
    {found : Option Double} : confidenceField fields label = .ok found ↔ confidenceField fields other = .ok found := by
  unfold confidenceField
  simp only [Check.bind_ok]
  refine exists_congr fun number => and_congr (numberField_relabel other) ?_
  split
  · rfl
  · simp only [Check.bind_ok, Check.guard_ok]

theorem signalType_relabel {value : Json} {label : String} (other : String) {type : SignalType} :
    signalType value label = .ok type ↔ signalType value other = .ok type := by
  unfold signalType
  split
  · split
    · simp
    · split <;> simp
  · simp

theorem signalReference_relabel {value : Json} {label : String} (other : String) {reference : String} :
    signalReference value label = .ok reference ↔ signalReference value other = .ok reference := by
  unfold signalReference
  split
  · split <;> simp
  · simp

variable {python : Python}

theorem observationTime_relabel {value : Json} {label : String} (other : String) {time : Rfc3339} :
    observationTime python value label = .ok time ↔ observationTime python value other = .ok time := by
  unfold observationTime parseRfc3339
  simp only [Check.bind_ok]
  refine exists_congr fun parsed => and_congr_left fun _ => ?_
  split
  · split
    · simp
    · split <;> simp
  · simp

/-- A signal among others is valid when it is valid by itself and its reference is a new one. -/
theorem validateSignal_iff {item : Json} {index : Nat} {seen : List String} {signal : Signal} :
    validateSignal python item index seen = .ok signal ↔
      validateSignal python item 0 [] = .ok signal ∧ signal.reference ∉ seen := by
  unfold validateSignal
  dsimp only
  split
  · simp only [Check.bind_ok, Check.guard_ok, Check.pure_ok, rejectUnknown]
    constructor
    · rintro ⟨_, known, type, typed, reference, named, observedAt, observed, _, fresh, target, aimed, severity, severe,
        count, counted, confidence, trusted, rfl⟩
      exact ⟨⟨(), known, type, (signalType_relabel _).mp typed, reference, (signalReference_relabel _).mp named,
        observedAt, (observationTime_relabel _).mp observed, (), by simp, target, aimed, severity,
        (wholeField_relabel _).mp severe, count, (wholeField_relabel _).mp counted, confidence,
        (confidenceField_relabel _).mp trusted, rfl⟩, fresh⟩
    · rintro ⟨⟨_, known, type, typed, reference, named, observedAt, observed, _, _, target, aimed, severity, severe,
        count, counted, confidence, trusted, rfl⟩, fresh⟩
      exact ⟨(), known, type, (signalType_relabel _).mp typed, reference, (signalReference_relabel _).mp named,
        observedAt, (observationTime_relabel _).mp observed, (), fresh, target, aimed, severity,
        (wholeField_relabel _).mp severe, count, (wholeField_relabel _).mp counted, confidence,
        (confidenceField_relabel _).mp trusted, rfl⟩
  · simp

end Labels

section Evidence

variable {python : Python}

/-- A raw signal is valid by itself. -/
def Admits (python : Python) (item : Json) (signal : Signal) : Prop := validateSignal python item 0 [] = .ok signal

/-- Signals are valid when each of them is and no reference occurs twice. -/
theorem validateSignals_iff {items : List Json} {index : Nat} {seen : List String} {signals : List Signal} :
    validateSignals python items index seen = .ok signals ↔
      List.Forall₂ (Admits python) items signals ∧ (signals.map (·.reference)).Nodup ∧
        ∀ signal ∈ signals, signal.reference ∉ seen := by
  induction items generalizing index seen signals with
  | nil =>
      simp only [validateSignals, Except.ok.injEq, List.forall₂_nil_left_iff]
      constructor
      · rintro rfl
        simp
      · rintro ⟨rfl, -⟩
        rfl
  | cons item rest ih =>
      simp only [validateSignals, Check.bind_ok, Check.pure_ok, ih]
      constructor
      · rintro ⟨signal, passed, others, ⟨each, distinct, apart⟩, rfl⟩
        obtain ⟨valid, fresh⟩ := validateSignal_iff.mp passed
        refine ⟨.cons valid each, ?_, ?_⟩
        · rw [List.map_cons, List.nodup_cons, List.mem_map]
          refine ⟨?_, distinct⟩
          rintro ⟨other, member, same⟩
          exact apart other member (same ▸ List.mem_cons_self)
        · intro other member
          rcases List.mem_cons.mp member with rfl | later
          · exact fresh
          · exact fun old => apart other later (List.mem_cons_of_mem _ old)
      · rintro ⟨each, distinct, apart⟩
        cases each with
        | cons valid each =>
            rename_i signal others
            rw [List.map_cons, List.nodup_cons, List.mem_map] at distinct
            refine ⟨signal, validateSignal_iff.mpr ⟨valid, apart signal List.mem_cons_self⟩, others,
              ⟨each, distinct.2, ?_⟩, rfl⟩
            intro other member old
            rcases List.mem_cons.mp old with same | older
            · exact distinct.1 ⟨other, member, same⟩
            · exact apart other (List.mem_cons_of_mem _ member) older

/-- Signals are accepted when each is admitted and no reference repeats, and they are sorted. -/
theorem validateIndependentSignals_iff {items : List Json} {signals : List Signal} :
    validateIndependentSignals python (.arr items) = .ok signals ↔ ∃ read, List.Forall₂ (Admits python) items read ∧
      (read.map (·.reference)).Nodup ∧ signals = read.insertionSort Signal.before := by
  simp only [validateIndependentSignals, Check.bind_ok, Check.pure_ok, validateSignals_iff]
  constructor
  · rintro ⟨read, ⟨each, distinct, -⟩, rfl⟩
    exact ⟨read, each, distinct, rfl⟩
  · rintro ⟨read, each, distinct, rfl⟩
    exact ⟨read, ⟨each, distinct, by simp⟩, rfl⟩

/-- Signals are corroborating when they are for the target and do not repeat the model's event. -/
theorem checkSignals_iff {anomaly : Anomaly} {target : Target} {signals : List Signal} :
    checkSignals anomaly target signals = .ok () ↔
      ∀ signal ∈ signals, signal.target = target ∧ signal.reference ≠ anomaly.eventId := by
  refine ⟨checkSignals_ok, fun each => ?_⟩
  induction signals with
  | nil => rfl
  | cons signal rest ih =>
      obtain ⟨aimed, independent⟩ := each signal List.mem_cons_self
      simp only [checkSignals, Check.bind_ok, Check.guard_ok]
      exact ⟨(), aimed, (), independent, ih fun other member => each other (List.mem_cons_of_mem _ member)⟩

end Evidence

section Eligibility

variable {python : Python}

/-- A text that begins with a letter keeps it when white space is removed. -/
theorem strip_head {letter : Char} (visible : isSpace letter = false) (rest : List Char) :
    (strip (String.ofList (letter :: rest))).toList.head? = some letter := by
  unfold strip
  rw [String.toList_ofList, String.toList_ofList, List.dropWhile_cons_of_neg (by simp [visible])]
  have front : ((letter :: rest).reverse.dropWhile isSpace).reverse <+: letter :: rest := by
    simpa using List.reverse_prefix.mpr (List.dropWhile_suffix isSpace : _ <:+ (letter :: rest).reverse)
  have something : ((letter :: rest).reverse.dropWhile isSpace).reverse ≠ [] := by
    intro nothing
    rw [List.reverse_eq_nil_iff, List.dropWhile_eq_nil_iff] at nothing
    have space := nothing letter (by simp)
    rw [visible] at space
    cases space
  obtain ⟨first, others, same⟩ := List.exists_cons_of_ne_nil something
  rw [same] at front ⊢
  rw [(List.cons_prefix_cons.mp front).1, List.head?_cons]

/-- Stripping makes no text longer. -/
theorem strip_length (text : String) : (strip text).toList.length ≤ text.toList.length := by
  unfold strip
  rw [String.toList_ofList, List.length_reverse]
  refine (List.dropWhile_sublist isSpace).length_le.trans ?_
  rw [List.length_reverse]
  exact (List.dropWhile_sublist isSpace).length_le

/-- An identifier of a decision is a good label. -/
theorem correlationOf_null (python : Python) (material : Json) :
    ∃ correlation, correlationOf python material .null = .ok correlation := by
  have spelled : identifierOf python "cor" material =
      String.ofList ('c' :: 'o' :: 'r' :: '-' :: (sha256Hex python material).toList.take 24) := by
    apply String.toList_injective
    simp [identifierOf, truncate]
  have head := strip_head (by decide : isSpace 'c' = false)
    ('o' :: 'r' :: '-' :: (sha256Hex python material).toList.take 24)
  have short := strip_length (identifierOf python "cor" material)
  have bounded : ((sha256Hex python material).toList.take 24).length ≤ 24 := List.length_take_le _ _
  unfold correlationOf correlationOf.checked
  dsimp only
  rw [spelled, if_neg]
  · exact ⟨_, rfl⟩
  · rintro (empty | long)
    · rw [empty] at head
      cases head
    · rw [spelled, String.toList_ofList] at short
      simp only [List.length_cons] at short
      omega

/-- An evaluation requests a containment exactly when the evidence is valid and warrants it. -/
theorem evaluate_eligible_iff {engine : DecisionEngine} {policyId : String} {anomaly independentSignals target : Json}
    {now : Moment} (signs : ∀ body, ∃ signature, engine.sign body = .ok signature) :
    (∃ result, evaluate python engine policyId anomaly independentSignals target now .null = .ok result ∧
      result.eligible = true) ↔
    ∃ findings, Validated python engine policyId anomaly independentSignals target now findings ∧
      findings.signals ≠ [] ∧ Warranted python engine.catalog findings.policy findings.anomaly findings.signals
        findings.target findings.timestamp := by
  constructor
  · rintro ⟨result, evaluated, eligible⟩
    obtain ⟨findings, validated, concluded⟩ := evaluate_ok evaluated
    refine ⟨findings, validated, ?_⟩
    cases concluded with
    | alone none => cases eligible
    | rejected some labelled unwarranted => cases eligible
    | requested some labelled warranted signed => exact ⟨some, warranted⟩
  · rintro ⟨findings, validated, something, warranted⟩
    obtain ⟨correlation, labelled⟩ := correlationOf_null python findings.material
    obtain ⟨signature, signed⟩ := signs (findings.body python correlation (findings.authorization engine))
    have requested : ∃ result, request python engine findings.policy findings.anomaly findings.signals findings.target
        (findings.decisionEventId python) correlation findings.timestamp = .ok result ∧ result.eligible = true := by
      unfold request
      simp only [Check.bind_ok, Check.pure_ok]
      exact ⟨_, ⟨signature, signed, rfl⟩, rfl⟩
    obtain ⟨result, asked, eligible⟩ := requested
    refine ⟨result, ?_, eligible⟩
    unfold evaluate
    simp only [Check.bind_ok, Check.guard_ok]
    refine ⟨findings.policy, PolicyCatalog.policy_ok.mpr validated.policy, findings.timestamp, ?_, findings.anomaly,
      validated.anomaly, findings.target, validated.target, findings.signals, validated.signals, (),
      validated.sameTarget, (), checkSignals_iff.mpr validated.independent, ?_⟩
    · rw [validated.timestamp]
      rfl
    · rw [if_neg something]
      simp only [Check.bind_ok]
      refine ⟨correlation, labelled, ?_⟩
      rw [rejectionReason_eq_none.mpr warranted]
      exact asked

end Eligibility

end ClosedLoop.Response
