import ClosedLoop.Construction.Response.Decision

namespace ClosedLoop.Response

open ClosedLoop.Library

section Readings

/-- A field of a raw item of findings. -/
def fieldOf (value : Json) (name : String) : Json :=
  match value with
  | .obj fields => Json.get fields name
  | _ => .null

/-- The finite number of a raw field, if there is one. -/
def finiteOf (value : Json) : Option Double := (finiteNumber value "").toOption

/-- When a raw item was observed, in whole milliseconds. -/
def observed (python : Python) (item : Json) : Option Rfc3339 :=
  (observationTime python (fieldOf item "observed_at") "").toOption

/-- The normalized target of a raw item. -/
def targetOf (python : Python) (item : Json) : Option Target :=
  (validateTarget python (fieldOf item "target")).toOption

/-- A raw signal and its normal form. -/
structure Reads (python : Python) (item : Json) (signal : Signal) : Prop where
  type : fieldOf item "type" = .str signal.type.text
  reference : ∃ text, fieldOf item "reference" = .str text ∧ strip text = signal.reference
  observedAt : observed python item = some signal.observedAt
  target : targetOf python item = some signal.target
  severity : floatOf (fieldOf item "severity") = signal.severity.map fun number : Nat => (number : Rat)
  count : floatOf (fieldOf item "count") = signal.count.map fun number : Nat => (number : Rat)
  confidence : finiteOf (fieldOf item "confidence") = signal.confidence

/-- A raw anomaly and its normal form. -/
structure ReadsAnomaly (python : Python) (item : Json) (anomaly : Anomaly) : Prop where
  eventId : fieldOf item "event_id" = .str anomaly.eventId
  score : floatOf (fieldOf item "score") = some anomaly.score.value
  isAnomaly : fieldOf item "is_anomaly" = .bool anomaly.isAnomaly
  observedAt : observed python item = some anomaly.observedAt
  target : targetOf python item = some anomaly.target

end Readings

section Fields

/-- An accepted number is the number in the document. -/
theorem finiteNumber_ok {value : Json} {label : String} {number : Double}
    (passed : finiteNumber value label = .ok number) : floatOf value = some number.value := by
  unfold finiteNumber at passed
  split at passed
  · split at passed
    · cases passed
      rfl
    · cases passed
  · rename_i read
    split at passed
    · rename_i finite
      cases passed
      obtain ⟨found, same⟩ := Option.isSome_iff_exists.mp finite
      simp [floatOf, Double.value, same]
    · cases passed
  · cases passed

theorem unitNumber_ok {value : Json} {label : String} {number : Double}
    (passed : unitNumber value label = .ok number) : floatOf value = some number.value := by
  unfold unitNumber at passed
  simp only [Check.bind_ok, Check.pure_ok] at passed
  obtain ⟨read, finite, -, -, rfl⟩ := passed
  exact finiteNumber_ok finite

theorem nonEmptyText_ok {value : Json} {label text : String} (passed : nonEmptyText value label = .ok text) :
    value = .str text := by
  unfold nonEmptyText at passed
  split at passed
  · split at passed
    · cases passed
    · cases passed
      rfl
  · cases passed

theorem booleanFlag_ok {value : Json} {label : String} {flag : Bool} (passed : booleanFlag value label = .ok flag) :
    value = .bool flag := by
  unfold booleanFlag at passed
  split at passed
  · cases passed
    rfl
  · cases passed

/-- The label of a number matters to its errors only. -/
theorem finiteNumber_label {value : Json} {label : String} {number : Double}
    (passed : finiteNumber value label = .ok number) : finiteOf value = some number := by
  unfold finiteOf
  unfold finiteNumber at passed ⊢
  split at passed
  · split at passed
    · rename_i bounded
      cases passed
      simp only [if_pos bounded]
      rfl
    · cases passed
  · split at passed
    · rename_i finite
      cases passed
      simp only [if_pos finite]
      rfl
    · cases passed
  · cases passed

/-- A number that may be missing is read as it is. -/
theorem numberField_ok {fields : List (String × Json)} {label name : String} {found : Option Double}
    (passed : numberField fields label name = .ok found) :
    finiteOf (Json.get fields name) = found ∧ floatOf (Json.get fields name) = found.map Double.value ∧
      ∀ number ∈ found, 0 ≤ number.value := by
  unfold numberField at passed
  split at passed
  · rename_i missing
    cases passed
    have absent : Json.get fields name = .null := by simp [Json.get, missing]
    rw [absent]
    exact ⟨rfl, rfl, nofun⟩
  · rename_i value present
    simp only [Check.bind_ok, Check.guard_ok, Check.pure_ok] at passed
    obtain ⟨number, finite, _, bounded, rfl⟩ := passed
    have given : Json.get fields name = value := by simp [Json.get, present]
    rw [given]
    exact ⟨finiteNumber_label finite, finiteNumber_ok finite, by simpa using bounded⟩

/-- A severity or a count is read as the whole number that it is. -/
theorem wholeField_ok {fields : List (String × Json)} {label name : String} {found : Option Nat}
    (passed : wholeField fields label name = .ok found) :
    floatOf (Json.get fields name) = found.map fun number : Nat => (number : Rat) := by
  unfold wholeField at passed
  simp only [Check.bind_ok] at passed
  obtain ⟨read, finite, next⟩ := passed
  obtain ⟨-, same, bounded⟩ := numberField_ok finite
  cases read with
  | none =>
      cases next
      exact same
  | some number =>
      simp only [Check.bind_ok, Check.guard_ok, Check.pure_ok] at next
      obtain ⟨_, whole, rfl⟩ := next
      have positive : 0 ≤ number.value.num := Rat.num_nonneg.mpr (bounded number rfl)
      have exact : ((number.value.num.toNat : Nat) : Rat) = number.value := by
        calc ((number.value.num.toNat : Nat) : Rat)
            = ((number.value.num.toNat : Int) : Rat) := (Rat.intCast_natCast _).symm
          _ = (number.value.num : Rat) := by rw [Int.toNat_of_nonneg positive]
          _ = number.value := Rat.den_eq_one_iff number.value |>.mp whole
      simpa [exact] using same

/-- An accepted confidence is the number in its field, if there is one. -/
theorem confidenceField_ok {fields : List (String × Json)} {label : String} {found : Option Double}
    (passed : confidenceField fields label = .ok found) :
    finiteOf (Json.get fields "confidence") = found := by
  unfold confidenceField at passed
  simp only [Check.bind_ok] at passed
  obtain ⟨read, finite, next⟩ := passed
  cases read with
  | none =>
      cases next
      exact (numberField_ok finite).1
  | some number =>
      simp only [Check.bind_ok, Check.pure_ok] at next
      obtain ⟨_, _, rfl⟩ := next
      exact (numberField_ok finite).1

/-- A kind of signal is named by its text. -/
theorem SignalType.ofText_some {text : String} {type : SignalType} (found : SignalType.ofText text = some type) :
    type.text = text := by
  simpa using List.find?_some found

theorem signalType_ok {value : Json} {label : String} {type : SignalType} (passed : signalType value label = .ok type) :
    value = .str type.text := by
  unfold signalType at passed
  split at passed
  · split at passed
    · cases passed
    · split at passed
      · rename_i found
        cases passed
        rw [SignalType.ofText_some found]
      · cases passed
  · cases passed

/-- An accepted reference is the stripped text. -/
theorem signalReference_ok {value : Json} {label reference : String}
    (passed : signalReference value label = .ok reference) : ∃ text, value = .str text ∧ strip text = reference := by
  unfold signalReference at passed
  split at passed
  · split at passed
    · cases passed
    · cases passed
      exact ⟨_, rfl, rfl⟩
  · cases passed

variable {python : Python}

/-- The label of a time matters to its errors only. -/
theorem observationTime_ok {value : Json} {label : String} {time : Rfc3339}
    (passed : observationTime python value label = .ok time) : observationTime python value "" = .ok time := by
  unfold observationTime parseRfc3339 at passed ⊢
  split at passed
  · split at passed
    · cases passed
    · rename_i present
      simp only [present, if_false]
      split at passed
      · cases passed
      · cases passed
      · exact passed
      · cases passed
  · cases passed

end Fields

section Validators

variable {python : Python}

/-- A valid anomaly is read as it is. -/
theorem validateAnomaly_ok {item : Json} {anomaly : Anomaly} (passed : validateAnomaly python item = .ok anomaly) :
    ReadsAnomaly python item anomaly := by
  unfold validateAnomaly at passed
  split at passed
  · simp only [Check.bind_ok, Check.pure_ok] at passed
    obtain ⟨eventId, identified, modelId, -, score, scored, threshold, -, isAnomaly, flagged, _, -, observedAt, seen,
      target, aimed, rfl⟩ := passed
    exact {
      eventId := nonEmptyText_ok identified
      score := unitNumber_ok scored
      isAnomaly := booleanFlag_ok flagged
      observedAt := congrArg Except.toOption (observationTime_ok seen)
      target := congrArg Except.toOption aimed }
  · cases passed

/-- A valid signal is read as it is, and its reference is a new one. -/
theorem validateSignal_ok {item : Json} {index : Nat} {seen : List String} {signal : Signal}
    (passed : validateSignal python item index seen = .ok signal) :
    Reads python item signal ∧ signal.reference ∉ seen := by
  unfold validateSignal at passed
  simp only at passed
  split at passed
  · simp only [Check.bind_ok, Check.guard_ok, Check.pure_ok] at passed
    obtain ⟨_, -, type, typed, reference, named, observedAt, observed, _, fresh, target, aimed, severity, severe, count,
      counted, confidence, trusted, rfl⟩ := passed
    refine ⟨?_, fresh⟩
    exact {
      type := signalType_ok typed
      reference := signalReference_ok named
      observedAt := congrArg Except.toOption (observationTime_ok observed)
      target := congrArg Except.toOption aimed
      severity := wholeField_ok severe
      count := wholeField_ok counted
      confidence := confidenceField_ok trusted }
  · cases passed

/-- Valid signals are read one by one, and no reference occurs twice. -/
theorem validateSignals_ok {items : List Json} {index : Nat} {seen : List String} {signals : List Signal}
    (passed : validateSignals python items index seen = .ok signals) :
    List.Forall₂ (Reads python) items signals ∧ (signals.map (·.reference)).Nodup ∧
      ∀ signal ∈ signals, signal.reference ∉ seen := by
  induction items generalizing index seen signals with
  | nil =>
      cases passed
      simp
  | cons item rest ih =>
      simp only [validateSignals, Check.bind_ok, Check.pure_ok] at passed
      obtain ⟨signal, first, others, later, rfl⟩ := passed
      obtain ⟨read, fresh⟩ := validateSignal_ok first
      obtain ⟨each, distinct, apart⟩ := ih later
      refine ⟨.cons read each, ?_, ?_⟩
      · rw [List.map_cons, List.nodup_cons]
        refine ⟨?_, distinct⟩
        rw [List.mem_map]
        rintro ⟨other, member, same⟩
        exact apart other member (same ▸ List.mem_cons_self)
      · intro other member
        rcases List.mem_cons.mp member with same | member
        · exact same ▸ fresh
        · exact fun old => apart other member (List.mem_cons_of_mem _ old)

/-- The validated signals are the raw ones in the order of their types and references. -/
theorem validateIndependentSignals_ok {value : Json} {signals : List Signal}
    (passed : validateIndependentSignals python value = .ok signals) :
    ∃ items read, value = .arr items ∧ List.Forall₂ (Reads python) items read ∧ (read.map (·.reference)).Nodup ∧
      signals = read.insertionSort Signal.before := by
  unfold validateIndependentSignals at passed
  split at passed
  · rename_i items
    simp only [Check.bind_ok, Check.pure_ok] at passed
    obtain ⟨read, each, rfl⟩ := passed
    obtain ⟨related, distinct, -⟩ := validateSignals_ok each
    exact ⟨items, read, rfl, related, distinct, rfl⟩
  · cases passed

/-- Accepted signals are for the target and do not repeat the model's event. -/
theorem checkSignals_ok {anomaly : Anomaly} {target : Target} {signals : List Signal} {checked : Unit}
    (passed : checkSignals anomaly target signals = .ok checked) :
    ∀ signal ∈ signals, signal.target = target ∧ signal.reference ≠ anomaly.eventId := by
  induction signals with
  | nil => simp
  | cons signal rest ih =>
      simp only [checkSignals, Check.bind_ok, Check.guard_ok] at passed
      obtain ⟨_, aimed, _, independent, later⟩ := passed
      intro other member
      rcases List.mem_cons.mp member with same | member
      · exact same ▸ ⟨aimed, independent⟩
      · exact ih later other member

end Validators

section Verdicts

variable {python : Python}

/-- Findings is fresh when no observation is too old or too far in the future. -/
theorem freshness_eq_none {oldest latest : Int} {times : List Rfc3339} :
    freshness oldest latest times = none ↔ ∀ time ∈ times, oldest ≤ time.parse ∧ time.parse ≤ latest := by
  unfold freshness
  rw [List.findSome?_eq_none_iff]
  refine forall₂_congr fun time _ => ?_
  split
  · simp
    omega
  · split
    · simp
      omega
    · simp
      omega

/-- Findings that the policy accepts. -/
structure Warranted (python : Python) (catalog : PolicyCatalog) (policy : ResponsePolicy) (anomaly : Anomaly)
    (signals : List Signal) (target : Target) (now : Int) : Prop where
  fresh : ∀ time ∈ anomaly.observedAt :: signals.map (·.observedAt),
    now - seconds catalog.evidenceMaxAgeSeconds ≤ time.parse ∧ time.parse ≤ now + seconds 60
  flagged : anomaly.isAnomaly = true
  scored : policy.minAiScore ≤ anomaly.score.value
  corroborated : ∃ requirement ∈ policy.requireAny, ∃ signal ∈ signals, requirement.matches signal = true
  permitted : assertTargetAllowed python catalog.protections policy.action target = .ok ()

/-- There is no reason for a rejection exactly when the evidence is warranted. -/
theorem rejectionReason_eq_none {catalog : PolicyCatalog} {policy : ResponsePolicy} {anomaly : Anomaly}
    {signals : List Signal} {target : Target} {now : Int} :
    rejectionReason python catalog policy anomaly signals target now = none ↔
      Warranted python catalog policy anomaly signals target now := by
  unfold rejectionReason
  split
  · rename_i stale
    refine iff_of_false (by simp) fun warranted => ?_
    rw [freshness_eq_none.mpr warranted.fresh] at stale
    cases stale
  · rename_i timely
    have fresh := freshness_eq_none.mp timely
    split
    · rename_i quiet
      exact iff_of_false (by simp) fun warranted => by simp [warranted.flagged] at quiet
    · rename_i flagged
      split
      · rename_i low
        exact iff_of_false (by simp) fun warranted => absurd low (Rat.not_lt.mpr warranted.scored)
      · rename_i high
        split
        · rename_i alone
          refine iff_of_false (by simp) fun warranted => ?_
          obtain ⟨requirement, listed, signal, present, met⟩ := warranted.corroborated
          simp only [Bool.not_eq_true', List.any_eq_false, List.any_eq_true, not_exists, not_and] at alone
          exact alone requirement listed signal present met
        · rename_i corroborated
          simp only [Bool.not_eq_true', Bool.not_eq_false, List.any_eq_true] at corroborated
          split
          · rename_i refused
            exact iff_of_false (by simp) fun warranted => by simp [warranted.permitted] at refused
          · rename_i permitted
            exact iff_of_true rfl ⟨fresh, by simpa using flagged, Rat.not_lt.mp high, corroborated, permitted⟩

/-- What an evaluation reads from its arguments. -/
structure Findings where
  policy : ResponsePolicy
  timestamp : Int
  anomaly : Anomaly
  target : Target
  signals : List Signal

/-- The evidence passed every check that raises. -/
structure Validated (python : Python) (engine : DecisionEngine) (policyId : String)
    (anomaly independentSignals target : Json) (now : Moment) (findings : Findings) : Prop where
  policy : engine.catalog.policies.find? policyId = some findings.policy
  timestamp : now = .aware findings.timestamp
  anomaly : validateAnomaly python anomaly = .ok findings.anomaly
  target : validateTarget python target = .ok findings.target
  signals : validateIndependentSignals python independentSignals = .ok findings.signals
  sameTarget : findings.anomaly.target = findings.target
  independent : ∀ signal ∈ findings.signals,
    signal.target = findings.target ∧ signal.reference ≠ findings.anomaly.eventId

namespace Findings

def material (findings : Findings) : Json :=
  decisionMaterial findings.policy findings.anomaly findings.target findings.signals

def decisionEventId (python : Python) (findings : Findings) : String := identifierOf python "dec" findings.material

def containment (python : Python) (findings : Findings) : Json :=
  requestMaterial (findings.decisionEventId python) findings.policy findings.anomaly findings.target findings.signals

def requestId (python : Python) (findings : Findings) : String := identifierOf python "req" (findings.containment python)

def idempotencyKey (python : Python) (findings : Findings) : String :=
  "idemp-" ++ sha256Hex python (findings.containment python)

/-- The command for these findings with a given authorization. -/
def body (python : Python) (findings : Findings) (correlation : String) (authorization : List (String × Json)) : Json :=
  commandBody (findings.requestId python) (findings.decisionEventId python) correlation
    (findings.idempotencyKey python) findings.policy findings.target authorization

/-- The authorization before it is signed. -/
def authorization (engine : DecisionEngine) (findings : Findings) : List (String × Json) :=
  authorizationBody engine.signingKeyId (rfc3339 findings.timestamp)
    (rfc3339 (findings.timestamp + seconds engine.catalog.commandValidForSeconds))

end Findings

/-- What an evaluation makes of the findings. -/
inductive Concluded (python : Python) (engine : DecisionEngine) (correlationId : Json) (findings : Findings) :
    DecisionResult → Prop where
  | alone (none : findings.signals = []) :
      Concluded python engine correlationId findings
        { eligible := false, reason := "anomaly-only evidence is alert-only and cannot request containment" }
  | rejected {correlation : String} {rejection : Refusal} (some : findings.signals ≠ [])
      (labelled : correlationOf python findings.material correlationId = .ok correlation)
      (unwarranted : ¬Warranted python engine.catalog findings.policy findings.anomaly findings.signals findings.target
        findings.timestamp) :
      Concluded python engine correlationId findings
        (reject findings.policy findings.anomaly findings.signals findings.target (findings.decisionEventId python)
          correlation findings.timestamp rejection)
  | requested {correlation : String} {result : DecisionResult} (some : findings.signals ≠ [])
      (labelled : correlationOf python findings.material correlationId = .ok correlation)
      (warranted : Warranted python engine.catalog findings.policy findings.anomaly findings.signals findings.target
        findings.timestamp)
      (signed : request python engine findings.policy findings.anomaly findings.signals findings.target
        (findings.decisionEventId python) correlation findings.timestamp = .ok result) :
      Concluded python engine correlationId findings result

/-- A request carries a signed command beside the action request. -/
theorem request_ok {engine : DecisionEngine} {findings : Findings} {correlation : String} {result : DecisionResult}
    (passed : request python engine findings.policy findings.anomaly findings.signals findings.target
      (findings.decisionEventId python) correlation findings.timestamp = .ok result) :
    result.actionRequest.isSome ∧ ∃ signature,
      engine.sign (findings.body python correlation (findings.authorization engine)) = .ok signature ∧
      result.command = some (findings.body python correlation
        (findings.authorization engine ++ [("signature", .str signature)])) := by
  unfold request at passed
  simp only [Check.bind_ok, Check.pure_ok] at passed
  obtain ⟨signature, signed, rfl⟩ := passed
  exact ⟨rfl, signature, signed, rfl⟩

/-- An accepted clock is aware. -/
theorem decisionTime_ok {now : Moment} {timestamp : Int} (passed : decisionTime now = .ok timestamp) :
    now = .aware timestamp := by
  unfold decisionTime at passed
  split at passed
  · cases passed
  · cases passed
    rfl
  · cases passed

/-- The policy of an identifier is the one under it. -/
theorem PolicyCatalog.policy_ok {catalog : PolicyCatalog} {policyId : String} {policy : ResponsePolicy} :
    catalog.policy policyId = .ok policy ↔ catalog.policies.find? policyId = some policy := by
  unfold PolicyCatalog.policy
  split <;> simp_all

/-- An evaluation that does not raise validates its evidence and concludes from it. -/
theorem evaluate_ok {engine : DecisionEngine} {policyId : String} {anomaly independentSignals target : Json}
    {now : Moment} {correlationId : Json} {result : DecisionResult}
    (passed : evaluate python engine policyId anomaly independentSignals target now correlationId = .ok result) :
    ∃ findings, Validated python engine policyId anomaly independentSignals target now findings ∧
      Concluded python engine correlationId findings result := by
  unfold evaluate at passed
  simp only [Check.bind_ok, Check.guard_ok] at passed
  obtain ⟨policy, active, timestamp, timed, anomalyData, anomalous, targetData, aimed, signalData, observed, _,
    sameTarget, _, independent, next⟩ := passed
  refine ⟨⟨policy, timestamp, anomalyData, targetData, signalData⟩, ?_, ?_⟩
  · exact {
      policy := PolicyCatalog.policy_ok.mp active
      timestamp := decisionTime_ok timed
      anomaly := anomalous
      target := aimed
      signals := observed
      sameTarget
      independent := checkSignals_ok independent }
  · split at next
    · rename_i none
      cases next
      exact .alone none
    · rename_i some
      simp only [Check.bind_ok] at next
      obtain ⟨correlation, labelled, last⟩ := next
      split at last
      · rename_i rejection refused
        cases last
        refine .rejected some labelled fun warranted => ?_
        rw [rejectionReason_eq_none.mpr warranted] at refused
        cases refused
      · rename_i accepted
        exact .requested some labelled (rejectionReason_eq_none.mp accepted) last

end Verdicts

end ClosedLoop.Response
