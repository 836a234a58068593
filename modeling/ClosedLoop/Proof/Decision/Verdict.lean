import ClosedLoop.Proof.Decision.Evidence

namespace ClosedLoop.Response

open ClosedLoop.Library

section Specification

/-- A raw number that is not below a bound. A missing bound demands nothing. -/
def Reaches (bound : Option Nat) (value : Json) : Prop :=
  ∀ least ∈ bound, ∃ number, floatOf value = some number ∧ (least : Rat) ≤ number

/-- A raw signal meets a requirement of the policy. -/
structure Satisfies (requirement : SignalRequirement) (item : Json) : Prop where
  type : fieldOf item "type" = .str requirement.kind.text
  severity : Reaches requirement.minSeverity (fieldOf item "severity")
  count : Reaches requirement.minCount (fieldOf item "count")

/-- The raw evidence permits a containment of the target. -/
structure Eligible (python : Python) (catalog : PolicyCatalog) (policy : ResponsePolicy) (anomaly : Json)
    (items : List Json) (target : Target) (now : Int) : Prop where
  corroborated : items ≠ []
  flagged : fieldOf anomaly "is_anomaly" = .bool true
  scored : ∃ score, floatOf (fieldOf anomaly "score") = some score ∧ policy.minAiScore ≤ score
  fresh : ∀ item ∈ anomaly :: items, ∃ time, observed python item = some time ∧
    now - seconds catalog.evidenceMaxAgeSeconds ≤ time.parse ∧ time.parse ≤ now + seconds 60
  required : ∃ item ∈ items, ∃ requirement ∈ policy.requireAny, Satisfies requirement item
  permitted : assertTargetAllowed python catalog.protections policy.action target = .ok ()

/-- The raw evidence is about one target and from independent observers. -/
structure Consistent (python : Python) (anomaly : Json) (items : List Json) (target : Target) : Prop where
  targets : ∀ item ∈ anomaly :: items, targetOf python item = some target
  foreign : ∀ item ∈ items, fieldOf item "type" ≠ .str "ai"
  distinct : (items.map fun item => strip (fieldOf item "reference").text).Nodup

end Specification

section Matching

variable {python : Python}

theorem meets_iff {bound value : Option Nat} {raw : Json}
    (read : floatOf raw = value.map fun number : Nat => (number : Rat)) :
    meets bound value = true ↔ Reaches bound raw := by
  unfold Reaches
  rw [read]
  cases bound with
  | none => simp [meets]
  | some least =>
      cases value with
      | none => simp [meets]
      | some number =>
          simp only [meets, decide_eq_true_eq, Option.mem_def, Option.some.injEq, forall_eq', Option.map_some,
            exists_eq_left', Rat.natCast_le_natCast]

/-- A requirement matches a normal form exactly when the raw signal satisfies it. -/
theorem matches_iff {requirement : SignalRequirement} {item : Json} {signal : Signal}
    (read : Reads python item signal) : requirement.matches signal = true ↔ Satisfies requirement item := by
  simp only [SignalRequirement.matches, Bool.and_eq_true, decide_eq_true_eq, meets_iff read.severity,
    meets_iff read.count]
  constructor
  · rintro ⟨⟨type, severity⟩, count⟩
    exact ⟨read.type.trans (by rw [type]), severity, count⟩
  · intro satisfied
    have same : signal.type.text = requirement.kind.text := Json.str.inj (read.type.symm.trans satisfied.type)
    exact ⟨⟨SignalType.text_injective same, satisfied.severity⟩, satisfied.count⟩

end Matching

section Verdict

variable {python : Python} {engine : DecisionEngine} {policyId : String} {anomaly independentSignals target : Json}
  {now : Moment} {findings : Findings}

/-- Validated signals are the normal forms of the raw ones, in another order. -/
theorem Validated.read (validated : Validated python engine policyId anomaly independentSignals target now findings) :
    ∃ items read, independentSignals = .arr items ∧ List.Forall₂ (Reads python) items read ∧
      (read.map (·.reference)).Nodup ∧ findings.signals.Perm read := by
  obtain ⟨items, read, listed, each, distinct, sorted⟩ := validateIndependentSignals_ok validated.signals
  exact ⟨items, read, listed, each, distinct, sorted ▸ List.perm_insertionSort _ _⟩

/-- Every validated evidence is about one target and from independent observers. -/
theorem Validated.consistent {items : List Json} {read : List Signal}
    (validated : Validated python engine policyId anomaly independentSignals target now findings)
    (each : List.Forall₂ (Reads python) items read) (distinct : (read.map (·.reference)).Nodup)
    (sorted : findings.signals.Perm read) : Consistent python anomaly items findings.target := by
  have aimed : ∀ signal ∈ read, signal.target = findings.target := fun signal member =>
    (validated.independent signal (sorted.mem_iff.mpr member)).1
  refine ⟨List.forall_mem_cons.mpr ⟨?_, ?_⟩, ?_, ?_⟩
  · rw [(validateAnomaly_ok validated.anomaly).target, validated.sameTarget]
  · refine (Check.forall_related each fun item signal reads => ?_).mpr aimed
    rw [reads.target, Option.some.injEq]
  · have foreign : ∀ signal ∈ read, signal.type.text ≠ "ai" := fun signal _ => by cases signal.type <;> decide
    refine (Check.forall_related each fun item signal reads => ?_).mpr foreign
    simp [reads.type]
  · rw [Check.map_related each fun item signal reads => ?_]
    · exact distinct
    · obtain ⟨text, written, trimmed⟩ := reads.reference
      rw [written]
      exact trimmed

/-- Validated evidence is warranted exactly when the raw evidence is eligible. -/
theorem Validated.warranted_iff {items : List Json} {read : List Signal}
    (validated : Validated python engine policyId anomaly independentSignals target now findings)
    (each : List.Forall₂ (Reads python) items read) (sorted : findings.signals.Perm read) :
    findings.signals ≠ [] ∧ Warranted python engine.catalog findings.policy findings.anomaly findings.signals
        findings.target findings.timestamp ↔
      Eligible python engine.catalog findings.policy anomaly items findings.target findings.timestamp := by
  have anomalous := validateAnomaly_ok validated.anomaly
  have present : findings.signals = [] ↔ items = [] := by
    rw [← List.length_eq_zero_iff, ← List.length_eq_zero_iff, sorted.length_eq, each.length_eq]
  have timely (oldest latest : Int) :
      (∀ time ∈ findings.anomaly.observedAt :: findings.signals.map (·.observedAt),
        oldest ≤ time.parse ∧ time.parse ≤ latest) ↔
      ∀ item ∈ anomaly :: items, ∃ time, observed python item = some time ∧ oldest ≤ time.parse ∧
        time.parse ≤ latest := by
    have rest := Check.forall_related each fun item signal (reads : Reads python item signal) =>
      show (∃ time, observed python item = some time ∧ oldest ≤ time.parse ∧ time.parse ≤ latest) ↔
        (oldest ≤ signal.observedAt.parse ∧ signal.observedAt.parse ≤ latest) by
      simp [reads.observedAt]
    rw [List.forall_mem_cons, List.forall_mem_cons, rest, List.forall_mem_map, anomalous.observedAt]
    simp [sorted.mem_iff]
  have met (requirement : SignalRequirement) :
      (∃ signal ∈ findings.signals, requirement.matches signal = true) ↔
        ∃ item ∈ items, Satisfies requirement item := by
    rw [Check.exists_related each fun item signal reads => (matches_iff reads).symm]
    simp [sorted.mem_iff]
  constructor
  · rintro ⟨some, warranted⟩
    obtain ⟨requirement, listed, found⟩ := warranted.corroborated
    obtain ⟨item, member, satisfied⟩ := (met requirement).mp found
    exact {
      corroborated := mt present.mpr some
      flagged := by rw [anomalous.isAnomaly, warranted.flagged]
      scored := ⟨_, anomalous.score, warranted.scored⟩
      fresh := (timely _ _).mp warranted.fresh
      required := ⟨item, member, requirement, listed, satisfied⟩
      permitted := warranted.permitted }
  · intro eligible
    obtain ⟨item, member, requirement, listed, satisfied⟩ := eligible.required
    obtain ⟨score, read, high⟩ := eligible.scored
    refine ⟨mt present.mp eligible.corroborated, ?_⟩
    exact {
      fresh := (timely _ _).mpr eligible.fresh
      flagged := Json.bool.inj (anomalous.isAnomaly.symm.trans eligible.flagged)
      scored := by rwa [Option.some.inj (anomalous.score.symm.trans read)]
      corroborated := ⟨requirement, listed, (met requirement).mpr ⟨item, member, satisfied⟩⟩
      permitted := eligible.permitted }

/-- A conclusion is a request for warranted evidence and carries no command otherwise. -/
theorem Concluded.verdict {correlationId : Json} {result : DecisionResult}
    (concluded : Concluded python engine correlationId findings result) :
    (result.command.isSome ∧ result.actionRequest.isSome ∧ findings.signals ≠ [] ∧
      Warranted python engine.catalog findings.policy findings.anomaly findings.signals findings.target
        findings.timestamp) ∨
    (result.command = none ∧ result.actionRequest = none ∧ ¬(findings.signals ≠ [] ∧
      Warranted python engine.catalog findings.policy findings.anomaly findings.signals findings.target
        findings.timestamp)) := by
  cases concluded with
  | alone none => exact .inr ⟨rfl, rfl, fun found => found.1 none⟩
  | rejected _ _ unwarranted => exact .inr ⟨rfl, rfl, fun found => unwarranted found.2⟩
  | requested some _ warranted signed =>
      obtain ⟨actionRequest, signature, -, command⟩ := request_ok signed
      exact .inl ⟨by simp [command], actionRequest, some, warranted⟩

/-- A decision requests a containment exactly for eligible evidence, and only from consistent evidence. -/
theorem hybrid_decision {correlationId : Json} {result : DecisionResult}
    (evaluated : evaluate python engine policyId anomaly independentSignals target now correlationId = .ok result) :
    ∃ policy items requested instant, engine.catalog.policies.find? policyId = some policy ∧
      independentSignals = .arr items ∧ validateTarget python target = .ok requested ∧ now = .aware instant ∧
      (result.command.isSome ∧ result.actionRequest.isSome ↔
        Eligible python engine.catalog policy anomaly items requested instant) ∧
      (result.command.isSome → Consistent python anomaly items requested) ∧
      (¬Eligible python engine.catalog policy anomaly items requested instant →
        result.command = none ∧ result.actionRequest = none) := by
  obtain ⟨findings, validated, concluded⟩ := evaluate_ok evaluated
  obtain ⟨items, read, listed, each, distinct, sorted⟩ := validated.read
  refine ⟨findings.policy, items, findings.target, findings.timestamp, validated.policy, listed, validated.target,
    validated.timestamp, ?_, fun _ => validated.consistent each distinct sorted, ?_⟩
  · rw [← validated.warranted_iff each sorted]
    rcases concluded.verdict with ⟨command, actionRequest, warranted⟩ | ⟨command, -, unwarranted⟩
    · exact iff_of_true ⟨command, actionRequest⟩ warranted
    · exact iff_of_false (by simp [command]) unwarranted
  · rw [← validated.warranted_iff each sorted]
    intro unwarranted
    rcases concluded.verdict with ⟨-, -, warranted⟩ | ⟨command, actionRequest, -⟩
    · exact absurd warranted unwarranted
    · exact ⟨command, actionRequest⟩

end Verdict

section Desk

/-- The first second of the year 2026 in microseconds. -/
def deskTime : Int := 1767225600000000

def deskTarget : Target := ⟨.ip, "203.0.113.7"⟩

/-- The policy document of the desk. -/
def deskDocument : Json :=
  .obj [("schema_version", .str "response-policy-set-v1"),
    ("defaults", .obj [("protections", .obj [("protected_ips", .arr [.str "203.0.113.1"])]),
      ("rate_limit", .obj [("max_actions", .int 10), ("window_seconds", .int 60)]), ("dedup_seconds", .int 60),
      ("command_valid_for_seconds", .int 600), ("evidence_max_age_seconds", .int 900)]),
    ("policies", .arr [.obj [("id", .str "COR-001"), ("version", .str "1"), ("enabled", .bool true),
      ("action", .str "block_ip"), ("ttl_seconds", .int 300),
      ("when", .obj [("ai_score_gte", .float (.finite (mkRat 29 32))),
        ("require_any", .arr [.obj [("type", .str "authentication"), ("min_count", .int 20)]])])]])]

/-- The evidence names the target in each item. -/
def deskEvidence (fields : List (String × Json)) : Json :=
  .obj (fields ++ [("observed_at", .str "2026-01-01T08:00:00+08:00"), ("target", deskTarget.toJson)])

def deskAnomaly : Json :=
  deskEvidence [("event_id", .str "ai-event"), ("model_id", .str "approved-model"),
    ("score", .float (.finite (mkRat 15 16))), ("threshold", .float (.finite (mkRat 7 8))), ("is_anomaly", .bool true)]

/-- A count is given as an integer or as a float. -/
def deskSignal (count : Json) : Json :=
  deskEvidence [("type", .str "authentication"), ("reference", .str " auth-event "), ("count", count)]

/-- The normal form of the signal. -/
def deskRead : Signal := ⟨.authentication, "auth-event", rfc3339 deskTime, deskTarget, none, some 20, none⟩

def deskRule : Json :=
  ruleMaterial "COR-001" "1" .blockIp 300 (mkRat 29 32) [⟨.authentication, none, some 20⟩]

def deskBound : Json :=
  .obj [("rule_sha256", .str "6d13b8778b5dcb8630b57af2ef8b876c92ac16e3e0a8fb683e79ee45eaa67491"),
    ("safeguards", safeguardMaterial ⟨[], [], [.v4 ⟨203, 0, 113, 1⟩], [], [], [], false⟩ ⟨10, 60⟩ 60 600 900)]

def deskSha256 : String := "70dd92de1b4f0e935304d1c68e1f3699be2b94690e80a3517f7828faf92b6666"

def deskMaterial : Json :=
  .obj [("policy_id", .str "COR-001"), ("policy_sha256", .str deskSha256), ("anomaly_event_id", .str "ai-event"),
    ("target", deskTarget.toJson), ("signals", .arr [deskRead.toJson])]

def deskContainment : Json :=
  .obj [("decision_event_id", .str "dec-e36ceaff4022b5eaf0c659c7"), ("policy_sha256", .str deskSha256),
    ("target", deskTarget.toJson), ("anomaly_event_id", .str "ai-event"), ("signals", .arr [deskRead.toJson])]

/-- The texts that the desk hashes, with their SHA-256 digests. -/
def deskDigests : Table String String :=
  [(deskRule.canonical, "6d13b8778b5dcb8630b57af2ef8b876c92ac16e3e0a8fb683e79ee45eaa67491"),
    (deskBound.canonical, deskSha256),
    (deskMaterial.canonical, "e36ceaff4022b5eaf0c659c796ef41979e2438978ef3911ac55bcde97ed74ad2"),
    (deskContainment.canonical, "405f8174aaa6a7da3619bc9352c50926204be3f30e7276018d6193ef3885ebdf")]

def deskPython : Python where
  sha256Hex text := (deskDigests.find? text).getD ""
  fromIsoformat text :=
    if text = "2026-01-01T00:00:00.000Z" ∨ text = "2026-01-01T08:00:00+08:00" then some (.aware deskTime)
    else if text = "2026-01-01T00:10:00.000Z" then some (.aware (deskTime + seconds 600)) else none
  lower := String.toLower
  upper := String.toUpper
  repr text := "'" ++ text ++ "'"

theorem deskDocument_loads : ((PolicyCatalog.fromMapping deskPython deskDocument).toOption).isSome = true := by
  decide +kernel

def deskCatalog : PolicyCatalog := (PolicyCatalog.fromMapping deskPython deskDocument).toOption.get deskDocument_loads

/-- The engine of the desk signs with a key of 32 letters k. -/
def deskEngine : DecisionEngine where
  catalog := deskCatalog
  sign _ := .ok "OJmdYtSN7YsdXPgSL2aK2-t60oDT4YsPiBL5kkdIq6g"
  signingKeyId := "lab"
  named := by decide

def deskDecision (count : Json) : Except PyError DecisionResult :=
  evaluate deskPython deskEngine "COR-001" deskAnomaly (.arr [deskSignal count]) deskTarget.toJson (.aware deskTime)
    (.str "trace-1")

/-- A count that is spelled as an integer leads to a command. -/
theorem deskDecision_requests :
    ∃ result command, deskDecision (.int 20) = .ok result ∧ result.command = some command :=
  Check.ok_of_isSome (by decide +kernel)

/-- So does a count that is spelled as a float. -/
theorem deskDecision_respelled :
    ∃ result command, deskDecision (.float (.finite 20)) = .ok result ∧ result.command = some command :=
  Check.ok_of_isSome (by decide +kernel)

/-- The evidence of the desk is eligible, and its decision is a command. -/
theorem hybrid_decision_desk :
    ∃ result policy, deskDecision (.int 20) = .ok result ∧ result.command.isSome ∧
      Eligible deskPython deskCatalog policy deskAnomaly [deskSignal (.int 20)] deskTarget deskTime := by
  obtain ⟨result, command, evaluated, carried⟩ := deskDecision_requests
  obtain ⟨policy, items, requested, instant, -, listed, aimed, timed, -, -, refused⟩ := hybrid_decision evaluated
  cases listed
  cases timed
  have same : validateTarget deskPython deskTarget.toJson = .ok deskTarget := by decide +kernel
  cases Except.ok.inj (same.symm.trans aimed)
  refine ⟨result, policy, evaluated, by simp [carried], ?_⟩
  by_contra ineligible
  rw [(refused ineligible).1] at carried
  cases carried

end Desk

end ClosedLoop.Response
