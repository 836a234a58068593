import ClosedLoop.Proof.Decision.Acceptance
import ClosedLoop.Proof.Decision.Runner

namespace ClosedLoop.Response

open ClosedLoop.Library
open ClosedLoop.Workers (AnomalyEvent fiveMinutes)

section Evidence

variable (python : Python) (runner : DecisionRunner)

/-- The evidence about an anomaly leads to an eligible decision. -/
def DecisionRunner.Requests (document : AnomalyEvent) (telemetry : Telemetry) (now : Int) : Prop :=
  ∃ result, runner.Decides python document { telemetry, now } result ∧ result.eligible = true

/-- What the runner selects from the telemetry for an anomaly. -/
def DecisionRunner.selected (document : AnomalyEvent) (telemetry : Telemetry) : List RawSignal :=
  match DecisionRunner.target document with
  | none => []
  | some (type, entity) => signals python runner telemetry type entity document.windowStart document.windowEnd

/-- The target of an anomaly as the runner writes it into its evidence. -/
def targetField (document : AnomalyEvent) : Json :=
  match DecisionRunner.target document with
  | none => .null
  | some (type, entity) => targetJson type entity

/-- An observation is neither too old nor too far in the future. -/
def DecisionRunner.Timely (now : Int) (time : Rfc3339) : Prop :=
  now - seconds runner.engine.catalog.evidenceMaxAgeSeconds ≤ time.parse ∧ time.parse ≤ now + seconds 60

/-- A selected signal does no harm when it is valid and timely and is not the anomaly itself. -/
structure Tolerable (document : AnomalyEvent) (now : Int) (signal : RawSignal) : Prop where
  valid : ∃ read, Admits python (signal.toJson (targetField document)) read ∧ runner.Timely now read.observedAt
  independent : strip signal.reference ≠ document.eventId

/-- A policy that the runner applies to an anomaly asks for this signal. -/
def Decisive (document : AnomalyEvent) (signal : RawSignal) : Prop :=
  ∃ type entity policyId policy requirement read, DecisionRunner.target document = some (type, entity) ∧
    runner.policyByTarget.find? type.text = some policyId ∧
    runner.engine.catalog.policies.find? policyId = some policy ∧ requirement ∈ policy.requireAny ∧
    Admits python (signal.toJson (targetField document)) read ∧ requirement.matches read = true

/-- More telemetry leaves a decision as it is when what it adds to the selection is tolerable, no two selected signals
have the same reference, and a decisive one is still selected. -/
structure Undisturbed (document : AnomalyEvent) (telemetry more : Telemetry) (now : Int) : Prop where
  tolerable : ∀ signal ∈ runner.selected python document more, signal ∉ runner.selected python document telemetry →
    Tolerable python runner document now signal
  distinct : ((runner.selected python document more).map fun signal => strip signal.reference).Nodup
  decisive : ∃ signal ∈ runner.selected python document more, Decisive python runner document signal

end Evidence

section Selection

variable {python : Python} {runner : DecisionRunner} {document : AnomalyEvent} {telemetry more : Telemetry} {now : Int}

/-- The reference of a valid signal is the one that was selected. -/
theorem Admits.reference {target : Json} {signal : RawSignal} {read : Signal}
    (admits : Admits python (signal.toJson target) read) : read.reference = strip signal.reference := by
  obtain ⟨text, written, trimmed⟩ := (validateSignal_ok admits).1.reference
  have same : fieldOf (signal.toJson target) "reference" = .str signal.reference := by
    simp [fieldOf, RawSignal.toJson, Json.get, List.lookup_cons]
  cases written.symm.trans same
  exact trimmed.symm

/-- A valid signal is about the target of the evidence. -/
theorem Admits.target {raw : Json} {target : Target} {signal : RawSignal} {read : Signal}
    (admits : Admits python (signal.toJson raw) read) (aimed : validateTarget python raw = .ok target) :
    read.target = target := by
  have found := (validateSignal_ok admits).1.target
  have same : fieldOf (signal.toJson raw) "target" = raw := by
    simp [fieldOf, RawSignal.toJson, Json.get, List.lookup_cons]
  rw [targetOf, same, aimed] at found
  exact (Option.some.inj found).symm

/-- Related items can be chosen one by one. -/
theorem exists_forall₂ {α β : Type} {related : α → β → Prop} {items : List α}
    (each : ∀ item ∈ items, ∃ result, related item result) : ∃ results, List.Forall₂ related items results := by
  induction items with
  | nil => exact ⟨[], .nil⟩
  | cons item rest ih =>
      obtain ⟨result, here⟩ := each item List.mem_cons_self
      obtain ⟨results, later⟩ := ih fun other member => each other (List.mem_cons_of_mem _ member)
      exact ⟨result :: results, .cons here later⟩

/-- What an eligible decision needs of the anomaly itself. -/
structure Founded (python : Python) (runner : DecisionRunner) (document : AnomalyEvent) (now : Int)
    (type : TargetType) (entity policyId : String) (policy : ResponsePolicy) (anomaly : Anomaly) (target : Target) :
    Prop where
  aimed : DecisionRunner.target document = some (type, entity)
  chosen : runner.policyByTarget.find? type.text = some policyId
  active : runner.engine.catalog.policies.find? policyId = some policy
  read : validateAnomaly python (anomalyJson document (targetJson type entity)) = .ok anomaly
  normal : validateTarget python (targetJson type entity) = .ok target
  sameTarget : anomaly.target = target
  fresh : runner.Timely now anomaly.observedAt
  flagged : anomaly.isAnomaly = true
  scored : policy.minAiScore ≤ anomaly.score.value
  permitted : assertTargetAllowed python runner.engine.catalog.protections policy.action target = .ok ()

/-- The anomaly of a founded decision is the document's event. -/
theorem Founded.eventId {type : TargetType} {entity policyId : String} {policy : ResponsePolicy} {anomaly : Anomaly}
    {target : Target} (founded : Founded python runner document now type entity policyId policy anomaly target) :
    anomaly.eventId = document.eventId := by
  have found := (validateAnomaly_ok founded.read).eventId
  have same : fieldOf (anomalyJson document (targetJson type entity)) "event_id" = .str document.eventId := by
    simp [fieldOf, anomalyJson, Json.get]
  exact Json.str.inj (found.symm.trans same)

/-- What an eligible decision needs of the selected signals. -/
structure Supported (python : Python) (runner : DecisionRunner) (document : AnomalyEvent) (now : Int)
    (selected : List RawSignal) : Prop where
  tolerable : ∀ signal ∈ selected, Tolerable python runner document now signal
  distinct : (selected.map fun signal => strip signal.reference).Nodup
  decisive : ∃ signal ∈ selected, Decisive python runner document signal

/-- The selected signals support a decision exactly when their normal forms do. -/
theorem Founded.supported_iff {type : TargetType} {entity policyId : String} {policy : ResponsePolicy}
    {anomaly : Anomaly} {target : Target}
    (founded : Founded python runner document now type entity policyId policy anomaly target)
    {selected : List RawSignal} {read : List Signal}
    (each : List.Forall₂ (fun signal normal => Admits python (signal.toJson (targetField document)) normal)
      selected read) :
    Supported python runner document now selected ↔
      (∀ signal ∈ read, runner.Timely now signal.observedAt ∧ signal.reference ≠ anomaly.eventId) ∧
      (read.map (·.reference)).Nodup ∧
      ∃ signal ∈ read, ∃ requirement ∈ policy.requireAny, requirement.matches signal = true := by
  have only {signal : RawSignal} {normal other : Signal}
      (here : Admits python (signal.toJson (targetField document)) normal)
      (there : Admits python (signal.toJson (targetField document)) other) : normal = other :=
    Except.ok.inj (here.symm.trans there)
  have tolerable : (∀ signal ∈ selected, Tolerable python runner document now signal) ↔
      ∀ signal ∈ read, runner.Timely now signal.observedAt ∧ signal.reference ≠ anomaly.eventId := by
    refine Check.forall_related each fun signal normal admits => ?_
    rw [admits.reference, founded.eventId]
    constructor
    · rintro ⟨⟨other, also, timely⟩, independent⟩
      exact ⟨only also admits ▸ timely, independent⟩
    · rintro ⟨timely, independent⟩
      exact ⟨⟨normal, admits, timely⟩, independent⟩
  have distinct : (selected.map fun signal => strip signal.reference) = read.map (·.reference) :=
    Check.map_related each fun _ _ admits => admits.reference.symm
  have decisive : (∃ signal ∈ selected, Decisive python runner document signal) ↔
      ∃ signal ∈ read, ∃ requirement ∈ policy.requireAny, requirement.matches signal = true := by
    refine Check.exists_related each fun signal normal admits => ?_
    constructor
    · rintro ⟨type', entity', policyId', policy', requirement, other, aimed, chosen, active, listed, also, met⟩
      cases aimed.symm.trans founded.aimed
      cases chosen.symm.trans founded.chosen
      cases active.symm.trans founded.active
      exact ⟨requirement, listed, only also admits ▸ met⟩
    · rintro ⟨requirement, listed, met⟩
      exact ⟨type, entity, policyId, policy, requirement, normal, founded.aimed, founded.chosen, founded.active,
        listed, admits, met⟩
  constructor
  · rintro ⟨first, second, third⟩
    exact ⟨tolerable.mp first, distinct ▸ second, decisive.mp third⟩
  · rintro ⟨first, second, third⟩
    exact ⟨tolerable.mpr first, distinct.symm ▸ second, decisive.mpr third⟩

variable (signs : ∀ body, ∃ signature, runner.engine.sign body = .ok signature)

include signs

/-- A decision is eligible exactly when the anomaly founds it and the selected signals support it. -/
theorem requests_iff : runner.Requests python document telemetry now ↔
    (∃ type entity policyId policy anomaly target,
      Founded python runner document now type entity policyId policy anomaly target) ∧
    Supported python runner document now (runner.selected python document telemetry) := by
  constructor
  · rintro ⟨result, ⟨type, entity, policyId, aimed, chosen, decided⟩, eligible⟩
    obtain ⟨⟨policy, timestamp, anomaly, target, observed⟩, validated, -, warranted⟩ :=
      (evaluate_eligible_iff signs).mp ⟨result, decided, eligible⟩
    cases validated.timestamp
    have founded : Founded python runner document now type entity policyId policy anomaly target := {
      aimed, chosen, active := validated.policy, read := validated.anomaly, normal := validated.target
      sameTarget := validated.sameTarget, fresh := warranted.fresh _ List.mem_cons_self
      flagged := warranted.flagged, scored := warranted.scored, permitted := warranted.permitted }
    obtain ⟨read, each, distinct, rfl⟩ := validateIndependentSignals_iff.mp validated.signals
    rw [List.forall₂_map_left_iff] at each
    refine ⟨⟨type, entity, policyId, policy, anomaly, target, founded⟩, ?_⟩
    rw [DecisionRunner.selected, aimed]
    have field : targetField document = targetJson type entity := by rw [targetField, aimed]
    refine (founded.supported_iff (by rw [field]; exact each)).mpr ⟨fun signal member => ?_, distinct, ?_⟩
    · have listed := (List.mem_insertionSort Signal.before).mpr member
      exact ⟨warranted.fresh _ (List.mem_cons_of_mem _ (List.mem_map_of_mem listed)),
        (validated.independent signal listed).2⟩
    · obtain ⟨requirement, asked, signal, listed, met⟩ := warranted.corroborated
      exact ⟨signal, (List.mem_insertionSort Signal.before).mp listed, requirement, asked, met⟩
  · rintro ⟨⟨type, entity, policyId, policy, anomaly, target, founded⟩, supported⟩
    have field : targetField document = targetJson type entity := by rw [targetField, founded.aimed]
    obtain ⟨read, each⟩ := exists_forall₂ fun signal member => (supported.tolerable signal member).valid.imp
      fun normal admits => admits.1
    obtain ⟨tolerable, distinct, signal, listed, requirement, asked, met⟩ := (founded.supported_iff each).mp supported
    have sorted : ∀ signal, signal ∈ read.insertionSort Signal.before ↔ signal ∈ read :=
      fun signal => List.mem_insertionSort _
    rw [DecisionRunner.selected, founded.aimed, field] at each
    have aimed : (∀ signal ∈ signals python runner telemetry type entity document.windowStart document.windowEnd, True) ↔
        ∀ signal ∈ read, signal.target = target :=
      Check.forall_related each fun _ _ admits => iff_of_true trivial (admits.target founded.normal)
    have validated : Validated python runner.engine policyId (anomalyJson document (targetJson type entity))
        (.arr ((signals python runner telemetry type entity document.windowStart document.windowEnd).map
          (RawSignal.toJson (targetJson type entity)))) (targetJson type entity) (.aware now)
        ⟨policy, now, anomaly, target, read.insertionSort Signal.before⟩ := {
      policy := founded.active, timestamp := rfl, anomaly := founded.read, target := founded.normal
      signals := validateIndependentSignals_iff.mpr ⟨read, List.forall₂_map_left_iff.mpr each, distinct, rfl⟩
      sameTarget := founded.sameTarget
      independent := fun other member => ⟨aimed.mp (fun _ _ => trivial) other ((sorted other).mp member),
        (tolerable other ((sorted other).mp member)).2⟩ }
    have fresh : ∀ time ∈ anomaly.observedAt :: (read.insertionSort Signal.before).map (·.observedAt),
        runner.Timely now time := by
      intro time member
      rcases List.mem_cons.mp member with rfl | later
      · exact founded.fresh
      · obtain ⟨other, inside, rfl⟩ := List.mem_map.mp later
        exact (tolerable other ((sorted other).mp inside)).1
    have some : read.insertionSort Signal.before ≠ [] := List.ne_nil_of_mem ((sorted signal).mpr listed)
    obtain ⟨result, decided, eligible⟩ := (evaluate_eligible_iff signs).mpr ⟨_, validated, some, {
      fresh
      flagged := founded.flagged
      scored := founded.scored
      corroborated := ⟨requirement, asked, signal, (sorted signal).mpr listed, met⟩
      permitted := founded.permitted }⟩
    exact ⟨result, ⟨type, entity, policyId, founded.aimed, founded.chosen, decided⟩, eligible⟩

/-- More telemetry leaves an eligible decision eligible exactly when it leaves the selection undisturbed. -/
theorem still_eligible_iff (eligible : runner.Requests python document telemetry now) :
    runner.Requests python document more now ↔ Undisturbed python runner document telemetry more now := by
  obtain ⟨founded, supported⟩ := (requests_iff signs).mp eligible
  rw [requests_iff signs]
  constructor
  · rintro ⟨-, after⟩
    exact ⟨fun signal member _ => after.tolerable signal member, after.distinct, after.decisive⟩
  · intro undisturbed
    refine ⟨founded, fun signal member => ?_, undisturbed.distinct, undisturbed.decisive⟩
    by_cases known : signal ∈ runner.selected python document telemetry
    · exact supported.tolerable signal known
    · exact undisturbed.tolerable signal member known

end Selection

section Growth

variable (python : Python)

/-- A document is about the entity of an anomaly, in the range of the searches for it. -/
def About (document : AnomalyEvent) (hostName sourceIp : Option String) (timestamp : String) (slack : Int) : Prop :=
  (hostName = some document.entity ∨ sameAddress sourceIp document.entity = true) ∧
    inRange python (document.windowStart - slack) (document.windowEnd + slack) timestamp = true

/-- An event has an identifier of its own. -/
def Identified (eventId : Option String) : Prop := ∃ text, eventId = some text ∧ strip text ≠ ""

/-- Telemetry with further well-formed documents about the entity of an anomaly. -/
structure Grown (document : AnomalyEvent) (telemetry more : Telemetry) : Prop where
  alerts : ∃ further, more.alerts = telemetry.alerts ++ further ∧ ∀ alert ∈ further,
    About python document alert.hostName alert.sourceIp alert.timestamp fiveMinutes ∧ Identified alert.eventId ∧
      (∀ severity ∈ alert.eventSeverity, 0 ≤ severity) ∧ ∀ severity ∈ alert.alertSeverity, 0 ≤ severity
  auth : ∃ further, more.auth = telemetry.auth ++ further ∧ ∀ login ∈ further,
    About python document login.hostName login.sourceIp login.timestamp fiveMinutes ∧ Identified login.eventId
  endpoint : ∃ further, more.endpoint = telemetry.endpoint ++ further ∧ ∀ login ∈ further,
    About python document login.hostName login.sourceIp login.timestamp fiveMinutes ∧ Identified login.eventId
  network : ∃ further, more.network = telemetry.network ++ further ∧ ∀ flow ∈ further,
    About python document none flow.sourceIp flow.timestamp 0

/-- More telemetry about an entity never stops a request. -/
def GrowthKeepsRequests (runner : DecisionRunner) : Prop :=
  ∀ document now telemetry more, runner.Requests python document telemetry now → Grown python document telemetry more →
    runner.Requests python document more now

end Growth

section Desk

/-- A search gives all documents when they are in its range, in order, and not too many. -/
theorem search_all {α : Type} {python : Python} {documents : List α} {wanted : α → Bool} {timestamp : α → String}
    {start stop : Int} {size : Nat}
    (inside : ∀ document ∈ documents, (wanted document && inRange python start stop (timestamp document)) = true)
    (ordered : documents.Pairwise fun first second => ((instant python (timestamp first)).getD 0) / 1000 ≤
      ((instant python (timestamp second)).getD 0) / 1000) (fits : documents.length ≤ size) :
    search python documents wanted timestamp start stop size = documents := by
  unfold search
  rw [List.filter_eq_self.mpr inside, List.Pairwise.insertionSort_eq ordered, List.take_of_length_le fits]


/-- The times of the desk. -/
def deskTimes : Table String Int :=
  [("2025-12-31T23:56:00Z", deskTime - seconds 240), ("2026-01-01T00:04:00Z", deskTime + seconds 240),
    ("2026-01-01T00:05:00Z", deskTime + seconds 300)]

/-- A text stands for its digest here. -/
def fieldPython : Python where
  sha256Hex text := "digest of " ++ text
  fromIsoformat text := (deskTimes.find? text).map .aware
  lower text := String.ofList (text.toList.map Char.toLower)
  upper text := String.ofList (text.toList.map Char.toUpper)
  repr text := "'" ++ text ++ "'"

def deskRunner : DecisionRunner where
  engine := deskEngine
  enforce := true
  minScore := mkRat 29 32
  protectedAssets := []
  threatIntel := []
  policyByTarget := [("ip", "COR-001")]

/-- The anomaly of the first window of the day. -/
def deskEvent : AnomalyEvent where
  timestamp := deskTime + seconds 600
  eventId := "scored-event"
  observer := "soc-ai-inference"
  vectorId := "network-window-v1:c42b9e119bd74f33606714a3edf93044a4c0c7f6"
  featureSchema := .networkWindow
  featureSchemaSha256 := "6551c997e42a378f4999c28d4a5ea1a5f9fe1a90401ed5f6ae5cc46a607faded"
  entityType := "src_ip"
  entity := "203.0.113.7"
  windowStart := deskTime
  windowEnd := deskTime + seconds 300
  sourceEventSetSha256 := "e865168f04ce2eb66741c2d97d2e4909bc180ed2f785b1d0a5b3bc447d7812ab"
  modelId := "approved-model"
  modelSha256 := "aaaaaaaaaaaaaaaaaaaaaaaaaaaaaaaaaaaaaaaaaaaaaaaaaaaaaaaaaaaaaaaa"
  modelMetadataSha256 := "aaaaaaaaaaaaaaaaaaaaaaaaaaaaaaaaaaaaaaaaaaaaaaaaaaaaaaaaaaaaaaaa"
  score := .int 1
  threshold := .int 1
  isAnomaly := true
  inferenceMs := .int 5

/-- A failed login of the attacker. -/
def deskFailure (number : Nat) : AuthDocument where
  timestamp := "2026-01-01T00:04:00Z"
  eventId := some ("login-" ++ toString number)
  category := ["authentication"]
  outcome := some "failure"
  hostName := none
  sourceIp := some "203.0.113.7"

/-- An alert that was seen four minutes before the window. -/
def deskAlert : AlertDocument where
  timestamp := "2025-12-31T23:56:00Z"
  dataset := "suricata.eve"
  eventId := some "alert-1"
  eventSeverity := none
  alertSeverity := some 3
  hostName := none
  sourceIp := some "203.0.113.7"

def deskTelemetry (failures : Nat) (alerts : List AlertDocument) : Telemetry where
  alerts := alerts
  auth := (List.range failures).map deskFailure


/-- The failures of the example are found in the window. -/
theorem deskFailures_found {count : Nat} (fits : count ≤ 500) (alerts : List AlertDocument) :
    failures fieldPython (deskTelemetry count alerts) .ip "203.0.113.7" (deskTime - fiveMinutes)
      (deskTime + seconds 300 + fiveMinutes) = (List.range count).map deskFailure := by
  have address : sameAddress (some "203.0.113.7") "203.0.113.7" = true := by decide +kernel
  have within : inRange fieldPython (deskTime - fiveMinutes) (deskTime + seconds 300 + fiveMinutes)
      "2026-01-01T00:04:00Z" = true := by decide +kernel
  refine search_all ?_ ?_ (by simp [deskTelemetry, fits])
  · intro document member
    obtain ⟨number, _, rfl⟩ := List.mem_map.mp member
    simp [deskFailure, address, within]
  · rw [deskTelemetry, List.pairwise_map]
    exact List.pairwise_of_forall fun _ _ => le_refl _

/-- The one signal of all failed logins. -/
def deskLogins (count : Nat) : RawSignal where
  kind := .authentication
  reference := "auth-failures:" ++ digest fieldPython ((List.range count).map fun number => textOf (deskFailure number).eventId)
  observed := "2026-01-01T00:04:00Z"
  count := some count

/-- The latest of equal times is that time. -/
theorem foldl_max_replicate {first timestamp : String} (later : first ≤ timestamp) (count : Nat) :
    (List.replicate (count + 1) timestamp).foldl max first = timestamp := by
  induction count generalizing first with
  | zero => simpa using later
  | succ count ih =>
      rw [List.replicate_succ, List.foldl_cons, max_eq_right later]
      exact ih (le_refl timestamp)

/-- The failed logins collapse into one signal. -/
theorem deskFailures_collapse {count : Nat} (some : 0 < count) :
    authenticationSignals fieldPython ((List.range count).map deskFailure) = [deskLogins count] := by
  have times : latest (((List.range count).map deskFailure).map AuthDocument.timestamp) = "2026-01-01T00:04:00Z" := by
    obtain ⟨less, rfl⟩ := Nat.exists_eq_add_one.mpr some
    have same : ((List.range (less + 1)).map deskFailure).map AuthDocument.timestamp =
        List.replicate (less + 1) "2026-01-01T00:04:00Z" := by
      rw [List.map_map, List.eq_replicate_iff]
      exact ⟨by simp, by simp [deskFailure]⟩
    rw [latest, same]
    exact foldl_max_replicate (by decide +kernel) less
  unfold authenticationSignals
  rw [if_neg (by simp; omega), times]
  simp [deskLogins, Function.comp_def]

/-- What the runner selects at the desk. -/
theorem desk_selected {count : Nat} (some : 0 < count) (fits : count ≤ 500) (documents : List AlertDocument)
    (quiet : ∀ document ∈ documents, document.dataset = "suricata.eve") :
    deskRunner.selected fieldPython deskEvent (deskTelemetry count documents) =
      suricataSignals (alerts fieldPython (deskTelemetry count documents) "suricata.eve"
        (fun document => sameAddress document.sourceIp "203.0.113.7") (deskTime - fiveMinutes)
        (deskTime + seconds 300 + fiveMinutes)) ++ [deskLogins count] := by
  have other : ∀ dataset about, dataset ≠ "suricata.eve" → alerts fieldPython (deskTelemetry count documents) dataset
      about (deskTime - fiveMinutes) (deskTime + seconds 300 + fiveMinutes) = [] := by
    intro dataset about different
    have none : (deskTelemetry count documents).alerts.filter (fun document =>
        (decide (document.dataset = dataset) && about document) && inRange fieldPython (deskTime - fiveMinutes)
          (deskTime + seconds 300 + fiveMinutes) document.timestamp) = [] := by
      rw [List.filter_eq_nil_iff]
      intro document member
      simp [quiet document member, different.symm]
    rw [alerts, search, none]
    rfl
  have target : DecisionRunner.target deskEvent = .some (.ip, "203.0.113.7") := by decide
  have logins := deskFailures_found fits documents
  rw [DecisionRunner.selected, target]
  simp only [signals, deskEvent]
  rw [logins, deskFailures_collapse some, other "cowrie.honeypot" _ (by decide), other "wazuh.alerts" _ (by decide)]
  simp [honeypotSignals, wazuhSignals, threatSignals, deskRunner]

example : (deskRunner.selected fieldPython deskEvent (deskTelemetry 2 [])).map (·.count) = [some 2] := by decide +kernel

/-- The target of the example is read from its event. -/
theorem desk_target : targetField deskEvent = targetJson .ip "203.0.113.7" ∧
    validateTarget fieldPython (targetJson .ip "203.0.113.7") = .ok deskTarget := by
  constructor
  · have target : DecisionRunner.target deskEvent = .some (.ip, "203.0.113.7") := by decide
    rw [targetField, target]
  · decide +kernel

/-- A count is read when a float can hold it. -/
theorem wholeField_nat {fields : List (String × Json)} {label name : String} {number : Nat}
    (found : fields.lookup name = some (.int number)) (bounded : number < 2 ^ 1024 - 2 ^ 970) :
    wholeField fields label name = .ok (some number) := by
  have value : (Double.finite ((number : Int) : Rat)).value = (number : Rat) := rfl
  unfold wholeField numberField
  rw [found]
  simp only [Check.bind_ok, Check.guard_ok, Check.pure_ok]
  refine ⟨some (.finite (number : Int)), ⟨.finite (number : Int), ?_, (), ?_, rfl⟩, ?_⟩
  · rw [finiteNumber, if_pos]
    rw [Int.natAbs_natCast]
    exact bounded
  · rw [value]
    exact Rat.natCast_nonneg
  · simp only [value, Check.bind_ok, Check.guard_ok, Check.pure_ok]
    exact ⟨(), Rat.den_natCast number, by simp⟩

/-- The reference of the logins starts with a letter. -/
theorem deskLogins_head (count : Nat) : (strip (deskLogins count).reference).toList.head? = some 'a' := by
  have spelled : (deskLogins count).reference = String.ofList ('a' :: ("uth-failures:".toList ++ (digest fieldPython
      ((List.range count).map fun number => textOf (deskFailure number).eventId)).toList)) := by
    apply String.toList_injective
    simp [deskLogins]
  rw [spelled]
  exact strip_head (by decide) _

/-- The signal of the failed logins is valid. -/
theorem deskLogins_admitted {count : Nat} (few : count ≤ 500) : Admits fieldPython
    ((deskLogins count).toJson (targetField deskEvent))
    ⟨.authentication, strip (deskLogins count).reference, rfc3339 (deskTime + seconds 240), deskTarget, none, some count,
      none⟩ := by
  have visible : strip (deskLogins count).reference ≠ "" := by
    intro empty
    have head := deskLogins_head count
    rw [empty] at head
    cases head
  have bounded : count < 2 ^ 1024 - 2 ^ 970 := by
    have large : 500 < 2 ^ 1024 - 2 ^ 970 := by decide +kernel
    omega
  have known : SignalType.ofText "authentication" = some .authentication := by decide
  have timed : fieldPython.fromIsoformat "2026-01-01T00:04:00Z" = some (.aware (deskTime + seconds 240)) := by
    decide +kernel
  unfold Admits validateSignal RawSignal.toJson
  simp only [Check.bind_ok, Check.guard_ok, Check.pure_ok, rejectUnknown]
  refine ⟨(), ?_, .authentication, ?_, strip (deskLogins count).reference, ?_, rfc3339 (deskTime + seconds 240), ?_, (),
    by simp, deskTarget, ?_, none, ?_, some count, ?_, none, ?_, rfl⟩
  · simp only [unknownFields, optionalField, deskLogins, Option.toList_none, Option.toList_some, List.cons_append,
      List.nil_append, List.map_cons, List.map_nil]
    decide
  · simp [signalType, Json.get, deskLogins, SignalType.text, known]
  · simp [signalReference, Json.get, List.lookup_cons, visible]
  · simp [observationTime, parseRfc3339, Json.get, List.lookup_cons, deskLogins, timed]
  · rw [desk_target.1]
    simpa [Json.get, List.lookup_cons] using desk_target.2
  · simp [wholeField, numberField, List.lookup_cons, optionalField, deskLogins]
    rfl
  · refine wholeField_nat ?_ bounded
    simp [List.lookup_cons, optionalField, deskLogins]
  · simp [confidenceField, numberField, List.lookup_cons, optionalField, deskLogins]
    rfl

/-- The anomaly of the desk founds a request. -/
theorem desk_founded : ∃ policy anomaly, Founded fieldPython deskRunner deskEvent (deskTime + seconds 720) .ip
    "203.0.113.7" "COR-001" policy anomaly deskTarget ∧ ⟨.authentication, none, some 20⟩ ∈ policy.requireAny := by
  have policies : (deskCatalog.policies.find? "COR-001").any (fun policy => decide (policy.minAiScore ≤ 1) &&
      decide (⟨.authentication, none, some 20⟩ ∈ policy.requireAny) &&
      (assertTargetAllowed fieldPython deskCatalog.protections policy.action deskTarget).toOption.isSome) = true := by
    decide +kernel
  have read : (validateAnomaly fieldPython (anomalyJson deskEvent (targetJson .ip "203.0.113.7"))).toOption.any
      (fun anomaly => decide (anomaly.target = deskTarget) && anomaly.isAnomaly && decide (anomaly.score.value = 1) &&
        decide (anomaly.observedAt = rfc3339 (deskTime + seconds 300))) = true := by
    decide +kernel
  obtain ⟨policy, active, passes⟩ := (Option.any_eq_true _ _).mp policies
  obtain ⟨anomaly, given, checked⟩ := (Option.any_eq_true _ _).mp read
  simp only [Bool.and_eq_true, decide_eq_true_eq] at passes checked
  obtain ⟨⟨⟨aimed, flagged⟩, score⟩, time⟩ := checked
  refine ⟨policy, anomaly, ?_, passes.1.2⟩
  exact {
    aimed := by decide
    chosen := by decide
    active
    read := Check.ok_of_toOption given
    normal := desk_target.2
    sameTarget := aimed
    fresh := by
      rw [time]
      exact ⟨by decide +kernel, by decide +kernel⟩
    flagged
    scored := by rw [score]; exact passes.1.1
    permitted := Check.ok_get passes.2 }

/-- Twenty failed logins or more lead to a request. -/
theorem desk_requests {count : Nat} (enough : 20 ≤ count) (few : count ≤ 500) :
    deskRunner.Requests fieldPython deskEvent (deskTelemetry count []) (deskTime + seconds 720) := by
  have signs : ∀ body, ∃ signature, deskRunner.engine.sign body = .ok signature := fun _ => ⟨_, rfl⟩
  obtain ⟨policy, anomaly, founded, asked⟩ := desk_founded
  refine (requests_iff signs).mpr ⟨⟨_, _, _, policy, anomaly, _, founded⟩, ?_⟩
  rw [desk_selected (by omega) few [] (by simp)]
  have timely : deskRunner.Timely (deskTime + seconds 720) (rfc3339 (deskTime + seconds 240)) :=
    ⟨by decide +kernel, by decide +kernel⟩
  refine (founded.supported_iff (.cons (deskLogins_admitted few) .nil)).mpr ⟨?_, ?_, ?_⟩
  · intro signal member
    cases List.mem_singleton.mp member
    refine ⟨timely, fun same => ?_⟩
    have head := deskLogins_head count
    dsimp only at same
    rw [same, founded.eventId] at head
    cases head
  · simp
  · exact ⟨_, List.mem_singleton_self _, _, asked, by simp [SignalRequirement.matches, meets, enough]⟩

/-- One more failed login leaves the selection undisturbed. -/
theorem more_logins_undisturbed : Undisturbed fieldPython deskRunner deskEvent (deskTelemetry 20 []) (deskTelemetry 21 [])
    (deskTime + seconds 720) :=
  (still_eligible_iff (fun _ => ⟨_, rfl⟩) (desk_requests (le_refl 20) (by decide))).mp
    (desk_requests (by decide) (by decide))

/-- An old alert of low severity stops the request. -/
theorem old_alert_stops_request : ¬ GrowthKeepsRequests fieldPython deskRunner := by
  intro monotone
  have signs : ∀ body, ∃ signature, deskRunner.engine.sign body = .ok signature := fun _ => ⟨_, rfl⟩
  have grown : Grown fieldPython deskEvent (deskTelemetry 20 []) (deskTelemetry 20 [deskAlert]) := {
    alerts := by
      refine ⟨[deskAlert], rfl, fun alert member => ?_⟩
      cases List.mem_singleton.mp member
      exact ⟨⟨Or.inr (by decide +kernel), by decide +kernel⟩, ⟨_, rfl, by decide +kernel⟩, by decide, by decide⟩
    auth := ⟨[], by simp [deskTelemetry], by simp⟩
    endpoint := ⟨[], by simp [deskTelemetry], by simp⟩
    network := ⟨[], by simp [deskTelemetry], by simp⟩ }
  have still := monotone deskEvent (deskTime + seconds 720) _ _ (desk_requests (le_refl 20) (by decide)) grown
  have found : alerts fieldPython (deskTelemetry 20 [deskAlert]) "suricata.eve"
      (fun document => sameAddress document.sourceIp "203.0.113.7") (deskTime - fiveMinutes)
      (deskTime + seconds 300 + fiveMinutes) = [deskAlert] := by
    refine search_all ?_ (List.pairwise_singleton _ _) (by simp [deskTelemetry])
    intro document member
    cases List.mem_singleton.mp member
    decide +kernel
  have ranked : suricataSignals [deskAlert] = [⟨.suricata, "alert-1", "2025-12-31T23:56:00Z", some 1, none⟩] := rfl
  obtain ⟨-, supported⟩ := (requests_iff signs).mp still
  rw [desk_selected (by decide) (by decide) [deskAlert] (by simp [deskAlert]), found, ranked] at supported
  obtain ⟨read, admits, timely⟩ := (supported.tolerable _ (List.mem_append_left _ List.mem_cons_self)).valid
  have seen := (validateSignal_ok admits).1.observedAt
  have early : observed fieldPython (RawSignal.toJson (targetField deskEvent)
      ⟨.suricata, "alert-1", "2025-12-31T23:56:00Z", some 1, none⟩) = some (rfc3339 (deskTime - seconds 240)) := by
    decide +kernel
  rw [← Option.some.inj (early.symm.trans seen)] at timely
  exact absurd timely.1 (by decide +kernel)

end Desk

end ClosedLoop.Response
