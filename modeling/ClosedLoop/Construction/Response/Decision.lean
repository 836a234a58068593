import ClosedLoop.Construction.Response.Catalog
import ClosedLoop.Construction.Response.Command

namespace ClosedLoop.Response

open ClosedLoop.Library

section Evidence

/-- A validated anomaly. -/
structure Anomaly where
  eventId : String
  modelId : String
  score : Double
  threshold : Double
  isAnomaly : Bool
  observedAt : Rfc3339
  target : Target
  deriving DecidableEq

/-- A validated corroborating signal. -/
structure Signal where
  type : SignalType
  reference : String
  observedAt : Rfc3339
  target : Target
  severity : Option Nat
  count : Option Nat
  confidence : Option Double
  deriving DecidableEq

/-- `_finite_number` keeps an integer and a finite float as the number that it is. An integer that no float can
hold is not finite. -/
def finiteNumber (value : Json) (label : String) : Except PyError Double :=
  let refused : PyError := .correlationRejected (label ++ " must be a finite number")
  match value with
  | .int number => if number.natAbs < 2 ^ 1024 - 2 ^ 970 then .ok (.finite number) else .error refused
  | .float number => if number.number?.isSome then .ok number else .error refused
  | _ => .error refused

def nonEmptyText (value : Json) (label : String) : Except PyError String :=
  match value with
  | .str text => if text = "" then .error (.correlationRejected (label ++ " is required")) else .ok text
  | _ => .error (.correlationRejected (label ++ " is required"))

/-- A score lies between zero and one. -/
def unitNumber (value : Json) (label : String) : Except PyError Double := do
  let number ← finiteNumber value label
  Check.guard (0 ≤ number.value ∧ number.value ≤ 1) (.correlationRejected (label ++ " must be between 0 and 1"))
  return number

def booleanFlag (value : Json) (label : String) : Except PyError Bool :=
  match value with
  | .bool flag => .ok flag
  | _ => .error (.correlationRejected (label ++ " must be boolean"))

variable (python : Python)

/-- The time of an observation in whole milliseconds. -/
def observationTime (value : Json) (label : String) : Except PyError Rfc3339 := do
  return rfc3339 (← parseRfc3339 python .correlationRejected label "is not a valid timestamp" value)

/-- `_validate_target` normalizes an address to its canonical spelling and a host to lower case. -/
def validateTarget (value : Json) : Except PyError Target :=
  let unsupported : PyError := .correlationRejected "target must contain a supported type and non-empty value"
  match value with
  | .obj fields =>
      if !Json.hasExactly fields ["type", "value"] then
        .error (.correlationRejected "target must contain only type and value")
      else match Json.get fields "type", Json.get fields "value" with
        | .str type, .str text =>
            if type ∉ ["ip", "host"] ∨ strip text = "" ∨ 255 < (strip text).toList.length then .error unsupported
            else if type = "ip" then
              match IPAddress.canonical (strip text) with
              | some spelling => .ok ⟨.ip, spelling⟩
              | none => .error (.correlationRejected "IP target must be a valid IPv4 or IPv6 address")
            else .ok ⟨.host, python.lower (strip text)⟩
        | _, _ => .error unsupported
  | _ => .error (.correlationRejected "target must be an object")

/-- `_validate_anomaly` -/
def validateAnomaly (value : Json) : Except PyError Anomaly :=
  match value with
  | .obj fields => do
      let eventId ← nonEmptyText (Json.get fields "event_id") "anomaly.event_id"
      let modelId ← nonEmptyText (Json.get fields "model_id") "anomaly.model_id"
      let score ← unitNumber (Json.get fields "score") "anomaly.score"
      let threshold ← unitNumber (Json.get fields "threshold") "anomaly.threshold"
      let isAnomaly ← booleanFlag (Json.get fields "is_anomaly") "anomaly.is_anomaly"
      Check.guard (isAnomaly = decide (threshold.value ≤ score.value))
        (.correlationRejected "anomaly flag disagrees with score and model threshold")
      let observedAt ← observationTime python (Json.get fields "observed_at") "anomaly.observed_at"
      let target ← validateTarget python (Json.get fields "target")
      return { eventId, modelId, score, threshold, isAnomaly, observedAt, target }
  | _ => .error (.correlationRejected "anomaly must be an object")

/-- A number that may be missing is not negative. -/
def numberField (fields : List (String × Json)) (label name : String) : Except PyError (Option Double) :=
  match fields.lookup name with
  | none => .ok none
  | some value => do
      let number ← finiteNumber value (label ++ "." ++ name)
      Check.guard (0 ≤ number.value) (.correlationRejected (label ++ "." ++ name ++ " cannot be negative"))
      return some number

/-- A severity and a count are whole numbers in either spelling. -/
def wholeField (fields : List (String × Json)) (label name : String) : Except PyError (Option Nat) := do
  match ← numberField fields label name with
  | none => return none
  | some number =>
      Check.guard (number.value.den = 1) (.correlationRejected (label ++ "." ++ name ++ " must be an integer"))
      return some number.value.num.toNat

def confidenceField (fields : List (String × Json)) (label : String) : Except PyError (Option Double) := do
  match ← numberField fields label "confidence" with
  | none => return none
  | some number =>
      Check.guard (number.value ≤ 1) (.correlationRejected (label ++ ".confidence cannot exceed 1"))
      return some number

def signalType (value : Json) (label : String) : Except PyError SignalType :=
  match value with
  | .str text =>
      if text = "ai" then .error (.correlationRejected "AI output cannot corroborate itself")
      else match SignalType.ofText text with
        | some type => .ok type
        | none => .error (.correlationRejected (label ++ " has an unsupported type"))
  | _ => .error (.correlationRejected (label ++ " has an unsupported type"))

def signalReference (value : Json) (label : String) : Except PyError String :=
  match value with
  | .str text =>
      if strip text = "" then .error (.correlationRejected (label ++ ".reference is required")) else .ok (strip text)
  | _ => .error (.correlationRejected (label ++ ".reference is required"))

def signalFields : List String := ["type", "reference", "severity", "count", "observed_at", "confidence", "target"]

/-- One turn of the loop of `_validate_independent_signals`. -/
def validateSignal (value : Json) (index : Nat) (seen : List String) : Except PyError Signal :=
  let label := s!"independent_signals[{index}]"
  match value with
  | .obj fields => do
      rejectUnknown python fields signalFields label .correlationRejected
      let type ← signalType (Json.get fields "type") label
      let reference ← signalReference (Json.get fields "reference") label
      let observedAt ← observationTime python (Json.get fields "observed_at") (label ++ ".observed_at")
      Check.guard (reference ∉ seen) (.correlationRejected "duplicate corroborating signal")
      let target ← validateTarget python (Json.get fields "target")
      let severity ← wholeField fields label "severity"
      let count ← wholeField fields label "count"
      let confidence ← confidenceField fields label
      return { type, reference, observedAt, target, severity, count, confidence }
  | _ => .error (.correlationRejected (label ++ " must be an object"))

/-- The loop of `_validate_independent_signals` remembers the references that it has seen. -/
def validateSignals : List Json → Nat → List String → Except PyError (List Signal)
  | [], _, _ => .ok []
  | value :: rest, index, seen => do
      let signal ← validateSignal python value index seen
      let others ← validateSignals rest (index + 1) (signal.reference :: seen)
      return signal :: others

/-- Signals are ordered by their types and then by their references. -/
def Signal.before (first second : Signal) : Prop :=
  first.type.text < second.type.text ∨ (first.type.text = second.type.text ∧ first.reference ≤ second.reference)

instance : DecidableRel Signal.before := fun _ _ => inferInstanceAs (Decidable (_ ∨ _))

/-- `_validate_independent_signals` -/
def validateIndependentSignals (value : Json) : Except PyError (List Signal) :=
  match value with
  | .arr items => do return (← validateSignals python items 0 []).insertionSort Signal.before
  | _ => .error (.correlationRejected "independent_signals must be a list")

end Evidence

section Materials

def Target.toJson (target : Target) : Json := .obj [("type", .str target.type.text), ("value", .str target.value)]

/-- A field that may be missing. -/
def optionalField {α : Type} (name : String) (render : α → Json) (value : Option α) : List (String × Json) :=
  value.toList.map fun found => (name, render found)

/-- The normalized form in which a signal is hashed. -/
def Signal.toJson (signal : Signal) : Json :=
  .obj ([("type", .str signal.type.text), ("reference", .str signal.reference),
      ("observed_at", .str signal.observedAt.text), ("target", signal.target.toJson)] ++
    optionalField "severity" (fun number : Nat => .int number) signal.severity ++
    optionalField "count" (fun number : Nat => .int number) signal.count ++
    optionalField "confidence" .float signal.confidence)

/-- What identifies a decision: the policy and the normalized evidence. -/
def decisionMaterial (policy : ResponsePolicy) (anomaly : Anomaly) (target : Target) (signals : List Signal) : Json :=
  .obj [("policy_id", .str policy.id), ("policy_sha256", .str policy.sha256),
    ("anomaly_event_id", .str anomaly.eventId), ("target", target.toJson),
    ("signals", .arr (signals.map Signal.toJson))]

/-- What identifies a containment. The correlation is a tracing label and no part of it. -/
def requestMaterial (decisionEventId : String) (policy : ResponsePolicy) (anomaly : Anomaly) (target : Target)
    (signals : List Signal) : Json :=
  .obj [("decision_event_id", .str decisionEventId), ("policy_sha256", .str policy.sha256),
    ("target", target.toJson), ("anomaly_event_id", .str anomaly.eventId),
    ("signals", .arr (signals.map Signal.toJson))]

/-- `_identifier` -/
def identifierOf (python : Python) (kind : String) (material : Json) : String :=
  kind ++ "-" ++ truncate 24 (sha256Hex python material)

end Materials

section Decisions

/-- A bound is met by a value that is present and not below it. -/
def meets : Option Nat → Option Nat → Bool
  | none, _ => true
  | some _, none => false
  | some bound, some value => bound ≤ value

/-- `SignalRequirement.matches` -/
def SignalRequirement.matches (requirement : SignalRequirement) (signal : Signal) : Bool :=
  signal.type = requirement.kind && meets requirement.minSeverity signal.severity &&
    meets requirement.minCount signal.count

/-- The reasons why evidence does not lead to a request. -/
inductive Refusal where
  | stale
  | early
  | notAnomalous
  | lowScore (threshold : Rat)
  | uncorroborated
  | protectedTarget (message : String)
  deriving DecidableEq

/-- `{score:.2f}` of a score that is not above one. -/
def twoPlaces (score : Rat) : String :=
  let cents := (FloatText.roundHalfEven (score * 100)).toNat
  toString (cents / 100) ++ "." ++ String.ofList (Calendar.lastDigits 2 cents)

def Refusal.text : Refusal → String
  | .stale => "evidence is older than the active correlation freshness limit"
  | .early => "evidence timestamp exceeds the allowed future clock skew"
  | .notAnomalous => "AI event is not marked anomalous"
  | .lowScore threshold => "AI score below policy threshold " ++ twoPlaces threshold
  | .uncorroborated => "no independent corroborating signal satisfied the policy"
  | .protectedTarget message => "target protection rejected the response: " ++ message

/-- The first observation that is too old or too far in the future decides. -/
def freshness (oldest latest : Int) (times : List Rfc3339) : Option Refusal :=
  times.findSome? fun time =>
    if time.parse < oldest then some .stale else if latest < time.parse then some .early else none

variable (python : Python)

/-- `_rejection_reason` -/
def rejectionReason (catalog : PolicyCatalog) (policy : ResponsePolicy) (anomaly : Anomaly) (signals : List Signal)
    (target : Target) (now : Int) : Option Refusal :=
  match freshness (now - seconds catalog.evidenceMaxAgeSeconds) (now + seconds 60)
      (anomaly.observedAt :: signals.map (·.observedAt)) with
  | some rejection => some rejection
  | none =>
      if anomaly.isAnomaly = false then some .notAnomalous
      else if anomaly.score.value < policy.minAiScore then some (.lowScore policy.minAiScore)
      else if !policy.requireAny.any (fun requirement => signals.any requirement.matches) then some .uncorroborated
      else match assertTargetAllowed python catalog.protections policy.action target with
        | .error message => some (.protectedTarget message)
        | .ok _ => none

inductive DecisionOutcome where
  | denied
  | alert
  | storeOnly
  | responseRequested
  deriving DecidableEq, Repr

/-- The record of one correlation decision. The constant fields are implicit. -/
structure DecisionEvent where
  timestamp : Rfc3339
  eventId : String
  correlationId : String
  anomaly : Anomaly
  signals : List Signal
  policy : PolicyReference
  target : Target
  outcome : DecisionOutcome
  action : Option Action
  responseRequestId : Option String
  reason : String
  deriving DecidableEq

/-- The request that accompanies a command. The constant fields are implicit. -/
structure ActionRequest where
  correlationId : String
  decisionEventId : String
  policyId : String
  policySha256 : String
  idempotencyKey : String
  entity : Target
  action : Action
  aiScore : Double
  modelId : String
  signals : List (String × String)
  ttlSeconds : Nat
  requestedAt : Rfc3339
  deriving DecidableEq

/-- A policy result that callers can persist as a correlation decision. -/
structure DecisionResult where
  eligible : Bool
  reason : String
  decisionEvent : Option DecisionEvent := none
  actionRequest : Option ActionRequest := none
  command : Option Json := none

/-- The decision engine holds the signing key. -/
structure DecisionEngine where
  catalog : PolicyCatalog
  sign : Json → Except PyError String
  signingKeyId : String
  named : signingKeyId ≠ ""

def decisionTime : Moment → Except PyError Int
  | .naive => .error (.correlationRejected "timestamps must include a timezone")
  | .aware value => .ok value
  | .beyond _ => .error .overflowError

/-- No signal may be about another target or repeat the anomaly itself. -/
def checkSignals (anomaly : Anomaly) (target : Target) : List Signal → Except PyError Unit
  | [] => .ok ()
  | signal :: rest => do
      Check.guard (signal.target = target)
        (.correlationRejected "corroborating signal target differs from the response target")
      Check.guard (signal.reference ≠ anomaly.eventId)
        (.correlationRejected "AI output cannot corroborate itself under another signal type")
      checkSignals anomaly target rest

/-- A given correlation replaces the one that the material determines. -/
def correlationOf (material : Json) (correlationId : Json) : Except PyError String :=
  let refused : PyError := .correlationRejected "correlation_id must be a non-empty string up to 256 characters"
  match correlationId with
  | .null => checked refused (identifierOf python "cor" material)
  | .str text => checked refused text
  | _ => .error refused
where
  checked (refused : PyError) (text : String) : Except PyError String :=
    if strip text = "" ∨ 256 < (strip text).toList.length then .error refused else .ok (strip text)

def PolicyReference.of (policy : ResponsePolicy) : PolicyReference := ⟨policy.id, policy.version, policy.sha256⟩

/-- The fields of a command with a given authorization. -/
def commandBody (requestId decisionEventId correlationId idempotencyKey : String) (policy : ResponsePolicy)
    (target : Target) (authorization : List (String × Json)) : Json :=
  .obj [("schema_version", .str "response-command-v1"), ("request_id", .str requestId),
    ("decision_event_id", .str decisionEventId), ("correlation_id", .str correlationId),
    ("policy", .obj [("id", .str policy.id), ("version", .str policy.version), ("sha256", .str policy.sha256)]),
    ("target", target.toJson), ("action", .str policy.action.text), ("ttl_seconds", .int policy.ttlSeconds),
    ("allowlist_checked", .bool true), ("rollback_required", .bool true),
    ("idempotency_key", .str idempotencyKey), ("authorization", .obj authorization)]

/-- The authorization before it is signed. -/
def authorizationBody (keyId : String) (issuedAt expiresAt : Rfc3339) : List (String × Json) :=
  [("issuer", .str "decision_engine"), ("key_id", .str keyId), ("issued_at", .str issuedAt.text),
    ("expires_at", .str expiresAt.text)]

/-- An eligible decision builds a signed command. -/
def request (engine : DecisionEngine) (policy : ResponsePolicy) (anomaly : Anomaly) (signals : List Signal)
    (target : Target) (decisionEventId correlation : String) (timestamp : Int) : Except PyError DecisionResult := do
  let material := requestMaterial decisionEventId policy anomaly target signals
  let requestId := identifierOf python "req" material
  let idempotencyKey := "idemp-" ++ sha256Hex python material
  let authorization := authorizationBody engine.signingKeyId (rfc3339 timestamp)
    (rfc3339 (timestamp + seconds engine.catalog.commandValidForSeconds))
  let signature ← engine.sign
    (commandBody requestId decisionEventId correlation idempotencyKey policy target authorization)
  return {
    eligible := true, reason := "hybrid policy conditions satisfied"
    decisionEvent := some {
      timestamp := rfc3339 timestamp, eventId := decisionEventId, correlationId := correlation, anomaly, signals
      policy := .of policy, target, outcome := .responseRequested, action := some policy.action
      responseRequestId := some requestId, reason := "hybrid policy conditions satisfied" }
    actionRequest := some {
      correlationId := correlation, decisionEventId, policyId := policy.id, policySha256 := policy.sha256
      idempotencyKey, entity := target, action := policy.action, aiScore := anomaly.score
      modelId := anomaly.modelId
      signals := ("ai", anomaly.eventId) :: signals.map fun signal => (signal.type.text, signal.reference)
      ttlSeconds := policy.ttlSeconds, requestedAt := rfc3339 timestamp }
    command := some (commandBody requestId decisionEventId correlation idempotencyKey policy target
      (authorization ++ [("signature", .str signature)])) }

/-- A rejected decision is recorded without a request. -/
def reject (policy : ResponsePolicy) (anomaly : Anomaly) (signals : List Signal) (target : Target)
    (decisionEventId correlation : String) (timestamp : Int) (rejection : Refusal) : DecisionResult :=
  { eligible := false, reason := rejection.text
    decisionEvent := some {
      timestamp := rfc3339 timestamp, eventId := decisionEventId, correlationId := correlation, anomaly, signals
      policy := .of policy, target, action := none, responseRequestId := none, reason := rejection.text
      outcome := match rejection with
        | .protectedTarget _ => .denied
        | _ => if anomaly.isAnomaly then .alert else .storeOnly } }

/-- `DecisionEngine.evaluate` returns a command only for a high-confidence, hybrid decision. -/
def evaluate (engine : DecisionEngine) (policyId : String) (anomaly independentSignals target : Json) (now : Moment)
    (correlationId : Json) : Except PyError DecisionResult := do
  let policy ← engine.catalog.policy policyId
  let timestamp ← decisionTime now
  let anomalyData ← validateAnomaly python anomaly
  let targetData ← validateTarget python target
  let signalData ← validateIndependentSignals python independentSignals
  Check.guard (anomalyData.target = targetData)
    (.correlationRejected "anomaly target differs from the requested response target")
  checkSignals anomalyData targetData signalData
  if signalData = [] then
    return { eligible := false, reason := "anomaly-only evidence is alert-only and cannot request containment" }
  else do
    let material := decisionMaterial policy anomalyData targetData signalData
    let decisionEventId := identifierOf python "dec" material
    let correlation ← correlationOf python material correlationId
    match rejectionReason python engine.catalog policy anomalyData signalData targetData timestamp with
    | some rejection =>
        return reject policy anomalyData signalData targetData decisionEventId correlation timestamp rejection
    | none => request python engine policy anomalyData signalData targetData decisionEventId correlation timestamp

end Decisions

end ClosedLoop.Response
