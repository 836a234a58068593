import ClosedLoop.Construction.Response.Decision
import ClosedLoop.Construction.Workers.Enrichment

namespace ClosedLoop.Response

open ClosedLoop.Library
open ClosedLoop.Workers (AnomalyEvent DeliveryError Fault Stored SortTuple sortTuple fiveMinutes finite?)

section Telemetry

/-- A document of `soc-alerts-*`. -/
structure AlertDocument where
  timestamp : String
  dataset : String
  eventId : Option String
  eventSeverity : Option Int
  alertSeverity : Option Int
  hostName : Option String
  sourceIp : Option String

/-- A document of `soc-auth-*` or of `soc-endpoint-*`. -/
structure AuthDocument where
  timestamp : String
  eventId : Option String
  category : List String
  outcome : Option String
  hostName : Option String
  sourceIp : Option String

/-- A document of `soc-network-*`. -/
structure FlowDocument where
  timestamp : String
  sourceIp : Option String
  destinationIp : Option String

/-- The telemetry that the runner reads. No two of its searches read the same documents, so that what is appended
between the searches of one call is as if it had been there before all of them. -/
structure Telemetry where
  alerts : List AlertDocument := []
  auth : List AuthDocument := []
  endpoint : List AuthDocument := []
  network : List FlowDocument := []

/-- The time of a document as its index holds it. -/
def instant (python : Python) (timestamp : String) : Option Int :=
  match python.fromIsoformat timestamp with
  | some (.aware time) => some time
  | _ => none

/-- `{"range": {"@timestamp": {"gte": start, "lt": end}}}`. -/
def inRange (python : Python) (start stop : Int) (timestamp : String) : Bool :=
  (instant python timestamp).any fun time => start ≤ time ∧ time < stop

/-- A term query on a field of addresses compares addresses and not spellings. -/
def sameAddress (value : Option String) (address : String) : Bool :=
  match value.bind IPAddress.canonical, IPAddress.canonical address with
  | some first, some second => first = second
  | _, _ => false

/-- A search sorts by time, in milliseconds, and gives the first documents. -/
def search {α : Type} (python : Python) (documents : List α) (wanted : α → Bool) (timestamp : α → String)
    (start stop : Int) (size : Nat) : List α :=
  ((documents.filter fun document => wanted document && inRange python start stop (timestamp document)).insertionSort
    fun first second => ((instant python (timestamp first)).getD 0) / 1000 ≤
      ((instant python (timestamp second)).getD 0) / 1000).take size

end Telemetry

section Signals

/-- What the runner is configured with. -/
structure DecisionRunner where
  engine : DecisionEngine
  enforce : Bool
  minScore : Rat
  protectedAssets : List String
  threatIntel : List String
  policyByTarget : Table String String

/-- A signal before the engine has validated it. -/
structure RawSignal where
  kind : SignalType
  reference : String
  observed : String
  severity : Option Int := none
  count : Option Nat := none

/-- The object of a signal about a target. -/
def RawSignal.toJson (target : Json) (signal : RawSignal) : Json :=
  .obj ([("type", .str signal.kind.text), ("reference", .str signal.reference),
      ("observed_at", .str signal.observed), ("target", target)] ++
    optionalField "severity" .int signal.severity ++
    optionalField "count" (fun number : Nat => .int number) signal.count)

/-- `_alert_severity` turns the severities of Suricata around, of which one is the highest. -/
def alertSeverity (severity : Int) : Int := max 0 (4 - severity)

/-- `_digest` -/
def digest (python : Python) (parts : List String) : String :=
  truncate 24 (python.sha256Hex (String.intercalate "\n" (parts.insertionSort (· ≤ ·))))

/-- `str` of an identifier that may be missing. -/
def textOf (value : Option String) : String := value.getD "None"

/-- `max` of the texts of a list that is not empty. -/
def latest (timestamps : List String) : String := timestamps.foldl max ""

variable (python : Python) (runner : DecisionRunner)

/-- `_alerts` -/
def alerts (telemetry : Telemetry) (dataset : String) (about : AlertDocument → Bool) (start stop : Int) :
    List AlertDocument :=
  search python telemetry.alerts (fun document => document.dataset = dataset && about document)
    AlertDocument.timestamp start stop 50

/-- The three worst alerts of Suricata. -/
def suricataSignals (hits : List AlertDocument) : List RawSignal :=
  let ranked := (hits.filter fun alert => alert.alertSeverity.isSome).insertionSort
    fun first second => first.alertSeverity.getD 0 ≤ second.alertSeverity.getD 0
  (ranked.take 3).map fun alert =>
    { kind := .suricata, reference := textOf alert.eventId, observed := alert.timestamp
      severity := alert.alertSeverity.map alertSeverity }

/-- All interactions with the honeypot collapse into one signal. -/
def honeypotSignals (hits : List AlertDocument) : List RawSignal :=
  if hits = [] then [] else
    [{ kind := .honeypot, reference := "honeypot:" ++ digest python (hits.map fun hit => textOf hit.eventId)
       observed := latest (hits.map AlertDocument.timestamp)
       severity := (hits.map fun hit => hit.eventSeverity.getD 0).max?
       count := some hits.length }]

/-- The three worst alerts of Wazuh. One without a severity takes a place and gives no signal. -/
def wazuhSignals (hits : List AlertDocument) : List RawSignal :=
  let ranked := hits.insertionSort
    fun first second => second.eventSeverity.getD 0 ≤ first.eventSeverity.getD 0
  ((ranked.take 3).filter fun alert => alert.eventSeverity.isSome).map fun alert =>
    { kind := .wazuh, reference := textOf alert.eventId, observed := alert.timestamp
      severity := alert.eventSeverity }

/-- All authentication failures collapse into one signal. -/
def authenticationSignals (hits : List AuthDocument) : List RawSignal :=
  if hits = [] then [] else
    [{ kind := .authentication, reference := "auth-failures:" ++ digest python (hits.map fun hit => textOf hit.eventId)
       observed := latest (hits.map AuthDocument.timestamp), count := some hits.length }]

/-- The digest of the threat intelligence. -/
def DecisionRunner.intelHash : String :=
  if runner.threatIntel = [] then "" else digest python runner.threatIntel

def threatSignals (entity : String) (windowEnd : Int) : List RawSignal :=
  if entity ∈ runner.threatIntel then
    [{ kind := .threatIntel, reference := "intel:" ++ truncate 12 (runner.intelHash python) ++ ":" ++ entity
       observed := Workers.rfc3339 windowEnd }]
  else []

/-- The first flow to a protected asset names it. -/
def assetSignals (hits : List FlowDocument) (windowEnd : Int) : List RawSignal :=
  match hits with
  | [] => []
  | flow :: _ =>
      [{ kind := .protectedAsset
         reference := "asset:" ++ textOf flow.destinationIp ++ ":" ++ Workers.rfc3339 windowEnd
         observed := Workers.rfc3339 windowEnd }]

/-- The authentication failures of an address or of a host. -/
def failures (telemetry : Telemetry) (type : TargetType) (entity : String) (start stop : Int) : List AuthDocument :=
  match type with
  | .ip => search python telemetry.auth
      (fun hit => sameAddress hit.sourceIp entity && decide (hit.outcome = some "failure"))
      AuthDocument.timestamp start stop 500
  | .host => search python telemetry.endpoint
      (fun hit => decide (hit.hostName = some entity) && decide ("authentication" ∈ hit.category) &&
        decide (hit.outcome = some "failure"))
      AuthDocument.timestamp start stop 500

/-- The flows of an address to the protected assets inside of the window. -/
def assetFlows (telemetry : Telemetry) (entity : String) (windowStart windowEnd : Int) : List FlowDocument :=
  search python telemetry.network
    (fun flow => sameAddress flow.sourceIp entity && runner.protectedAssets.any (sameAddress flow.destinationIp))
    FlowDocument.timestamp windowStart windowEnd 50

/-- `_signals` gathers the evidence about a target in the window and five minutes around it. -/
def signals (telemetry : Telemetry) (type : TargetType) (entity : String) (windowStart windowEnd : Int) :
    List RawSignal :=
  let start := windowStart - fiveMinutes
  let stop := windowEnd + fiveMinutes
  let byAddress := fun document : AlertDocument => sameAddress document.sourceIp entity
  let byHost := fun document : AlertDocument => decide (document.hostName = some entity)
  (match type with
    | .ip =>
        suricataSignals (alerts python telemetry "suricata.eve" byAddress start stop) ++
        honeypotSignals python (alerts python telemetry "cowrie.honeypot" byAddress start stop) ++
        wazuhSignals (alerts python telemetry "wazuh.alerts" byAddress start stop)
    | .host => wazuhSignals (alerts python telemetry "wazuh.alerts" byHost start stop)) ++
  authenticationSignals python (failures python telemetry type entity start stop) ++
  threatSignals python runner entity windowEnd ++
  (match type with
    | .ip =>
        if runner.protectedAssets = [] then []
        else assetSignals (assetFlows python runner telemetry entity windowStart windowEnd) windowEnd
    | .host => [])

end Signals

section Handle

/-- The outcomes in the table `decisions`. -/
inductive Recorded where
  | unsupportedEntity
  | noPolicy
  | evidenceError
  | rejected
  | anomalyOnly
  | responseRequested
  | decided (outcome : DecisionOutcome)
  | deliveryFailed
  deriving DecidableEq, Repr

structure DecisionRow where
  outcome : Recorded
  decisionEventId : Option String := none
  detail : String := ""
  deriving DecidableEq

/-- The durable state of the runner, the documents in `soc-response-*`, and the commands that were passed to
`send_command` with the anomalies that they are for. -/
structure DecisionState where
  cursor : Option SortTuple := none
  decisions : Table String DecisionRow := []
  responses : List (Stored DecisionEvent) := []
  commands : List (String × Json) := []

/-- `record` -/
def DecisionState.record (state : DecisionState) (anomalyId : String) (row : DecisionRow) : DecisionState :=
  { state with decisions := state.decisions.upsert anomalyId { row with detail := truncate 500 row.detail } }

/-- What the environment answers during one call of `handle`. -/
structure Answers where
  telemetry : Telemetry
  evidenceFault : Option DeliveryError := none
  now : Int
  writeFault : Option Fault := none
  sendFault : Option Fault := none

/-- `_target` -/
def DecisionRunner.target (document : AnomalyEvent) : Option (TargetType × String) :=
  let kind := if document.entityType = "src_ip" then some TargetType.ip
    else if document.entityType = "host" then some TargetType.host else none
  if document.entity = "" then none else kind.map fun type => (type, document.entity)

def targetJson (type : TargetType) (entity : String) : Json := .obj [("type", .str type.text), ("value", .str entity)]

/-- The anomaly of a document as the engine reads it. -/
def anomalyJson (document : AnomalyEvent) (target : Json) : Json :=
  .obj [("event_id", .str document.eventId), ("model_id", .str document.modelId), ("score", document.score),
    ("threshold", document.threshold), ("is_anomaly", .bool document.isAnomaly),
    ("observed_at", .str (Workers.rfc3339 document.windowEnd)), ("target", target)]

/-- `_observe_event` -/
def observeEvent (event : DecisionEvent) : DecisionEvent :=
  { event with
    outcome := .alert, action := none, responseRequestId := none
    reason := "observe mode: eligible for automatic response, which is disabled" }

variable (python : Python) (runner : DecisionRunner)

/-- The evidence of an anomaly and the verdict on it. -/
def DecisionRunner.decide (document : AnomalyEvent) (type : TargetType) (entity policyId : String)
    (telemetry : Telemetry) (now : Int) : Except PyError DecisionResult :=
  let target := targetJson type entity
  let gathered := signals python runner telemetry type entity document.windowStart document.windowEnd
  evaluate python runner.engine policyId (anomalyJson document target) (.arr (gathered.map (RawSignal.toJson target)))
    target (.aware now) .null

/-- `_write_decision` -/
def writeDecision (state : DecisionState) (event : DecisionEvent) (fault : Option Fault) :
    Workers.Reply × DecisionState :=
  let written := Workers.create state.responses ("soc-response-" ++ Workers.day event.timestamp.parse) event.eventId
    event fault
  (written.1, { state with responses := written.2 })

/-- `send_command` may fail before or after the command has reached the orchestrator. -/
def sendCommand (state : DecisionState) (anomalyId : String) (command : Option Json) : DecisionState :=
  { state with commands := state.commands ++ command.toList.map fun found => (anomalyId, found) }

/-- A call of `handle` is done, is tried again later, or raises. -/
inductive Handled where
  | done
  | retry
  | raises
  deriving DecidableEq, Repr

/-- A failed delivery is tried again or recorded. -/
def deliveryFailed (state : DecisionState) (anomalyId : String) (error : DeliveryError) : Handled × DecisionState :=
  if error.retryable then (.retry, state)
  else (.done, state.record anomalyId { outcome := .deliveryFailed, detail := error.code })

/-- The last part of `handle` writes the decision and, in enforce mode, sends the command. -/
def conclude (state : DecisionState) (anomalyId : String) (result : DecisionResult) (event : DecisionEvent)
    (answers : Answers) : Handled × DecisionState :=
  if result.eligible && runner.enforce then
    match writeDecision state event answers.writeFault with
    | (.failed error, state) => deliveryFailed state anomalyId error
    | (.refused, state) => (.raises, state)
    | (_, state) =>
        let state := sendCommand state anomalyId result.command
        match answers.sendFault with
        | some fault => deliveryFailed state anomalyId fault.error
        | none => (.done, state.record anomalyId {
            outcome := .responseRequested, decisionEventId := some event.eventId })
  else
    let event := if result.eligible then observeEvent event else event
    match writeDecision state event answers.writeFault with
    | (.failed error, state) => deliveryFailed state anomalyId error
    | (.refused, state) => (.raises, state)
    | (_, state) => (.done, state.record anomalyId {
        outcome := .decided event.outcome, decisionEventId := some event.eventId, detail := result.reason })

/-- `handle` processes one anomaly document. -/
def handle (state : DecisionState) (document : AnomalyEvent) (answers : Answers) : Handled × DecisionState :=
  match DecisionRunner.target document with
  | none => (.done, state.record document.eventId { outcome := .unsupportedEntity })
  | some (type, entity) =>
      match runner.policyByTarget.find? type.text with
      | none => (.done, state.record document.eventId { outcome := .noPolicy })
      | some policyId =>
          match answers.evidenceFault with
          | some error =>
              if error.retryable then (.retry, state)
              else (.done, state.record document.eventId { outcome := .evidenceError, detail := error.code })
          | none =>
              match runner.decide python document type entity policyId answers.telemetry answers.now with
              | .error (.correlationRejected message) =>
                  (.done, state.record document.eventId { outcome := .rejected, detail := message })
              | .error (.policyError message) =>
                  (.done, state.record document.eventId { outcome := .rejected, detail := message })
              | .error _ => (.raises, state)
              | .ok result =>
                  match result.decisionEvent with
                  | none => (.done, state.record document.eventId { outcome := .anomalyOnly, detail := result.reason })
                  | some event => conclude runner state document.eventId result event answers

end Handle

section RunOnce

variable (python : Python) (runner : DecisionRunner)

/-- The place of an anomaly in the order of the runner. -/
def place (document : Stored AnomalyEvent) : SortTuple := sortTuple document.source.timestamp document.source.eventId

/-- The anomalies that the runner asks for. -/
def DecisionRunner.wanted (document : Stored AnomalyEvent) : Bool :=
  document.source.isAnomaly && (finite? document.source.score).any fun score => runner.minScore ≤ score

/-- The loop of `run_once` stops at the first anomaly that has to be tried again. -/
def handleHits : DecisionState → List (Stored AnomalyEvent) → List Answers → Handled × DecisionState
  | state, hit :: rest, answers :: others =>
      match handle python runner state hit.source answers with
      | (.done, state) => handleHits { state with cursor := some (place hit) } rest others
      | ended => ended
  | state, [], _ => (.done, state)
  | state, _ :: _, [] => (.raises, state)

/-- `run_once` searches once and handles the hits in their order. Without an answer the process dies. -/
def runOnce (state : DecisionState) (documents : List (Stored AnomalyEvent)) (limit : Nat) (answers : List Answers) :
    Handled × DecisionState :=
  handleHits python runner state (Cursor.page place runner.wanted documents state.cursor limit) answers

end RunOnce

end ClosedLoop.Response
