import ClosedLoop.Construction.Response.Store
import ClosedLoop.Library.Program

namespace ClosedLoop.Response

open ClosedLoop.Library

/-- A record of the running orchestrator. Its expiry keeps microseconds. -/
structure ResponseRecord where
  responseId : String
  command : Command
  expiresAt : Int
  state : ResponseState
  transitionNumber : Nat
  adapterReference : Option String := none
  authorized : Bool := false
  pendingOperation : Option Operation := none
  operationStartedAt : Option Rfc3339 := none
  deriving DecidableEq, Repr

/-- The form in which a record is committed. -/
def ResponseRecord.asdict (record : ResponseRecord) : Snapshot :=
  { record with expiresAt := rfc3339 record.expiresAt }

/-- The record that a committed form is read back as. -/
def Snapshot.record (snapshot : Snapshot) : ResponseRecord :=
  { snapshot with expiresAt := snapshot.expiresAt.parse }

/-- A constrained adapter as the constructor receives it. -/
structure Adapter where
  action : String
  name : String
  deriving DecidableEq, Repr

/-- One reviewed backend for each action. -/
structure Adapters where
  firewall : String
  endpoint : String
  permitted : firewall ∈ ["opnsense", "nftables", "vyos"] ∧ endpoint ∈ ["wazuh"]
  deriving DecidableEq, Repr

def Adapters.name (adapters : Adapters) : Action → String
  | .blockIp => adapters.firewall
  | .isolateHost => adapters.endpoint

/-- The constructor binds exactly one permitted adapter to each action. -/
def bindAdapters (adapters : List Adapter) : Except PyError Adapters :=
  let byAction : Table String String := adapters.foldl (fun table item => table.upsert item.action item.name) []
  if byAction.length ≠ adapters.length ∨ ¬ ∀ action ∈ byAction.keys, action ∈ ["block_ip", "isolate_host"] then
    .error (.valueError "exactly one constrained adapter is required for block_ip and isolate_host")
  else match byAction.find? "block_ip", byAction.find? "isolate_host" with
    | some firewall, some endpoint =>
        if permitted : firewall ∈ ["opnsense", "nftables", "vyos"] ∧ endpoint ∈ ["wazuh"] then
          .ok ⟨firewall, endpoint, permitted⟩
        else .error (.valueError "response action is bound to an unexpected privileged adapter")
    | _, _ => .error (.valueError "exactly one constrained adapter is required for block_ip and isolate_host")

/-- The orchestrator object in memory. -/
structure Orchestrator where
  catalog : PolicyCatalog
  authenticator : CommandAuthenticator
  adapters : Adapters
  storageFailed : Bool := false
  records : Table String ResponseRecord := []
  dedup : Table String (String × Int) := []

/-- The result of one adapter operation. A reference that is not a string is read as none. -/
structure AdapterOutcome where
  ok : Bool
  adapterReference : Option String := none
  evidenceRefs : List String := []
  code : Option String := none
  message : Option String := none
  deriving DecidableEq, Repr

def AdapterOutcome.failure (code message : String) : AdapterOutcome :=
  { ok := false, code := some code, message := some message }

/-- A reported success with a reference and evidence. -/
def AdapterOutcome.success : AdapterOutcome :=
  { ok := true, adapterReference := some "reference", evidenceRefs := ["evidence"] }

/-- A transaction commits fully or not at all, and its caller may not learn which. Every error of the
transaction is `lost`, a clash of audit identifiers included. -/
inductive CommitFate where
  | durable
  | lost
  | unacknowledged
  | crashBefore
  | crashAfter
  deriving DecidableEq, Repr

/-- What an adapter call can do. An interrupt is an exception outside `Exception`. -/
inductive AdapterReply where
  | answered (outcome : AdapterOutcome)
  | malformed
  | raised
  | interrupted
  | crashed
  deriving DecidableEq, Repr

inductive ReferenceReply where
  | value (reference : Option String)
  | raised
  | crashed
  deriving DecidableEq, Repr

/-- A read of the ledger returns or raises. -/
inductive ReadFate where
  | read
  | failed
  deriving DecidableEq, Repr

inductive DeliveryReply where
  | delivered
  | blocked (code : String)
  | raised
  | crashed
  deriving DecidableEq, Repr

/-- The answers of the environment, in the order in which a call consumes them. -/
structure Tape where
  commits : List CommitFate := []
  replies : List AdapterReply := []
  references : List ReferenceReply := []
  reads : List ReadFate := []
  deliveries : List DeliveryReply := []
  deriving DecidableEq, Repr

/-- The public operations of the orchestrator. -/
inductive PublicCall where
  | submit (command : Json) (now : Moment)
  | restoreRecovery
  | apply (responseId : String) (now : Moment)
  | verify (responseId : String) (now : Moment)
  | expireDue (now : Moment)
  | rollback (responseId : String) (cause : String) (now : Moment)
  | recoverPending (now : Moment)
  | pendingApply
  | awaitingVerification
  | snapshot (responseId : String)
  | auditHistory (responseId : String)

inductive AdapterMethod where
  | apply
  | verify
  | revert
  deriving DecidableEq, Repr

/-- What an observer of the store and of the adapters can see. -/
inductive Occurrence where
  | opened
  | called (call : PublicCall)
  | validated (event : AuditEvent) (verdict : Except PyError Unit)
  | committed (record : Snapshot) (event : Option AuditEvent)
  | checkpointRaised
  | invoked (method : AdapterMethod) (record : ResponseRecord) (now : Int)
  | exportRan
  | sent (event : AuditEvent)

/-- A log entry also shows the configuration and the committed store of its moment. -/
structure Entry where
  occurrence : Occurrence
  catalog : PolicyCatalog
  authenticator : CommandAuthenticator
  journal : Journal

inductive Mode where
  | observe
  | enforce
  deriving DecidableEq, Repr

structure Counters where
  accepted : Nat := 0
  rejected : Nat := 0
  applied : Nat := 0
  verified : Nat := 0
  reverted : Nat := 0
  failed : Nat := 0
  recovered : Nat := 0
  deriving DecidableEq, Repr

structure ExportReport where
  delivered : Nat := 0
  blocked : Option String := none
  deriving DecidableEq, Repr

/-- The service object around the orchestrator. -/
structure Service where
  mode : Mode
  exporter : Bool
  recoverEvery : Nat
  ticks : Nat := 0
  started : Bool := false
  counters : Counters := {}
  lastExport : ExportReport := {}
  deriving DecidableEq, Repr

/-- The state of one running process, its store, its environment, and its log. -/
structure Session where
  orchestrator : Orchestrator
  service : Service
  journal : Journal
  tape : Tape
  log : List Entry

abbrev Op := Program Session PyError

/-- The log entry of an occurrence in the present state. -/
def Session.entry (session : Session) (occurrence : Occurrence) : Entry :=
  ⟨occurrence, session.orchestrator.catalog, session.orchestrator.authenticator, session.journal⟩

open Program

def note (occurrence : Occurrence) : Op Unit :=
  update fun session => { session with log := session.log ++ [session.entry occurrence] }

/-- A changed record is visible in memory at once. -/
def remember (record : ResponseRecord) : Op Unit :=
  update fun session => { session with orchestrator :=
    { session.orchestrator with records := session.orchestrator.records.upsert record.responseId record } }

/-- The next answer of the environment, or a good one after the end of the tape. -/
def draw {α : Type} (read : Tape → List α) (write : Tape → List α → Tape) (good : α) : Op α := fun session =>
  match read session.tape with
  | [] => (.returned good, session)
  | answer :: rest => (.returned answer, { session with tape := write session.tape rest })

def nextCommit : Op CommitFate := draw (·.commits) (fun tape rest => { tape with commits := rest }) .durable

def nextReply : Op AdapterReply :=
  draw (·.replies) (fun tape rest => { tape with replies := rest }) (.answered .success)

def nextReference : Op ReferenceReply :=
  draw (·.references) (fun tape rest => { tape with references := rest }) (.value (some "reference"))

def nextRead : Op ReadFate := draw (·.reads) (fun tape rest => { tape with reads := rest }) .read

def nextDelivery : Op DeliveryReply :=
  draw (·.deliveries) (fun tape rest => { tape with deliveries := rest }) .delivered

end ClosedLoop.Response
