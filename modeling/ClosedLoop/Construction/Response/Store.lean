import ClosedLoop.Construction.Response.Audit
import Mathlib.Data.List.Sort

namespace ClosedLoop.Response

open ClosedLoop.Library

/-- A record as the journal keeps it: its expiry is a text in milliseconds. -/
structure Snapshot where
  responseId : String
  command : Command
  expiresAt : Rfc3339
  state : ResponseState
  transitionNumber : Nat
  adapterReference : Option String
  authorized : Bool
  pendingOperation : Option Operation
  operationStartedAt : Option Rfc3339
  deriving DecidableEq, Repr

/-- An admission row counts one committed submission. -/
structure Admission where
  policyId : String
  admittedAt : Rfc3339
  deriving DecidableEq, Repr

/-- The committed tables of the response store, with their rows in insertion order. -/
structure Journal where
  records : Table String Snapshot := []
  audit : List AuditEvent := []
  applyIntents : List String := []
  admissions : Table String Admission := []
  exported : List String := []
  deriving DecidableEq, Repr

namespace Journal

/-- The audit rows of one response, ordered by their transition numbers. -/
def events (journal : Journal) (responseId : String) : List AuditEvent :=
  (journal.audit.filter (·.responseId = responseId)).insertionSort
    (fun first second => first.transitionNumber ≤ second.transitionNumber)

def latest (journal : Journal) (responseId : String) : Option AuditEvent :=
  (journal.events responseId).getLast?

/-- The latest audit event must carry the state and the number of the record. -/
def matchesLatest (journal : Journal) (record : Snapshot) : Prop :=
  ∃ latest ∈ journal.latest record.responseId,
    latest.state = record.state ∧ latest.transitionNumber = record.transitionNumber

instance (journal : Journal) (record : Snapshot) : Decidable (journal.matchesLatest record) :=
  inferInstanceAs (Decidable (∃ latest ∈ journal.latest record.responseId, _))

/-- `INSERT OR IGNORE` of the admission of a first event. -/
def recordAdmission (journal : Journal) (event : AuditEvent) : Journal :=
  if event.responseId ∈ journal.admissions.keys then journal
  else { journal with
    admissions := journal.admissions ++ [(event.responseId, ⟨event.policyId, event.timestamp⟩)] }

/-- An apply intent is claimed once for the lifetime of the store. -/
def claimIntent (journal : Journal) (record : Snapshot) (event : Option AuditEvent) :
    Except PyError Journal :=
  if event = none ∧ record.pendingOperation = some .apply then
    if record.responseId ∈ journal.applyIntents then
      .error (.commandRejected "application already attempted; recovery required")
    else .ok { journal with applyIntents := journal.applyIntents ++ [record.responseId] }
  else .ok journal

/-- The audit table is append-only and has one row per response and number. -/
def appendAudit (journal : Journal) (record : Snapshot) (event : AuditEvent) : Except PyError Journal := do
  validateTransition event (journal.events record.responseId)
  Check.guard (∀ other ∈ journal.audit,
      ¬ (other.responseId = record.responseId ∧ other.transitionNumber = event.transitionNumber)) .storageError
  let appended := { journal with audit := journal.audit ++ [event] }
  return if event.transitionNumber = 1 then appended.recordAdmission event else appended

/-- A checkpoint without an event leaves the audit table as it is. -/
def appendOptional (journal : Journal) (record : Snapshot) : Option AuditEvent → Except PyError Journal
  | none => .ok journal
  | some event => journal.appendAudit record event

/-- The input of a stored record is immutable. -/
def writeRecord (journal : Journal) (record : Snapshot) : Except PyError Journal := do
  Check.guard (∀ old ∈ journal.records.find? record.responseId,
      record.command = old.command ∧ record.expiresAt = old.expiresAt) .storageError
  return { journal with records := journal.records.upsert record.responseId record }

/-- `SQLiteResponseStore.checkpoint` as one transaction. -/
def checkpoint (journal : Journal) (record : Snapshot) (event : Option AuditEvent) :
    Except PyError Journal := do
  let claimed ← journal.claimIntent record event
  let appended ← claimed.appendOptional record event
  Check.guard (appended.matchesLatest record)
    (.commandRejected "checkpoint must match the latest audit event")
  appended.writeRecord record

/-- `load` reads every snapshot and compares it with its audit history. -/
def load (journal : Journal) : Except PyError (Table String Snapshot) := do
  Check.guard (∀ row ∈ journal.records, journal.matchesLatest row.2)
    (.commandRejected "response checkpoint differs from its audit history")
  return journal.records

/-- Committed submissions, including denied ones, that are newer than `since`. -/
def requestedSince (journal : Journal) (policyId : String) (since : Int) : Nat :=
  journal.admissions.countP fun row => row.2.policyId = policyId ∧ since < row.2.admittedAt.parse

/-- A store that has no admissions yet gets them from its first events. -/
def backfillAdmissions (journal : Journal) : Journal :=
  if journal.admissions ≠ [] then journal
  else (journal.audit.filter (·.transitionNumber = 1)).foldl recordAdmission journal

/-- Audit events that are not yet delivered, oldest first. -/
def unexportedEvents (journal : Journal) (limit : Nat) : List (String × AuditEvent) :=
  ((journal.audit.filter (·.auditEventId ∉ journal.exported)).take limit).map
    fun event => (event.auditEventId, event)

def markExported (journal : Journal) (auditId : String) : Journal :=
  if auditId ∈ journal.exported then journal else { journal with exported := journal.exported ++ [auditId] }

/-- The stored commands ordered by response identifier. -/
def commands (journal : Journal) : List (String × Command) :=
  (journal.records.map fun row => (row.1, row.2.command)).insertionSort (fun first second => first.1 ≤ second.1)

end Journal

end ClosedLoop.Response
