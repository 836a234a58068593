import ClosedLoop.Construction.Response.Session
import ClosedLoop.Construction.Workers.Common

namespace ClosedLoop.Response

open ClosedLoop.Library

/-- A transaction whose changes are in the store afterwards. -/
def CommitFate.lands : CommitFate → Bool
  | .durable | .unacknowledged | .crashAfter => true
  | .lost | .crashBefore => false

/-- A transaction during which the process dies. -/
def CommitFate.kills : CommitFate → Bool
  | .crashBefore | .crashAfter => true
  | .durable | .lost | .unacknowledged => false

/-- `checkpoint` with the primary key of the table `audit`. -/
def Journal.checkpointRow (journal : Journal) (record : Snapshot) (event : Option AuditEvent) :
    Except PyError Journal := do
  Check.guard (∀ added ∈ event, ∀ row ∈ journal.audit, row.auditEventId ≠ added.auditEventId) .storageError
  journal.checkpoint record event

/-- `unexported_events`. A negative limit is no limit. -/
def Journal.unexportedWithin (journal : Journal) (limit : Int) : List (String × AuditEvent) :=
  journal.unexportedEvents (if limit < 0 then journal.audit.length else limit.toNat)

/-- The index of the audit events of a day. -/
def auditIndex (event : AuditEvent) : String := "soc-response-" ++ Workers.day event.timestamp.parse

/-- The document that the exporter creates for an audit event. -/
def auditDocument (event : AuditEvent) : Workers.Stored AuditEvent := ⟨auditIndex event, event.auditEventId, event⟩

/-- A call of `AuditExporter.export` has events left. The first of them is still to be created, or it is there and
still to be marked. A call without events has returned. -/
structure ExportCall where
  remaining : List (String × AuditEvent)
  answered : Bool := false

/-- The store, the documents in `soc-response-*`, the requests for them, and the export calls that are under way. -/
structure AuditStream where
  journal : Journal := {}
  documents : List (Workers.Stored AuditEvent) := []
  requests : List (Workers.Stored AuditEvent) := []
  calls : List ExportCall := []

/-- What can happen between two requests of an export call. -/
inductive StreamMove where
  | checkpoint (record : Snapshot) (event : Option AuditEvent) (fate : CommitFate)
  | beginExport (limit : Int)
  | create (call : Nat) (fault : Option Workers.Fault)
  | mark (call : Nat) (fate : CommitFate)
  | reopen

namespace AuditStream

/-- The export calls after a transaction. -/
def survivors (calls : List ExportCall) (fate : CommitFate) : List ExportCall := if fate.kills then [] else calls

def checkpoint (stream : AuditStream) (record : Snapshot) (event : Option AuditEvent) (fate : CommitFate) : AuditStream :=
  match stream.journal.checkpointRow record event with
  | .error _ => { stream with calls := survivors stream.calls fate }
  | .ok after =>
      { stream with
        journal := if fate.lands then after else stream.journal
        calls := survivors stream.calls fate }

/-- `export` up to its first request. -/
def beginExport (stream : AuditStream) (limit : Int) : AuditStream :=
  { stream with calls := stream.calls ++ [⟨stream.journal.unexportedWithin limit, false⟩] }

/-- One request of an export call. A `DeliveryError` ends the call, and so does an id that no document can have. -/
def create (stream : AuditStream) (call : Nat) (fault : Option Workers.Fault) : AuditStream :=
  match stream.calls[call]? with
  | some ⟨(auditId, event) :: rest, false⟩ =>
      match Workers.create stream.documents (auditIndex event) event.auditEventId event fault with
      | (.refused, _) => { stream with calls := stream.calls.eraseIdx call }
      | (.failed _, after) =>
          { stream with
            documents := after, requests := stream.requests ++ [auditDocument event]
            calls := stream.calls.eraseIdx call }
      | (_, after) =>
          { stream with
            documents := after, requests := stream.requests ++ [auditDocument event]
            calls := stream.calls.set call ⟨(auditId, event) :: rest, true⟩ }
  | _ => stream

/-- One export mark is one transaction. A mark that raises ends the call. -/
def mark (stream : AuditStream) (call : Nat) (fate : CommitFate) : AuditStream :=
  match stream.calls[call]? with
  | some ⟨(auditId, _) :: rest, true⟩ =>
      { stream with
        journal := if fate.lands then stream.journal.markExported auditId else stream.journal
        calls := survivors (if fate = .durable then stream.calls.set call ⟨rest, false⟩
          else stream.calls.eraseIdx call) fate }
  | _ => stream

def step (stream : AuditStream) : StreamMove → AuditStream
  | .checkpoint record event fate => stream.checkpoint record event fate
  | .beginExport limit => stream.beginExport limit
  | .create call fault => stream.create call fault
  | .mark call fate => stream.mark call fate
  | .reopen => { stream with journal := stream.journal.backfillAdmissions, calls := [] }

/-- The stream after a list of moves from an empty store. -/
def run (moves : List StreamMove) : AuditStream := moves.foldl step {}

end AuditStream

end ClosedLoop.Response
