import ClosedLoop.Proof.Response.Checkpoint
import ClosedLoop.Proof.Response.Validation
import ClosedLoop.Construction.Response.Lifecycle

namespace ClosedLoop.Response

open ClosedLoop.Library

/-- The committed record holds its target. -/
def Snapshot.engaged (record : Snapshot) : Prop :=
  record.pendingOperation.isSome ∨ (record.state = .failed ∧ record.adapterReference.isSome) ∨
    record.state = .applied ∨ record.state = .verified

/-- The record has not touched an adapter. -/
def Snapshot.waiting (record : Snapshot) : Prop :=
  record.state = .requested ∧ record.adapterReference = none ∧ record.pendingOperation = none

/-- The next transition of a committed record. -/
def Snapshot.moved (record : Snapshot) (state : ResponseState) : Snapshot :=
  { record with state, transitionNumber := record.transitionNumber + 1 }

/-- The intent of a committed record is cleared. -/
def Snapshot.cleared (record : Snapshot) : Snapshot :=
  { record with pendingOperation := none, operationStartedAt := none }

/-- A committed record with a new intent. -/
def Snapshot.intending (record : Snapshot) (operation : Operation) (startedAt : Rfc3339) : Snapshot :=
  { record with pendingOperation := some operation, operationStartedAt := some startedAt }

/-- The backend and the type of the target follow from the action. -/
def AuditEvent.Routed (event : AuditEvent) : Prop :=
  (event.action = .blockIp → event.adapter ∈ ["opnsense", "nftables", "vyos"] ∧ event.target.type = .ip) ∧
    (event.action = .isolateHost → event.adapter = "wazuh" ∧ event.target.type = .host)

/-- The event belongs to the step from the old record to the new one. -/
structure Stamp (old : Option Snapshot) (new : Snapshot) (event : AuditEvent) : Prop where
  responseId : event.responseId = new.responseId
  number : event.transitionNumber = new.transitionNumber
  state : event.state = new.state
  describes : event.describes new.command new.expiresAt
  previous : event.previousState = old.map (·.state)
  intent : event.actionIntent.isSome = (old.bind (·.pendingOperation)).isSome
  routed : event.Routed

/-- The evidence of a verification is a non-empty list of non-empty references. -/
def AuditEvent.Proven (event : AuditEvent) : Prop :=
  ∃ verification ∈ event.verification, verification.verified = true ∧ verification.evidenceRefs ≠ [] ∧
    ∀ reference ∈ verification.evidenceRefs, reference ≠ ""

/-- The entry shows a call of `adapter.apply` for this response. -/
def Entry.applies (entry : Entry) (responseId : String) : Prop :=
  ∃ record now, entry.occurrence = .invoked .apply record now ∧ record.responseId = responseId

section Protocol

variable (python : Python) (trusted : CommandAuthenticator → Prop)

/-- One submission committed REQUESTED, and its checks passed before it is authorized. -/
structure Admitted (log : List Entry) (catalog : PolicyCatalog) (authenticator : CommandAuthenticator)
    (record : Snapshot) (raw : Json) (now : Int) (event : AuditEvent) : Prop where
  submitted : ∃ before called validated requested, log = before ++ [called, validated, requested] ∧
    called.occurrence = .called (.submit raw (.aware now)) ∧
    validated.occurrence = .validated event (.ok ()) ∧
    requested.occurrence = .committed { record with authorized := false } (some event) ∧
    requested.journal.requestedSince record.command.policy.id
      (now - seconds catalog.rateLimit.windowSeconds) ≤ catalog.rateLimit.maxActions
  requested : event.state = .requested
  stamped : event.timestamp = rfc3339 now ∧ event.policyId = record.command.policy.id
  valid : validateCommand python catalog authenticator raw now = .ok record.command
  allowed : assertTargetAllowed python catalog.protections record.command.action record.command.target = .ok ()

/-- The change of one record that a commit may make. -/
inductive Change (records : Table String Snapshot) (log : List Entry) (catalog : PolicyCatalog)
    (authenticator : CommandAuthenticator) : Option Snapshot → Snapshot → Option AuditEvent → Prop
  | request {new : Snapshot} {event : AuditEvent}
      (identified : new.responseId = responseIdOf python new.command.idempotencyKey)
      (waiting : new.waiting) (first : new.transitionNumber = 1) (unauthorized : new.authorized = false)
      (stamp : Stamp none new event)
      (signed : ∃ signer now, trusted signer ∧ signer.verify python new.command now = .ok () ∧
        event.timestamp = rfc3339 now) :
      Change records log catalog authenticator none new (some event)
  | authorize {old : Snapshot} {raw : Json} {now : Int} {event : AuditEvent} (waiting : old.waiting)
      (admitted : Admitted python log catalog authenticator { old with authorized := true } raw now event) :
      Change records log catalog authenticator (some old) { old with authorized := true } none
  | decline {old : Snapshot} {event : AuditEvent} (waiting : old.waiting)
      (stamp : Stamp (some old) (old.moved .failed) event) (failure : event.failure.isSome) :
      Change records log catalog authenticator (some old) (old.moved .failed) (some event)
  | intendApply {old : Snapshot} {reference : String} {startedAt : Rfc3339} (waiting : old.waiting)
      (authorized : old.authorized = true) (named : reference ≠ "")
      (free : ∀ row ∈ records, row.1 ≠ old.responseId → row.2.engaged →
        identity python row.2.command ≠ identity python old.command) :
      Change records log catalog authenticator (some old)
        ({ old with adapterReference := some reference }.intending .apply startedAt) none
  | intendRevert {old : Snapshot} {startedAt : Rfc3339} (engaged : old.engaged) :
      Change records log catalog authenticator (some old) (old.intending .revert startedAt) none
  | confirmApply {old : Snapshot} {reference : String} {event : AuditEvent}
      (pending : old.pendingOperation = some .apply) (state : old.state = .requested) (named : reference ≠ "")
      (stamp : Stamp (some old) ({ old with adapterReference := some reference }.moved .applied).cleared event)
      (application : event.application.isSome) :
      Change records log catalog authenticator (some old)
        ({ old with adapterReference := some reference }.moved .applied).cleared (some event)
  | confirmVerify {old : Snapshot} {event : AuditEvent} (state : old.state = .applied)
      (idle : old.pendingOperation = none) (stamp : Stamp (some old) (old.moved .verified) event)
      (application : event.application.isSome) (proven : event.Proven) :
      Change records log catalog authenticator (some old) (old.moved .verified) (some event)
  | breakOff {old : Snapshot} {event : AuditEvent} (pending : old.pendingOperation.isSome)
      (stamp : Stamp (some old) (old.moved .failed) event) (failure : event.failure.isSome) :
      Change records log catalog authenticator (some old) (old.moved .failed) (some event)
  | conclude {old : Snapshot} {terminal : ResponseState} {event : AuditEvent}
      (pending : old.pendingOperation = some .revert) (ends : terminal.terminal = true)
      (expiry : terminal = .expired → old.state = .verified)
      (stamp : Stamp (some old) (old.moved terminal).cleared event) (rollback : event.rollback.isSome) :
      Change records log catalog authenticator (some old) (old.moved terminal).cleared (some event)

/-- What must hold when `adapter.apply` is called. -/
structure Warrant (log : List Entry) (entry : Entry) (record : ResponseRecord) (now : Int) : Prop where
  intended : ∃ before called committed, log = before ++ [called, committed] ∧
    called.occurrence = .called (.apply record.responseId (.aware now)) ∧
    committed.occurrence = .committed record.asdict none
  stored : entry.journal.records.find? record.responseId = some record.asdict
  pending : record.pendingOperation = some .apply
  authorized : record.authorized = true
  confirmed : Confirmed python entry.catalog entry.authenticator record.command now
  allowed : assertTargetAllowed python entry.catalog.protections record.command.action
    record.command.target = .ok ()
  inTime : now < record.expiresAt
  fresh : ∀ earlier ∈ log, ¬ earlier.applies record.responseId

/-- An observation that does not change the store. -/
def Harmless (log : List Entry) (entry : Entry) : Prop :=
  match entry.occurrence with
  | .committed _ _ => False
  | .validated _ verdict => verdict = .ok ()
  | .invoked .apply record now => Warrant python log entry record now
  | _ => True

/-- The stores and logs that the steps of the protocol produce. -/
inductive Reached : Journal → List Entry → Prop
  | empty : Reached {} []
  | observe {journal : Journal} {log : List Entry} {entry : Entry} (reached : Reached journal log)
      (present : entry.journal = journal) (harmless : Harmless python log entry) :
      Reached journal (log ++ [entry])
  | commit {journal next : Journal} {log : List Entry} {entry : Entry} {record : Snapshot}
      {event : Option AuditEvent} (reached : Reached journal log)
      (change : Change python trusted journal.records log entry.catalog entry.authenticator
        (journal.records.find? record.responseId) record event)
      (accepted : journal.checkpoint record event = .ok next)
      (seen : entry.occurrence = .committed record event) (present : entry.journal = next) :
      Reached next (log ++ [entry])
  | housekeeping {journal other : Journal} {log : List Entry} (reached : Reached journal log)
      (records : other.records = journal.records) (audit : other.audit = journal.audit)
      (applyIntents : other.applyIntents = journal.applyIntents)
      (admissions : other.admissions = journal.admissions ∨ other = journal.backfillAdmissions) : Reached other log

end Protocol

end ClosedLoop.Response
