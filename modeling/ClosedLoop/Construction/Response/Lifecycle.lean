import ClosedLoop.Construction.Response.Engine

namespace ClosedLoop.Response

open ClosedLoop.Library ClosedLoop.Library.Program

section Lifecycle

variable (python : Python)

/-- Evidence of the adapter promotes an application to VERIFIED. -/
def confirm (record : ResponseRecord) (timestamp : Int) (evidenceRefs : List String) :
    Op OrchestrationResult := do
  let appliedAt ← appliedAt record
  let (event, _) ← transition python record .verified timestamp
    { application := some ⟨appliedAt, record.adapterReference.getD ""⟩
      verification := some ⟨true, rfc3339 timestamp, evidenceRefs⟩ } false
  return { responseId := record.responseId, state := .verified, accepted := true
           message := some "containment verified", auditEvent := some event }

/-- A failed verification is followed by an immediate rollback. -/
def retract (record : ResponseRecord) (timestamp : Int) (outcome : AdapterOutcome) :
    Op OrchestrationResult := do
  let intended ← beginOperation record .revert timestamp
  let rollback ← invoke .revert intended timestamp "ADAPTER_OUTCOME_UNKNOWN"
  if rollback.ok = true ∧ rollback.evidenceRefs ≠ [] then
    let appliedAt ← appliedAt intended
    let (event, _) ← transition python intended .rolledBack timestamp
      { application := some ⟨appliedAt, intended.adapterReference.getD ""⟩
        rollback := some ⟨rfc3339 timestamp, .failedVerification, rollback.evidenceRefs⟩
        failure := some (failurePayload timestamp (textOr outcome.code "VERIFICATION_FAILED")
          (textOr outcome.message "adapter did not prove containment")) } true
    return { responseId := record.responseId, state := .rolledBack, accepted := false
             message := some "verification failed; action rolled back", auditEvent := some event }
  else
    let failed ← failFromOutcome python intended timestamp rollback "VERIFY_AND_ROLLBACK_FAILED"
    return { responseId := record.responseId, state := .failed, accepted := false
             message := some "verification failed and rollback could not be proven", auditEvent := some failed }

/-- `verify` promotes APPLIED to VERIFIED only after adapter evidence is present. -/
def verify (responseId : String) (now : Moment) : Op OrchestrationResult := serialized (.verify responseId now) do
  let timestamp ← ofExcept (asUtc now)
  let record ← findRecord responseId
  requireState record .applied
  require (record.pendingOperation = none)
    (.commandRejected "unfinished adapter operation must be recovered before verification")
  if record.expiresAt ≤ timestamp then revert python record timestamp .rolledBack .ttlExpired
  else
    require (record.adapterReference.isSome) .assertionError
    let outcome ← invoke .verify record timestamp "ADAPTER_OUTCOME_UNKNOWN"
    if outcome.ok = true ∧ outcome.evidenceRefs ≠ [] then confirm python record timestamp outcome.evidenceRefs
    else retract python record timestamp outcome

/-- One turn of the expiry loop. -/
def expireRecord (timestamp : Int) (responseId : String) : Op (Option OrchestrationResult) := do
  let record ← findRecord responseId
  if record.engaged = false ∨ timestamp < record.expiresAt then return none
  else
    let terminal := if record.state = .verified then .expired else .rolledBack
    return some (← revert python record timestamp terminal .ttlExpired)

/-- `expire_due` reverts due actions, including previously failed rollback attempts. -/
def expireDue (now : Moment) : Op (List OrchestrationResult) := serialized (.expireDue now) do
  let timestamp ← ofExcept (asUtc now)
  let responseIds ← gets (·.orchestrator.records.keys)
  collect (expireRecord python timestamp) responseIds

def rollbackCause : String → Option RollbackCause
  | "manual" => some .manual
  | "recovery" => some .recovery
  | _ => none

/-- `rollback` reverses an applied action, including one with a failed rollback. -/
def rollback (responseId : String) (cause : String) (now : Moment) : Op OrchestrationResult :=
  serialized (.rollback responseId cause now) do
    match rollbackCause cause with
    | none => raise (.commandRejected "manual rollback cause must be manual or recovery")
    | some known =>
        let timestamp ← ofExcept (asUtc now)
        let record ← findRecord responseId
        require (record.engaged = true) (.commandRejected
          ("response " ++ responseId ++ " cannot be rolled back from " ++ record.state.text))
        revert python record timestamp .rolledBack known

/-- One turn of the recovery loop. -/
def recoverRecord (timestamp : Int) (responseId : String) : Op (Option OrchestrationResult) := do
  let record ← findRecord responseId
  if record.pendingOperation = none then return none
  else return some (← revert python record timestamp .rolledBack .recovery)

/-- `recover_pending` compensates unfinished operations and never replays an apply. -/
def recoverPending (now : Moment) : Op (List OrchestrationResult) := serialized (.recoverPending now) do
  let timestamp ← ofExcept (asUtc now)
  let responseIds ← gets (·.orchestrator.records.keys)
  collect (recoverRecord python timestamp) responseIds

/-- An authorized request that has not touched an adapter yet. -/
def ResponseRecord.queued (record : ResponseRecord) : Bool :=
  record.state = .requested && record.authorized && record.adapterReference.isNone &&
    record.pendingOperation.isNone

/-- An application with no unfinished adapter operation. -/
def ResponseRecord.awaiting (record : ResponseRecord) : Bool :=
  record.state = .applied && record.pendingOperation.isNone

/-- The identifiers of the records that pass a test. -/
def selectRecords (test : ResponseRecord → Bool) (records : Table String ResponseRecord) : List String :=
  (records.filter fun row => test row.2).map fun row => row.2.responseId

def pendingApply : Op (List String) := serialized .pendingApply do
  gets fun session => selectRecords (·.queued) session.orchestrator.records

def awaitingVerification : Op (List String) := serialized .awaitingVerification do
  gets fun session => selectRecords (·.awaiting) session.orchestrator.records

/-- A caller-safe view of one response. -/
structure RecordView where
  responseId : String
  state : ResponseState
  action : Action
  target : Target
  expiresAt : Rfc3339
  authorized : Bool
  pendingOperation : Option Operation
  deriving DecidableEq, Repr

def snapshot (responseId : String) : Op RecordView := serialized (.snapshot responseId) do
  let record ← findRecord responseId
  return { responseId := record.responseId, state := record.state, action := record.command.action
           target := record.command.target, expiresAt := rfc3339 record.expiresAt
           authorized := record.authorized, pendingOperation := record.pendingOperation }

def auditHistory (responseId : String) : Op (List AuditEvent) := serialized (.auditHistory responseId) do
  let _ ← findRecord responseId
  readLedger (·.events responseId)

/-- An audit event repeats the target, the action, the key, and the expiry of its command. -/
def AuditEvent.describes (event : AuditEvent) (command : Command) (expiresAt : Rfc3339) : Prop :=
  event.target = command.target ∧ event.action = command.action ∧
    event.idempotencyKey = command.idempotencyKey ∧ event.expiresAt = expiresAt

instance (event : AuditEvent) (command : Command) (expiresAt : Rfc3339) :
    Decidable (event.describes command expiresAt) := inferInstanceAs (Decidable (_ ∧ _))

/-- One stored command is restored for rollback only. -/
def restoreCommand (authenticator : CommandAuthenticator) (responseId : String) (command : Command)
    (history : List AuditEvent) : Except PyError (Option ResponseRecord) :=
  match history.head?, history.getLast? with
  | some first, some latest => do
      authenticator.verify python command first.timestamp.parse
      Check.guard (responseIdOf python command.idempotencyKey = responseId)
        (.commandRejected "recovery command identity mismatch")
      Check.guard (∀ event ∈ history, event.describes command first.expiresAt)
        (.commandRejected "recovery audit differs from signed command")
      return some
        { responseId, command, expiresAt := first.expiresAt.parse, state := latest.state
          transitionNumber := latest.transitionNumber
          adapterReference := (lastApplication history).map (·.adapterReference) }
  | _, _ => .ok none

/-- `restore_recovery` rebuilds rollback-only records in an empty orchestrator. -/
def restoreRecovery : Op (List String) := serialized .restoreRecovery do
  let orchestrator ← gets (·.orchestrator)
  require (orchestrator.records = []) (.commandRejected "recovery requires a fresh orchestrator")
  let journal ← readLedger id
  let restored ← ofExcept (journal.commands.mapM fun row =>
    restoreCommand python orchestrator.authenticator row.1 row.2 (journal.events row.1))
  let records := restored.reduceOption.map fun record => (record.responseId, record)
  update fun session => { session with orchestrator := { session.orchestrator with records } }
  return records.map Prod.fst

/-- The constructor checks a stored record against its signature and its audit history. -/
def reloadRecord (authenticator : CommandAuthenticator) (journal : Journal) (snapshot : Snapshot) :
    Except PyError ResponseRecord := do
  Check.guard (snapshot.responseId = responseIdOf python snapshot.command.idempotencyKey)
    (.commandRejected "checkpoint response identity is invalid")
  match (journal.events snapshot.responseId).head? with
  | none => .error (.valueError "tuple index out of range")
  | some first =>
      authenticator.verify python snapshot.command first.timestamp.parse
      Check.guard (∀ event ∈ journal.events snapshot.responseId,
          event.describes snapshot.command (rfc3339 snapshot.record.expiresAt))
        (.commandRejected "checkpoint audit differs from signed command")
      return snapshot.record

/-- What a deployment chooses when it starts the process. -/
structure Config where
  catalog : PolicyCatalog
  authenticator : CommandAuthenticator
  adapters : List Adapter
  mode : Mode
  exporter : Bool
  recoverEvery : Nat

/-- `ResponseOrchestrator.__init__` reloads every committed record of the store. -/
def construct (config : Config) (journal : Journal) : Except PyError Orchestrator := do
  let adapters ← bindAdapters config.adapters
  let snapshots ← journal.load
  let records ← snapshots.mapM fun row => do
    let record ← reloadRecord python config.authenticator journal row.2
    return (record.responseId, record)
  return { catalog := config.catalog, authenticator := config.authenticator, adapters
           records := records.foldl (fun table row => table.upsert row.1 row.2) [] }

end Lifecycle

end ClosedLoop.Response
