import ClosedLoop.Construction.Response.Session

namespace ClosedLoop.Response

open ClosedLoop.Library ClosedLoop.Library.Program

/-- A caller-visible lifecycle result. -/
structure OrchestrationResult where
  responseId : String
  state : ResponseState
  accepted : Bool
  deduplicated : Bool := false
  message : Option String := none
  auditEvent : Option AuditEvent := none
  deriving DecidableEq, Repr

/-- A committed transaction changes the store and is seen in the log. -/
def commit (journal : Journal) (record : Snapshot) (event : Option AuditEvent) : Op Unit := do
  update fun session => { session with journal }
  note (.committed record event)

/-- After any ambiguous commit the orchestrator stops. -/
def halt (error : PyError) : Op Unit := do
  note .checkpointRaised
  update fun session => { session with orchestrator := { session.orchestrator with storageFailed := true } }
  raise error

/-- The transition check of the store is seen in the log. -/
def noteValidation (journal : Journal) (responseId : String) : Option AuditEvent → Op Unit
  | none => pure ()
  | some event => note (.validated event (validateTransition event (journal.events responseId)))

/-- `_checkpoint` commits a record, with its audit event if it has one. -/
def checkpoint (record : ResponseRecord) (event : Option AuditEvent) : Op Unit := do
  let journal ← gets (·.journal)
  noteValidation journal record.responseId event
  match journal.checkpoint record.asdict event with
  | .error error => halt error
  | .ok committed =>
      match ← nextCommit with
      | .durable => commit committed record.asdict event
      | .lost => halt .storageError
      | .unacknowledged => do
          commit committed record.asdict event
          halt .storageError
      | .crashBefore => crash
      | .crashAfter => do
          commit committed record.asdict event
          crash

/-- A read of the committed store. -/
def readLedger {α : Type} (read : Journal → α) : Op α := do
  match ← nextRead with
  | .read => gets fun session => read session.journal
  | .failed => raise .storageError

/-- The record with a new intent. -/
def ResponseRecord.intending (record : ResponseRecord) (operation : Operation) (timestamp : Int) :
    ResponseRecord :=
  { record with pendingOperation := some operation, operationStartedAt := some (rfc3339 timestamp) }

/-- `_begin_operation` writes the intent to memory and commits it before the side effect. -/
def beginOperation (record : ResponseRecord) (operation : Operation) (timestamp : Int) : Op ResponseRecord := do
  let intended := record.intending operation timestamp
  remember intended
  checkpoint intended none
  return intended

/-- The audit trace of an unfinished operation. -/
def ResponseRecord.actionIntent (record : ResponseRecord) : Option ActionIntent :=
  record.pendingOperation.map fun operation =>
    ⟨operation, record.operationStartedAt, record.adapterReference⟩

/-- The record after a transition. -/
def ResponseRecord.moved (record : ResponseRecord) (state : ResponseState) (clearIntent : Bool) :
    ResponseRecord :=
  { record with
    state, transitionNumber := record.transitionNumber + 1
    pendingOperation := if clearIntent then none else record.pendingOperation
    operationStartedAt := if clearIntent then none else record.operationStartedAt }

section Engine

variable (python : Python)

def responseIdOf (idempotencyKey : String) : String :=
  "resp-" ++ truncate 24 (python.sha256Hex idempotencyKey)

/-- The audit event of a transition. -/
def ResponseRecord.event (record : ResponseRecord) (adapter : String) (state : ResponseState) (timestamp : Int)
    (evidence : Evidence) : AuditEvent :=
  buildEvent python record.command record.responseId record.expiresAt adapter state
    (if record.transitionNumber = 0 then none else some record.state) (record.transitionNumber + 1) timestamp
    { evidence with actionIntent := record.actionIntent }

/-- `_transition` commits the event with the new record and then changes the record in memory. -/
def transition (record : ResponseRecord) (state : ResponseState) (timestamp : Int) (evidence : Evidence)
    (clearIntent : Bool) : Op (AuditEvent × ResponseRecord) := do
  let adapter ← gets (·.orchestrator.adapters.name record.command.action)
  let event := record.event python adapter state timestamp evidence
  let updated := record.moved state clearIntent
  checkpoint updated (some event)
  remember updated
  return (event, updated)

def failurePayload (timestamp : Int) (code message : String) : Failure :=
  ⟨truncate 128 code, truncate 2048 message, rfc3339 timestamp⟩

def fail (record : ResponseRecord) (timestamp : Int) (code message : String) : Op AuditEvent := do
  let (event, _) ← transition python record .failed timestamp
    { failure := some (failurePayload timestamp code message) } false
  return event

def failFromOutcome (record : ResponseRecord) (timestamp : Int) (outcome : AdapterOutcome) (fallback : String) :
    Op AuditEvent :=
  fail python record timestamp (textOr outcome.code fallback)
    (textOr outcome.message "constrained adapter failed without a message")

/-- `_invoke` turns an exception or a malformed outcome into a failure. -/
def invoke (method : AdapterMethod) (record : ResponseRecord) (now : Int) (errorCode : String) :
    Op AdapterOutcome := do
  note (.invoked method record now)
  match ← nextReply with
  | .answered outcome =>
      if ∀ reference ∈ outcome.evidenceRefs, reference ≠ "" then return outcome
      else return .failure "ADAPTER_INVALID_OUTCOME" "adapter returned no valid outcome; recovery is required"
  | .malformed =>
      return .failure "ADAPTER_INVALID_OUTCOME" "adapter returned no valid outcome; recovery is required"
  | .raised => return .failure errorCode "adapter outcome is unknown; recovery is required"
  | .interrupted => raise .interrupt
  | .crashed => crash

/-- An operation on the adapter is unfinished, or its failure left a reference. -/
def ResponseRecord.recoverable (record : ResponseRecord) : Bool :=
  record.pendingOperation.isSome || (record.state = .failed && record.adapterReference.isSome)

/-- The record holds its target. -/
def ResponseRecord.engaged (record : ResponseRecord) : Bool :=
  record.recoverable || record.state = .applied || record.state = .verified

/-- The action and the normalized target of a command. -/
def identity (command : Command) : Action × String :=
  (command.action, match command.target.type with
    | .ip => (IPAddress.canonical command.target.value).getD command.target.value
    | .host => python.lower (strip command.target.value))

/-- `_assert_target_available` looks at every other record. -/
def targetTaken (records : Table String ResponseRecord) (record : ResponseRecord) : Bool :=
  records.any fun row => row.2.responseId ≠ record.responseId && row.2.engaged &&
    identity python row.2.command = identity python record.command

def findRecord (responseId : String) : Op ResponseRecord := do
  match (← gets (·.orchestrator.records)).find? responseId with
  | some record => return record
  | none => raise (.commandRejected s!"unknown response: {responseId}")

def requireState (record : ResponseRecord) (expected : ResponseState) : Op Unit :=
  require (record.state = expected) (.commandRejected ("response " ++ record.responseId ++ " is " ++
    record.state.text ++ ", expected " ++ expected.text))

/-- The newest application in a history. -/
def lastApplication (history : List AuditEvent) : Option Application :=
  history.reverse.findSome? (·.application)

/-- `_applied_at` reads the time of the application back from the audit history. -/
def appliedAt (record : ResponseRecord) : Op Rfc3339 := do
  match ← readLedger fun journal => lastApplication (journal.events record.responseId) with
  | some application => return application.appliedAt
  | none => raise (.commandRejected "response audit history lacks an applied timestamp")

/-- `_revert` reverses an action, whatever its authorization is by now. -/
def revert (record : ResponseRecord) (timestamp : Int) (terminalState : ResponseState) (cause : RollbackCause) :
    Op OrchestrationResult := do
  require (record.adapterReference.isSome) .assertionError
  let intended ← beginOperation record .revert timestamp
  let outcome ← invoke .revert intended timestamp "ADAPTER_OUTCOME_UNKNOWN"
  if outcome.ok = false ∨ outcome.evidenceRefs = [] then
    let failed ← failFromOutcome python intended timestamp outcome "ADAPTER_REVERT_FAILED"
    return { responseId := record.responseId, state := .failed, accepted := false
             message := some (textOr outcome.message "rollback failed"), auditEvent := some failed }
  else
    let application ← readLedger fun journal => lastApplication (journal.events record.responseId)
    let (event, _) ← transition python intended terminalState timestamp
      { application, rollback := some ⟨rfc3339 timestamp, cause, outcome.evidenceRefs⟩ } true
    return { responseId := record.responseId, state := terminalState, accepted := true
             message := some "action reversed and verified by the adapter", auditEvent := some event }

/-- Every public operation stops after a failed commit. -/
def serialized {α : Type} (call : PublicCall) (method : Op α) : Op α := do
  note (.called call)
  if ← gets (·.orchestrator.storageFailed) then
    raise (.runtimeError "response persistence failed; close and reopen the store before recovery")
  else method

/-- A repeated command reports the existing response. -/
def duplicateResult (responseId : String) : Op OrchestrationResult := do
  let record ← findRecord responseId
  let latest ← readLedger (·.latest responseId)
  return { responseId, state := record.state
           accepted := record.authorized && record.state ≠ .failed && record.pendingOperation.isNone
           deduplicated := true
           message := some "duplicate command did not create another privileged action", auditEvent := latest }

/-- A submission that fails a check ends in FAILED without an adapter call. -/
def deny (record : ResponseRecord) (timestamp : Int) (code reason message : String) : Op OrchestrationResult := do
  let failed ← fail python record timestamp code reason
  return { responseId := record.responseId, state := .failed, accepted := false
           message := some message, auditEvent := some failed }

/-- A new submission commits REQUESTED, passes its checks, and commits its authorization. -/
def admitCommand (normalized : Command) (timestamp : Int) : Op OrchestrationResult := do
  let catalog ← gets (·.orchestrator.catalog)
  let responseId := responseIdOf python normalized.idempotencyKey
  let record : ResponseRecord :=
    { responseId, command := normalized
      expiresAt := timestamp + seconds normalized.ttlSeconds.value
      state := .requested, transitionNumber := 0 }
  let (requested, accepted) ← transition python record .requested timestamp {} false
  update fun session => { session with orchestrator := { session.orchestrator with
    dedup := session.orchestrator.dedup.upsert normalized.idempotencyKey
      (responseId, timestamp + seconds catalog.dedupSeconds) } }
  match assertTargetAllowed python catalog.protections normalized.action normalized.target with
  | .error reason =>
      deny python accepted timestamp "TARGET_PROTECTED" reason "orchestrator rejected protected target"
  | .ok _ =>
      let submissions ← readLedger fun journal => journal.requestedSince normalized.policy.id
        (timestamp - seconds catalog.rateLimit.windowSeconds)
      if catalog.rateLimit.maxActions < submissions then
        deny python accepted timestamp "RATE_LIMITED"
          "automatic response rate limit reached; no adapter was invoked" "automatic response rate limited"
      else
        let authorized := { accepted with authorized := true }
        remember authorized
        checkpoint authorized none
        return { responseId, state := .requested, accepted := true, auditEvent := some requested }

def pruneDedup (now : Int) : Op Unit :=
  update fun session => { session with orchestrator := { session.orchestrator with
    dedup := session.orchestrator.dedup.filter fun row => now < row.2.2 } }

/-- `submit` accepts a signed command into REQUESTED and does not apply it. -/
def submit (command : Json) (now : Moment) : Op OrchestrationResult := serialized (.submit command now) do
  let timestamp ← ofExcept (asUtc now)
  let orchestrator ← gets (·.orchestrator)
  let normalized ← ofExcept
    (validateCommand python orchestrator.catalog orchestrator.authenticator command timestamp)
  pruneDedup timestamp
  let pruned ← gets (·.orchestrator)
  let responseId := responseIdOf python normalized.idempotencyKey
  match pruned.dedup.find? normalized.idempotencyKey with
  | some duplicate => duplicateResult duplicate.1
  | none =>
      if responseId ∈ pruned.records.keys then duplicateResult responseId
      else admitCommand python normalized timestamp

/-- A queued command is checked again at the privileged side effect. -/
def reauthorize (catalog : PolicyCatalog) (authenticator : CommandAuthenticator) (command : Command)
    (now : Int) : Except PyError Unit := do
  let _ ← validateCommand python catalog authenticator command.toJson now
  match assertTargetAllowed python catalog.protections command.action command.target with
  | .ok _ => return ()
  | .error message => .error (.policyError message)

/-- The refusal of a queued record ends in FAILED without an adapter call. -/
def refuse (record : ResponseRecord) (timestamp : Int) (code message : String) : Op OrchestrationResult := do
  let event ← fail python record timestamp code message
  return { responseId := record.responseId, state := .failed, accepted := false, auditEvent := some event }

/-- The adapter provides a stable reference before its apply is called. -/
def recoveryReference : Op String := do
  match ← nextReference with
  | .value (some reference) =>
      if reference = "" then
        raise (.commandRejected "adapter must provide a stable recovery reference before apply")
      else return reference
  | .value none => raise (.commandRejected "adapter must provide a stable recovery reference before apply")
  | .raised => raise .adapterError
  | .crashed => crash

/-- The intent is committed, the adapter is called once, and its outcome is committed. -/
def enforce (record : ResponseRecord) (timestamp : Int) : Op OrchestrationResult := do
  let reference ← recoveryReference
  let intended ← beginOperation { record with adapterReference := some reference } .apply timestamp
  let outcome ← invoke .apply intended timestamp "APPLICATION_OUTCOME_UNKNOWN"
  let acknowledged := outcome.adapterReference.getD ""
  if outcome.ok = false ∨ acknowledged = "" then
    let failed ← failFromOutcome python intended timestamp outcome "ADAPTER_APPLY_FAILED"
    return { responseId := record.responseId, state := .failed, accepted := false
             message := some (textOr outcome.message "adapter apply failed"), auditEvent := some failed }
  else
    let applied := { intended with adapterReference := some acknowledged }
    remember applied
    let (event, _) ← transition python applied .applied timestamp
      { application := some ⟨rfc3339 timestamp, acknowledged⟩ } true
    return { responseId := record.responseId, state := .applied, accepted := true
             message := some "action applied; containment is not successful until verification"
             auditEvent := some event }

/-- `apply` invokes the one adapter of an authorized queued record. -/
def apply (responseId : String) (now : Moment) : Op OrchestrationResult := serialized (.apply responseId now) do
  let timestamp ← ofExcept (asUtc now)
  let record ← findRecord responseId
  requireState record .requested
  require (record.authorized = true) (.commandRejected "response submission did not complete authorization")
  require (record.adapterReference = none)
    (.commandRejected "prior adapter application requires audit reconciliation")
  if record.expiresAt ≤ timestamp then
    refuse python record timestamp "EXPIRED_BEFORE_APPLY" "containment TTL elapsed before adapter invocation"
  else
    let orchestrator ← gets (·.orchestrator)
    match reauthorize python orchestrator.catalog orchestrator.authenticator record.command timestamp with
    | .error (.commandRejected _) | .error (.policyError _) =>
        refuse python record timestamp "REAUTHORIZATION_FAILED" "queued command no longer authorized"
    | .error error => raise error
    | .ok _ =>
        require (targetTaken python orchestrator.records record = false)
          (.commandRejected "target has an active or unresolved containment operation")
        enforce python record timestamp

end Engine

end ClosedLoop.Response
