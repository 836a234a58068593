import ClosedLoop.Construction.Response.Command

namespace ClosedLoop.Response

open ClosedLoop.Library

inductive ResponseState where
  | requested
  | applied
  | verified
  | expired
  | rolledBack
  | failed
  deriving DecidableEq, Repr

def ResponseState.text : ResponseState → String
  | .requested => "REQUESTED"
  | .applied => "APPLIED"
  | .verified => "VERIFIED"
  | .expired => "EXPIRED"
  | .rolledBack => "ROLLED_BACK"
  | .failed => "FAILED"

/-- The states that no transition leaves. -/
def ResponseState.terminal : ResponseState → Bool
  | .expired | .rolledBack => true
  | _ => false

/-- The states that may follow a state. No state precedes the first one. -/
def allowed : Option ResponseState → List ResponseState
  | none => [.requested]
  | some .requested => [.applied, .failed, .rolledBack]
  | some .applied => [.verified, .rolledBack, .failed]
  | some .verified => [.expired, .rolledBack, .failed]
  | some .failed => [.failed, .rolledBack]
  | some .expired => []
  | some .rolledBack => []

/-- The adapter operations that leave a recorded intent. -/
inductive Operation where
  | apply
  | revert
  deriving DecidableEq, Repr

structure Application where
  appliedAt : Rfc3339
  adapterReference : String
  deriving DecidableEq, Repr

structure Verification where
  verified : Bool
  verifiedAt : Rfc3339
  evidenceRefs : List String
  deriving DecidableEq, Repr

inductive RollbackCause where
  | ttlExpired
  | manual
  | failedVerification
  | recovery
  deriving DecidableEq, Repr

structure Rollback where
  completedAt : Rfc3339
  cause : RollbackCause
  evidenceRefs : List String
  deriving DecidableEq, Repr

structure Failure where
  code : String
  message : String
  failedAt : Rfc3339
  deriving DecidableEq, Repr

structure ActionIntent where
  operation : Operation
  startedAt : Option Rfc3339
  adapterReference : Option String
  deriving DecidableEq, Repr

/-- The evidence that a transition may carry. -/
structure Evidence where
  application : Option Application := none
  verification : Option Verification := none
  rollback : Option Rollback := none
  failure : Option Failure := none
  actionIntent : Option ActionIntent := none
  deriving DecidableEq, Repr

/-- One immutable audit document. The constant fields are implicit. -/
structure AuditEvent extends Evidence where
  timestamp : Rfc3339
  auditEventId : String
  responseId : String
  transitionNumber : Nat
  decisionEventId : String
  correlationId : String
  policyId : String
  idempotencyKey : String
  target : Target
  action : Action
  adapter : String
  state : ResponseState
  previousState : Option ResponseState
  ttlSeconds : WholeNumber
  expiresAt : Rfc3339
  deriving DecidableEq, Repr

section Factory

variable (python : Python)

def eventId (responseId : String) (transitionNumber : Nat) (state : ResponseState) : String :=
  "audit-" ++ truncate 24 (python.sha256Hex s!"{responseId}:{toString transitionNumber}:{state.text}")

/-- `AuditEventFactory.build` copies the command into a standalone event. -/
def buildEvent (command : Command) (responseId : String) (expiresAt : Int) (adapter : String)
    (state : ResponseState) (previousState : Option ResponseState) (transitionNumber : Nat) (timestamp : Int)
    (evidence : Evidence) : AuditEvent :=
  { toEvidence := evidence
    timestamp := rfc3339 timestamp
    auditEventId := eventId python responseId transitionNumber state
    responseId, transitionNumber
    decisionEventId := command.decisionEventId
    correlationId := command.correlationId
    policyId := command.policy.id
    idempotencyKey := command.idempotencyKey
    target := command.target
    action := command.action
    adapter := if adapter = "" then (if command.action = .blockIp then "opnsense" else "wazuh") else adapter
    state, previousState
    ttlSeconds := command.ttlSeconds
    expiresAt := rfc3339 expiresAt }

end Factory

/-- `repr` of an optional state. -/
def reprState : Option ResponseState → String
  | none => "None"
  | some state => "'" ++ state.text ++ "'"

/-- The lifecycle checks that every store shares. -/
def validateTransition (payload : AuditEvent) (history : List AuditEvent) : Except PyError Unit := do
  let actualPrevious := history.getLast?.map (·.state)
  Check.guard (payload.responseId ≠ "") (.commandRejected "audit event lacks response_id")
  Check.guard (payload.previousState = actualPrevious)
    (.commandRejected "audit event previous_state does not match append-only history")
  Check.guard (payload.state ∈ allowed actualPrevious)
    (.commandRejected ("invalid response transition " ++ reprState actualPrevious ++ " -> " ++
      reprState (some payload.state)))
  Check.guard (actualPrevious = some .failed ∨ (actualPrevious = some .requested ∧ payload.state = .rolledBack) →
      (∃ item ∈ history, item.state = .applied) ∨ payload.actionIntent.isSome)
    (.commandRejected "recovery requires an application or recorded action intent")
  Check.guard (payload.transitionNumber = history.length + 1)
    (.commandRejected "audit event transition_number is not monotonic")

/-- The conditions per state and per action of the schema response-audit-event-v1. -/
def AuditEvent.AllOf (event : AuditEvent) : Prop :=
  (event.action = .blockIp →
    event.adapter ∈ ["opnsense", "nftables", "vyos"] ∧ event.target.type = .ip) ∧
  (event.action = .isolateHost → event.adapter = "wazuh" ∧ event.target.type = .host) ∧
  (event.state = .requested → event.previousState = none) ∧
  (event.state = .applied → event.application.isSome ∧ event.previousState = some .requested) ∧
  (event.state = .verified → event.application.isSome ∧
    (∃ verification ∈ event.verification, verification.verified = true) ∧ event.previousState = some .applied) ∧
  (event.state = .expired → event.rollback.isSome ∧ event.previousState = some .verified) ∧
  (event.state = .rolledBack → event.rollback.isSome ∧
    event.previousState ∈ [some .requested, some .applied, some .verified, some .failed] ∧
    (event.previousState = some .requested → event.actionIntent.isSome)) ∧
  (event.state = .failed → event.failure.isSome)

end ClosedLoop.Response
