import ClosedLoop.Construction.Response.Lifecycle

namespace ClosedLoop.Response

open ClosedLoop.Library ClosedLoop.Library.Program

/-- An export mark is its own transaction. -/
def markExported (auditId : String) : Op Unit := do
  let mark : Op Unit := update fun session => { session with journal := session.journal.markExported auditId }
  match ← nextCommit with
  | .durable => mark
  | .lost => raise .storageError
  | .unacknowledged => do
      mark
      raise .storageError
  | .crashBefore => crash
  | .crashAfter => do
      mark
      crash

/-- The exporter stops at the first event that is not delivered. -/
def deliver (delivered : Nat) : List (String × AuditEvent) → Op ExportReport
  | [] => return { delivered }
  | (auditId, event) :: rest => do
      note (.sent event)
      match ← nextDelivery with
      | .delivered => do
          markExported auditId
          deliver (delivered + 1) rest
      | .blocked code => return { delivered, blocked := some code }
      | .raised => raise (.runtimeError "audit delivery raised")
      | .crashed => crash

/-- `AuditExporter.export` delivers the oldest events that have no mark. -/
def exportAudit (limit : Nat) : Op ExportReport := do
  note .exportRan
  let events ← readLedger (·.unexportedEvents limit)
  deliver 0 events

/-- What the service reports about an accepted or rejected command. -/
structure AcceptReport where
  accepted : Bool
  state : Option ResponseState := none
  responseId : Option String := none
  deduplicated : Bool := false
  message : Option String := none
  deriving DecidableEq, Repr

/-- What one scheduler pass did. -/
structure TickReport where
  applied : Nat := 0
  verified : Nat := 0
  reverted : Nat := 0
  failed : Nat := 0
  deriving DecidableEq, Repr

def changeService (change : Service → Service) : Op Unit :=
  update fun session => { session with service := change session.service }

def countCommand (accepted : Bool) : Op Unit :=
  changeService fun service =>
    if accepted then { service with counters.accepted := service.counters.accepted + 1 }
    else { service with counters.rejected := service.counters.rejected + 1 }

section Service

variable (python : Python)

/-- `start` compensates unfinished operations before any new work is accepted. -/
def start (now : Moment) : Op Unit := do
  let recovered ← recoverPending python now
  changeService fun service =>
    { service with counters.recovered := service.counters.recovered + recovered.length, started := true }

/-- A submission reports its result, and a rejected one its message. -/
def submitReport (command : Json) (now : Moment) : Op AcceptReport :=
  rescue (do
      let result ← submit python command now
      countCommand result.accepted
      return { accepted := result.accepted, state := some result.state, responseId := some result.responseId
               deduplicated := result.deduplicated, message := result.message })
    fun error => match error with
      | .commandRejected message => do
          countCommand false
          return { accepted := false, message := some message }
      | other => raise other

/-- `accept` takes commands only in enforce mode and after startup recovery. -/
def accept (command : Json) (now : Moment) : Op AcceptReport := do
  let service ← gets (·.service)
  if service.mode ≠ .enforce then
    countCommand false
    return { accepted := false, message := some "service is in observe mode; no command accepted" }
  else
    require (service.started = true) (.runtimeError "service has not completed startup recovery")
    submitReport python command now

/-- The lifecycle work of one scheduler pass: apply, verify, expire, recover. -/
def lifecyclePass (now : Moment) : Op TickReport := do
  let queued ← pendingApply
  let applied ← collect (fun responseId => do return some (← apply python responseId now)) queued
  let awaiting ← awaitingVerification
  let verified ← collect (fun responseId => do return some (← verify python responseId now)) awaiting
  let expired ← expireDue python now
  changeService fun service => { service with ticks := service.ticks + 1 }
  let service ← gets (·.service)
  let recovered ← if service.ticks % service.recoverEvery = 0 then recoverPending python now else pure []
  return {
    applied := applied.countP (·.state = .applied)
    verified := verified.countP (·.state = .verified)
    reverted := verified.countP (·.state = .rolledBack) + (expired ++ recovered).countP (·.accepted)
    failed := applied.countP (·.state ≠ .applied) +
      verified.countP (fun result => result.state ≠ .verified ∧ result.state ≠ .rolledBack) +
      (expired ++ recovered).countP (!·.accepted) }

def addReport (report : TickReport) (counters : Counters) : Counters :=
  { counters with
    applied := counters.applied + report.applied
    verified := counters.verified + report.verified
    reverted := counters.reverted + report.reverted
    failed := counters.failed + report.failed }

/-- The export of the audit events never stops the lifecycle work. -/
def exportPass : Op Unit := do
  let service ← gets (·.service)
  if service.exporter then
    let report ← rescue (exportAudit 200) fun _ => return { delivered := 0, blocked := some "EXPORT_ERROR" }
    changeService fun service => { service with lastExport := report }
  else pure ()

/-- `tick` is one scheduler pass. -/
def tick (now : Moment) : Op TickReport := do
  let service ← gets (·.service)
  let report ← if service.mode = .enforce then lifecyclePass python now else pure {}
  changeService fun service => { service with counters := addReport report service.counters }
  exportPass
  return report

end Service

end ClosedLoop.Response
