import ClosedLoop.Construction.Response.Service

namespace ClosedLoop.Response

open ClosedLoop.Library ClosedLoop.Library.Program

/-- A running process holds the orchestrator and the service around it. -/
structure Process where
  orchestrator : Orchestrator
  service : Service

/-- The store outlives every process, and at most one process owns it. -/
structure World where
  process : Option Process := none
  journal : Journal := {}
  log : List Entry := []

/-- What can be called on a running process. -/
inductive Call where
  | operation (call : PublicCall)
  | start (now : Moment)
  | accept (command : Json) (now : Moment)
  | tick (now : Moment)

/-- One step of the life of a store. -/
inductive Step where
  | launch (config : Config)
  | call (call : Call) (tape : Tape)
  | stop

section World

variable (python : Python)

def performOperation : PublicCall → Op Unit
  | .submit command now => do let _ ← submit python command now
  | .restoreRecovery => do let _ ← restoreRecovery python
  | .apply responseId now => do let _ ← apply python responseId now
  | .verify responseId now => do let _ ← verify python responseId now
  | .expireDue now => do let _ ← expireDue python now
  | .rollback responseId cause now => do let _ ← rollback python responseId cause now
  | .recoverPending now => do let _ ← recoverPending python now
  | .pendingApply => do let _ ← pendingApply
  | .awaitingVerification => do let _ ← awaitingVerification
  | .snapshot responseId => do let _ ← snapshot responseId
  | .auditHistory responseId => do let _ ← auditHistory responseId

/-- The effect of a call. Its result is of no interest to the store. -/
def perform : Call → Op Unit
  | .operation call => performOperation python call
  | .start now => start python now
  | .accept command now => do let _ ← accept python command now
  | .tick now => do let _ ← tick python now

/-- A process that calls runs on the store of the world. -/
def World.session (world : World) (process : Process) (tape : Tape) : Session :=
  ⟨process.orchestrator, process.service, world.journal, tape, world.log⟩

/-- After a call the process goes on, unless it crashed. -/
def Session.world (session : Session) (outcome : Outcome PyError Unit) : World :=
  { process := if outcome = .crashed then none else some ⟨session.orchestrator, session.service⟩
    journal := session.journal, log := session.log }

/-- A process opens the store and reloads the records that are committed in it. -/
def World.launch (world : World) (config : Config) : World :=
  match world.process with
  | some _ => world
  | none =>
      let journal := world.journal.backfillAdmissions
      match construct python config journal with
      | .error _ => { world with journal }
      | .ok orchestrator =>
          { process := some ⟨orchestrator, { mode := config.mode, exporter := config.exporter
                                             recoverEvery := max 1 config.recoverEvery }⟩
            journal, log := world.log ++ [⟨.opened, config.catalog, config.authenticator, journal⟩] }

def World.step (world : World) : Step → World
  | .launch config => world.launch python config
  | .stop => { world with process := none }
  | .call call tape =>
      match world.process with
      | none => world
      | some process =>
          let ended := perform python call (world.session process tape)
          ended.2.world ended.1

/-- The world after a list of steps from an empty store. -/
def World.run (steps : List Step) : World := steps.foldl (World.step python) {}

end World

end ClosedLoop.Response
