import ClosedLoop.Proof.Response.Safety

namespace ClosedLoop.Response

open ClosedLoop.Library ClosedLoop.Library.Program

variable {python : Python}

/-- The record with its expiry truncated to milliseconds. -/
def ResponseRecord.truncated (record : ResponseRecord) : ResponseRecord :=
  { record with expiresAt := (rfc3339 record.expiresAt).parse }

theorem record_asdict (record : ResponseRecord) : record.asdict.record = record.truncated := rfl

/-- A process that has not raised since it opened the store is in sync, and one that has raised is halted. -/
theorem Steady.split {trusted : CommandAuthenticator → Prop} {session : Session}
    (steady : Steady python trusted session) :
    (raisedSinceOpen session.log = false → Synced python trusted session) ∧
      (raisedSinceOpen session.log = true → Halted python trusted session) := by
  rcases steady with synced | halted
  · refine ⟨fun _ => synced, fun raised => ?_⟩
    rw [synced.quiet] at raised
    cases raised
  · refine ⟨fun quiet => ?_, fun _ => halted⟩
    rw [halted.raised] at quiet
    cases quiet

/-- What the reopening of a store gives, and how it compares with the live process. -/
structure Faithful (python : Python) (world : World) (config : Config) (orchestrator : Orchestrator) : Prop where
  constructed : construct python config world.journal.backfillAdmissions = .ok orchestrator
  committed : ∀ responseId, orchestrator.records.find? responseId =
    (lastCommitted world.log responseId).map Snapshot.record
  live : ∀ process ∈ world.process, raisedSinceOpen world.log = false → ∀ responseId,
    orchestrator.records.find? responseId =
      (process.orchestrator.records.find? responseId).map ResponseRecord.truncated
  halted : ∀ process ∈ world.process, raisedSinceOpen world.log = true → ∀ call tape,
    performOperation python call (world.session process tape) =
      (.raised (.runtimeError "response persistence failed; close and reopen the store before recovery"),
        (world.session process tape).observed (.called call))

/-- A coherent world is reopened at its last commits. -/
theorem Coherent.reopens {world : World} {config : Config} {adapters : Adapters}
    (coherent : Coherent python (· = config.authenticator) world)
    (bound : bindAdapters config.adapters = .ok adapters) :
    ∃ orchestrator, Faithful python world config orchestrator := by
  obtain ⟨records, audit, intents⟩ := backfill_tables world.journal
  have durable := (coherent.reached.housekeeping records audit intents (Or.inr rfl)).durable
  obtain ⟨orchestrator, built⟩ := durable.construct bound
  have reopened := durable.construct_ok built
  have committed : ∀ responseId, orchestrator.records.find? responseId =
      (lastCommitted world.log responseId).map Snapshot.record := by
    intro responseId
    rw [reopened.records, Table.find?_mapValues, records, coherent.reached.lastCommitted]
  refine ⟨orchestrator, built, committed, fun process live quiet responseId => ?_,
    fun process live raised call tape => ?_⟩
  · have synced := (coherent.live process live {}).split.1 quiet
    have mirror : process.orchestrator.records.mapValues (·.asdict) = world.journal.records := synced.mirror
    rw [committed, ← coherent.reached.lastCommitted, ← mirror, Table.find?_mapValues, Option.map_map]
    exact congrArg (fun write => Option.map write _) (funext record_asdict)
  · exact performOperation_halted call ((coherent.live process live tape).split.2 raised).stopped

/-- Reopening a store with the key ring of its commands never fails and yields exactly the last committed record
of each response. As long as no checkpoint has raised these are the records in memory, and after one has raised
every public operation raises and touches neither the store nor an adapter. -/
theorem reopening_yields_last_commit (python : Python) (steps : List Step) (config : Config) (adapters : Adapters)
    (sameRing : ∀ step ∈ steps, step.keyed (· = config.authenticator))
    (bound : bindAdapters config.adapters = .ok adapters) :
    ∃ orchestrator, Faithful python (World.run python steps) config orchestrator :=
  (run_coherent steps sameRing).reopens bound

/-- The lab store is reopened in observe mode. -/
theorem reopening_yields_last_commit_lab :
    ∃ orchestrator, Faithful labPython (World.run labPython labSteps) (labConfig .observe) orchestrator := by
  refine reopening_yields_last_commit labPython labSteps (labConfig .observe)
    ⟨"vyos", "wazuh", by decide⟩ (fun step member => ?_) (by decide +kernel)
  simp only [labSteps, List.mem_cons, List.not_mem_nil, or_false] at member
  rcases member with rfl | rfl | rfl | rfl <;> trivial

end ClosedLoop.Response
