import ClosedLoop.Proof.Response.Modes
import ClosedLoop.Proof.Response.Restart

namespace ClosedLoop.Response

open ClosedLoop.Library ClosedLoop.Library.Program

variable {python : Python} {trusted : CommandAuthenticator → Prop} {world : World} {config : Config} {now : Int}

/-- The process is replaced, and the new one recovers and sweeps once. -/
def World.recovered (python : Python) (world : World) (config : Config) (now : Int) (starting sweeping : Tape) :
    World :=
  (((world.step python .stop).step python (.launch config)).step python (.call (.start (.aware now)) starting)).step
    python (.call (.operation (.expireDue (.aware now))) sweeping)

/-- The committed record is to be ended: its operation is unfinished, or it outlived its lifetime. -/
def Snapshot.elapsed (record : Snapshot) (now : Int) : Prop :=
  record.pendingOperation.isSome ∨ (record.engaged ∧ record.expiresAt.parse ≤ now)

/-- What a recovery makes of a committed record. -/
structure Recovered (now : Int) (record later : Snapshot) : Prop where
  responseId : later.responseId = record.responseId
  command : later.command = record.command
  expiresAt : later.expiresAt = record.expiresAt
  ended : record.elapsed now → later.state.terminal = true ∧ later.pendingOperation = none
  kept : ¬ record.elapsed now → later = record

section Steps

variable {process : Process} {tape : Tape}

/-- A call in a calm environment returns, and the process goes on. -/
theorem World.step_upon {call : Call} {holds : Unit → Session → Prop} (live : world.process = some process)
    (ended : Ends (perform python call) (world.session process tape)
      (upon python trusted (world.session process tape) holds)) (calm : Calm tape) :
    ∃ last, holds () last ∧ world.step python (.call call tape) = last.world (.returned ()) := by
  rw [World.step_live process live]
  unfold Ends at ended
  rcases result : perform python call (world.session process tape) with ⟨outcome, last⟩
  rw [result] at ended
  cases outcome with
  | returned value => exact ⟨last, ended.1, rfl⟩
  | raised error => exact absurd calm ended.2
  | crashed => exact absurd calm ended.2

/-- A record that a sweep without failures selected has ended. -/
theorem Swept.ended {select : ResponseRecord → Bool} {session after : Session} {record : ResponseRecord}
    {responseId : String}
    (swept : Swept python trusted select session session.orchestrator.records.keys after)
    (good : ∀ reply ∈ session.tape.replies, reply.Good)
    (found : session.orchestrator.records.find? responseId = some record) (chosen : select record = true) :
    ∃ later, after.orchestrator.records.find? responseId = some later ∧ record.SameInput later ∧
      later.state.terminal = true ∧ later.pendingOperation = none := by
  obtain ⟨later, present, ended, terminal⟩ :=
    swept.chosen responseId (Table.mem_keys_iff.mpr ⟨record, found⟩) record found chosen
  refine ⟨later, present, ended.1, terminal good, ?_⟩
  rcases ended.2 with ⟨-, idle⟩ | ⟨failed, -⟩
  · exact idle
  · have finished := terminal good
    rw [failed] at finished
    cases finished

/-- A sweep leaves the records that it did not select. -/
theorem Swept.left {select : ResponseRecord → Bool} {session after : Session} {record : ResponseRecord}
    {responseId : String} {responseIds : List String} (swept : Swept python trusted select session responseIds after)
    (found : session.orchestrator.records.find? responseId = some record) (spared : select record = false) :
    after.orchestrator.records.find? responseId = some record := by
  rw [swept.spared responseId (Or.inr (by simp [selected, found, spared])), found]

end Steps

section Recovering

variable {orchestrator : Orchestrator} {starting sweeping : Tape}

/-- The process after a recovery in a calm environment. -/
structure Afterwards (python : Python) (trusted : CommandAuthenticator → Prop) (world : World) (config : Config)
    (orchestrator : Orchestrator) (now : Int) (starting sweeping : Tape) (middle after : Session) : Prop where
  started : Started python trusted (world.reopened config orchestrator config.mode starting) middle
  swept : Swept python trusted (ResponseRecord.due now) { middle with tape := sweeping }
    middle.orchestrator.records.keys after
  world : world.recovered python config now starting sweeping = after.world (.returned ())

variable (now) in
theorem Coherent.recovers (coherent : Coherent python trusted world) (known : trusted config.authenticator)
    (built : construct python config world.journal.backfillAdmissions = .ok orchestrator) (calm : Calm starting)
    (alsoCalm : Calm sweeping) :
    ∃ middle after, Afterwards python trusted world config orchestrator now starting sweeping middle after := by
  obtain ⟨records, audit, intents⟩ := backfill_tables world.journal
  have reached := coherent.reached.housekeeping records audit intents (Or.inr rfl)
  have synced : Synced python trusted (world.reopened config orchestrator config.mode starting) :=
    opened_synced reached known (reached.durable.construct_ok built)
  have relaunched : (world.step python .stop).step python (.launch config) =
      ⟨some ⟨orchestrator, (world.reopened config orchestrator config.mode {}).service⟩,
        world.journal.backfillAdmissions, (world.reopened config orchestrator config.mode {}).log⟩ := World.relaunch built
  have starts : Ends (perform python (.start (.aware now))) (world.reopened config orchestrator config.mode starting)
      (upon python trusted (world.reopened config orchestrator config.mode starting) fun _ after =>
        Started python trusted (world.reopened config orchestrator config.mode starting) after) := start_ends now synced
  obtain ⟨middle, started, first⟩ := World.step_upon (congrArg World.process relaunched)
    (show Ends _ (World.session _ _ starting) _ by rw [relaunched]; exact starts) calm
  have sweeps : Ends (perform python (.operation (.expireDue (.aware now)))) { middle with tape := sweeping }
      (upon python trusted { middle with tape := sweeping } fun _ after =>
        Swept python trusted (ResponseRecord.due now) { middle with tape := sweeping }
          middle.orchestrator.records.keys after) :=
    upon_bind (expireDue_ends now (started.synced.tape sweeping)) fun _ _ swept _ => upon_pure swept
  obtain ⟨after, swept, second⟩ := World.step_upon (show (middle.world (.returned ())).process = _ from rfl)
    (show Ends _ (World.session _ _ sweeping) _ from sweeps) alsoCalm
  exact ⟨middle, after, started, swept, by rw [World.recovered, first, second]⟩

/-- A record that ended holds its target no more. -/
theorem due_of_ended {record : ResponseRecord} (terminal : record.state.terminal = true)
    (idle : record.pendingOperation = none) : record.due now = false := by
  cases state : record.state <;>
    simp_all [ResponseRecord.due, ResponseRecord.engaged, ResponseRecord.recoverable, ResponseState.terminal]

theorem recovered_of_ended {record : Snapshot} {later : ResponseRecord} (same : record.record.SameInput later)
    (terminal : later.state.terminal = true) (idle : later.pendingOperation = none) (elapsed : record.elapsed now) :
    Recovered now record later.asdict := by
  obtain ⟨responseId, command, expiresAt⟩ := same
  refine ⟨responseId, command, ?_, fun _ => ⟨terminal, idle⟩, fun kept => absurd elapsed kept⟩
  rw [ResponseRecord.asdict, expiresAt]
  exact rfc3339_parse _

/-- A recovery without failures ends the elapsed records and leaves the others. -/
theorem Afterwards.recovered {middle after : Session}
    (afterwards : Afterwards python trusted world config orchestrator now starting sweeping middle after)
    (records : orchestrator.records = world.journal.records.mapValues Snapshot.record)
    (good : ∀ reply ∈ starting.replies, reply.Good) (alsoGood : ∀ reply ∈ sweeping.replies, reply.Good)
    {responseId : String} {record : Snapshot} (found : world.journal.records.find? responseId = some record) :
    ∃ later, after.orchestrator.records.find? responseId = some later ∧ Recovered now record later.asdict := by
  have reloaded : orchestrator.records.find? responseId = some record.record := by
    rw [records, Table.find?_mapValues, found, Option.map_some]
  rcases pending : record.pendingOperation with _ | operation
  · have present := afterwards.started.spared reloaded pending
    by_cases elapsed : record.elapsed now
    · have due : record.record.due now = true := by
        rcases elapsed with unfinished | ⟨engaged, late⟩
        · simp [pending] at unfinished
        · have held : record.record.engaged = true := engaged_asdict.mpr (by rwa [asdict_record])
          rw [ResponseRecord.due, held, Bool.true_and]
          exact decide_eq_true late
      obtain ⟨later, there, same, terminal, idle⟩ := afterwards.swept.ended alsoGood present due
      exact ⟨later, there, recovered_of_ended same terminal idle elapsed⟩
    · have undue : record.record.due now = false := by
        by_contra due
        simp only [ResponseRecord.due, Bool.not_eq_false, Bool.and_eq_true, decide_eq_true_eq] at due
        have held := engaged_asdict.mp due.1
        rw [asdict_record] at held
        exact elapsed (Or.inr ⟨held, due.2⟩)
      refine ⟨record.record, afterwards.swept.left present undue, ?_⟩
      rw [asdict_record]
      exact ⟨rfl, rfl, rfl, fun ends => absurd ends elapsed, fun _ => rfl⟩
  · obtain ⟨started, swept, same, -⟩ := afterwards.started.swept
    obtain ⟨later, there, input, terminal, idle⟩ := swept.ended good reloaded (by
      simp [ResponseRecord.unfinished, Snapshot.record, pending])
    have elapsed : record.elapsed now := Or.inl (by simp [pending])
    refine ⟨later, afterwards.swept.left ?_ (due_of_ended terminal idle),
      recovered_of_ended input terminal idle elapsed⟩
    change middle.orchestrator.records.find? responseId = some later
    rw [same, there]

end Recovering

/-- From every store that any run leaves behind, a restart with the key ring of its commands, one recovery, and one
sweep without failures end every unfinished operation and every containment that outlived its lifetime, and change
no other record. -/
theorem recovery_ends_elapsed_containments (python : Python) (steps : List Step) (config : Config)
    (adapters : Adapters) (now : Int) (starting sweeping : Tape)
    (sameRing : ∀ step ∈ steps, step.keyed (· = config.authenticator))
    (bound : bindAdapters config.adapters = .ok adapters) (calm : Calm starting) (alsoCalm : Calm sweeping)
    (good : ∀ reply ∈ starting.replies, reply.Good) (alsoGood : ∀ reply ∈ sweeping.replies, reply.Good) :
    ((World.run python steps).recovered python config now starting sweeping).process.isSome ∧
    ((World.run python steps).recovered python config now starting sweeping).journal.records.keys =
      (World.run python steps).journal.records.keys ∧
    ∀ responseId record, (World.run python steps).journal.records.find? responseId = some record →
      ∃ later, ((World.run python steps).recovered python config now starting sweeping).journal.records.find?
        responseId = some later ∧ Recovered now record later := by
  have coherent : Coherent python _ (World.run python steps) := run_coherent steps sameRing
  obtain ⟨orchestrator, faithful⟩ := coherent.reopens bound
  obtain ⟨tables, audit, intents⟩ := backfill_tables (World.run python steps).journal
  have durable := (coherent.reached.housekeeping tables audit intents (Or.inr rfl)).durable
  have records := (durable.construct_ok faithful.constructed).records
  rw [tables] at records
  obtain ⟨middle, after, afterwards⟩ := coherent.recovers now rfl faithful.constructed calm alsoCalm
  have mirror := afterwards.swept.synced.mirror
  rw [afterwards.world]
  refine ⟨rfl, ?_, fun responseId record found => ?_⟩
  · change after.journal.records.keys = _
    obtain ⟨started, swept, same, -⟩ := afterwards.started.swept
    rw [← mirror, Session.view, Table.keys_mapValues, afterwards.swept.keys]
    change middle.orchestrator.records.keys = _
    rw [same, swept.keys]
    change orchestrator.records.keys = _
    rw [records, Table.keys_mapValues]
  · obtain ⟨later, present, recovered⟩ := afterwards.recovered records good alsoGood found
    refine ⟨later.asdict, ?_, recovered⟩
    change after.journal.records.find? responseId = _
    rw [← mirror, Session.view, Table.find?_mapValues, present, Option.map_some]

/-- The lab containment is stored, and it outlives its lifetime. -/
theorem labSteps_elapses : ((World.run labPython labSteps).journal.records.find? "resp-ff79968c49633feffb257582").any
    (fun record => decide (record.state = .verified) && decide (record.expiresAt.parse ≤ labExpiry)) = true := by
  decide +kernel

theorem labSteps_sameRing : ∀ step ∈ labSteps, step.keyed (· = (labConfig .observe).authenticator) := by
  intro step member
  simp only [labSteps, List.mem_cons, List.not_mem_nil, or_false] at member
  rcases member with rfl | rfl | rfl | rfl <;> trivial

/-- A restart at its end reverts the lab containment. -/
theorem recovery_ends_elapsed_containments_lab :
    ∃ later, ((World.run labPython labSteps).recovered labPython (labConfig .observe) labExpiry {} {}).journal.records.find?
      "resp-ff79968c49633feffb257582" = some later ∧ later.state.terminal = true := by
  have facts := labSteps_elapses
  rw [Option.any_eq_true] at facts
  obtain ⟨record, found, holds⟩ := facts
  rw [Bool.and_eq_true, decide_eq_true_eq, decide_eq_true_eq] at holds
  obtain ⟨later, present, recovered⟩ := (recovery_ends_elapsed_containments labPython labSteps (labConfig .observe)
    ⟨"vyos", "wazuh", by decide⟩ labExpiry {} {} labSteps_sameRing (by decide +kernel) calm_empty calm_empty
    (by simp) (by simp)).2.2 _ record found
  exact ⟨later, present, (recovered.ended (Or.inr ⟨Or.inr (Or.inr (Or.inr holds.1)), holds.2⟩)).1⟩

end ClosedLoop.Response
