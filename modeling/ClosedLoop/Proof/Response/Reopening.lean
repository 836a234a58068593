import ClosedLoop.Proof.Response.Steady

namespace ClosedLoop.Response

open ClosedLoop.Library

variable {python : Python} {trusted : CommandAuthenticator → Prop} {journal : Journal} {config : Config}

/-- The committed form of a reloaded record is the stored one. -/
@[simp] theorem asdict_record (snapshot : Snapshot) : snapshot.record.asdict = snapshot := by
  simp [Snapshot.record, ResponseRecord.asdict]

/-- A reloaded record is the stored one. -/
theorem reloadRecord_ok {authenticator : CommandAuthenticator} {snapshot : Snapshot} {record : ResponseRecord}
    (reloaded : reloadRecord python authenticator journal snapshot = .ok record) : record = snapshot.record := by
  unfold reloadRecord at reloaded
  simp only [Check.bind_ok] at reloaded
  obtain ⟨_, -, rest⟩ := reloaded
  split at rest
  · cases rest
  · simp only [Check.bind_ok, Check.pure_ok] at rest
    obtain ⟨_, -, _, -, same⟩ := rest
    exact same.symm

/-- Every stored record of a store in order is reloaded by its key ring. -/
theorem Durable.reloadRecord {authenticator : CommandAuthenticator}
    (durable : Durable python (· = authenticator) journal) {responseId : String} {snapshot : Snapshot}
    (found : journal.records.find? responseId = some snapshot) :
    reloadRecord python authenticator journal snapshot = .ok snapshot.record := by
  have chronicle := durable.chronicle _ _ found
  have key := durable.keyed _ _ found
  obtain ⟨first, head, _, rfl, signed⟩ := chronicle.signed
  unfold Response.reloadRecord
  simp only [Check.bind_ok, Check.guard_ok]
  refine ⟨(), by rw [key]; exact durable.identified _ _ found, ?_⟩
  rw [key, durable.events, Option.mem_def.mp head]
  simp only [Check.bind_ok, Check.guard_ok, Check.pure_ok, and_true]
  refine ⟨(), signed, (), ?_⟩
  rw [Snapshot.record, rfc3339_parse]
  exact chronicle.described

/-- What the constructor has read from the store. -/
structure Reopened (config : Config) (journal : Journal) (orchestrator : Orchestrator) : Prop where
  catalog : orchestrator.catalog = config.catalog
  authenticator : orchestrator.authenticator = config.authenticator
  running : orchestrator.storageFailed = false
  records : orchestrator.records = journal.records.mapValues Snapshot.record

/-- The rows of the reload are the rows of the store. -/
theorem Durable.reloaded (durable : Durable python trusted journal) {authenticator : CommandAuthenticator}
    {records : List (String × ResponseRecord)}
    (checked : journal.records.mapM (fun row => do
      let record ← Response.reloadRecord python authenticator journal row.2
      return (record.responseId, record)) = .ok records) : records = journal.records.mapValues Snapshot.record := by
  rw [Check.mapM_ok] at checked
  have rows : ∀ row ∈ journal.records, row.2.responseId = row.1 := fun row member =>
    durable.keyed _ _ (Table.find?_of_mem durable.distinct (show (row.1, row.2) ∈ _ from member))
  have pairs : List.Forall₂ (fun row reloaded => row.2.responseId = row.1 → reloaded = (row.1, row.2.record))
      journal.records records := by
    refine checked.imp fun row reloaded passed key => ?_
    simp only [Check.bind_ok, Check.pure_ok] at passed
    obtain ⟨record, passed, rfl⟩ := passed
    rw [reloadRecord_ok passed, ← key]
    rfl
  clear checked durable
  revert rows
  generalize journal.records = stored at pairs
  induction pairs with
  | nil => exact fun _ => rfl
  | cons head tail ih =>
      intro rows
      rw [head (rows _ List.mem_cons_self), ih fun row member => rows row (List.mem_cons_of_mem _ member)]
      rfl

/-- A constructed orchestrator holds exactly the committed records. -/
theorem Durable.construct_ok (durable : Durable python trusted journal) {orchestrator : Orchestrator}
    (built : construct python config journal = .ok orchestrator) : Reopened config journal orchestrator := by
  unfold construct at built
  simp only [Check.bind_ok, Check.pure_ok] at built
  obtain ⟨adapters, -, snapshots, loaded, records, reloaded, same⟩ := built
  unfold Journal.load at loaded
  simp only [Check.bind_ok, Check.pure_ok] at loaded
  obtain ⟨_, -, rfl⟩ := loaded
  have recordsAre := durable.reloaded reloaded
  subst recordsAre same
  refine ⟨rfl, rfl, rfl, ?_⟩
  rw [Table.foldl_upsert]
  · rfl
  · rw [List.nil_append, Table.keys_mapValues]
    exact durable.distinct

/-- The constructor never fails on a store in order with the key ring that signed its commands. -/
theorem Durable.construct (durable : Durable python (· = config.authenticator) journal) {adapters : Adapters}
    (bound : bindAdapters config.adapters = .ok adapters) :
    ∃ orchestrator, construct python config journal = .ok orchestrator := by
  have loaded : journal.load = .ok journal.records := by
    unfold Journal.load
    simp only [Check.bind_ok, Check.guard_ok, Check.pure_ok, and_true, exists_const]
    intro row member
    exact durable.matchesLatest (Table.find?_of_mem durable.distinct (show (row.1, row.2) ∈ _ from member))
  have reloaded : journal.records.mapM (fun row => do
      let record ← Response.reloadRecord python config.authenticator journal row.2
      return (record.responseId, record)) =
      .ok (journal.records.map fun row => (row.2.record.responseId, row.2.record)) := by
    rw [Check.mapM_ok, List.forall₂_map_right_iff, List.forall₂_same]
    intro row member
    simp only [Check.bind_ok, Check.pure_ok]
    exact ⟨_, durable.reloadRecord (Table.find?_of_mem durable.distinct (show (row.1, row.2) ∈ _ from member)), rfl⟩
  unfold Response.construct
  simp only [Check.bind_ok, Check.pure_ok]
  exact ⟨_, adapters, bound, _, loaded, _, reloaded, rfl⟩

/-- The admissions are no part of the tables that the invariant is about. -/
theorem backfill_tables (journal : Journal) :
    journal.backfillAdmissions.records = journal.records ∧ journal.backfillAdmissions.audit = journal.audit ∧
      journal.backfillAdmissions.applyIntents = journal.applyIntents := by
  have fold : ∀ (events : List AuditEvent) (start : Journal),
      (events.foldl Journal.recordAdmission start).records = start.records ∧
        (events.foldl Journal.recordAdmission start).audit = start.audit ∧
        (events.foldl Journal.recordAdmission start).applyIntents = start.applyIntents := by
    intro events
    induction events with
    | nil => exact fun _ => ⟨rfl, rfl, rfl⟩
    | cons event rest ih =>
        intro start
        obtain ⟨records, audit, intents⟩ := ih (start.recordAdmission event)
        obtain ⟨headRecords, headAudit, headIntents⟩ := recordAdmission_tables start event
        exact ⟨records.trans headRecords, audit.trans headAudit, intents.trans headIntents⟩
  unfold Journal.backfillAdmissions
  split
  · exact ⟨rfl, rfl, rfl⟩
  · exact fold _ _

section Worlds

/-- A world is coherent when its store is reached and its live process is in sync or halted. -/
structure Coherent (python : Python) (trusted : CommandAuthenticator → Prop) (world : World) : Prop where
  reached : Reached python trusted world.journal world.log
  live : ∀ process ∈ world.process, ∀ tape, Steady python trusted (world.session process tape)

/-- Every launch of a step uses a trusted key ring. -/
def Step.keyed (trusted : CommandAuthenticator → Prop) : Step → Prop
  | .launch config => trusted config.authenticator
  | _ => True

variable {world : World}

theorem World.step_idle {call : Call} {tape : Tape} (idle : world.process = none) :
    world.step python (.call call tape) = world := by
  simp [World.step, idle]

theorem World.step_live {call : Call} {tape : Tape} (process : Process) (live : world.process = some process) :
    world.step python (.call call tape) = (perform python call (world.session process tape)).2.world
      (perform python call (world.session process tape)).1 := by
  simp [World.step, live]

/-- The session of a process that has just opened the store. -/
theorem opened_synced {orchestrator : Orchestrator} {service : Service} {tape : Tape}
    (reached : Reached python trusted journal world.log) (known : trusted config.authenticator)
    (reopened : Reopened config journal orchestrator) :
    Synced python trusted ⟨orchestrator, service, journal, tape,
      world.log ++ [⟨.opened, config.catalog, config.authenticator, journal⟩]⟩ := by
  refine ⟨reopened.running, reopened.authenticator ▸ known, reached.observe rfl trivial, ?_, ?_⟩
  · rw [Session.view, reopened.records, Table.mapValues_mapValues]
    have same : ResponseRecord.asdict ∘ Snapshot.record = id := funext asdict_record
    rw [same]
    simp [Table.mapValues]
  · rw [raisedSinceOpen_append]

theorem Coherent.launch (coherent : Coherent python trusted world) (known : trusted config.authenticator) :
    Coherent python trusted (world.launch python config) := by
  unfold World.launch
  split
  · exact coherent
  · rename_i idle
    obtain ⟨records, audit, intents⟩ := backfill_tables world.journal
    have reached := coherent.reached.housekeeping records audit intents (Or.inr rfl)
    dsimp only
    split
    · refine ⟨reached, fun process member => ?_⟩
      simp [idle] at member
    · rename_i orchestrator built
      have reopened := reached.durable.construct_ok built
      refine ⟨reached.observe rfl trivial, fun process member tape => ?_⟩
      cases member
      exact Or.inl (opened_synced reached known reopened)

theorem Coherent.call (coherent : Coherent python trusted world) {process : Process}
    (live : world.process = some process) (call : Call) (tape : Tape) :
    Coherent python trusted (((perform python call) (world.session process tape)).2.world
      ((perform python call) (world.session process tape)).1) := by
  have ended := perform_sane call (coherent.live process live tape)
  unfold Program.Ends at ended
  rcases result : perform python call (world.session process tape) with ⟨outcome, after⟩
  rw [result] at ended
  have steadily : Steady python trusted after → outcome ≠ .crashed →
      Coherent python trusted (after.world outcome) := by
    intro steady alive
    refine ⟨steady.reached, fun other member tape => ?_⟩
    simp only [Session.world, if_neg alive] at member
    cases member
    exact steady.tape tape
  cases outcome with
  | returned value => exact steadily ended (by simp)
  | raised error => exact steadily ended.2 (by simp)
  | crashed => exact ⟨ended, fun other member => by simp [Session.world] at member⟩

/-- One step keeps a world coherent. -/
theorem Coherent.step (coherent : Coherent python trusted world) {step : Step} (keyed : step.keyed trusted) :
    Coherent python trusted (world.step python step) := by
  cases step with
  | launch config => exact coherent.launch keyed
  | stop => exact ⟨coherent.reached, fun process member => by simp [World.step] at member⟩
  | call call tape =>
      rcases live : world.process with _ | process
      · rw [World.step_idle live]
        exact coherent
      · rw [World.step_live _ live]
        exact coherent.call live call tape

/-- Every run from an empty store is coherent. -/
theorem run_coherent (steps : List Step) (keyed : ∀ step ∈ steps, step.keyed trusted) :
    Coherent python trusted (World.run python steps) := by
  have from_ : ∀ (world : World), Coherent python trusted world →
      Coherent python trusted (steps.foldl (World.step python) world) := by
    induction steps with
    | nil => exact fun _ coherent => coherent
    | cons step rest ih =>
        intro world coherent
        exact ih (fun other member => keyed other (List.mem_cons_of_mem _ member)) _
          (coherent.step (keyed step List.mem_cons_self))
  exact from_ {} ⟨Reached.empty, fun process member => by simp at member⟩

end Worlds

end ClosedLoop.Response
