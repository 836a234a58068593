import ClosedLoop.Construction.Response.Store

namespace ClosedLoop.Response

open ClosedLoop.Library

/-- The identifier that a commit adds to the apply intents. -/
def newIntents (record : Snapshot) (event : Option AuditEvent) : List String :=
  if event = none ∧ record.pendingOperation = some .apply then [record.responseId] else []

/-- The row that a commit adds to the admissions. -/
def newAdmissions (journal : Journal) : Option AuditEvent → Table String Admission
  | none => []
  | some event =>
      if event.transitionNumber = 1 ∧ event.responseId ∉ journal.admissions.keys then
        [(event.responseId, ⟨event.policyId, event.timestamp⟩)]
      else []

/-- What a committed transaction changes in the tables. -/
structure Committed (journal : Journal) (record : Snapshot) (event : Option AuditEvent) (next : Journal) :
    Prop where
  records : next.records = journal.records.upsert record.responseId record
  audit : next.audit = journal.audit ++ event.toList
  applyIntents : next.applyIntents = journal.applyIntents ++ newIntents record event
  admissions : next.admissions = journal.admissions ++ newAdmissions journal event

/-- A claimed intent is the only change of the journal. -/
theorem claimIntent_ok {journal next : Journal} {record : Snapshot} {event : Option AuditEvent}
    (claimed : journal.claimIntent record event = .ok next) :
    next = { journal with applyIntents := journal.applyIntents ++ newIntents record event } := by
  unfold Journal.claimIntent at claimed
  unfold newIntents
  split at claimed
  · rename_i intent
    rw [if_pos intent]
    split at claimed
    · cases claimed
    · exact (Except.ok.inj claimed).symm
  · rename_i plain
    rw [if_neg plain, List.append_nil]
    exact (Except.ok.inj claimed).symm

/-- An admission changes the admissions only. -/
theorem recordAdmission_tables (journal : Journal) (event : AuditEvent) :
    (journal.recordAdmission event).records = journal.records ∧
      (journal.recordAdmission event).audit = journal.audit ∧
      (journal.recordAdmission event).applyIntents = journal.applyIntents := by
  unfold Journal.recordAdmission
  split <;> exact ⟨rfl, rfl, rfl⟩

/-- An event that is appended comes last and may admit its response. -/
theorem appendAudit_ok {journal next : Journal} {record : Snapshot} {event : AuditEvent}
    (appended : journal.appendAudit record event = .ok next) :
    next.records = journal.records ∧ next.audit = journal.audit ++ [event] ∧
      next.applyIntents = journal.applyIntents ∧
      next.admissions = journal.admissions ++ newAdmissions journal (some event) := by
  unfold Journal.appendAudit at appended
  simp only [Check.bind_ok, Check.pure_ok] at appended
  obtain ⟨_, -, _, -, same⟩ := appended
  subst same
  unfold newAdmissions Journal.recordAdmission
  by_cases first : event.transitionNumber = 1
  · by_cases known : event.responseId ∈ journal.admissions.keys <;> simp [first, known]
  · simp [first]

/-- A record that is written is the only change of the journal. -/
theorem writeRecord_ok {journal next : Journal} {record : Snapshot}
    (written : journal.writeRecord record = .ok next) :
    next = { journal with records := journal.records.upsert record.responseId record } := by
  unfold Journal.writeRecord at written
  simp only [Check.bind_ok, Check.pure_ok] at written
  obtain ⟨_, -, same⟩ := written
  exact same.symm

/-- An accepted transaction changes one row, one history, and perhaps one intent. -/
theorem checkpoint_ok {journal next : Journal} {record : Snapshot} {event : Option AuditEvent}
    (accepted : journal.checkpoint record event = .ok next) : Committed journal record event next := by
  unfold Journal.checkpoint at accepted
  simp only [Check.bind_ok] at accepted
  obtain ⟨claimed, claim, appended, append, _, -, write⟩ := accepted
  have claimedIs := claimIntent_ok claim
  have written := writeRecord_ok write
  subst written
  cases event with
  | none =>
      cases append
      subst claimedIs
      exact ⟨rfl, by simp, rfl, by simp [newAdmissions]⟩
  | some payload =>
      obtain ⟨records, audit, intents, admissions⟩ := appendAudit_ok append
      subst claimedIs
      exact ⟨by rw [records], by simpa using audit, intents, admissions⟩

/-- The audit rows of one response in the order of their commits. -/
def Journal.history (journal : Journal) (responseId : String) : List AuditEvent :=
  journal.audit.filter (·.responseId = responseId)

namespace Committed

variable {journal next : Journal} {record : Snapshot} {event : Option AuditEvent}

/-- The committed record is stored. -/
theorem find_self (committed : Committed journal record event next) :
    next.records.find? record.responseId = some record := by
  rw [committed.records, Table.find?_upsert_self]

/-- Every other record is as before. -/
theorem find_other (committed : Committed journal record event next) {other : String}
    (different : other ≠ record.responseId) : next.records.find? other = journal.records.find? other := by
  rw [committed.records, Table.find?_upsert_of_ne _ _ different]

/-- A row after the commit is the new row or a row of another response. -/
theorem find_cases (committed : Committed journal record event next) {other : String} {found : Snapshot}
    (present : next.records.find? other = some found) :
    (other = record.responseId ∧ found = record) ∨
      (other ≠ record.responseId ∧ journal.records.find? other = some found) := by
  by_cases same : other = record.responseId
  · rw [same, committed.find_self] at present
    exact Or.inl ⟨same, (Option.some.inj present).symm⟩
  · rw [committed.find_other same] at present
    exact Or.inr ⟨same, present⟩

/-- The event is the last of its response's history. -/
theorem history_append (committed : Committed journal record event next) (responseId : String) :
    next.history responseId = journal.history responseId ++ event.toList.filter (·.responseId = responseId) := by
  rw [Journal.history, committed.audit, List.filter_append]
  rfl

/-- The intents of other responses are as before. -/
theorem intent_other (committed : Committed journal record event next) {other : String}
    (different : other ≠ record.responseId) : other ∈ next.applyIntents ↔ other ∈ journal.applyIntents := by
  rw [committed.applyIntents, List.mem_append, newIntents]
  split <;> simp [different]

end Committed

/-- A history whose numbers count up is already in the order of its numbers. -/
theorem events_eq_history {journal : Journal} {responseId : String}
    (numbered : (journal.history responseId).Pairwise fun first second =>
      first.transitionNumber ≤ second.transitionNumber) :
    journal.events responseId = journal.history responseId :=
  numbered.insertionSort_eq

end ClosedLoop.Response
