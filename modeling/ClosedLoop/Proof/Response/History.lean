import ClosedLoop.Proof.Response.Reopening

namespace ClosedLoop.Response

open ClosedLoop.Library

variable {python : Python} {trusted : CommandAuthenticator → Prop} {journal : Journal} {log : List Entry}

instance (entry : Entry) (responseId : String) : Decidable (entry.applies responseId) :=
  decidable_of_iff ((match entry.occurrence with
    | .invoked .apply record _ => decide (record.responseId = responseId)
    | _ => false) = true) (by
      unfold Entry.applies
      split
      · simp_all
      · rename_i other
        refine ⟨by simp, ?_⟩
        rintro ⟨record, now, seen, -⟩
        exact absurd seen (other record now))

/-- The store of each log entry is reached by the log up to this entry. -/
theorem Reached.entries (reached : Reached python trusted journal log) :
    Always (fun earlier entry => Reached python trusted entry.journal (earlier ++ [entry])) log := by
  induction reached with
  | empty => exact Always.nil _
  | observe reached present harmless ih =>
      refine ih.snoc ?_
      rw [present]
      exact reached.observe present harmless
  | commit reached change accepted seen present ih =>
      refine ih.snoc ?_
      rw [present]
      exact reached.commit change accepted seen present
  | housekeeping _ _ _ _ _ ih => exact ih

/-- Every call of `adapter.apply` had its warrant. -/
theorem Reached.warranted (reached : Reached python trusted journal log) :
    Always (fun earlier entry => ∀ record now, entry.occurrence = .invoked .apply record now →
      Warrant python earlier entry record now) log := by
  induction reached with
  | empty => exact Always.nil _
  | observe _ _ harmless ih =>
      refine ih.snoc fun record now seen => ?_
      simpa only [Harmless, seen] using harmless
  | commit _ _ _ seen _ ih =>
      refine ih.snoc fun record now other => ?_
      rw [seen] at other
      cases other
  | housekeeping _ _ _ _ _ ih => exact ih

/-- The store accepted every event that it checked. -/
theorem Reached.validated_ok (reached : Reached python trusted journal log) :
    ∀ entry ∈ log, ∀ event verdict, entry.occurrence = .validated event verdict → verdict = .ok () := by
  have always : Always (fun _ entry => ∀ event verdict, entry.occurrence = .validated event verdict →
      verdict = .ok ()) log := by
    induction reached with
    | empty => exact Always.nil _
    | observe _ _ harmless ih =>
        refine ih.snoc fun event verdict seen => ?_
        simpa only [Harmless, seen] using harmless
    | commit _ _ _ seen _ ih =>
        refine ih.snoc fun event verdict other => ?_
        rw [seen] at other
        cases other
    | housekeeping _ _ _ _ _ ih => exact ih
  intro entry member
  obtain ⟨_, _, _, holds⟩ := always.of_mem member
  exact holds

/-- The record of the last commit for a response. -/
def lastCommitted (log : List Entry) (responseId : String) : Option Snapshot :=
  log.foldl (fun last entry => match entry.occurrence with
    | .committed record _ => if record.responseId = responseId then some record else last
    | _ => last) none

theorem lastCommitted_append (entry : Entry) (responseId : String) :
    lastCommitted (log ++ [entry]) responseId = match entry.occurrence with
      | .committed record _ => if record.responseId = responseId then some record else lastCommitted log responseId
      | _ => lastCommitted log responseId := by
  unfold lastCommitted
  rw [List.foldl_append]
  rfl

/-- The stored record of a response is the record of its last commit. -/
theorem Reached.lastCommitted (reached : Reached python trusted journal log) (responseId : String) :
    journal.records.find? responseId = Response.lastCommitted log responseId := by
  induction reached with
  | empty => rfl
  | @observe journal log entry _ _ harmless ih =>
      rw [lastCommitted_append, ih]
      split
      · rename_i record event seen
        simp [Harmless, seen] at harmless
      · rfl
  | commit _ _ accepted seen _ ih =>
      rw [lastCommitted_append, seen, (checkpoint_ok accepted).records, Table.find?_upsert, ih]
      simp only [eq_comm]
  | housekeeping _ records _ _ _ ih => rw [records, ih]

/-- A response with a commit has a stored record. -/
theorem Reached.recorded (reached : Reached python trusted journal log) {entry : Entry} {record : Snapshot}
    {event : Option AuditEvent} (member : entry ∈ log) (seen : entry.occurrence = .committed record event) :
    ∃ stored, journal.records.find? record.responseId = some stored := by
  induction reached with
  | empty => simp at member
  | observe _ _ harmless ih =>
      rcases List.mem_append.mp member with before | same
      · exact ih before
      · rw [List.mem_singleton] at same
        subst same
        simp [Harmless, seen] at harmless
  | commit _ _ accepted here _ ih =>
      rw [(checkpoint_ok accepted).records, Table.find?_upsert]
      rcases List.mem_append.mp member with before | same
      · split
        · exact ⟨_, rfl⟩
        · exact ih before
      · rw [List.mem_singleton] at same
        subst same
        rw [seen] at here
        cases here
        simp
  | housekeeping _ records _ _ _ ih =>
      rw [records]
      exact ih member

/-- The entry commits the first event of a response. -/
def Entry.requests (entry : Entry) (record : Snapshot) : Prop :=
  ∃ event, entry.occurrence = .committed record (some event) ∧ event.state = .requested

/-- The first event of a response is committed once. -/
theorem Reached.requestedOnce (reached : Reached python trusted journal log) :
    Always (fun earlier entry => ∀ record, entry.requests record →
      ∀ other ∈ earlier, ∀ found event, other.occurrence = .committed found event →
        found.responseId ≠ record.responseId) log := by
  induction reached with
  | empty => exact Always.nil _
  | observe _ _ harmless ih =>
      refine ih.snoc ?_
      rintro record ⟨event, seen, -⟩
      simp [Harmless, seen] at harmless
  | @commit journal next log entry record event reached change accepted here _ ih =>
      refine ih.snoc ?_
      rintro found ⟨payload, seen, state⟩ other member earlier former before same
      rw [here] at seen
      cases seen
      obtain ⟨stored, present⟩ := reached.recorded member before
      rw [same] at present
      rw [present] at change
      have legal := change.legal (reached.durable.sound _ _ present)
      have permitted := legal.permitted
      rw [← legal.stamp.state, state] at permitted
      exact (allowed_previous stored.state).1 permitted
  | housekeeping _ _ _ _ _ ih => exact ih

/-- The log shows how the submission of a record was admitted. -/
structure Granted (python : Python) (log : List Entry) (record : Snapshot) (before : List Entry)
    (requested authorized : Entry) (after : List Entry) (granted : Snapshot) (raw : Json) (now : Int)
    (event : AuditEvent) : Prop where
  split : log = before ++ requested :: authorized :: after
  admitted : Admitted python (before ++ [requested]) authorized.catalog authorized.authenticator granted raw now event
  requests : requested.occurrence = .committed { granted with authorized := false } (some event)
  authorizes : authorized.occurrence = .committed granted none
  marked : granted.authorized = true
  responseId : granted.responseId = record.responseId
  command : granted.command = record.command

theorem Granted.later {record other : Snapshot} {before after more : List Entry} {requested authorized : Entry}
    {granted : Snapshot} {raw : Json} {now : Int} {event : AuditEvent}
    (grant : Granted python log record before requested authorized after granted raw now event)
    (responseId : other.responseId = record.responseId) (command : other.command = record.command) :
    Granted python (log ++ more) other before requested authorized (after ++ more) granted raw now event :=
  ⟨by rw [grant.split]; simp, grant.admitted, grant.requests, grant.authorizes, grant.marked,
    grant.responseId.trans responseId.symm, grant.command.trans command.symm⟩

/-- A change other than an authorization keeps the mark of its record. -/
theorem Change.mark {records : Table String Snapshot} {catalog : PolicyCatalog}
    {authenticator : CommandAuthenticator} {old : Option Snapshot} {new : Snapshot} {event : Option AuditEvent}
    (change : Change python trusted records log catalog authenticator old new event)
    (marked : new.authorized = true) :
    (∃ before, old = some before ∧ before.authorized = true ∧ new.responseId = before.responseId ∧
      new.command = before.command) ∨
    (event = none ∧ ∃ raw now first, Admitted python log catalog authenticator new raw now first) := by
  cases change with
  | request _ _ _ unauthorized => simp [unauthorized] at marked
  | authorize _ admitted => exact Or.inr ⟨rfl, _, _, _, admitted⟩
  | decline => exact Or.inl ⟨_, rfl, marked, rfl, rfl⟩
  | intendApply => exact Or.inl ⟨_, rfl, marked, rfl, rfl⟩
  | intendRevert => exact Or.inl ⟨_, rfl, marked, rfl, rfl⟩
  | confirmApply => exact Or.inl ⟨_, rfl, marked, rfl, rfl⟩
  | confirmVerify => exact Or.inl ⟨_, rfl, marked, rfl, rfl⟩
  | breakOff => exact Or.inl ⟨_, rfl, marked, rfl, rfl⟩
  | conclude => exact Or.inl ⟨_, rfl, marked, rfl, rfl⟩

/-- Every authorized record was admitted by one submission. -/
theorem Reached.granted (reached : Reached python trusted journal log) {responseId : String} {record : Snapshot}
    (found : journal.records.find? responseId = some record) (marked : record.authorized = true) :
    ∃ before requested authorized after granted raw now event,
      Granted python log record before requested authorized after granted raw now event := by
  induction reached generalizing responseId record with
  | empty => simp [Table.find?] at found
  | observe _ _ _ ih =>
      obtain ⟨before, requested, authorized, after, granted, raw, now, event, grant⟩ := ih found marked
      exact ⟨before, requested, authorized, _, granted, raw, now, event, grant.later rfl rfl⟩
  | @commit journal next log entry new event reached change accepted seen _ ih =>
      rcases (checkpoint_ok accepted).find_cases found with ⟨-, rfl⟩ | ⟨-, present⟩
      · rcases change.mark marked with ⟨old, stored, oldMarked, sameId, sameCommand⟩ | ⟨rfl, raw, now, first, admitted⟩
        · obtain ⟨before, requested, authorized, after, granted, raw, now, event, grant⟩ := ih stored oldMarked
          exact ⟨before, requested, authorized, _, granted, raw, now, event, grant.later sameId sameCommand⟩
        · obtain ⟨before, called, validated, requested, split, call, valid, request, limit⟩ := admitted.submitted
          refine ⟨before ++ [called, validated], requested, entry, [], record, raw, now, first, ?_, ?_, request, seen,
            marked, rfl, rfl⟩
          · rw [split]
            simp
          · rw [List.append_assoc]
            exact split ▸ admitted
      · obtain ⟨before, requested, authorized, after, granted, raw, now, event, grant⟩ := ih present marked
        exact ⟨before, requested, authorized, _, granted, raw, now, event, grant.later rfl rfl⟩
  | housekeeping _ records _ _ _ ih =>
      rw [records] at found
      exact ih found marked

end ClosedLoop.Response
