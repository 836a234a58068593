import ClosedLoop.Proof.Response.Invariant

namespace ClosedLoop.Response

open ClosedLoop.Library

/-- No two records with different keys hold the same target. -/
def Separate (python : Python) (records : Table String Snapshot) : Prop :=
  ∀ first ∈ records, ∀ second ∈ records, first.1 ≠ second.1 → first.2.engaged → second.2.engaged →
    identity python first.2.command ≠ identity python second.2.command

/-- What holds of the committed tables after every commit. -/
structure Durable (python : Python) (trusted : CommandAuthenticator → Prop) (journal : Journal) : Prop where
  distinct : journal.records.keys.Nodup
  keyed : ∀ responseId record, journal.records.find? responseId = some record → record.responseId = responseId
  identified : ∀ responseId record, journal.records.find? responseId = some record →
    responseId = responseIdOf python record.command.idempotencyKey
  sound : ∀ responseId record, journal.records.find? responseId = some record →
    Sound journal.applyIntents record
  chronicle : ∀ responseId record, journal.records.find? responseId = some record →
    Chronicle python trusted (journal.history responseId) record
  silent : ∀ responseId, journal.records.find? responseId = none →
    journal.history responseId = [] ∧ responseId ∉ journal.applyIntents
  separate : Separate python journal.records

/-- A response has an identifier. -/
theorem responseIdOf_ne_empty (python : Python) (key : String) : responseIdOf python key ≠ "" := by
  intro empty
  have lengths := congrArg String.length empty
  simp [responseIdOf, String.length_append] at lengths

section Changes

variable {python : Python} {trusted : CommandAuthenticator → Prop} {records : Table String Snapshot}
  {log : List Entry} {catalog : PolicyCatalog} {authenticator : CommandAuthenticator} {old : Option Snapshot} {new : Snapshot} {event : Option AuditEvent}

/-- A record that holds its target held it before, or took a free one. -/
theorem Change.engaged (change : Change python trusted records log catalog authenticator old new event) (engaged : new.engaged) :
    (∃ before, old = some before ∧ before.engaged ∧ new.command = before.command) ∨
      ∀ row ∈ records, row.1 ≠ new.responseId → row.2.engaged →
        identity python row.2.command ≠ identity python new.command := by
  cases change with
  | request identified waiting =>
      obtain ⟨state, reference, idle⟩ := waiting
      simp [Snapshot.engaged, state, idle] at engaged
  | @authorize old _ _ _ waiting =>
      obtain ⟨state, reference, idle⟩ := waiting
      simp [Snapshot.engaged, state, idle] at engaged
  | @decline old _ waiting =>
      obtain ⟨state, reference, idle⟩ := waiting
      simp [Snapshot.engaged, Snapshot.moved, reference, idle] at engaged
  | @intendApply old _ _ waiting authorized named free => exact Or.inr free
  | @intendRevert old _ before => exact Or.inl ⟨old, rfl, before, rfl⟩
  | @confirmApply old _ _ pending => exact Or.inl ⟨old, rfl, Or.inl (by simp [pending]), rfl⟩
  | @confirmVerify old _ state => exact Or.inl ⟨old, rfl, Or.inr (Or.inr (Or.inl state)), rfl⟩
  | @breakOff old _ pending => exact Or.inl ⟨old, rfl, Or.inl pending, rfl⟩
  | @conclude old terminal _ pending ends =>
      cases terminal <;> simp_all [Snapshot.engaged, Snapshot.cleared, Snapshot.moved, ResponseState.terminal]

/-- A change keeps the identity and the input of its record. -/
theorem Change.input {before : Snapshot}
    (change : Change python trusted records log catalog authenticator (some before) new event) :
    new.responseId = before.responseId ∧ new.command = before.command ∧ new.expiresAt = before.expiresAt := by
  cases change <;> exact ⟨rfl, rfl, rfl⟩

/-- A change's event is about its record. -/
theorem Change.responseId {payload : AuditEvent}
    (change : Change python trusted records log catalog authenticator old new (some payload)) :
    payload.responseId = new.responseId := by
  cases change with
  | request identified waiting first unauthorized stamp signed => exact stamp.responseId
  | decline waiting stamp failure => exact stamp.responseId
  | confirmApply pending state named stamp application => exact stamp.responseId
  | confirmVerify state idle stamp application proven => exact stamp.responseId
  | breakOff pending stamp failure => exact stamp.responseId
  | conclude pending ends expiry stamp rollback => exact stamp.responseId

/-- A new row keeps the targets separate if it takes no target of another row. -/
theorem Separate.upsert {key : String} (separate : Separate python records) (distinct : records.keys.Nodup)
    (apart : ∀ row ∈ records, row.1 ≠ key → row.2.engaged → new.engaged →
      identity python row.2.command ≠ identity python new.command) :
    Separate python (records.upsert key new) := by
  intro first firstMember second secondMember different firstHeld secondHeld
  rcases Table.mem_upsert distinct firstMember with firstIs | ⟨firstOld, firstOther⟩
  · rcases Table.mem_upsert distinct secondMember with secondIs | ⟨secondOld, secondOther⟩
    · exact absurd (by rw [firstIs, secondIs]) different
    · subst firstIs
      exact (apart second secondOld secondOther secondHeld firstHeld).symm
  · rcases Table.mem_upsert distinct secondMember with secondIs | ⟨secondOld, secondOther⟩
    · subst secondIs
      exact apart first firstOld firstOther firstHeld secondHeld
    · exact separate first firstOld second secondOld different firstHeld secondHeld

variable (new) in
/-- A change keeps the targets of the records separate. -/
theorem Change.separate
    (change : Change python trusted records log catalog authenticator (records.find? new.responseId) new event)
    (distinct : records.keys.Nodup) (separate : Separate python records) :
    Separate python (records.upsert new.responseId new) := by
  refine separate.upsert distinct fun row member different held engaged => ?_
  rcases change.engaged engaged with ⟨before, found, heldBefore, same⟩ | free
  · rw [same]
    exact separate row member (new.responseId, before) (Table.mem_of_find? found) different held heldBefore
  · exact free row member different held

variable {journal next : Journal}

/-- A change keeps the history of its record. -/
theorem Change.chronicle (durable : Durable python trusted journal)
    (change : Change python trusted journal.records log catalog authenticator
      (journal.records.find? new.responseId) new event) :
    Chronicle python trusted (journal.history new.responseId ++ event.toList) new := by
  rcases found : journal.records.find? new.responseId with _ | before
  · rw [found] at change
    cases change with
    | request identified waiting first unauthorized stamp signed =>
        rw [(durable.silent _ found).1]
        exact chronicle_first stamp waiting.1 first signed
  · have chronicle := durable.chronicle _ _ found
    rw [found] at change
    cases event with
    | none =>
        obtain ⟨_, same, _, command, expiresAt, state, number⟩ := change.silent
        cases same
        simpa using chronicle.keep command expiresAt state number
    | some payload => exact (change.legal (durable.sound _ _ found)).chronicle chronicle

variable (new) in
/-- The store never rejects the event of a change. -/
theorem Change.validates (durable : Durable python trusted journal) {payload : AuditEvent}
    (change : Change python trusted journal.records log catalog authenticator
      (journal.records.find? new.responseId) new (some payload)) :
    validateTransition payload (journal.history new.responseId) = .ok () := by
  rcases found : journal.records.find? new.responseId with _ | before
  · rw [found] at change
    cases change with
    | request identified waiting first unauthorized stamp signed =>
        rw [(durable.silent _ found).1]
        exact validates_first stamp waiting.1 first (identified ▸ responseIdOf_ne_empty _ _)
  · rw [found] at change
    have identified := durable.identified _ _ found
    exact (change.legal (durable.sound _ _ found)).validates (durable.chronicle _ _ found)
      (identified ▸ responseIdOf_ne_empty _ _)

/-- A commit keeps the tables in order. -/
theorem Durable.commit (durable : Durable python trusted journal)
    (change : Change python trusted journal.records log catalog authenticator
      (journal.records.find? new.responseId) new event)
    (committed : Committed journal new event next) : Durable python trusted next := by
  have extended : next.history new.responseId = journal.history new.responseId ++ event.toList := by
    rw [committed.history_append]
    cases event with
    | none => rfl
    | some payload => simp [change.responseId]
  have kept : ∀ other, other ≠ new.responseId → next.history other = journal.history other := by
    intro other different
    rw [committed.history_append]
    cases event with
    | none => simp
    | some payload => simp [change.responseId, Ne.symm different]
  have identified : new.responseId = responseIdOf python new.command.idempotencyKey := by
    rcases found : journal.records.find? new.responseId with _ | before
    · rw [found] at change
      cases change with
      | request identified => exact identified
    · rw [found] at change
      rw [change.input.2.1]
      exact durable.identified _ _ found
  have sound : Sound next.applyIntents new := by
    rw [committed.applyIntents]
    refine change.sound (fun before found => durable.sound _ _ found) fun missing => ?_
    exact (durable.silent _ missing).2
  refine ⟨?_, ?_, ?_, ?_, ?_, ?_, ?_⟩
  · rw [committed.records]
    exact Table.nodup_keys_upsert durable.distinct _ _
  · intro other record found
    rcases committed.find_cases found with ⟨rfl, rfl⟩ | ⟨-, before⟩
    · rfl
    · exact durable.keyed other record before
  · intro other record found
    rcases committed.find_cases found with ⟨rfl, rfl⟩ | ⟨-, before⟩
    · exact identified
    · exact durable.identified other record before
  · intro other record found
    rcases committed.find_cases found with ⟨rfl, rfl⟩ | ⟨different, before⟩
    · exact sound
    · have held := durable.sound other record before
      have key := durable.keyed other record before
      have claimed := committed.intent_other (key ▸ different)
      exact ⟨claimed.trans held.claimed, held.named, held.authorized, held.pending, held.resting, held.held,
        held.counted⟩
  · intro other record found
    rcases committed.find_cases found with ⟨rfl, rfl⟩ | ⟨different, before⟩
    · rw [extended]
      exact change.chronicle durable
    · rw [kept other different]
      exact durable.chronicle other record before
  · intro other missing
    by_cases same : other = new.responseId
    · subst same
      rw [committed.find_self] at missing
      cases missing
    · rw [committed.find_other same] at missing
      rw [kept other same, committed.intent_other same]
      exact durable.silent other missing
  · rw [committed.records]
    exact change.separate new durable.distinct durable.separate

/-- The order by number is the order of the commits. -/
theorem Durable.events (durable : Durable python trusted journal) (responseId : String) :
    journal.events responseId = journal.history responseId := by
  apply events_eq_history
  rcases found : journal.records.find? responseId with _ | record
  · rw [(durable.silent _ found).1]
    exact List.Pairwise.nil
  · exact (durable.chronicle _ _ found).numbered.number_sorted

/-- Every committed record agrees with its latest audit event. -/
theorem Durable.matchesLatest (durable : Durable python trusted journal) {responseId : String} {record : Snapshot}
    (found : journal.records.find? responseId = some record) : journal.matchesLatest record := by
  unfold Journal.matchesLatest Journal.latest
  rw [durable.events, durable.keyed _ _ found]
  exact (durable.chronicle _ _ found).latest

/-- Tables that agree on records, audit, and intents have the same invariant. -/
theorem Durable.transfer {other : Journal} (durable : Durable python trusted journal)
    (sameRecords : other.records = journal.records) (sameAudit : other.audit = journal.audit)
    (sameIntents : other.applyIntents = journal.applyIntents) : Durable python trusted other := by
  obtain ⟨distinct, keyed, identified, sound, chronicle, silent, separate⟩ := durable
  have histories : other.history = journal.history := by
    funext responseId
    rw [Journal.history, sameAudit]
    rfl
  exact ⟨sameRecords ▸ distinct, sameRecords ▸ keyed, sameRecords ▸ identified,
    by rw [sameRecords, sameIntents]; exact sound, by rw [sameRecords, histories]; exact chronicle,
    by rw [sameRecords, histories, sameIntents]; exact silent, sameRecords ▸ separate⟩

/-- A change that claims an intent is the first claim of its response. -/
theorem Change.unclaimed (durable : Durable python trusted journal)
    (change : Change python trusted journal.records log catalog authenticator
      (journal.records.find? new.responseId) new event)
    (claims : event = none ∧ new.pendingOperation = some .apply) : new.responseId ∉ journal.applyIntents := by
  obtain ⟨rfl, pending⟩ := claims
  rcases found : journal.records.find? new.responseId with _ | before
  · exact (durable.silent _ found).2
  · have sound := durable.sound _ _ found
    rw [found] at change
    cases change with
    | authorize waiting => simp [waiting.2.2] at pending
    | intendApply waiting => exact sound.waiting waiting
    | intendRevert engaged => simp [Snapshot.intending] at pending

/-- The intent of a change can be claimed. -/
theorem Change.claimIntent (durable : Durable python trusted journal)
    (change : Change python trusted journal.records log catalog authenticator
      (journal.records.find? new.responseId) new event) :
    ∃ claimed, journal.claimIntent new event = .ok claimed := by
  unfold Journal.claimIntent
  split
  · rename_i claims
    rw [if_neg (change.unclaimed durable claims)]
    exact ⟨_, rfl⟩
  · exact ⟨_, rfl⟩

/-- The number of a new event is not taken. -/
theorem Change.unnumbered (durable : Durable python trusted journal) {payload : AuditEvent}
    (change : Change python trusted journal.records log catalog authenticator
      (journal.records.find? new.responseId) new (some payload)) :
    ∀ other ∈ journal.audit,
      ¬ (other.responseId = new.responseId ∧ other.transitionNumber = payload.transitionNumber) := by
  rintro other member ⟨same, number⟩
  have chronicle := change.chronicle durable
  have last := chronicle.numbered (journal.history new.responseId) payload [] rfl
  have inside : other ∈ journal.history new.responseId := List.mem_filter.mpr ⟨member, by simpa using same⟩
  have earlier := chronicle.numbered.earlier.number_le inside
  omega

/-- Its event can be appended. -/
theorem Change.appendOptional (durable : Durable python trusted journal)
    (change : Change python trusted journal.records log catalog authenticator
      (journal.records.find? new.responseId) new event) {claimed : Journal}
    (claim : journal.claimIntent new event = .ok claimed) :
    ∃ appended, claimed.appendOptional new event = .ok appended := by
  have claimedIs := claimIntent_ok claim
  subst claimedIs
  cases event with
  | none => exact ⟨_, rfl⟩
  | some payload =>
      have valid := change.validates new durable
      rw [← durable.events] at valid
      have unnumbered := change.unnumbered durable
      unfold Journal.appendOptional Journal.appendAudit
      simp only [Check.bind_ok, Check.pure_ok, Check.guard_ok]
      exact ⟨_, (), valid, (), unnumbered, rfl⟩

/-- An optional event is the only change of the log. -/
theorem appendOptional_ok {claimed appended : Journal} (append : claimed.appendOptional new event = .ok appended) :
    appended.records = claimed.records ∧ appended.audit = claimed.audit ++ event.toList := by
  cases event with
  | none =>
      cases append
      simp
  | some payload =>
      obtain ⟨sameRecords, sameAudit, -⟩ := appendAudit_ok append
      exact ⟨sameRecords, sameAudit⟩

variable (new) in
/-- The store accepts every change. -/
theorem Change.accepted (durable : Durable python trusted journal)
    (change : Change python trusted journal.records log catalog authenticator
      (journal.records.find? new.responseId) new event) :
    ∃ next, journal.checkpoint new event = .ok next := by
  obtain ⟨claimed, claim⟩ := change.claimIntent durable
  obtain ⟨appended, append⟩ := change.appendOptional durable claim
  obtain ⟨sameRecords, audit⟩ := appendOptional_ok append
  have claimedIs := claimIntent_ok claim
  subst claimedIs
  have chronicle := change.chronicle durable
  have extended : appended.history new.responseId = journal.history new.responseId ++ event.toList := by
    rw [Journal.history, audit, List.filter_append]
    cases event with
    | none => rfl
    | some payload => simp [Journal.history, change.responseId]
  have latest : appended.matchesLatest new := by
    rw [← extended] at chronicle
    unfold Journal.matchesLatest Journal.latest
    rw [events_eq_history chronicle.numbered.number_sorted]
    exact chronicle.latest
  have unchanged : ∀ before ∈ appended.records.find? new.responseId,
      new.command = before.command ∧ new.expiresAt = before.expiresAt := by
    intro before found
    rw [sameRecords, Option.mem_def] at found
    rw [found] at change
    exact change.input.2
  unfold Journal.checkpoint Journal.writeRecord
  simp only [Check.bind_ok, Check.pure_ok, Check.guard_ok]
  exact ⟨_, _, claim, appended, append, (), latest, (), unchanged, rfl⟩

end Changes

section Reaching

variable {python : Python} {trusted : CommandAuthenticator → Prop} {journal : Journal} {log : List Entry}

/-- The empty journal is durable. -/
theorem durable_empty : Durable python trusted {} := by
  refine ⟨List.nodup_nil, ?_, ?_, ?_, ?_, ?_, ?_⟩ <;> simp [Table.find?, Journal.history, Separate]

/-- Every store that the protocol reaches is in order. -/
theorem Reached.durable (reached : Reached python trusted journal log) : Durable python trusted journal := by
  induction reached with
  | empty => exact durable_empty
  | observe _ _ _ ih => exact ih
  | commit _ change accepted _ _ ih => exact ih.commit change (checkpoint_ok accepted)
  | housekeeping _ records audit intents _ ih => exact ih.transfer records audit intents

/-- A response whose apply was called is claimed. -/
theorem Reached.claimed (reached : Reached python trusted journal log) {entry : Entry} {responseId : String}
    (member : entry ∈ log) (applies : entry.applies responseId) : responseId ∈ journal.applyIntents := by
  induction reached with
  | empty => simp at member
  | @observe journal log last reached present harmless ih =>
      rcases List.mem_append.mp member with before | same
      · exact ih before
      · rw [List.mem_singleton] at same
        subst same
        obtain ⟨record, now, seen, key⟩ := applies
        simp only [Harmless, seen] at harmless
        have stored := harmless.stored
        rw [present] at stored
        have sound := reached.durable.sound _ _ stored
        rw [← key]
        exact sound.claimed.mpr (sound.pending (by simp [ResponseRecord.asdict, harmless.pending])).1
  | @commit journal next log last record event reached change accepted seen present ih =>
      rw [(checkpoint_ok accepted).applyIntents]
      rcases List.mem_append.mp member with before | same
      · exact List.mem_append_left _ (ih before)
      · rw [List.mem_singleton] at same
        subst same
        obtain ⟨_, _, other, _⟩ := applies
        rw [seen] at other
        cases other
  | housekeeping _ _ _ intents _ ih =>
      rw [intents]
      exact ih member

end Reaching

end ClosedLoop.Response
