import ClosedLoop.Proof.Response.Steady

namespace ClosedLoop.Response

open ClosedLoop.Library ClosedLoop.Library.Program

variable {python : Python} {trusted : CommandAuthenticator → Prop} {session : Session} {record : ResponseRecord}
  {now : Int} {responseId : String}

/-- What one part of a scheduler pass does to the due records: it calls the adapter for exactly the listed
responses, it loses no due record without a call, and it makes no record due. -/
structure Stage (python : Python) (trusted : CommandAuthenticator → Prop) (now : Int) (session : Session)
    (done : List String) (after : Session) : Prop where
  synced : Synced python trusted after
  frame : after.orchestrator = { session.orchestrator with records := after.orchestrator.records }
  exporter : after.service.exporter = session.service.exporter
  log : Extends done session.log after.log
  expiry : ∀ responseId record, session.orchestrator.records.find? responseId = some record →
    ∃ later, after.orchestrator.records.find? responseId = some later ∧ later.expiresAt = record.expiresAt
  forward : ∀ responseId record, session.orchestrator.records.find? responseId = some record →
    record.due now = true →
    responseId ∈ done ∨ ∃ later, after.orchestrator.records.find? responseId = some later ∧ later.due now = true
  backward : ∀ responseId later, after.orchestrator.records.find? responseId = some later → later.due now = true →
    ∃ earlier, session.orchestrator.records.find? responseId = some earlier ∧ earlier.due now = true
  only : ∀ responseId ∈ done, ∀ record, session.orchestrator.records.find? responseId = some record →
    record.expiresAt ≤ now → record.due now = true
  calm : Calm session.tape → Calm after.tape

theorem Stage.refl (synced : Synced python trusted session) : Stage python trusted now session [] session :=
  ⟨synced, rfl, rfl, Extends.refl _, fun _ record found => ⟨record, found, rfl⟩,
    fun _ record found due => Or.inr ⟨record, found, due⟩, fun _ later found due => ⟨later, found, due⟩, by simp, id⟩

/-- Two parts of a pass are one part. -/
theorem Stage.trans {first second : List String} {middle after : Session}
    (head : Stage python trusted now session first middle) (tail : Stage python trusted now middle second after) :
    Stage python trusted now session (first ++ second) after where
  synced := tail.synced
  frame := by rw [tail.frame, head.frame]
  exporter := tail.exporter.trans head.exporter
  log := head.log.trans tail.log
  expiry responseId record found := by
    obtain ⟨between, inMiddle, sameHead⟩ := head.expiry responseId record found
    obtain ⟨later, inAfter, sameTail⟩ := tail.expiry responseId between inMiddle
    exact ⟨later, inAfter, sameTail.trans sameHead⟩
  forward responseId record found due := by
    rcases head.forward responseId record found due with called | ⟨between, inMiddle, still⟩
    · exact Or.inl (List.mem_append_left _ called)
    · rcases tail.forward responseId between inMiddle still with called | kept
      · exact Or.inl (List.mem_append_right _ called)
      · exact Or.inr kept
  backward responseId later found due := by
    obtain ⟨between, inMiddle, still⟩ := tail.backward responseId later found due
    exact head.backward responseId between inMiddle still
  only responseId member record found late := by
    rcases List.mem_append.mp member with early | later
    · exact head.only responseId early record found late
    · obtain ⟨between, inMiddle, same⟩ := head.expiry responseId record found
      have due := tail.only responseId later between inMiddle (same ▸ late)
      obtain ⟨earlier, inSession, held⟩ := head.backward responseId between inMiddle due
      rw [found] at inSession
      cases inSession
      exact held
  calm := tail.calm ∘ head.calm

theorem ResponseRecord.due_iff : record.due now = true ↔ record.engaged = true ∧ record.expiresAt ≤ now := by
  simp [ResponseRecord.due]

/-- The change of one record is a part of a pass. -/
theorem Touched.stage {changed : ResponseRecord} {done : List String} {after : Session}
    (touched : Touched python trusted session changed done after)
    (found : session.orchestrator.records.find? record.responseId = some record) (same : record.SameInput changed)
    (calm : Calm session.tape → Calm after.tape)
    (forward : record.due now = true → record.responseId ∈ done ∨ changed.due now = true)
    (backward : changed.due now = true → record.due now = true)
    (only : ∀ responseId ∈ done, responseId = record.responseId ∧ (record.expiresAt ≤ now → record.due now = true)) :
    Stage python trusted now session done after := by
  have records : after.orchestrator.records = session.orchestrator.records.upsert record.responseId changed := by
    rw [touched.orchestrator, ← same.1]
    rfl
  refine ⟨touched.synced, ?_, by rw [touched.service], touched.log, ?_, ?_, ?_, ?_, calm⟩
  · rw [touched.orchestrator]
    rfl
  · intro responseId earlier present
    rw [records, Table.find?_upsert]
    split
    · rename_i here
      rw [here, found] at present
      cases present
      exact ⟨changed, rfl, same.2.2⟩
    · exact ⟨earlier, present, rfl⟩
  · intro responseId earlier present due
    rw [records, Table.find?_upsert]
    split
    · rename_i here
      subst here
      rw [found] at present
      cases present
      rcases forward due with called | still
      · exact Or.inl called
      · exact Or.inr ⟨changed, rfl, still⟩
    · exact Or.inr ⟨earlier, present, due⟩
  · intro responseId later present due
    rw [records, Table.find?_upsert] at present
    split at present
    · rename_i here
      cases present
      exact ⟨record, here ▸ found, backward due⟩
    · exact ⟨later, present, due⟩
  · intro responseId member earlier present late
    obtain ⟨here, held⟩ := only responseId member
    rw [here, found] at present
    cases present
    exact held late

variable (now) in
/-- A sweep of engaged records is a part of a pass. -/
theorem Swept.stage {select : ResponseRecord → Bool} {responseIds : List String} {after : Session}
    (swept : Swept python trusted select session responseIds after)
    (engaged : ∀ record, select record = true → record.engaged = true)
    (calm : Calm session.tape → Calm after.tape) :
    Stage python trusted now session (responseIds.filter (selected select session.orchestrator.records)) after := by
  have chosen : ∀ responseId record, session.orchestrator.records.find? responseId = some record →
      (responseId ∈ responseIds ∧ select record = true) ∨
        after.orchestrator.records.find? responseId = some record := by
    intro responseId record found
    by_cases inside : responseId ∈ responseIds ∧ select record = true
    · exact Or.inl inside
    · refine Or.inr ?_
      rw [swept.spared responseId, found]
      by_cases member : responseId ∈ responseIds
      · exact Or.inr (by simpa [selected, found] using fun held => inside ⟨member, held⟩)
      · exact Or.inl member
  refine ⟨swept.synced, swept.frame, by rw [swept.service], swept.log, ?_, ?_, ?_, ?_, calm⟩
  · intro responseId record found
    rcases chosen responseId record found with ⟨member, held⟩ | kept
    · obtain ⟨later, present, ended, -⟩ := swept.chosen responseId member record found held
      exact ⟨later, present, ended.1.2.2⟩
    · exact ⟨record, kept, rfl⟩
  · intro responseId record found due
    rcases chosen responseId record found with ⟨member, held⟩ | kept
    · exact Or.inl (List.mem_filter.mpr ⟨member, by simpa [selected, found] using held⟩)
    · exact Or.inr ⟨record, kept, due⟩
  · intro responseId later present due
    have known : responseId ∈ session.orchestrator.records.keys := by
      rw [← swept.keys]
      exact Table.mem_keys_iff.mpr ⟨later, present⟩
    obtain ⟨record, found⟩ := Table.mem_keys_iff.mp known
    refine ⟨record, found, ?_⟩
    rcases chosen responseId record found with ⟨member, held⟩ | kept
    · obtain ⟨ended, inAfter, same, -⟩ := swept.chosen responseId member record found held
      rw [present] at inAfter
      cases inAfter
      have late := (ResponseRecord.due_iff.mp due).2
      exact ResponseRecord.due_iff.mpr ⟨engaged record held, same.1.2.2 ▸ late⟩
    · rw [present] at kept
      cases kept
      exact due
  · intro responseId member record found late
    obtain ⟨-, held⟩ := List.mem_filter.mp member
    rw [selected, found] at held
    exact ResponseRecord.due_iff.mpr ⟨engaged record held, late⟩

section Applying

/-- Another record holds the target of this one, or would take it in the same pass. -/
def Rival (python : Python) (orchestrator : Orchestrator) (now : Int) (responseIds : List String)
    (responseId : String) (record : ResponseRecord) : Prop :=
  ∃ otherId other, orchestrator.records.find? otherId = some other ∧ otherId ≠ responseId ∧
    identity python other.command = identity python record.command ∧
    (other.engaged = true ∨ (otherId ∈ responseIds ∧ other.passes python orchestrator now = true))

/-- One of these applies will find its target taken, or its adapter gives it no reference. -/
def Obstructed (python : Python) (orchestrator : Orchestrator) (tape : Tape) (now : Int)
    (responseIds : List String) : Prop :=
  (∃ responseId ∈ responseIds, ∃ record, orchestrator.records.find? responseId = some record ∧
    record.passes python orchestrator now = true ∧ Rival python orchestrator now responseIds responseId record) ∨
  ∃ reply ∈ tape.references.take (responseIds.countP
    (selected (ResponseRecord.passes python orchestrator now) orchestrator.records)), reply.usable = false

theorem Synced.taken_iff (synced : Synced python trusted session) :
    targetTaken python session.orchestrator.records record = true ↔
      ∃ otherId other, session.orchestrator.records.find? otherId = some other ∧ otherId ≠ record.responseId ∧
        identity python other.command = identity python record.command ∧ other.engaged = true := by
  unfold targetTaken
  rw [List.any_eq_true]
  constructor
  · rintro ⟨row, member, held⟩
    have found := Table.find?_of_mem synced.distinct (show (row.1, row.2) ∈ _ from member)
    simp only [Bool.and_eq_true, decide_eq_true_eq] at held
    exact ⟨row.1, row.2, found, synced.keyed found ▸ held.1.1, held.2, held.1.2⟩
  · rintro ⟨otherId, other, found, different, same, engaged⟩
    refine ⟨(otherId, other), Table.mem_of_find? found, ?_⟩
    simp only [Bool.and_eq_true, decide_eq_true_eq]
    exact ⟨⟨synced.keyed found ▸ different, engaged⟩, same⟩

theorem queued_unengaged (queued : record.queued = true) : record.engaged = false := by
  obtain ⟨⟨state, reference, idle⟩, -⟩ := queued_asdict queued
  have sameState : record.state = .requested := state
  have sameIdle : record.pendingOperation = none := idle
  simp [ResponseRecord.engaged, ResponseRecord.recoverable, sameState, sameIdle]

/-- What an attempt changes for the attempts after it. -/
structure Shifted (python : Python) (session : Session) (now : Int) (record changed : ResponseRecord)
    (middle : Session) : Prop where
  records : middle.orchestrator.records = session.orchestrator.records.upsert record.responseId changed
  passes : ResponseRecord.passes python middle.orchestrator now = ResponseRecord.passes python session.orchestrator now
  command : changed.command = record.command
  engaged : changed.engaged = record.passes python session.orchestrator now
  references : middle.tape.references = if record.passes python session.orchestrator now then
    session.tape.references.tail else session.tape.references
  untaken : record.passes python session.orchestrator now = true →
    ¬ ∃ otherId other, session.orchestrator.records.find? otherId = some other ∧ otherId ≠ record.responseId ∧
      identity python other.command = identity python record.command ∧ other.engaged = true
  usable : record.passes python session.orchestrator now = true → session.tape.reference.usable = true

variable {changed : ResponseRecord} {middle : Session} {rest : List String}

/-- The rivals of the later attempts are the same before and after an attempt. -/
theorem Shifted.rivals (shifted : Shifted python session now record changed middle)
    (found : session.orchestrator.records.find? record.responseId = some record)
    (idle : record.engaged = false) (fresh : record.responseId ∉ rest) :
    (∃ key ∈ record.responseId :: rest, ∃ row, session.orchestrator.records.find? key = some row ∧
      row.passes python session.orchestrator now = true ∧
      Rival python session.orchestrator now (record.responseId :: rest) key row) ↔
    ∃ key ∈ rest, ∃ row, middle.orchestrator.records.find? key = some row ∧
      row.passes python middle.orchestrator now = true ∧ Rival python middle.orchestrator now rest key row := by
  have here : middle.orchestrator.records.find? record.responseId = some changed := by
    rw [shifted.records, Table.find?_upsert_self]
  have elsewhere : ∀ key, key ≠ record.responseId →
      middle.orchestrator.records.find? key = session.orchestrator.records.find? key := by
    intro key different
    rw [shifted.records, Table.find?_upsert_of_ne _ _ different]
  constructor
  · rintro ⟨key, member, row, present, passes, otherId, other, known, different, same, held⟩
    by_cases first : key = record.responseId
    · -- The first attempt succeeded, so its rival is a later one, and that one now meets an engaged record.
      subst first
      rw [found] at present
      cases present
      rcases held with engaged | ⟨inside, alsoPasses⟩
      · exact absurd ⟨otherId, other, known, different, same, engaged⟩ (shifted.untaken passes)
      · have later : otherId ∈ rest := (List.mem_cons.mp inside).resolve_left different
        refine ⟨otherId, later, other, by rw [elsewhere otherId different, known], by rwa [shifted.passes],
          record.responseId, changed, here, different.symm, by rw [shifted.command, same], Or.inl ?_⟩
        rw [shifted.engaged, passes]
    · have later : key ∈ rest := (List.mem_cons.mp member).resolve_left first
      refine ⟨key, later, row, by rw [elsewhere key first, present], by rwa [shifted.passes], ?_⟩
      by_cases earlier : otherId = record.responseId
      · subst earlier
        rw [found] at known
        cases known
        rcases held with engaged | ⟨-, alsoPasses⟩
        · rw [idle] at engaged
          cases engaged
        · exact ⟨record.responseId, changed, here, different, by rw [shifted.command, same],
            Or.inl (by rw [shifted.engaged, alsoPasses])⟩
      · refine ⟨otherId, other, by rw [elsewhere otherId earlier, known], different, same, ?_⟩
        rcases held with engaged | ⟨inside, alsoPasses⟩
        · exact Or.inl engaged
        · exact Or.inr ⟨(List.mem_cons.mp inside).resolve_left earlier, by rwa [shifted.passes]⟩
  · rintro ⟨key, member, row, present, passes, otherId, other, known, different, same, held⟩
    have first : key ≠ record.responseId := fun equal => fresh (equal ▸ member)
    rw [elsewhere key first] at present
    rw [shifted.passes] at passes
    refine ⟨key, List.mem_cons_of_mem _ member, row, present, passes, ?_⟩
    by_cases earlier : otherId = record.responseId
    · subst earlier
      rw [here] at known
      cases known
      rcases held with engaged | ⟨inside, -⟩
      · exact ⟨record.responseId, record, found, different, by rw [← shifted.command, same],
          Or.inr ⟨List.mem_cons_self, by rw [← shifted.engaged, engaged]⟩⟩
      · exact absurd inside fresh
    · rw [elsewhere otherId earlier] at known
      refine ⟨otherId, other, known, different, same, ?_⟩
      rcases held with engaged | ⟨inside, alsoPasses⟩
      · exact Or.inl engaged
      · exact Or.inr ⟨List.mem_cons_of_mem _ inside, by rwa [← shifted.passes]⟩

/-- The references for the later attempts are the same before and after an attempt. -/
theorem Shifted.supply (shifted : Shifted python session now record changed middle)
    (found : session.orchestrator.records.find? record.responseId = some record)
    (fresh : record.responseId ∉ rest) :
    (∃ reply ∈ session.tape.references.take ((record.responseId :: rest).countP
      (selected (ResponseRecord.passes python session.orchestrator now) session.orchestrator.records)),
      reply.usable = false) ↔
    ∃ reply ∈ middle.tape.references.take (rest.countP
      (selected (ResponseRecord.passes python middle.orchestrator now) middle.orchestrator.records)),
      reply.usable = false := by
  have counted : rest.countP
      (selected (ResponseRecord.passes python middle.orchestrator now) middle.orchestrator.records) =
      rest.countP (selected (ResponseRecord.passes python session.orchestrator now)
        session.orchestrator.records) := by
    refine List.countP_congr fun key member => ?_
    have different : key ≠ record.responseId := fun equal => fresh (equal ▸ member)
    rw [selected, selected, shifted.passes, shifted.records, Table.find?_upsert_of_ne _ _ different]
  have head : selected (ResponseRecord.passes python session.orchestrator now) session.orchestrator.records
      record.responseId = record.passes python session.orchestrator now := by
    rw [selected, found]
    rfl
  rw [counted, List.countP_cons, head, shifted.references]
  by_cases passes : record.passes python session.orchestrator now = true
  · have usable := shifted.usable passes
    unfold Tape.reference at usable
    cases given : session.tape.references with
    | nil => simp
    | cons reply more =>
        have first : reply.usable = true := by simpa [given] using usable
        simp [passes, first]
  · simp [passes]

/-- An attempt that ends keeps the obstruction of the later ones. -/
theorem Shifted.obstructed (shifted : Shifted python session now record changed middle)
    (found : session.orchestrator.records.find? record.responseId = some record)
    (idle : record.engaged = false) (fresh : record.responseId ∉ rest) :
    Obstructed python session.orchestrator session.tape now (record.responseId :: rest) ↔
      Obstructed python middle.orchestrator middle.tape now rest :=
  or_congr (shifted.rivals found idle fresh) (shifted.supply found fresh)

theorem Touched.shifted {session middle : Session} (synced : Synced python trusted session)
    (touched : Touched python trusted session changed [] middle) (same : record.SameInput changed)
    (attempt : Attempt python session record now middle changed) :
    Shifted python session now record changed middle := by
  have records : middle.orchestrator.records = session.orchestrator.records.upsert record.responseId changed := by
    rw [touched.orchestrator, ← same.1]
    rfl
  have passesAre : ResponseRecord.passes python middle.orchestrator now =
      ResponseRecord.passes python session.orchestrator now := by
    rw [touched.orchestrator]
    rfl
  cases attempt with
  | refused fails free consumed =>
      exact ⟨records, passesAre, same.2.1, by rw [free, fails], by simp [fails, consumed.references],
        by simp [fails], by simp [fails]⟩
  | occupied passes untaken usable engaged consumed =>
      refine ⟨records, passesAre, same.2.1, by rw [engaged, passes],
        by simpa [passes, Tape.referenced] using consumed.references, fun _ => ?_, fun _ => usable⟩
      rw [← synced.taken_iff, untaken]
      simp

end Applying

end ClosedLoop.Response
