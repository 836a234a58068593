import ClosedLoop.Proof.Response.Synced

namespace ClosedLoop.Response

open ClosedLoop.Library ClosedLoop.Library.Program

variable {python : Python} {trusted : CommandAuthenticator → Prop} {session : Session}

section Kept

variable {journal next : Journal} {view : Table String Snapshot} {record : Snapshot} {event : Option AuditEvent}

/-- A claimed record of the store is contained or has ended. -/
theorem Durable.contained (durable : Durable python trusted journal) {responseId : String}
    (found : journal.records.find? responseId = some record) (claimed : responseId ∈ journal.applyIntents) :
    record.contained ∨ ∃ event ∈ journal.history responseId, event.state.terminal = true := by
  have key := durable.keyed _ _ found
  rcases live : record.state.terminal with _ | _
  · obtain ⟨named, held⟩ := (durable.sound _ _ found).stranded (key.symm ▸ claimed) live
    refine Or.inl ⟨named, ?_⟩
    rcases held with applied | verified | pending
    · exact Or.inl applied
    · exact Or.inr (Or.inl verified)
    · exact Or.inr (Or.inr (Or.inl pending))
  · obtain ⟨last, present, state, -⟩ := (durable.chronicle _ _ found).latest
    exact Or.inr ⟨last, List.mem_of_getLast? present, by rw [state, live]⟩

/-- A durable journal keeps its records. -/
theorem Durable.kept (durable : Durable python trusted journal) : Kept python journal journal.records :=
  ⟨fun row member claimed =>
    durable.contained (Table.find?_of_mem durable.distinct (show (row.1, row.2) ∈ _ from member)) claimed,
    durable.separate⟩

/-- A view is kept by a commit that claims no intent behind it. -/
theorem Kept.commit (kept : Kept python journal view) (committed : Committed journal record event next)
    (held : ∀ row ∈ view, row.1 ∈ newIntents record event → row.2.contained) : Kept python next view := by
  refine ⟨fun row member claimed => ?_, kept.separate⟩
  rw [committed.applyIntents, List.mem_append] at claimed
  rcases claimed with before | new
  · rcases kept.guarded row member before with contained | ⟨item, present, ended⟩
    · exact Or.inl contained
    · refine Or.inr ⟨item, ?_, ended⟩
      rw [committed.history_append]
      exact List.mem_append_left _ present
  · exact Or.inl (held row member new)

variable (record) in
/-- The committed records with one changed row are kept. -/
theorem Durable.kept_upsert (durable : Durable python trusted journal)
    (held : record.responseId ∈ journal.applyIntents → record.contained)
    (separate : Separate python (journal.records.upsert record.responseId record)) :
    Kept python journal (journal.records.upsert record.responseId record) := by
  refine ⟨fun row member claimed => ?_, separate⟩
  rcases Table.mem_upsert durable.distinct member with same | ⟨old, -⟩
  · subst same
    exact Or.inl (held claimed)
  · exact durable.kept.guarded row old claimed

end Kept

/-- Whether a checkpoint raised is read off the last entry first. -/
theorem raisedSinceOpen_append (log : List Entry) (entry : Entry) :
    raisedSinceOpen (log ++ [entry]) = match entry.occurrence with
      | .opened => false
      | .checkpointRaised => true
      | _ => raisedSinceOpen log := by
  unfold raisedSinceOpen
  rw [List.foldl_append]
  rfl

/-- The entries that a checkpoint writes before it commits. -/
def Session.validations (session : Session) (event : Option AuditEvent) : List Entry :=
  event.toList.map fun payload => session.entry (.validated payload (.ok ()))

/-- What a returned checkpoint has changed. -/
structure Advanced (session : Session) (record : Snapshot) (event : Option AuditEvent) (after : Session) :
    Prop where
  orchestrator : after.orchestrator = session.orchestrator
  service : after.service = session.service
  committed : Committed session.journal record event after.journal
  log : after.log = session.log ++ session.validations event ++ [after.entry (.committed record event)]

/-- The session after the store accepted the event of a checkpoint. -/
def Session.validated (session : Session) (event : Option AuditEvent) : Session :=
  { session with log := session.log ++ session.validations event }

/-- A valid event is noted. -/
theorem noteValidation_ends {responseId : String} {event : Option AuditEvent} {post : Post Session PyError Unit}
    (valid : ∀ payload ∈ event, validateTransition payload (session.journal.events responseId) = .ok ())
    (returned : post.returned () (session.validated event)) :
    Ends (noteValidation session.journal responseId event) session post := by
  cases event with
  | none => simpa [noteValidation, Session.validated, Session.validations] using returned
  | some payload =>
      unfold noteValidation
      rw [ends_note, valid payload rfl]
      exact returned

/-- The store reaches the log entry of an accepted event. -/
theorem Reached.validated (reached : Reached python trusted session.journal session.log)
    (event : Option AuditEvent) :
    Reached python trusted session.journal (session.validated event).log := by
  cases event with
  | none => simpa [Session.validated, Session.validations] using reached
  | some payload => exact reached.observe rfl rfl

/-- Validation raises no checkpoint. -/
theorem raisedSinceOpen_validated (event : Option AuditEvent) :
    raisedSinceOpen (session.validated event).log = raisedSinceOpen session.log := by
  cases event with
  | none => simp [Session.validated, Session.validations]
  | some payload =>
      simp only [Session.validated, Session.validations, Option.toList_some, List.map_cons, List.map_nil]
      rw [raisedSinceOpen_append]
      rfl

/-- A commit stands at the end of the log. -/
theorem commit_ends {journal : Journal} {record : Snapshot} {event : Option AuditEvent}
    {post : Post Session PyError Unit} :
    Ends (commit journal record event) session post ↔
      post.returned () ({ session with journal }.observed (.committed record event)) := Iff.rfl

/-- The orchestrator stops after a checkpoint that raised. -/
theorem halt_ends {error : PyError} {post : Post Session PyError Unit} (known : error ≠ .assertionError)
    (keyRing : trusted session.orchestrator.authenticator)
    (reached : Reached python trusted session.journal session.log)
    (kept : Kept python session.journal session.view)
    (raised : ∀ after, Stops python trusted error after → post.raised error after) :
    Ends (halt error) session post := by
  refine raised _ ⟨known, Or.inr ⟨rfl, keyRing, reached.observe rfl trivial, kept, ?_⟩⟩
  exact raisedSinceOpen_append session.log (session.entry .checkpointRaised)

variable (session) in
/-- A checkpoint of a permitted change commits it, or halts the process, or dies with it. -/
theorem checkpoint_ends (record : ResponseRecord) (event : Option AuditEvent)
    (keyRing : trusted session.orchestrator.authenticator)
    (reached : Reached python trusted session.journal session.log)
    (quiet : raisedSinceOpen session.log = false)
    (change : Change python trusted session.journal.records (session.log ++ session.validations event)
      session.orchestrator.catalog session.orchestrator.authenticator
      (session.journal.records.find? record.responseId) record.asdict event)
    (kept : Kept python session.journal session.view)
    (held : ∀ row ∈ session.view, row.1 ∈ newIntents record.asdict event → row.2.contained) :
    Ends (checkpoint record event) session (upon python trusted session fun _ after =>
      Advanced session record.asdict event after ∧ Reached python trusted after.journal after.log ∧
        raisedSinceOpen after.log = false) := by
  have durable := reached.durable
  have valid : ∀ payload ∈ event,
      validateTransition payload (session.journal.events record.responseId) = .ok () := by
    intro payload present
    cases present
    rw [durable.events]
    exact Change.validates record.asdict durable change
  obtain ⟨next, accepted⟩ := Change.accepted record.asdict durable change
  have committed := checkpoint_ok accepted
  have keptNext := kept.commit committed held
  have reachedNext : Reached python trusted next ((session.validated event).log ++
      [({ session with journal := next } : Session).entry (.committed record.asdict event)]) := by
    refine (reached.validated event).commit ?_ accepted rfl rfl
    exact change
  have quietNext : raisedSinceOpen ((session.validated event).log ++
      [({ session with journal := next } : Session).entry (.committed record.asdict event)]) = false := by
    rw [raisedSinceOpen_append, raisedSinceOpen_validated]
    exact quiet
  unfold checkpoint
  rw [ends_bind, ends_gets]
  dsimp only
  rw [ends_bind]
  refine noteValidation_ends valid ?_
  rw [accepted]
  dsimp only
  rw [ends_bind]
  refine nextCommit_ends fun fate tape consumed answered => ?_
  have uncalm : fate ≠ .durable → ¬ Calm session.tape := fun other calm => other (answered calm)
  dsimp only
  cases fate with
  | durable => exact ⟨⟨⟨rfl, rfl, committed, rfl⟩, reachedNext, quietNext⟩, consumed⟩
  | lost =>
      exact halt_ends (by decide) keyRing (reached.validated event) kept
        fun after stops => ⟨stops, uncalm (by decide)⟩
  | unacknowledged =>
      rw [ends_bind, commit_ends]
      dsimp only
      exact halt_ends (by decide) keyRing reachedNext keptNext fun after stops => ⟨stops, uncalm (by decide)⟩
  | crashBefore => exact ⟨reached.validated event, uncalm (by decide)⟩
  | crashAfter =>
      rw [ends_bind, commit_ends]
      exact ⟨reachedNext, uncalm (by decide)⟩

/-- A remembered record is in view. -/
theorem view_remembering (session : Session) (record : ResponseRecord) :
    (session.remembering record).view = session.view.upsert record.responseId record.asdict :=
  Table.mapValues_upsert _ _ _ _

/-- A record has been written to memory and to the store. -/
structure Written (python : Python) (trusted : CommandAuthenticator → Prop) (session : Session)
    (record : ResponseRecord) (event : Option AuditEvent) (after : Session) : Prop where
  orchestrator : after.orchestrator = (session.remembering record).orchestrator
  service : after.service = session.service
  committed : Committed session.journal record.asdict event after.journal
  log : after.log = session.log ++ session.validations event ++ [after.entry (.committed record.asdict event)]
  synced : Synced python trusted after

/-- A record that changes without an event is written to memory first and then committed. -/
theorem persist_ends {record : ResponseRecord} (synced : Synced python trusted session)
    (change : Change python trusted session.journal.records session.log session.orchestrator.catalog
      session.orchestrator.authenticator (session.journal.records.find? record.responseId) record.asdict none)
    (held : record.responseId ∈ session.journal.applyIntents ++ newIntents record.asdict none →
      record.asdict.contained) :
    Ends (do
        remember record
        checkpoint record none) session (upon python trusted session fun _ after =>
      Written python trusted session record none after) := by
  have durable := synced.reached.durable
  have viewIs := view_remembering session record
  rw [synced.mirror] at viewIs
  have separate := Change.separate record.asdict change durable.distinct durable.separate
  have kept := durable.kept_upsert record.asdict (fun claimed => held (List.mem_append_left _ claimed))
    separate
  have behind : ∀ row ∈ (session.remembering record).view, row.1 ∈ newIntents record.asdict none →
      row.2.contained := by
    intro row member claimed
    rw [viewIs] at member
    rcases Table.mem_upsert durable.distinct member with same | ⟨-, different⟩
    · subst same
      exact held (List.mem_append_right _ claimed)
    · rw [newIntents] at claimed
      split at claimed
      · exact absurd (List.mem_singleton.mp claimed) different
      · exact absurd claimed List.not_mem_nil
  rw [ends_bind, ends_remember]
  dsimp only
  have ended := checkpoint_ends (session.remembering record) record none
    synced.keyRing synced.reached synced.quiet
    (by rw [show (session.remembering record).validations none = [] from rfl, List.append_nil]; exact change)
    (viewIs ▸ kept) behind
  refine ended.weaken (fun _ after advanced => ?_) (fun _ _ stops => stops) (fun _ crashed => crashed)
  obtain ⟨⟨advanced, reached, quiet⟩, consumed⟩ := advanced
  refine ⟨⟨advanced.orchestrator, advanced.service, advanced.committed, advanced.log, ?_⟩, consumed⟩
  refine ⟨by rw [advanced.orchestrator]; exact synced.running, by rw [advanced.orchestrator]; exact synced.keyRing,
    reached, ?_, quiet⟩
  rw [Session.view, advanced.orchestrator, advanced.committed.records]
  exact viewIs

/-- An intent is written to memory and committed before the side effect. -/
theorem beginOperation_ends {record intended : ResponseRecord} {operation : Operation} {timestamp : Int}
    (synced : Synced python trusted session) (shape : intended = record.intending operation timestamp)
    (change : Change python trusted session.journal.records session.log session.orchestrator.catalog
      session.orchestrator.authenticator (session.journal.records.find? record.responseId) intended.asdict none)
    (held : intended.asdict.contained) :
    Ends (beginOperation record operation timestamp) session (upon python trusted session fun result after =>
      result = intended ∧ Written python trusted session intended none after) := by
  subst shape
  have ended := persist_ends synced change fun _ => held
  rw [ends_bind] at ended
  unfold beginOperation
  rw [ends_bind]
  refine ended.returning fun _ middle checkpointed => ?_
  rw [ends_bind]
  exact checkpointed.returning fun _ after written => ⟨⟨rfl, written.1⟩, written.2⟩

/-- A transition commits its event and then changes the record in memory. -/
theorem transition_ends {record : ResponseRecord} {state : ResponseState} {timestamp : Int} {evidence : Evidence}
    {clearIntent : Bool} {updated : ResponseRecord} {event : AuditEvent}
    (running : session.orchestrator.storageFailed = false)
    (keyRing : trusted session.orchestrator.authenticator)
    (reached : Reached python trusted session.journal session.log)
    (quiet : raisedSinceOpen session.log = false)
    (aligned : ∀ row, session.view.upsert record.responseId row =
      session.journal.records.upsert record.responseId row)
    (kept : Kept python session.journal session.view)
    (moved : updated = record.moved state clearIntent)
    (built : event = record.event python (session.orchestrator.adapters.name record.command.action) state timestamp
      evidence)
    (change : Change python trusted session.journal.records (session.log ++ session.validations (some event))
      session.orchestrator.catalog session.orchestrator.authenticator
      (session.journal.records.find? record.responseId) updated.asdict (some event)) :
    Ends (transition python record state timestamp evidence clearIntent) session
      (upon python trusted session fun result after =>
        result = (event, updated) ∧ Written python trusted session updated (some event) after) := by
  subst moved built
  unfold transition
  rw [ends_bind, ends_gets]
  dsimp only
  rw [ends_bind]
  have ended := checkpoint_ends session (record.moved state clearIntent) _ keyRing reached quiet change kept
    (by simp [newIntents])
  refine ended.returning fun _ after advanced => ?_
  obtain ⟨⟨advanced, reached, quiet⟩, consumed⟩ := advanced
  rw [ends_bind, ends_remember]
  refine ⟨⟨rfl, ?_, advanced.service, advanced.committed, advanced.log, ?_⟩, consumed⟩
  · simp only [Session.remembering, advanced.orchestrator]
  · refine ⟨?_, ?_, reached, ?_, quiet⟩
    · simp only [Session.remembering, advanced.orchestrator]
      exact running
    · simp only [Session.remembering, advanced.orchestrator]
      exact keyRing
    · rw [view_remembering, Session.view, advanced.orchestrator]
      change session.view.upsert _ _ = after.journal.records
      rw [advanced.committed.records]
      exact aligned _

end ClosedLoop.Response
