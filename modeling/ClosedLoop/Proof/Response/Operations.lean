import ClosedLoop.Proof.Response.Effects

namespace ClosedLoop.Response

open ClosedLoop.Library ClosedLoop.Library.Program

variable {python : Python} {trusted : CommandAuthenticator → Prop} {session : Session}

section Stamps

variable {record : ResponseRecord} {adapters : Adapters} {state : ResponseState} {timestamp : Int}
  {evidence : Evidence}

/-- The adapter of an event is the permitted backend of its action. -/
theorem event_routed :
    (record.event python (adapters.name record.command.action) state timestamp evidence).Routed := by
  obtain ⟨firewall, endpoint⟩ := adapters.permitted
  have suited := record.command.suited.1
  simp only [List.mem_cons, List.not_mem_nil, or_false] at firewall endpoint
  unfold AuditEvent.Routed ResponseRecord.event buildEvent Adapters.name
  cases action : record.command.action with
  | blockIp =>
      rw [action] at suited
      rcases firewall with name | name | name <;> simp [name, suited, Action.targetType]
  | isolateHost =>
      rw [action] at suited
      simp [endpoint, suited, Action.targetType]

/-- The event of a later transition fits the committed record before it. -/
theorem stamp_next {old : Snapshot} (clearIntent : Bool) (counted : record.transitionNumber ≠ 0)
    (sameState : old.state = record.state) (samePending : old.pendingOperation = record.pendingOperation) :
    Stamp (some old) (record.moved state clearIntent).asdict
      (record.event python (adapters.name record.command.action) state timestamp evidence) where
  responseId := rfl
  number := rfl
  state := rfl
  describes := ⟨rfl, rfl, rfl, rfl⟩
  previous := by simp [ResponseRecord.event, buildEvent, counted, sameState]
  intent := by simp [ResponseRecord.event, buildEvent, ResponseRecord.actionIntent, samePending]
  routed := event_routed

/-- The first event has no state before it. -/
theorem stamp_first (clearIntent : Bool) (first : record.transitionNumber = 0)
    (idle : record.pendingOperation = none) :
    Stamp none (record.moved state clearIntent).asdict
      (record.event python (adapters.name record.command.action) state timestamp evidence) where
  responseId := rfl
  number := rfl
  state := rfl
  describes := ⟨rfl, rfl, rfl, rfl⟩
  previous := by simp [ResponseRecord.event, buildEvent, first]
  intent := by simp [ResponseRecord.event, buildEvent, ResponseRecord.actionIntent, idle]
  routed := event_routed

end Stamps

section Records

variable {record : ResponseRecord} {responseId : String}

/-- A record in memory is the committed record. -/
theorem Synced.stored (synced : Synced python trusted session)
    (found : session.orchestrator.records.find? responseId = some record) :
    session.journal.records.find? responseId = some record.asdict := by
  rw [← synced.mirror, Session.view, Table.find?_mapValues, found]
  rfl

/-- A record lies under its own identifier. -/
theorem Synced.keyed (synced : Synced python trusted session)
    (found : session.orchestrator.records.find? responseId = some record) : record.responseId = responseId :=
  synced.reached.durable.keyed _ _ (synced.stored found)

/-- A record in memory is sound for the journal. -/
theorem Synced.sound (synced : Synced python trusted session)
    (found : session.orchestrator.records.find? responseId = some record) :
    Sound session.journal.applyIntents record.asdict :=
  synced.reached.durable.sound _ _ (synced.stored found)

/-- The times of the authorization of a record were read when its command was signed. -/
theorem Synced.timed (synced : Synced python trusted session)
    (found : session.orchestrator.records.find? responseId = some record) :
    ¬ record.command.authorization.BeyondYears python := by
  obtain ⟨_, _, _, _, verified⟩ := (synced.reached.durable.chronicle _ _ (synced.stored found)).signed
  exact verify_timed verified

/-- A record is engaged when its stored form is. -/
theorem engaged_asdict : record.engaged = true ↔ record.asdict.engaged := by
  simp [ResponseRecord.engaged, ResponseRecord.recoverable, Snapshot.engaged, ResponseRecord.asdict, or_assoc]

/-- A harmless observation keeps the process in sync. -/
theorem Synced.observe (synced : Synced python trusted session) (occurrence : Occurrence)
    (harmless : Harmless python session.log (session.entry occurrence))
    (still : occurrence ≠ .opened ∧ occurrence ≠ .checkpointRaised) :
    Synced python trusted (session.observed occurrence) := by
  refine ⟨synced.running, synced.keyRing, synced.reached.observe rfl harmless, synced.mirror, ?_⟩
  rw [Session.observed, raisedSinceOpen_append]
  cases occurrence <;> simp_all [Session.entry, synced.quiet]

/-- The tape is no part of the state that is in sync. -/
theorem Synced.tape (synced : Synced python trusted session) (tape : Tape) :
    Synced python trusted { session with tape } :=
  ⟨synced.running, synced.keyRing, synced.reached, synced.mirror, synced.quiet⟩

/-- A transition of a record in memory keeps the process in sync. -/
theorem move_ends {state : ResponseState} {timestamp : Int} {evidence : Evidence} {clearIntent : Bool}
    {updated : ResponseRecord} {event : AuditEvent} (synced : Synced python trusted session)
    (moved : updated = record.moved state clearIntent)
    (built : event = record.event python (session.orchestrator.adapters.name record.command.action) state timestamp
      evidence)
    (change : Change python trusted session.journal.records (session.log ++ session.validations (some event))
      session.orchestrator.catalog session.orchestrator.authenticator
      (session.journal.records.find? record.responseId) updated.asdict (some event)) :
    Ends (transition python record state timestamp evidence clearIntent) session
      (upon python trusted session fun result after =>
        result = (event, updated) ∧ Written python trusted session updated (some event) after) :=
  transition_ends synced.running synced.keyRing synced.reached synced.quiet (fun _ => by rw [synced.mirror])
    (by rw [synced.mirror]; exact synced.reached.durable.kept) moved built change

end Records

/-- The responses for which `adapter.revert` was called, in order. -/
def reverted (log : List Entry) : List String :=
  log.filterMap fun entry => match entry.occurrence with
    | .invoked .revert record _ => some record.responseId
    | _ => none

/-- The log grew by calls of `adapter.revert` for exactly these responses and by no export. -/
def Extends (done : List String) (before after : List Entry) : Prop :=
  ∃ more, after = before ++ more ∧ reverted more = done ∧ ∀ entry ∈ more, entry.occurrence ≠ .exportRan

theorem Extends.refl (log : List Entry) : Extends [] log log := ⟨[], by simp, rfl, by simp⟩

/-- Two extensions are one. -/
theorem Extends.trans {first second : List String} {start middle last : List Entry}
    (head : Extends first start middle) (tail : Extends second middle last) :
    Extends (first ++ second) start last := by
  obtain ⟨earlier, sameEarlier, firstDone, quietEarlier⟩ := head
  obtain ⟨later, sameLater, secondDone, quietLater⟩ := tail
  refine ⟨earlier ++ later, by rw [sameLater, sameEarlier, List.append_assoc], ?_, ?_⟩
  · rw [reverted, List.filterMap_append]
    exact congrArg₂ _ firstDone secondDone
  · intro entry member
    rcases List.mem_append.mp member with early | late
    · exact quietEarlier entry early
    · exact quietLater entry late

/-- An occurrence other than an export extends the log by what it reverts. -/
theorem extends_observed (occurrence : Occurrence) (plain : occurrence ≠ .exportRan) :
    Extends (reverted [session.entry occurrence]) session.log (session.observed occurrence).log :=
  ⟨[session.entry occurrence], rfl, rfl, by simpa [Session.entry] using plain⟩

/-- A record was changed in memory and in the store, and nothing else. -/
structure Touched (python : Python) (trusted : CommandAuthenticator → Prop) (session : Session)
    (record : ResponseRecord) (done : List String) (after : Session) : Prop where
  orchestrator : after.orchestrator = (session.remembering record).orchestrator
  service : after.service = session.service
  log : Extends done session.log after.log
  synced : Synced python trusted after

/-- A commit reverts nothing. -/
theorem Written.extends {record : ResponseRecord} {event : Option AuditEvent} {after : Session}
    (written : Written python trusted session record event after) : Extends [] session.log after.log := by
  refine ⟨session.validations event ++ [after.entry (.committed record.asdict event)], ?_, ?_, ?_⟩
  · rw [written.log, List.append_assoc]
  · cases event <;> rfl
  · cases event <;> simp [Session.validations, Session.entry]

/-- A record that was written is the only one touched. -/
theorem Written.touched {record : ResponseRecord} {event : Option AuditEvent} {after : Session}
    (written : Written python trusted session record event after) :
    Touched python trusted session record [] after :=
  ⟨written.orchestrator, written.service, written.extends, written.synced⟩

/-- Two changes of one record are one change. -/
theorem Touched.trans {first second : ResponseRecord} {done more : List String} {middle after : Session}
    (head : Touched python trusted session first done middle)
    (tail : Touched python trusted middle second more after) (same : second.responseId = first.responseId) :
    Touched python trusted session second (done ++ more) after := by
  refine ⟨?_, tail.service.trans head.service, head.log.trans tail.log, tail.synced⟩
  rw [tail.orchestrator]
  simp only [Session.remembering, head.orchestrator, same, Table.upsert_upsert]

/-- The touched record is the one in memory. -/
theorem Touched.find {record : ResponseRecord} {done : List String} {after : Session}
    (touched : Touched python trusted session record done after) :
    after.orchestrator.records.find? record.responseId = some record := by
  rw [touched.orchestrator]
  exact Table.find?_upsert_self _ _ _

/-- The session after an adapter call. -/
def Session.invoking (session : Session) (method : AdapterMethod) (record : ResponseRecord) (now : Int)
    (tape : Tape) : Session :=
  { session.observed (.invoked method record now) with tape }

/-- A reply that reports success with a reference and evidence. -/
def AdapterReply.Good (reply : AdapterReply) : Prop :=
  ∃ outcome, reply = .answered outcome ∧ outcome.ok = true ∧ outcome.adapterReference.getD "" ≠ "" ∧
    outcome.evidenceRefs ≠ [] ∧ ∀ reference ∈ outcome.evidenceRefs, reference ≠ ""

/-- The outcome of a call after which no reply of the tape reports a failure. -/
def AdapterOutcome.Follows (outcome : AdapterOutcome) (tape : Tape) : Prop :=
  (∀ reply ∈ tape.replies, reply.Good) →
    outcome.ok = true ∧ outcome.adapterReference.getD "" ≠ "" ∧ outcome.evidenceRefs ≠ []

/-- An adapter call is seen in the log, and its outcome has only real references. -/
theorem invoke_ends {method : AdapterMethod} {record : ResponseRecord} {now : Int} {errorCode : String}
    (synced : Synced python trusted session)
    (harmless : Harmless python session.log (session.entry (.invoked method record now))) :
    Ends (invoke method record now errorCode) session (upon python trusted session fun outcome after =>
      (∃ tape, after = session.invoking method record now tape) ∧
        (∀ reference ∈ outcome.evidenceRefs, reference ≠ "") ∧ outcome.Follows session.tape) := by
  have seen := synced.observe _ harmless ⟨by simp, by simp⟩
  unfold invoke
  rw [ends_bind, ends_note]
  dsimp only
  rw [ends_bind]
  refine nextReply_ends fun reply tape consumed calm source => ?_
  have bad : ∀ {outcome}, ¬ reply.Good → AdapterOutcome.Follows outcome session.tape := by
    intro outcome failed good
    rcases source with same | inside
    · exact absurd ⟨_, same, by decide⟩ failed
    · exact absurd (good reply inside) failed
  dsimp only
  cases reply with
  | answered outcome =>
      dsimp only
      split
      · rename_i named
        refine ⟨⟨⟨tape, rfl⟩, named, fun good => ?_⟩, consumed⟩
        rcases source with same | inside
        · cases same
          decide
        · obtain ⟨_, same, ok, referenced, proven, -⟩ := good _ inside
          cases same
          exact ⟨ok, referenced, proven⟩
      · rename_i unnamed
        refine ⟨⟨⟨tape, rfl⟩, by simp [AdapterOutcome.failure], bad ?_⟩, consumed⟩
        rintro ⟨_, same, -, -, -, named⟩
        cases same
        exact unnamed named
  | malformed =>
      exact ⟨⟨⟨tape, rfl⟩, by simp [AdapterOutcome.failure], bad (by simp [AdapterReply.Good])⟩, consumed⟩
  | raised =>
      exact ⟨⟨⟨tape, rfl⟩, by simp [AdapterOutcome.failure], bad (by simp [AdapterReply.Good])⟩, consumed⟩
  | interrupted => exact ⟨⟨by decide, Or.inl (seen.tape tape)⟩, fun start => (calm start).1 rfl⟩
  | crashed => exact ⟨seen.reached, fun start => (calm start).2 rfl⟩

/-- A read of the ledger changes nothing. -/
theorem readLedger_ends {α : Type} {read : Journal → α} (synced : Synced python trusted session) :
    Ends (readLedger read) session (upon python trusted session fun value after =>
      value = read session.journal ∧ ∃ tape, after = { session with tape }) := by
  unfold readLedger
  rw [ends_bind]
  refine nextRead_ends fun fate tape consumed calm => ?_
  dsimp only
  cases fate with
  | read => exact ⟨⟨rfl, tape, rfl⟩, consumed⟩
  | failed => exact ⟨⟨by decide, Or.inl (synced.tape tape)⟩, fun start => by simpa using calm start⟩

theorem touched_tape {record : ResponseRecord} {done : List String} {after : Session}
    (touched : Touched python trusted session record done after) (tape : Tape) :
    Touched python trusted session record done { after with tape } :=
  ⟨touched.orchestrator, touched.service, touched.log, touched.synced.tape tape⟩

end ClosedLoop.Response
