import ClosedLoop.Proof.Response.Enforcement

namespace ClosedLoop.Response

open ClosedLoop.Library ClosedLoop.Library.Program

variable {python : Python} {trusted : CommandAuthenticator → Prop} {session : Session} {record : ResponseRecord}
  {timestamp : Int} {responseId : String}

/-- The cache of recent keys is no part of the state that is in sync. -/
theorem Synced.dedup (synced : Synced python trusted session) (dedup : Table String (String × Int)) :
    Synced python trusted { session with orchestrator := { session.orchestrator with dedup } } :=
  ⟨synced.running, synced.keyRing, synced.reached, synced.mirror, synced.quiet⟩

/-- The record of a new submission before its first transition. -/
def newRecord (python : Python) (command : Command) (timestamp : Int) : ResponseRecord :=
  { responseId := responseIdOf python command.idempotencyKey, command
    expiresAt := timestamp + seconds command.ttlSeconds.value, state := .requested, transitionNumber := 0 }

/-- The first event of a new submission. -/
def requestEvent (python : Python) (session : Session) (command : Command) (timestamp : Int) : AuditEvent :=
  (newRecord python command timestamp).event python (session.orchestrator.adapters.name command.action) .requested
    timestamp {}

/-- A new submission commits REQUESTED. -/
theorem request_ends {command : Command} (synced : Synced python trusted session)
    (fresh : responseIdOf python command.idempotencyKey ∉ session.orchestrator.records.keys)
    (signed : session.orchestrator.authenticator.verify python command timestamp = .ok ()) :
    Ends (transition python (newRecord python command timestamp) .requested timestamp {} false) session
      (upon python trusted session fun result after =>
        result = (requestEvent python session command timestamp,
          (newRecord python command timestamp).moved .requested false) ∧
        Written python trusted session ((newRecord python command timestamp).moved .requested false)
          (some (requestEvent python session command timestamp)) after) := by
  have missing : session.journal.records.find? (responseIdOf python command.idempotencyKey) = none := by
    rw [Table.find?_eq_none_iff, ← synced.mirror, Session.view, Table.keys_mapValues]
    exact fresh
  refine move_ends synced rfl rfl ?_
  rw [show (newRecord python command timestamp).responseId = responseIdOf python command.idempotencyKey from rfl,
    missing]
  exact Change.request rfl ⟨rfl, rfl, rfl⟩ rfl rfl (stamp_first false rfl rfl)
    ⟨_, timestamp, synced.keyRing, signed, rfl⟩

/-- A denied submission ends in FAILED. -/
theorem deny_ends {code reason message : String} (synced : Synced python trusted session)
    (found : session.orchestrator.records.find? record.responseId = some record)
    (waiting : record.asdict.waiting) :
    Ends (deny python record timestamp code reason message) session (upon python trusted session fun _ after =>
      Synced python trusted after) := by
  unfold deny
  exact upon_bind (fail_ends synced found (Or.inl waiting)) fun event after touched _ => upon_pure touched.synced

/-- The authorization of an admitted submission is committed. -/
theorem authorize_ends {raw : Json} {event : AuditEvent} (synced : Synced python trusted session)
    (found : session.orchestrator.records.find? record.responseId = some record)
    (waiting : record.asdict.waiting)
    (admitted : Admitted python session.log session.orchestrator.catalog session.orchestrator.authenticator
      ({ record with authorized := true } : ResponseRecord).asdict raw timestamp event) :
    Ends (do
        remember { record with authorized := true }
        checkpoint { record with authorized := true } none) session (upon python trusted session fun _ after =>
      Written python trusted session { record with authorized := true } none after) := by
  have stored := synced.stored found
  refine persist_ends synced ?_ fun claimed => ?_
  · rw [show ({ record with authorized := true } : ResponseRecord).responseId = record.responseId from rfl, stored]
    exact Change.authorize waiting admitted
  · have idle : record.pendingOperation = none := waiting.2.2
    have present : record.responseId ∈ session.journal.applyIntents := by
      simpa [newIntents, ResponseRecord.asdict, idle] using claimed
    exact absurd present ((synced.sound found).waiting waiting)

/-- A new submission is committed, and then denied or authorized. -/
theorem admitCommand_ends {raw : Json} {command : Command} {before : List Entry} {called : Entry}
    (synced : Synced python trusted session)
    (fresh : responseIdOf python command.idempotencyKey ∉ session.orchestrator.records.keys)
    (valid : validateCommand python session.orchestrator.catalog session.orchestrator.authenticator raw timestamp =
      .ok command)
    (log : session.log = before ++ [called])
    (call : called.occurrence = .called (.submit raw (.aware timestamp))) :
    Ends (admitCommand python command timestamp) session (upon python trusted session fun _ after =>
      Synced python trusted after) := by
  unfold admitCommand
  rw [ends_bind, ends_gets]
  dsimp only
  refine upon_bind (request_ends synced fresh (validateCommand_ok valid).signed)
    fun result middle ⟨same, written⟩ _ => ?_
  subst same
  dsimp only
  rw [ends_bind, ends_update]
  dsimp only
  generalize dedupIs : middle.orchestrator.dedup.upsert command.idempotencyKey _ = dedup
  have kept := written.synced.dedup dedup
  have found := written.touched.find
  cases checked : assertTargetAllowed python session.orchestrator.catalog.protections command.action command.target with
  | error reason => exact deny_ends kept found ⟨rfl, rfl, rfl⟩
  | ok passed =>
      dsimp only
      change Ends _ _ (upon python trusted { middle with orchestrator := { middle.orchestrator with dedup } } _)
      refine upon_bind (readLedger_ends kept) fun submissions last ⟨counted, tape, same⟩ _ => ?_
      subst same counted
      split
      · exact deny_ends (kept.tape tape) found ⟨rfl, rfl, rfl⟩
      · rename_i below
        have catalog : middle.orchestrator.catalog = session.orchestrator.catalog := by rw [written.orchestrator]; rfl
        have ring : middle.orchestrator.authenticator = session.orchestrator.authenticator := by
          rw [written.orchestrator]; rfl
        have admitted : Admitted python middle.log middle.orchestrator.catalog middle.orchestrator.authenticator
            ({ (newRecord python command timestamp).moved .requested false with authorized := true } :
              ResponseRecord).asdict raw timestamp (requestEvent python session command timestamp) := by
          refine ⟨⟨before, called,
            session.entry (.validated (requestEvent python session command timestamp) (.ok ())),
            middle.entry (.committed ((newRecord python command timestamp).moved .requested false).asdict
              (some (requestEvent python session command timestamp))), ?_, call, rfl, rfl, ?_⟩, rfl, ⟨rfl, rfl⟩, ?_, ?_⟩
          · rw [written.log, log]
            simp only [Session.validations, Option.toList_some, List.map_cons, List.map_nil, List.append_assoc]
            rfl
          · rw [catalog]
            exact not_lt.mp below
          · rw [catalog, ring]
            exact valid
          · rw [catalog]
            exact checked
        have ended := authorize_ends (kept.tape tape) found ⟨rfl, rfl, rfl⟩ admitted
        rw [ends_bind] at ended ⊢
        refine ended.returning fun _ remembered checkpointed => ?_
        rw [ends_bind]
        exact checkpointed.returning fun _ after authorized => ⟨authorized.1.synced, authorized.2⟩

theorem duplicateResult_safe (synced : Synced python trusted session) :
    Ends (duplicateResult responseId) session (safe python trusted) := by
  unfold duplicateResult
  refine findRecord_ends (fun _ => synced.stops (by simp)) fun record found => ?_
  refine safe_of_upon (upon_bind (readLedger_ends synced) fun latest after ⟨_, tape, same⟩ _ =>
    upon_pure ?_) fun _ _ kept => kept
  subst same
  exact synced.tape tape

theorem submit_safe {raw : Json} {now : Moment} (synced : Synced python trusted session) :
    Ends (submit python raw now) session (safe python trusted) := by
  unfold submit
  refine serialized_ends synced fun seen => ?_
  refine asUtc_ends (fun _ other => seen.stops other) fun value aware => ?_
  subst aware
  rw [ends_bind, ends_gets]
  dsimp only
  rw [ends_bind, ends_ofExcept]
  refine ⟨fun command valid => ?_, fun error failed => seen.stops ?_⟩
  · dsimp only
    rw [ends_bind, pruneDedup, ends_update]
    dsimp only
    rw [ends_bind, ends_gets]
    dsimp only
    have pruned := seen.dedup (session.orchestrator.dedup.filter fun row => value < row.2.2)
    split
    · exact duplicateResult_safe pruned
    · split
      · exact duplicateResult_safe pruned
      · rename_i fresh
        exact safe_of_upon (admitCommand_ends pruned fresh valid rfl rfl) fun _ _ kept => kept
  · rintro rfl
    have known : Check.Fails (Rejection True) (validateCommand python session.orchestrator.catalog
        session.orchestrator.authenticator raw value) := validateCommand_fails _ _ fun _ _ _ _ _ => trivial
    exact known _ failed

end ClosedLoop.Response
