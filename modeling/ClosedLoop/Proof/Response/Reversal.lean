import ClosedLoop.Proof.Response.Operations

namespace ClosedLoop.Response

open ClosedLoop.Library ClosedLoop.Library.Program

variable {python : Python} {trusted : CommandAuthenticator → Prop} {session : Session} {record : ResponseRecord}
  {timestamp : Int}

/-- The record with the same identity and input. -/
def ResponseRecord.SameInput (record other : ResponseRecord) : Prop :=
  other.responseId = record.responseId ∧ other.command = record.command ∧ other.expiresAt = record.expiresAt

/-- A failure of a waiting or of an unfinished record is committed. -/
theorem fail_ends {code message : String} (synced : Synced python trusted session)
    (found : session.orchestrator.records.find? record.responseId = some record)
    (fits : record.asdict.waiting ∨ record.pendingOperation.isSome) :
    Ends (fail python record timestamp code message) session (upon python trusted session fun _ after =>
      Touched python trusted session (record.moved .failed false) [] after) := by
  have stored := synced.stored found
  have counted : record.transitionNumber ≠ 0 := Nat.ne_of_gt (synced.sound found).counted.1
  unfold fail
  refine upon_bind (move_ends synced rfl rfl ?_) fun result after written _ =>
    upon_pure written.2.touched
  rw [stored]
  rcases fits with waiting | pending
  · exact Change.decline waiting (stamp_next false counted rfl rfl) rfl
  · exact Change.breakOff pending (stamp_next false counted rfl rfl) rfl

/-- An engaged record has a non-empty reference. -/
theorem Synced.referenced (synced : Synced python trusted session)
    (found : session.orchestrator.records.find? record.responseId = some record)
    (engaged : record.engaged = true) : ∃ reference ∈ record.adapterReference, reference ≠ "" := by
  have sound := synced.sound found
  obtain ⟨reference, present⟩ := Option.isSome_iff_exists.mp (sound.engaged (engaged_asdict.mp engaged)).1
  exact ⟨reference, present, sound.named reference present⟩

/-- The intent to revert an engaged record is committed. -/
theorem intendRevert_ends (synced : Synced python trusted session)
    (found : session.orchestrator.records.find? record.responseId = some record)
    (engaged : record.engaged = true) :
    Ends (beginOperation record .revert timestamp) session (upon python trusted session fun result after =>
      result = record.intending .revert timestamp ∧
        Touched python trusted session (record.intending .revert timestamp) [] after) := by
  refine upon_weaken (beginOperation_ends synced rfl ?_ ?_) fun result after written =>
    ⟨written.1, written.2.touched⟩
  · rw [synced.stored found]
    exact Change.intendRevert (engaged_asdict.mp engaged)
  · have referenced := synced.referenced found engaged
    exact ⟨referenced, Or.inr (Or.inr (Or.inl rfl))⟩

/-- An adapter call keeps what has been touched. -/
theorem Touched.invoke {done : List String} {after : Session}
    (touched : Touched python trusted session record done after) (method : AdapterMethod) (now : Int)
    (harmless : Harmless python after.log (after.entry (.invoked method record now))) (tape : Tape) :
    Touched python trusted session record
      (done ++ reverted [after.entry (.invoked method record now)]) (after.invoking method record now tape) :=
  ⟨touched.orchestrator, touched.service, touched.log.trans (extends_observed _ (by simp)),
    (touched.synced.observe _ harmless ⟨by simp, by simp⟩).tape tape⟩

theorem AdapterOutcome.Follows.earlier {outcome : AdapterOutcome} {before after : Tape}
    (follows : outcome.Follows after) (consumed : Consumed before after) : outcome.Follows before :=
  fun good => follows fun reply member => good reply (consumed.replies member)

/-- The intent to revert is committed, and the adapter is called once. -/
theorem revertCall_ends {errorCode : String} (synced : Synced python trusted session)
    (found : session.orchestrator.records.find? record.responseId = some record)
    (engaged : record.engaged = true) {α : Type} {next : ResponseRecord → AdapterOutcome → Op α}
    {result : α → Session → Prop}
    (later : ∀ outcome after,
      Touched python trusted session (record.intending .revert timestamp) [record.responseId] after →
      (∀ reference ∈ outcome.evidenceRefs, reference ≠ "") → outcome.Follows session.tape →
      Ends (next (record.intending .revert timestamp) outcome) after (upon python trusted after result)) :
    Ends (do
        let intended ← beginOperation record .revert timestamp
        let outcome ← invoke .revert intended timestamp errorCode
        next intended outcome) session (upon python trusted session result) := by
  refine upon_bind (intendRevert_ends synced found engaged) fun intended after ⟨same, touched⟩ consumed => ?_
  subst same
  refine upon_bind (invoke_ends touched.synced trivial) fun outcome last ⟨⟨tape, ended⟩, named, follows⟩ _ => ?_
  subst ended
  exact later outcome _ (touched.invoke .revert timestamp trivial tape) named
    (follows.earlier consumed)

/-- The rollback of an intended revert is committed. -/
theorem conclude_ends {terminal : ResponseState} {evidence : Evidence} (synced : Synced python trusted session)
    (found : session.orchestrator.records.find? record.responseId = some record)
    (pending : record.pendingOperation = some .revert) (ends : terminal.terminal = true)
    (expiry : terminal = .expired → record.state = .verified) (rollback : evidence.rollback.isSome) :
    Ends (transition python record terminal timestamp evidence true) session
      (upon python trusted session fun _ after =>
        Touched python trusted session (record.moved terminal true) [] after) := by
  have counted : record.transitionNumber ≠ 0 := Nat.ne_of_gt (synced.sound found).counted.1
  refine upon_weaken (move_ends synced rfl rfl ?_) fun result after written => written.2.touched
  rw [synced.stored found]
  exact Change.conclude pending ends expiry
    (stamp_next true counted rfl rfl) rollback

/-- A reverted record ended, or it failed and its operation is still pending. -/
def ResponseRecord.Reversed (record : ResponseRecord) (terminal : ResponseState) (after : ResponseRecord) :
    Prop :=
  record.SameInput after ∧ ((after.state = terminal ∧ after.pendingOperation = none) ∨
    (after.state = .failed ∧ after.pendingOperation.isSome))

/-- `_revert` of an engaged record calls the adapter and commits the outcome. -/
theorem revert_ends {terminal : ResponseState} {cause : RollbackCause} (synced : Synced python trusted session)
    (found : session.orchestrator.records.find? record.responseId = some record)
    (engaged : record.engaged = true) (ends : terminal.terminal = true)
    (expiry : terminal = .expired → record.state = .verified) :
    Ends (revert python record timestamp terminal cause) session (upon python trusted session fun _ after =>
      ∃ changed, Touched python trusted session changed [record.responseId] after ∧
        record.Reversed terminal changed ∧
        ((∀ reply ∈ session.tape.replies, reply.Good) → changed.state = terminal)) := by
  obtain ⟨reference, present, -⟩ := synced.referenced found engaged
  unfold revert
  rw [ends_bind, ends_require]
  refine ⟨fun _ => ?_, fun missing => absurd (by rw [Option.mem_def.mp present]; rfl) missing⟩
  refine revertCall_ends synced found engaged fun outcome after touched named follows => ?_
  split
  · rename_i failed
    unfold failFromOutcome
    refine upon_bind (fail_ends touched.synced touched.find (Or.inr rfl)) fun event last moved _ => upon_pure ?_
    refine ⟨_, touched.trans moved rfl, ⟨⟨rfl, rfl, rfl⟩, Or.inr ⟨rfl, rfl⟩⟩, fun good => ?_⟩
    obtain ⟨ok, -, proven⟩ := follows good
    rcases failed with bad | empty
    · rw [ok] at bad
      cases bad
    · exact absurd empty proven
  · refine upon_bind (readLedger_ends touched.synced) fun application read ⟨_, tape, same⟩ _ => ?_
    subst same
    have kept := touched_tape touched tape
    refine upon_bind (conclude_ends kept.synced kept.find rfl ends expiry rfl)
      fun result last moved _ => upon_pure ?_
    exact ⟨_, kept.trans moved rfl, ⟨⟨rfl, rfl, rfl⟩, Or.inl ⟨rfl, rfl⟩⟩, fun _ => rfl⟩

end ClosedLoop.Response
