import ClosedLoop.Proof.Response.Configuration

namespace ClosedLoop.Response

open ClosedLoop.Library ClosedLoop.Library.Program

variable {python : Python} {trusted : CommandAuthenticator → Prop} {session : Session} {record : ResponseRecord}
  {timestamp : Int} {responseId : String}

/-- A call of `adapter.verify` or `adapter.revert` finds its record committed as the call needs it, and an
application is committed only after the call of `adapter.apply`. -/
def Placed (earlier : List Entry) (entry : Entry) : Prop :=
  match entry.occurrence with
  | .invoked .verify record now => entry.journal.records.find? record.responseId = some record.asdict ∧
      record.state = .applied ∧ record.pendingOperation = none ∧ now < record.expiresAt
  | .invoked .revert record _ => entry.journal.records.find? record.responseId = some record.asdict ∧
      record.pendingOperation = some .revert
  | .committed record (some event) => event.state = .applied → ∃ call ∈ earlier, call.applies record.responseId
  | _ => True

/-- The log grew, and it is placed if it was placed before. -/
structure Tidy (session after : Session) : Prop where
  placed : Always Placed session.log → Always Placed after.log
  grown : session.log <+: after.log

/-- A well placed occurrence keeps the log tidy. -/
theorem Tidy.observed {occurrence : Occurrence} (placed : Placed session.log (session.entry occurrence)) :
    Tidy session (session.observed occurrence) :=
  ⟨fun before => before.snoc placed, List.prefix_append _ _⟩

instance tidyRecording : Recording Tidy where
  refl _ := ⟨id, List.prefix_rfl⟩
  trans _ _ _ first second := ⟨second.placed ∘ first.placed, first.grown.trans second.grown⟩
  recorded session occurrence plain := by
    refine Tidy.observed ?_
    unfold Placed
    cases occurrence with
    | invoked method record now => cases plain
    | committed record event =>
        cases event with
        | none => trivial
        | some event => exact fun applied => absurd applied plain
    | _ => trivial
  unlogged session after same _ := ⟨fun before => same ▸ before, by rw [same]⟩

/-- However a program ends, the log is placed after it. -/
def tidied {α : Type} (session : Session) : Post Session PyError α :=
  ⟨fun _ after => Tidy session after, fun _ after => Tidy session after, Tidy session⟩

/-- However a program ends, the log is placed after it, and a returned program is in sync. -/
def kempt {α : Type} (python : Python) (trusted : CommandAuthenticator → Prop) (session : Session) :
    Post Session PyError α :=
  ⟨fun _ after => Synced python trusted after ∧ Tidy session after, fun _ after => Tidy session after, Tidy session⟩

section Rules

variable {α β : Type} {program : Op α}

/-- A program that ends tidied is tidy. -/
theorem Ends.tidy (ended : Ends program session (tidied session)) : Tidy session (program session).2 := by
  unfold Ends at ended
  generalize program session = result at ended ⊢
  obtain ⟨outcome, after⟩ := result
  cases outcome <;> exact ended

/-- Two tidy runs in a row are one. -/
theorem tidied_later {after : Session} (before : Tidy session after) (ended : Ends program after (tidied after)) :
    Ends program after (tidied session) :=
  ended.weaken (fun _ _ later => trans_of Tidy before later) (fun _ _ later => trans_of Tidy before later)
    fun _ later => trans_of Tidy before later

/-- A sequence is tidy when its second part is tidy from where its first part ended. -/
theorem tidied_bind {next : α → Op β} {middle : α → Session → Prop}
    (first : Ends program session (upon python trusted session middle)) (tidy : Ends program session (tidied session))
    (rest : ∀ value after, middle value after → Ends (next value) after (tidied after)) :
    Ends (program >>= next) session (tidied session) := by
  rw [ends_bind]
  refine (first.and tidy).weaken (fun value after ended => ?_) (fun _ _ ended => ended.2) fun _ ended => ended.2
  exact tidied_later ended.2 (rest value after ended.1.1)

/-- A tidied program followed by tidy ones is tidied. -/
theorem tidied_then {next : α → Op β} (tidy : Ends program session (tidied session))
    (rest : ∀ value, Keeps Tidy (next value)) : Ends (program >>= next) session (tidied session) := by
  rw [ends_bind]
  exact tidy.returning fun value after kept => tidied_later kept (rest value after)

/-- A safe and tidied program is both at once. -/
theorem kempt_of_safe (safely : Ends program session (safe python trusted))
    (tidy : Ends program session (tidied session)) :
    Ends program session (kempt python trusted session) :=
  (safely.and tidy).weaken (fun _ _ ended => ended) (fun _ _ ended => ended.2) fun _ ended => ended.2

/-- A kempt program is tidied. -/
theorem tidied_of_kempt (ended : Ends program session (kempt python trusted session)) :
    Ends program session (tidied session) :=
  ended.weaken (fun _ _ kept => kept.2) (fun _ _ kept => kept) fun _ kept => kept

/-- A sequence goes on in sync where its first part ended. -/
theorem kempt_bind {next : α → Op β} (first : Ends program session (kempt python trusted session))
    (rest : ∀ value after, Synced python trusted after → Ends (next value) after (tidied after)) :
    Ends (program >>= next) session (tidied session) := by
  rw [ends_bind]
  exact first.returning fun value after kept => tidied_later kept.2 (rest value after kept.1)

/-- A loop of tidy turns is tidy. -/
theorem kempt_collect {body : β → Op (Option α)} {items : List β}
    (turn : ∀ item session, Synced python trusted session → Ends (body item) session (kempt python trusted session))
    (synced : Synced python trusted session) : Ends (collect body items) session (kempt python trusted session) := by
  refine ends_collect (fun _ after => Synced python trusted after ∧ Tidy session after) (fun item _ state inside => ?_)
    (fun _ _ kept => kept) ⟨synced, refl_of Tidy session⟩
  exact (turn item state inside.1).weaken (fun _ _ kept => ⟨kept.1, trans_of Tidy inside.2 kept.2⟩)
    (fun _ _ later => trans_of Tidy inside.2 later) fun _ later => trans_of Tidy inside.2 later

end Rules

section Operations

/-- A call of `adapter.revert` finds its intent committed. -/
theorem reversal_tidied {α : Type} {next : ResponseRecord → AdapterOutcome → Op α}
    (synced : Synced python trusted session)
    (found : session.orchestrator.records.find? record.responseId = some record)
    (engaged : record.engaged = true) (rest : ∀ intended outcome, Keeps Tidy (next intended outcome)) :
    Ends (beginOperation record .revert timestamp >>= fun intended =>
      invoke .revert intended timestamp "ADAPTER_OUTCOME_UNKNOWN" >>= next intended) session (tidied session) := by
  apply tidied_bind (intendRevert_ends synced found engaged) (beginOperation_quiet session)
  rintro intended after ⟨same, touched⟩
  subst same
  have stored := touched.synced.stored touched.find
  exact tidied_then (invoke_noted (Tidy.observed ⟨stored, rfl⟩)) fun outcome => rest _ outcome

/-- `_revert` calls the adapter with the committed intent. -/
theorem revert_tidied {terminal : ResponseState} {cause : RollbackCause} (synced : Synced python trusted session)
    (found : session.orchestrator.records.find? record.responseId = some record)
    (engaged : record.engaged = true) (ends : terminal.terminal = true) :
    Ends (revert python record timestamp terminal cause) session (tidied session) := by
  have other : terminal ≠ .applied := fun same => by simp [same, ResponseState.terminal] at ends
  unfold revert
  apply require_ends (fun _ => refl_of Tidy session)
  intro _
  apply reversal_tidied synced found engaged
  intro intended outcome
  dsimp only
  split
  · exact fail_quiet.bind fun _ => keeps_pure
  · exact readLedger_quiet.bind fun _ => (transition_recorded other).bind fun _ => keeps_pure

/-- The outcome of a reversal is tidied on an applied record. -/
theorem retract_tidied {outcome : AdapterOutcome} (synced : Synced python trusted session)
    (found : session.orchestrator.records.find? record.responseId = some record) (state : record.state = .applied) :
    Ends (retract python record timestamp outcome) session (tidied session) := by
  have engaged : record.engaged = true := by simp [ResponseRecord.engaged, state]
  unfold retract
  apply reversal_tidied synced found engaged
  intro intended rollback
  dsimp only
  split
  · exact appliedAt_kept.bind fun _ => (transition_recorded (by decide)).bind fun _ => keeps_pure
  · exact fail_quiet.bind fun _ => keeps_pure

/-- The body of `verify` calls the adapter for an applied record in time, and reverts the others. -/
theorem settle_tidied (synced : Synced python trusted session)
    (found : session.orchestrator.records.find? record.responseId = some record)
    (state : record.state = .applied) (idle : record.pendingOperation = none) :
    Ends (if record.expiresAt ≤ timestamp then revert python record timestamp .rolledBack .ttlExpired
      else do
        require (record.adapterReference.isSome) .assertionError
        let outcome ← invoke .verify record timestamp "ADAPTER_OUTCOME_UNKNOWN"
        if outcome.ok = true ∧ outcome.evidenceRefs ≠ [] then confirm python record timestamp outcome.evidenceRefs
        else retract python record timestamp outcome) session (tidied session) := by
  split
  · exact revert_tidied synced found (by simp [ResponseRecord.engaged, state]) rfl
  · rename_i early
    refine require_ends (fun _ => refl_of Tidy session) fun _ => ?_
    refine tidied_bind (invoke_ends synced trivial)
      (invoke_noted (Tidy.observed ⟨synced.stored found, state, idle, not_le.mp early⟩)) ?_
    rintro outcome _ ⟨⟨tape, rfl⟩, -⟩
    have asked : Synced python trusted (session.invoking .verify record timestamp tape) :=
      (synced.observe (.invoked .verify record timestamp) trivial ⟨by simp, by simp⟩).tape tape
    split
    · exact confirm_kept _
    · exact retract_tidied asked found state

/-- A public operation of a live process is tidy when its body is. -/
theorem serialized_tidied {α : Type} {call : PublicCall} {method : Op α} (steady : Steady python trusted session)
    (body : Synced python trusted (session.observed (.called call)) →
      Ends method (session.observed (.called call)) (tidied (session.observed (.called call)))) :
    Ends (serialized call method) session (tidied session) := by
  have seen : Tidy session (session.observed (.called call)) := Tidy.observed trivial
  rcases steady with synced | halted
  · exact serialized_ends synced fun inside => tidied_later seen (body inside)
  · exact serialized_halted halted.stopped seen

/-- Verification is tidied. -/
theorem verify_tidied {now : Moment} (steady : Steady python trusted session) :
    Ends (verify python responseId now) session (tidied session) := by
  unfold verify
  refine serialized_tidied steady fun synced => ?_
  refine asUtc_ends (fun _ _ => refl_of Tidy _) fun value _ => ?_
  refine findRecord_ends (fun _ => refl_of Tidy _) fun record found => ?_
  refine require_ends (fun _ => refl_of Tidy _) fun state => require_ends (fun _ => refl_of Tidy _) fun idle => ?_
  exact settle_tidied synced ((synced.keyed found).symm ▸ found) state idle

theorem rollback_tidied {cause : String} {now : Moment} (steady : Steady python trusted session) :
    Ends (rollback python responseId cause now) session (tidied session) := by
  unfold rollback
  refine serialized_tidied steady fun synced => ?_
  split
  · exact refl_of Tidy _
  · refine asUtc_ends (fun _ _ => refl_of Tidy _) fun value _ => ?_
    refine findRecord_ends (fun _ => refl_of Tidy _) fun record found => ?_
    refine require_ends (fun _ => refl_of Tidy _) fun engaged => ?_
    exact revert_tidied synced ((synced.keyed found).symm ▸ found) engaged rfl

/-- A turn of a sweep that reverts an engaged record keeps the log placed. -/
theorem turn_kempt {terminal : ResponseState} {cause : RollbackCause} (synced : Synced python trusted session)
    (found : session.orchestrator.records.find? responseId = some record) (engaged : record.engaged = true)
    (ends : terminal.terminal = true) (expiry : terminal = .expired → record.state = .verified) :
    Ends (do
        let result ← revert python record timestamp terminal cause
        return some result) session (kempt python trusted session) := by
  have present := (synced.keyed found).symm ▸ found
  rw [ends_bind]
  refine (kempt_of_safe (safe_of_upon (revert_ends synced present engaged ends expiry) ?_)
    (revert_tidied synced present engaged ends)).returning fun _ _ kept => kept
  exact fun _ _ ⟨_, touched, _⟩ => touched.synced

/-- So is the expiry of one record, which also stays safe. -/
theorem expireRecord_kempt (synced : Synced python trusted session) :
    Ends (expireRecord python timestamp responseId) session (kempt python trusted session) := by
  unfold expireRecord
  refine findRecord_ends (fun _ => refl_of Tidy _) fun record found => ?_
  split
  · exact ⟨synced, refl_of Tidy _⟩
  · rename_i late
    simp only [not_or, Bool.not_eq_false] at late
    refine turn_kempt synced found late.1 ?_ fun expired => ?_
    · split <;> rfl
    · by_contra unverified
      rw [if_neg unverified] at expired
      cases expired

theorem recoverRecord_kempt (synced : Synced python trusted session) :
    Ends (recoverRecord python timestamp responseId) session (kempt python trusted session) := by
  unfold recoverRecord
  refine findRecord_ends (fun _ => refl_of Tidy _) fun record found => ?_
  split
  · exact ⟨synced, refl_of Tidy _⟩
  · rename_i pending
    have unfinished : record.unfinished = true := by
      simpa [ResponseRecord.unfinished, Option.isSome_iff_ne_none] using pending
    exact turn_kempt synced found (ResponseRecord.engaged_of_unfinished unfinished) rfl fun other => by cases other

/-- The sweep of all elapsed records is tidied. -/
theorem expireDue_tidied {now : Moment} (steady : Steady python trusted session) :
    Ends (expireDue python now) session (tidied session) := by
  unfold expireDue
  refine serialized_tidied steady fun synced => asUtc_ends (fun _ _ => refl_of Tidy _) fun value _ => ?_
  rw [ends_bind, ends_gets]
  exact tidied_of_kempt (kempt_collect (fun _ _ inside => expireRecord_kempt inside) synced)

theorem recoverPending_tidied {now : Moment} (steady : Steady python trusted session) :
    Ends (recoverPending python now) session (tidied session) := by
  unfold recoverPending
  refine serialized_tidied steady fun synced => asUtc_ends (fun _ _ => refl_of Tidy _) fun value _ => ?_
  rw [ends_bind, ends_gets]
  exact tidied_of_kempt (kempt_collect (fun _ _ inside => recoverRecord_kempt inside) synced)

/-- Once the adapter was called for a response, the log stays placed. -/
def Acknowledging (responseId : String) (session after : Session) : Prop :=
  session.log <+: after.log ∧ ((∃ call ∈ session.log, call.applies responseId) → Tidy session after)

instance acknowledgingRecording (responseId : String) : Recording (Acknowledging responseId) where
  refl session := ⟨List.prefix_rfl, fun _ => refl_of Tidy session⟩
  trans first second third head tail := by
    refine ⟨head.1.trans tail.1, fun called => trans_of Tidy (head.2 called) (tail.2 ?_)⟩
    obtain ⟨call, member, applies⟩ := called
    exact ⟨call, head.1.subset member, applies⟩
  recorded session occurrence plain :=
    ⟨List.prefix_append _ _, fun _ => Recording.recorded session occurrence plain⟩
  unlogged session after same catalog := ⟨by rw [same], fun _ => Recording.unlogged session after same catalog⟩

/-- The application of a response is committed after the call of the adapter for it. -/
theorem acknowledge_keeps {evidence : Evidence} (same : record.responseId = responseId) :
    Keeps (Acknowledging responseId) (transition python record .applied timestamp evidence true) := by
  subst same
  refine keeps_gets.bind fun adapter => Keeps.bind (checkpoint_recorded ?_) fun _ => remember_quiet.bind fun _ =>
    keeps_pure
  refine keeps_update fun session => ⟨List.prefix_append _ _, fun called => Tidy.observed ?_⟩
  exact fun _ => called

/-- `adapter.apply` is called, and then its outcome is committed. -/
theorem enforce_tidy : Keeps Tidy (enforce python record timestamp) := by
  refine recoveryReference_kept.bind fun reference => beginOperation_quiet.bind fun intended => fun session => ?_
  rw [ends_bind]
  have called : Tidy session (session.observed (.invoked .apply intended timestamp)) := Tidy.observed trivial
  refine invoke_observed.weaken (fun outcome middle later => ?_) (fun _ _ later => trans_of Tidy called later)
    fun _ later => trans_of Tidy called later
  refine tidied_later (trans_of Tidy called later) ?_
  dsimp only
  split
  · exact (fail_quiet.bind fun _ => keeps_pure) middle
  · have there : ∃ call ∈ middle.log, call.applies intended.responseId :=
      ⟨_, later.grown.subset (List.mem_append_right _ List.mem_cons_self), intended, timestamp, rfl, rfl⟩
    refine ((remember_quiet.bind fun _ => Keeps.bind ?_ fun _ => keeps_pure : Keeps
      (Acknowledging intended.responseId) _) middle).weaken (fun _ _ kept => kept.2 there)
      (fun _ _ kept => kept.2 there) fun _ kept => kept.2 there
    exact acknowledge_keeps rfl

/-- Application is tidy from any state. -/
theorem apply_tidy {now : Moment} : Keeps Tidy (apply python responseId now) := by
  refine serialized_quiet (keeps_ofExcept.bind fun time => findRecord_quiet.bind fun found =>
    keeps_require.bind fun _ => keeps_require.bind fun _ => keeps_require.bind fun _ => ?_)
  split
  · exact refuse_kept
  · refine keeps_gets.bind fun orchestrator => ?_
    split
    · exact refuse_kept
    · exact refuse_kept
    · exact keeps_raise
    · exact keeps_require.bind fun _ => enforce_tidy

end Operations

section Calls

theorem tidied_discard {α : Type} {program : Op α} (tidy : Ends program session (tidied session)) :
    Ends (program >>= fun _ => (pure () : Op Unit)) session (tidied session) :=
  tidied_then tidy fun _ => keeps_pure

/-- Every public operation of a live process keeps the log placed. -/
theorem performOperation_tidied (call : PublicCall) (steady : Steady python trusted session) :
    Ends (performOperation python call) session (tidied session) := by
  cases call with
  | submit command now => exact tidied_discard (submit_kept session)
  | restoreRecovery => exact tidied_discard (restoreRecovery_kept session)
  | apply responseId now => exact tidied_discard (apply_tidy session)
  | verify responseId now => exact tidied_discard (verify_tidied steady)
  | expireDue now => exact tidied_discard (expireDue_tidied steady)
  | rollback responseId cause now => exact tidied_discard (rollback_tidied steady)
  | recoverPending now => exact tidied_discard (recoverPending_tidied steady)
  | pendingApply => exact tidied_discard (pendingApply_kept session)
  | awaitingVerification => exact tidied_discard (awaitingVerification_kept session)
  | snapshot responseId => exact tidied_discard (snapshot_kept session)
  | auditHistory responseId => exact tidied_discard (auditHistory_kept session)

/-- A turn of a loop over responses keeps the process in sync and the log placed. -/
theorem turn_of_call {program : Op OrchestrationResult} (safely : Ends program session (safe python trusted))
    (tidy : Ends program session (tidied session)) :
    Ends (program >>= fun result => (pure (some result) : Op (Option OrchestrationResult))) session
      (kempt python trusted session) := by
  rw [ends_bind]
  exact (kempt_of_safe safely tidy).returning fun _ _ kept => kept

theorem lifecyclePass_tidied {now : Moment} (synced : Synced python trusted session) :
    Ends (lifecyclePass python now) session (tidied session) := by
  unfold lifecyclePass
  refine kempt_bind (kempt_of_safe (pendingApply_safe synced) (pendingApply_kept session)) fun queued first kept => ?_
  refine kempt_bind (kempt_collect (fun _ _ inside => turn_of_call (apply_safe inside) (apply_tidy _)) kept)
    fun applied second kept => ?_
  refine kempt_bind (kempt_of_safe (awaitingVerification_safe kept) (awaitingVerification_kept second))
    fun awaiting third kept => ?_
  refine kempt_bind (kempt_collect (fun _ _ inside => turn_of_call (verify_safe inside) (verify_tidied (Or.inl inside)))
    kept) fun verified fourth kept => ?_
  refine kempt_bind (kempt_of_safe (expireDue_safe kept) (expireDue_tidied (Or.inl kept))) fun expired fifth kept => ?_
  have counted : Synced python trusted
      { fifth with service := { fifth.service with ticks := fifth.service.ticks + 1 } } :=
    ⟨kept.running, kept.keyRing, kept.reached, kept.mirror, kept.quiet⟩
  have ticked : Tidy fifth { fifth with service := { fifth.service with ticks := fifth.service.ticks + 1 } } :=
    Recording.unlogged _ _ rfl rfl
  rw [ends_bind, ends_changeService]
  refine tidied_later ticked ?_
  rw [ends_bind, ends_gets]
  dsimp only
  split
  · exact tidied_then (recoverPending_tidied (Or.inl counted)) fun _ => keeps_pure
  · exact refl_of Tidy _

/-- A tick is tidied. -/
theorem tick_tidied {now : Moment} (steady : Steady python trusted session) :
    Ends (tick python now) session (tidied session) := by
  unfold tick
  rw [ends_bind, ends_gets]
  dsimp only
  have rest : ∀ report, Keeps Tidy (do
      changeService fun service => { service with counters := addReport report service.counters }
      exportPass
      return report) := fun report => changeService_kept.bind fun _ => exportPass_kept.bind fun _ => keeps_pure
  split
  · refine tidied_then ?_ rest
    rcases steady with synced | halted
    · exact lifecyclePass_tidied synced
    · unfold lifecyclePass
      rw [ends_bind]
      exact serialized_halted halted.stopped (Tidy.observed trivial)
  · exact rest _ session

/-- Every call on a live process keeps the log placed. -/
theorem perform_tidied (call : Call) (steady : Steady python trusted session) :
    Ends (perform python call) session (tidied session) := by
  cases call with
  | operation call => exact performOperation_tidied call steady
  | start now => exact tidied_then (recoverPending_tidied steady) fun _ => changeService_kept
  | accept command now => exact tidied_discard (accept_kept session)
  | tick now => exact tidied_discard (tick_tidied steady)

end Calls

section Runs

variable {world : World}

/-- A launch keeps the log tidy. -/
theorem World.launch_tidy (config : Config) (placed : Always Placed world.log) :
    Always Placed (world.launch python config).log := by
  unfold World.launch
  split
  · exact placed
  · dsimp only
    split
    · exact placed
    · exact placed.snoc trivial

/-- Every step of a coherent world keeps the log tidy. -/
theorem Coherent.tidy (coherent : Coherent python trusted world) (step : Step) (placed : Always Placed world.log) :
    Always Placed (world.step python step).log := by
  cases step with
  | launch config => exact World.launch_tidy config placed
  | stop => exact placed
  | call call tape =>
      rcases live : world.process with _ | process
      · rw [World.step_idle live]
        exact placed
      · rw [World.step_live _ live]
        have kept : Tidy _ _ := Ends.tidy (perform_tidied call (coherent.live process live tape))
        exact kept.placed placed

/-- In every run the adapter is called on committed records only. -/
theorem run_placed (python : Python) (steps : List Step) : Always Placed (World.run python steps).log := by
  induction steps using List.reverseRecOn with
  | nil => exact Always.nil _
  | append_singleton earlier step ih =>
      have before := run_reached python earlier
      rw [World.run, List.foldl_append]
      exact before.tidy step ih

end Runs

section Order

variable {journal : Journal} {log : List Entry}

/-- The reversal of a committed record has begun or ended. -/
def Snapshot.reversing (record : Snapshot) : Prop :=
  record.pendingOperation = some .revert ∨ record.state.terminal = true

/-- The entry shows a call of this adapter method for this response. -/
def Entry.calls (entry : Entry) (method : AdapterMethod) (responseId : String) : Prop :=
  ∃ record now, entry.occurrence = .invoked method record now ∧ record.responseId = responseId

/-- No change takes a reversal back. -/
theorem Change.reversing {records : Table String Snapshot} {catalog : PolicyCatalog} {intents : List String}
    {authenticator : CommandAuthenticator} {old new : Snapshot} {event : Option AuditEvent}
    (change : Change python trusted records log catalog authenticator (some old) new event) (sound : Sound intents old)
    (reversing : old.reversing) : new.reversing := by
  have rested : ∀ {state}, old.state = state → state.terminal = false → old.pendingOperation = some .revert :=
    fun same live => reversing.resolve_right (by simp [same, live])
  cases change with
  | authorize waiting => exact absurd waiting.2.2 (by simp [rested waiting.1 rfl])
  | decline waiting => exact absurd waiting.2.2 (by simp [rested waiting.1 rfl])
  | intendApply waiting => exact absurd waiting.2.2 (by simp [rested waiting.1 rfl])
  | intendRevert engaged => exact Or.inl rfl
  | confirmApply pending state => exact absurd pending (by simp [rested state rfl])
  | confirmVerify state idle => exact absurd idle (by simp [rested state rfl])
  | breakOff pending => exact Or.inl (reversing.resolve_right (by simp [(sound.pending pending).2]))
  | conclude pending ends => exact Or.inr ends

/-- The record shows an application that was not taken back. -/
def Snapshot.acknowledged (record : Snapshot) : Prop := record.state = .applied ∨ record.state = .verified

/-- An application enters a record with its own event, or it was there before. -/
theorem Change.acknowledged {records : Table String Snapshot} {catalog : PolicyCatalog}
    {authenticator : CommandAuthenticator} {old : Option Snapshot} {new : Snapshot} {event : Option AuditEvent}
    (change : Change python trusted records log catalog authenticator old new event) (shown : new.acknowledged) :
    (∃ payload ∈ event, payload.state = .applied) ∨ ∃ before ∈ old, before.acknowledged := by
  cases change with
  | request identified waiting => simp [Snapshot.acknowledged, waiting.1] at shown
  | authorize waiting => exact Or.inr ⟨_, rfl, shown⟩
  | decline waiting => simp [Snapshot.acknowledged, Snapshot.moved] at shown
  | intendApply waiting => exact Or.inr ⟨_, rfl, shown⟩
  | intendRevert engaged => exact Or.inr ⟨_, rfl, shown⟩
  | confirmApply pending state named stamp => exact Or.inl ⟨_, rfl, stamp.state⟩
  | confirmVerify state => exact Or.inr ⟨_, rfl, Or.inl state⟩
  | breakOff pending => simp [Snapshot.acknowledged, Snapshot.moved] at shown
  | @conclude _ terminal _ pending ends =>
      simp only [Snapshot.acknowledged, Snapshot.cleared, Snapshot.moved] at shown
      cases terminal <;> simp [ResponseState.terminal] at ends shown

/-- A reversal that was called for is in the store. -/
theorem Reached.reversing (reached : Reached python trusted journal log) (placed : Always Placed log) :
    ∀ entry ∈ log, entry.calls .revert responseId →
      ∃ row, journal.records.find? responseId = some row ∧ row.reversing := by
  induction reached with
  | empty => simp
  | @observe journal log entry reached present harmless ih =>
      intro other member calls
      rcases List.mem_append.mp member with before | new
      · exact ih placed.earlier other before calls
      · rw [List.mem_singleton] at new
        subst new
        obtain ⟨record, now, seen, rfl⟩ := calls
        have here := placed log other [] rfl
        simp only [Placed, seen] at here
        exact ⟨record.asdict, present ▸ here.1, Or.inl here.2⟩
  | @commit journal next log entry record event reached change accepted seen present ih =>
      intro other member calls
      have earlier : other ∈ log := by
        rcases List.mem_append.mp member with before | new
        · exact before
        · rw [List.mem_singleton] at new
          obtain ⟨_, _, clash, -⟩ := calls
          rw [new, seen] at clash
          cases clash
      obtain ⟨row, found, reversing⟩ := ih placed.earlier other earlier calls
      rw [(checkpoint_ok accepted).records, Table.find?_upsert]
      by_cases same : responseId = record.responseId
      · subst same
        rw [found] at change
        exact ⟨record, by simp, change.reversing (reached.durable.sound _ _ found) reversing⟩
      · exact ⟨row, by rw [if_neg same, found], reversing⟩
  | housekeeping _ records _ _ _ ih =>
      rw [records]
      exact ih placed

/-- An application in the store was called for. -/
theorem Reached.applied (reached : Reached python trusted journal log) (placed : Always Placed log) :
    ∀ row, journal.records.find? responseId = some row → row.acknowledged →
      ∃ call ∈ log, call.applies responseId := by
  induction reached with
  | empty => simp [Table.find?]
  | observe reached present harmless ih =>
      intro row found state
      obtain ⟨call, member, applies⟩ := ih placed.earlier row found state
      exact ⟨call, List.mem_append_left _ member, applies⟩
  | @commit journal next log entry record event reached change accepted seen present ih =>
      intro row found state
      suffices before : ∃ call ∈ log, call.applies responseId by
        obtain ⟨call, member, applies⟩ := before
        exact ⟨call, List.mem_append_left _ member, applies⟩
      rw [(checkpoint_ok accepted).records, Table.find?_upsert] at found
      split at found
      · rename_i same
        cases found
        subst same
        rcases change.acknowledged state with ⟨payload, present, applied⟩ | ⟨row, known, shown⟩
        · have here := placed log entry [] rfl
          rw [Option.mem_def.mp present] at seen
          simp only [Placed, seen] at here
          exact here applied
        · exact ih placed.earlier row known shown
      · exact ih placed.earlier row found state
  | housekeeping _ records _ _ _ ih =>
      rw [records]
      exact ih placed

/-- How an adapter call stands in its run. -/
structure InOrder (earlier : List Entry) (entry : Entry) (method : AdapterMethod) (record : ResponseRecord)
    (now : Int) : Prop where
  committed : entry.journal.records.find? record.responseId = some record.asdict
  named : ∃ reference ∈ record.adapterReference, reference ≠ ""
  live : ∀ event ∈ entry.journal.events record.responseId, event.state.terminal = false
  first : method = .apply → ∀ other ∈ earlier, ∀ before, ¬ other.calls before record.responseId
  applied : method = .verify → record.state = .applied ∧ now < record.expiresAt ∧
    ∃ call ∈ earlier, call.applies record.responseId
  unreversed : method ≠ .revert → ∀ other ∈ earlier, ¬ other.calls .revert record.responseId
  intended : method = .revert → record.pendingOperation = some .revert

/-- No event of a record that has not ended ends it. -/
theorem Reached.live (reached : Reached python trusted journal log) {row : Snapshot}
    (found : journal.records.find? responseId = some row) (live : row.state.terminal = false) :
    ∀ event ∈ journal.events responseId, event.state.terminal = false := by
  rw [reached.durable.events]
  exact (reached.durable.chronicle _ _ found).live live

/-- A record that is not taken back was not called to be. -/
theorem Reached.unreversed (reached : Reached python trusted journal log) (placed : Always Placed log)
    {row : Snapshot} (found : journal.records.find? responseId = some row) (kept : ¬ row.reversing) :
    ∀ other ∈ log, ¬ other.calls .revert responseId := by
  intro other member calls
  obtain ⟨there, present, reversing⟩ := reached.reversing placed other member calls
  rw [found] at present
  cases present
  exact kept reversing

/-- A verification is called for after the call of `adapter.apply`. -/
theorem Reached.verified (reached : Reached python trusted journal log) (placed : Always Placed log) :
    Always (fun earlier entry => entry.calls .verify responseId → ∃ call ∈ earlier, call.applies responseId) log := by
  rintro earlier entry later split ⟨record, now, seen, rfl⟩
  have here := placed earlier entry later split
  simp only [Placed, seen] at here
  have placedThere : Always Placed (earlier ++ [entry]) := by
    refine Always.earlier (show Always Placed ((earlier ++ [entry]) ++ later) from ?_)
    rwa [List.append_assoc, List.singleton_append, ← split]
  obtain ⟨call, member, applies⟩ :=
    (reached.entries earlier entry later split).applied placedThere _ here.1 (Or.inl here.2.1)
  rcases List.mem_append.mp member with before | same
  · exact ⟨call, before, applies⟩
  · rw [List.mem_singleton] at same
    obtain ⟨_, _, clash, -⟩ := applies
    rw [same, seen] at clash
    cases clash

/-- An adapter call finds a committed record with a reference that has not ended. -/
theorem Reached.inOrder (reached : Reached python trusted journal log) (placed : Always Placed log) :
    Always (fun earlier entry => ∀ method record now, entry.occurrence = .invoked method record now →
      InOrder earlier entry method record now) log := by
  intro earlier entry later split method record now seen
  have here := placed earlier entry later split
  have reachedThere := reached.entries earlier entry later split
  have placedThere : Always Placed (earlier ++ [entry]) := by
    refine Always.earlier (show Always Placed ((earlier ++ [entry]) ++ later) from ?_)
    rwa [List.append_assoc, List.singleton_append, ← split]
  have noted : ∀ other ∈ earlier, other ∈ earlier ++ [entry] := fun other => List.mem_append_left _
  cases method with
  | apply =>
      have warrant := reached.warranted earlier entry later split record now seen
      have sound := reachedThere.durable.sound _ _ warrant.stored
      have held := sound.pending (by simp [ResponseRecord.asdict, warrant.pending])
      have unreversed := reachedThere.unreversed placedThere warrant.stored (by
        rintro (reverting | ended)
        · simp [ResponseRecord.asdict, warrant.pending] at reverting
        · simp [held.2] at ended)
      obtain ⟨reference, present⟩ := Option.isSome_iff_exists.mp held.1
      refine ⟨warrant.stored, ⟨reference, present, sound.named reference present⟩,
        reachedThere.live warrant.stored held.2, fun _ other member before calls => ?_, by simp,
        fun _ other member => unreversed other (noted other member), by simp⟩
      cases before with
      | apply => exact warrant.fresh other member calls
      | revert => exact unreversed other (noted other member) calls
      | verify =>
          obtain ⟨front, back, there, verified⟩ := (reachedThere.verified placedThere).of_mem (noted other member)
          obtain ⟨call, inside, applies⟩ := verified calls
          have cut : earlier = front ++ (other :: back).dropLast := by
            have same := congrArg List.dropLast there
            rwa [List.dropLast_concat, List.dropLast_append_of_ne_nil (List.cons_ne_nil _ _)] at same
          exact warrant.fresh call (by rw [cut]; exact List.mem_append_left _ inside) applies
  | verify =>
      simp only [Placed, seen] at here
      obtain ⟨stored, state, idle, inTime⟩ := here
      have sound := reachedThere.durable.sound _ _ stored
      have live : record.asdict.state.terminal = false := by simp [ResponseRecord.asdict, state, ResponseState.terminal]
      obtain ⟨reference, present⟩ := Option.isSome_iff_exists.mp (sound.held (by simp [ResponseRecord.asdict, state]))
      refine ⟨stored, ⟨reference, present, sound.named reference present⟩, reachedThere.live stored live, by simp,
        fun _ => ⟨state, inTime, reached.verified placed earlier entry later split ⟨record, now, seen, rfl⟩⟩,
        fun _ other member => reachedThere.unreversed placedThere stored ?_ other (noted other member), by simp⟩
      rintro (reverting | ended)
      · simp [ResponseRecord.asdict, idle] at reverting
      · simp [live] at ended
  | revert =>
      simp only [Placed, seen] at here
      obtain ⟨stored, pending⟩ := here
      have sound := reachedThere.durable.sound _ _ stored
      have held := sound.pending (by simp [ResponseRecord.asdict, pending])
      obtain ⟨reference, present⟩ := Option.isSome_iff_exists.mp held.1
      exact ⟨stored, ⟨reference, present, sound.named reference present⟩, reachedThere.live stored held.2, by simp,
        by simp, by simp, fun _ => pending⟩

/-- For each response the adapter is called at most once to apply, then to verify, and then to revert. Every call
finds its record committed with a reference and no event that ended it. -/
theorem adapter_calls_in_order (python : Python) (steps : List Step) :
    Always (fun earlier entry => ∀ method record now, entry.occurrence = .invoked method record now →
      InOrder earlier entry method record now) (World.run python steps).log :=
  (run_reached python steps).reached.inOrder (run_placed python steps)

end Order

end ClosedLoop.Response
