import ClosedLoop.Proof.Response.Sweeps

namespace ClosedLoop.Response

open ClosedLoop.Library ClosedLoop.Library.Program

variable {python : Python} {trusted : CommandAuthenticator → Prop} {session : Session} {record : ResponseRecord}
  {timestamp : Int} {responseId : String}

/-- The record holds its target and its lifetime has elapsed. -/
def ResponseRecord.due (now : Int) (record : ResponseRecord) : Bool :=
  record.engaged && decide (record.expiresAt ≤ now)

/-- The record has an unfinished adapter operation. -/
def ResponseRecord.unfinished (record : ResponseRecord) : Bool := record.pendingOperation.isSome

/-- A record with an operation in flight is engaged. -/
theorem ResponseRecord.engaged_of_unfinished (unfinished : record.unfinished = true) : record.engaged = true := by
  simp only [ResponseRecord.unfinished] at unfinished
  simp [ResponseRecord.engaged, ResponseRecord.recoverable, unfinished]

/-- A reverted record ended or is still unfinished. -/
theorem ResponseRecord.Reversed.ended {terminal : ResponseState} {after : ResponseRecord}
    (reversed : record.Reversed terminal after) (ends : terminal.terminal = true) : record.Ended after := by
  refine ⟨reversed.1, ?_⟩
  rcases reversed.2 with ⟨state, idle⟩ | broken
  · exact Or.inl ⟨by rw [state, ends], idle⟩
  · exact Or.inr broken

/-- A turn that reverts an engaged record sweeps it. -/
theorem revert_sweeps {select : ResponseRecord → Bool} {terminal : ResponseState} {cause : RollbackCause}
    (synced : Synced python trusted session)
    (found : session.orchestrator.records.find? responseId = some record) (chosen : select record = true)
    (engaged : record.engaged = true) (ends : terminal.terminal = true)
    (expiry : terminal = .expired → record.state = .verified) :
    Ends (do
        let result ← revert python record timestamp terminal cause
        return some result) session (upon python trusted session fun _ after =>
      Swept python trusted select session [responseId] after) := by
  have key := synced.keyed found
  refine upon_bind (revert_ends synced (key.symm ▸ found) engaged ends expiry)
    fun result after ⟨changed, touched, reversed, good⟩ _ => upon_pure ?_
  rw [key] at touched
  refine touched.swept found chosen (reversed.ended ends) (reversed.1.1.trans key) fun all => ?_
  rw [good all, ends]

/-- A turn of the expiry loop reverts a due record. -/
theorem expireRecord_turns :
    Turns python trusted (ResponseRecord.due timestamp) (expireRecord python timestamp) := by
  intro session responseId record synced found
  unfold expireRecord
  refine findRecord_found found ?_
  split
  · rename_i early
    refine upon_pure (swept_spared synced found ?_)
    rcases early with free | before
    · simp [ResponseRecord.due, free]
    · simp [ResponseRecord.due, before]
  · rename_i late
    simp only [not_or, Bool.not_eq_false, not_lt] at late
    refine revert_sweeps synced found (by simp [ResponseRecord.due, late]) late.1 ?_ ?_
    · split <;> rfl
    · split
      · rename_i verified
        exact fun _ => verified
      · exact fun impossible => by cases impossible

/-- A turn of the recovery loop reverts an unfinished record. -/
theorem recoverRecord_turns :
    Turns python trusted ResponseRecord.unfinished (recoverRecord python timestamp) := by
  intro session responseId record synced found
  unfold recoverRecord
  refine findRecord_found found ?_
  split
  · rename_i idle
    exact upon_pure (swept_spared synced found (by simp [ResponseRecord.unfinished, idle]))
  · rename_i pending
    have unfinished : record.unfinished = true := by
      simpa [ResponseRecord.unfinished, Option.isSome_iff_ne_none] using pending
    exact revert_sweeps synced found unfinished (ResponseRecord.engaged_of_unfinished unfinished) rfl
      fun impossible => by cases impossible

/-- A call that is noted sweeps nothing. -/
theorem Swept.called {select : ResponseRecord → Bool} {responseIds : List String} {call : PublicCall}
    {after : Session}
    (swept : Swept python trusted select (session.observed (.called call)) responseIds after) :
    Swept python trusted select session responseIds after :=
  ⟨swept.synced, swept.frame, swept.service, swept.keys,
    (extends_observed (.called call) (by simp)).trans swept.log, swept.chosen, swept.spared⟩

/-- The records of a synced process have distinct identifiers. -/
theorem Synced.distinct (synced : Synced python trusted session) : session.orchestrator.records.keys.Nodup := by
  have distinct := synced.reached.durable.distinct
  rwa [← synced.mirror, Session.view, Table.keys_mapValues] at distinct

/-- A sweep over all records reverts exactly the selected ones. -/
theorem sweepAll_ends {select : ResponseRecord → Bool} {body : String → Op (Option OrchestrationResult)}
    {call : PublicCall} (turns : Turns python trusted select body)
    (synced : Synced python trusted (session.observed (.called call))) :
    Ends (do
        let responseIds ← gets (·.orchestrator.records.keys)
        collect body responseIds) (session.observed (.called call)) (upon python trusted session fun _ after =>
      Swept python trusted select session session.orchestrator.records.keys after) := by
  rw [ends_bind, ends_gets]
  dsimp only
  change Ends _ _ (upon python trusted (session.observed (.called call)) _)
  exact upon_weaken (sweep_ends turns _ synced.distinct synced fun _ member => member) fun _ _ swept => swept.called

variable (timestamp) in
/-- `expire_due` reverts exactly the due records. -/
theorem expireDue_ends (synced : Synced python trusted session) :
    Ends (expireDue python (.aware timestamp)) session (upon python trusted session fun _ after =>
      Swept python trusted (ResponseRecord.due timestamp) session session.orchestrator.records.keys after) := by
  unfold expireDue
  refine serialized_ends synced fun seen => ?_
  rw [asUtc_aware]
  exact sweepAll_ends expireRecord_turns seen

variable (timestamp) in
/-- `recover_pending` reverts exactly the unfinished records. -/
theorem recoverPending_ends (synced : Synced python trusted session) :
    Ends (recoverPending python (.aware timestamp)) session (upon python trusted session fun _ after =>
      Swept python trusted ResponseRecord.unfinished session session.orchestrator.records.keys after) := by
  unfold recoverPending
  refine serialized_ends synced fun seen => ?_
  rw [asUtc_aware]
  exact sweepAll_ends recoverRecord_turns seen

/-- A call with a clock that has no UTC time is refused. -/
theorem timeless_ends {α : Type} {call : PublicCall} {body : Int → Op α} {now : Moment} (timeless : ∀ value, now ≠ .aware value)
    (synced : Synced python trusted session) :
    Ends (serialized call do
      let timestamp ← ofExcept (asUtc now)
      body timestamp) session (safe python trusted) := by
  refine serialized_ends synced fun seen => ?_
  exact asUtc_ends (fun _ other => seen.stops other) fun value aware => absurd aware (timeless value)

/-- The sweep is safe. -/
theorem expireDue_safe {now : Moment} (synced : Synced python trusted session) :
    Ends (expireDue python now) session (safe python trusted) := by
  cases now with
  | naive | beyond _ => exact timeless_ends (by simp) synced
  | aware value => exact safe_of_upon (expireDue_ends value synced) fun _ _ swept => swept.synced

theorem recoverPending_safe {now : Moment} (synced : Synced python trusted session) :
    Ends (recoverPending python now) session (safe python trusted) := by
  cases now with
  | naive | beyond _ => exact timeless_ends (by simp) synced
  | aware value => exact safe_of_upon (recoverPending_ends value synced) fun _ _ swept => swept.synced

theorem rollback_safe {cause : String} {now : Moment} (synced : Synced python trusted session) :
    Ends (rollback python responseId cause now) session (safe python trusted) := by
  unfold rollback
  refine serialized_ends synced fun seen => ?_
  split
  · exact seen.stops (by simp)
  · rename_i known named
    refine asUtc_ends (fun _ other => seen.stops other) fun value _ => ?_
    refine findRecord_ends (fun _ => seen.stops (by simp)) fun record found => ?_
    refine require_ends (fun _ => seen.stops (by simp)) fun engaged => ?_
    exact safe_of_upon (revert_ends seen ((seen.keyed found).symm ▸ found) engaged rfl
      fun impossible => by cases impossible) fun _ _ ⟨_, touched, _⟩ => touched.synced

section Verifying

/-- A change after an adapter call is a change after the state before the call. -/
theorem Touched.afterInvoke {method : AdapterMethod} {changed : ResponseRecord} {now : Int} {tape : Tape}
    {done : List String} {after : Session}
    (touched : Touched python trusted (session.invoking method record now tape) changed done after) :
    Touched python trusted session changed
      (reverted [session.entry (.invoked method record now)] ++ done) after :=
  ⟨touched.orchestrator, touched.service,
    (extends_observed (.invoked method record now) (by simp)).trans touched.log, touched.synced⟩

/-- A verified record was confirmed in time, or it was reverted. -/
def ResponseRecord.Settled (record changed : ResponseRecord) (now : Int) (done : List String) : Prop :=
  record.SameInput changed ∧ ((done = [record.responseId] ∧ record.Ended changed) ∨
    (now < record.expiresAt ∧ done = [] ∧ changed.state = .verified ∧ changed.pendingOperation = none))

/-- The adapter is asked for evidence, and the answer is settled. -/
theorem examine_ends (synced : Synced python trusted session)
    (found : session.orchestrator.records.find? record.responseId = some record)
    (state : record.state = .applied) (idle : record.pendingOperation = none)
    (early : timestamp < record.expiresAt) :
    Ends (do
        let outcome ← invoke .verify record timestamp "ADAPTER_OUTCOME_UNKNOWN"
        if outcome.ok = true ∧ outcome.evidenceRefs ≠ [] then confirm python record timestamp outcome.evidenceRefs
        else retract python record timestamp outcome) session (upon python trusted session fun _ after =>
      ∃ changed done, Touched python trusted session changed done after ∧
        record.Settled changed timestamp done) := by
  refine upon_bind (invoke_ends synced trivial) fun outcome middle ⟨⟨tape, same⟩, named, _⟩ _ => ?_
  subst same
  have asked : Synced python trusted (session.invoking .verify record timestamp tape) :=
    (synced.observe (.invoked .verify record timestamp) trivial ⟨by simp, by simp⟩).tape tape
  split
  · rename_i proven
    refine upon_weaken (confirm_ends asked found state idle proven.2 named) fun result after touched => ?_
    exact ⟨_, _, touched.afterInvoke, ⟨rfl, rfl, rfl⟩, Or.inr ⟨early, rfl, rfl, idle⟩⟩
  · refine upon_weaken (retract_ends asked found state) fun result after ⟨changed, touched, reversed⟩ => ?_
    exact ⟨_, _, touched.afterInvoke, reversed.1, Or.inl ⟨rfl, reversed.ended rfl⟩⟩

/-- The body of `verify` reverts a late record and asks the adapter about the others. -/
theorem settle_ends (synced : Synced python trusted session)
    (found : session.orchestrator.records.find? record.responseId = some record)
    (state : record.state = .applied) (idle : record.pendingOperation = none) :
    Ends (if record.expiresAt ≤ timestamp then revert python record timestamp .rolledBack .ttlExpired
      else do
        require (record.adapterReference.isSome) .assertionError
        let outcome ← invoke .verify record timestamp "ADAPTER_OUTCOME_UNKNOWN"
        if outcome.ok = true ∧ outcome.evidenceRefs ≠ [] then confirm python record timestamp outcome.evidenceRefs
        else retract python record timestamp outcome) session (upon python trusted session fun _ after =>
      ∃ changed done, Touched python trusted session changed done after ∧
        record.Settled changed timestamp done) := by
  have engaged : record.engaged = true := by simp [ResponseRecord.engaged, state]
  split
  · refine upon_weaken (revert_ends synced found engaged rfl fun impossible => by cases impossible)
      fun result after reverted => ?_
    obtain ⟨changed, touched, reversed, -⟩ := reverted
    exact ⟨changed, _, touched, reversed.1, Or.inl ⟨rfl, reversed.ended rfl⟩⟩
  · rename_i early
    obtain ⟨reference, present, -⟩ := synced.referenced found engaged
    refine require_ends (fun missing => absurd (by rw [Option.mem_def.mp present]; rfl) missing) fun _ => ?_
    exact examine_ends synced found state idle (not_le.mp early)

variable (timestamp) in
/-- `verify` settles an application that waits for its verification. -/
theorem verify_ends (synced : Synced python trusted session)
    (found : session.orchestrator.records.find? responseId = some record) (awaiting : record.awaiting = true) :
    Ends (verify python responseId (.aware timestamp)) session (upon python trusted session fun _ after =>
      ∃ changed done, Touched python trusted session changed done after ∧
        record.Settled changed timestamp done) := by
  have key := synced.keyed found
  simp only [ResponseRecord.awaiting, Bool.and_eq_true, decide_eq_true_eq, Option.isNone_iff_eq_none] at awaiting
  unfold verify
  refine serialized_ends synced fun seen => ?_
  rw [asUtc_aware]
  refine findRecord_found found (require_ends (fun other => absurd awaiting.1 other) fun _ => ?_)
  refine require_ends (fun pending => absurd awaiting.2 pending) fun _ => ?_
  change Ends _ _ (upon python trusted (session.observed (.called (.verify responseId (.aware timestamp)))) _)
  exact upon_weaken (settle_ends seen (key.symm ▸ found) awaiting.1 awaiting.2)
    fun result after ⟨changed, done, touched, settled⟩ => ⟨changed, done, touched.called, settled⟩

theorem verify_safe {now : Moment} (synced : Synced python trusted session) :
    Ends (verify python responseId now) session (safe python trusted) := by
  unfold verify
  refine serialized_ends synced fun seen => ?_
  refine asUtc_ends (fun _ other => seen.stops other) fun value _ => ?_
  refine findRecord_ends (fun _ => seen.stops (by simp)) fun record found => ?_
  refine require_ends (fun _ => seen.stops (by simp)) fun state => ?_
  refine require_ends (fun _ => seen.stops (by simp)) fun idle => ?_
  exact safe_of_upon (settle_ends seen ((seen.keyed found).symm ▸ found) state idle)
    fun _ _ ⟨_, _, touched, _⟩ => touched.synced

end Verifying

end ClosedLoop.Response
