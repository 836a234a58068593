import ClosedLoop.Proof.Response.Lifecycle

namespace ClosedLoop.Response

open ClosedLoop.Library ClosedLoop.Library.Program

variable {python : Python} {trusted : CommandAuthenticator → Prop} {session : Session} {record : ResponseRecord}
  {timestamp : Int} {responseId reference : String}

/-- The record is in time, and its command would be authorized again. -/
def ResponseRecord.passes (python : Python) (orchestrator : Orchestrator) (now : Int) (record : ResponseRecord) :
    Bool :=
  decide (now < record.expiresAt) &&
    (reauthorize python orchestrator.catalog orchestrator.authenticator record.command now).isOk

/-- The reply is a reference that `apply` accepts. -/
def ReferenceReply.usable : ReferenceReply → Bool
  | .value (some reference) => reference ≠ ""
  | _ => false

/-- The record that an apply intent commits. -/
def ResponseRecord.claiming (record : ResponseRecord) (reference : String) (timestamp : Int) : ResponseRecord :=
  { record with adapterReference := some reference }.intending .apply timestamp

theorem queued_asdict (queued : record.queued = true) : record.asdict.waiting ∧ record.authorized = true := by
  simp only [ResponseRecord.queued, Bool.and_eq_true, decide_eq_true_eq, Option.isNone_iff_eq_none] at queued
  exact ⟨⟨queued.1.1.1, queued.1.2, queued.2⟩, queued.1.1.2⟩

/-- No other record holds the target when the check of `apply` passes. -/
theorem Synced.free (synced : Synced python trusted session)
    (untaken : targetTaken python session.orchestrator.records record = false) :
    ∀ row ∈ session.journal.records, row.1 ≠ record.responseId → row.2.engaged →
      identity python row.2.command ≠ identity python record.command := by
  intro row member different engaged same
  rw [← synced.mirror] at member
  obtain ⟨live, inside, rfl⟩ := List.mem_map.mp member
  have key := synced.keyed (Table.find?_of_mem synced.distinct (show (live.1, live.2) ∈ _ from inside))
  have held : live.2.engaged = true := engaged_asdict.mpr engaged
  have apart : live.2.responseId ≠ record.responseId := key ▸ different
  have taken : targetTaken python session.orchestrator.records record = true :=
    List.any_eq_true.mpr ⟨live, inside, by simp [apart, held]; exact same⟩
  rw [untaken] at taken
  cases taken

/-- The recovery reference is drawn before the side effect. -/
theorem recoveryReference_ends {α : Type} {next : String → Op α} {post : Post Session PyError α}
    (unusable : session.tape.reference.usable = false → session.tape.reference ≠ .crashed →
      ∀ error, error ≠ .assertionError → post.raised error { session with tape := session.tape.referenced })
    (crashed : session.tape.reference = .crashed → post.crashed { session with tape := session.tape.referenced })
    (usable : ∀ reference, session.tape.reference.usable = true → reference ≠ "" →
      Ends (next reference) { session with tape := session.tape.referenced } post) :
    Ends (recoveryReference >>= next) session post := by
  unfold recoveryReference
  rw [ends_bind, ends_bind]
  refine nextReference_ends ?_
  cases drawn : session.tape.reference with
  | value given =>
      rw [drawn] at unusable usable
      cases given with
      | none => exact unusable rfl (by simp) _ (by simp)
      | some reference =>
          dsimp only
          split
          · rename_i empty
            exact unusable (by simp [ReferenceReply.usable, empty]) (by simp) _ (by simp)
          · rename_i named
            exact usable reference (by simp [ReferenceReply.usable, named]) named
  | raised =>
      rw [drawn] at unusable
      exact unusable rfl (by simp) _ (by simp)
  | crashed => exact crashed drawn

/-- The apply intent of a queued record on a free target is committed. -/
theorem intendApply_ends (synced : Synced python trusted session)
    (found : session.orchestrator.records.find? record.responseId = some record) (queued : record.queued = true)
    (untaken : targetTaken python session.orchestrator.records record = false) (named : reference ≠ "") :
    Ends (beginOperation { record with adapterReference := some reference } .apply timestamp) session
      (upon python trusted session fun result after => result = record.claiming reference timestamp ∧
        Written python trusted session (record.claiming reference timestamp) none after) := by
  obtain ⟨waiting, authorized⟩ := queued_asdict queued
  refine beginOperation_ends synced rfl ?_ ?_
  · rw [show ({ record with adapterReference := some reference } : ResponseRecord).responseId = record.responseId
      from rfl, synced.stored found]
    exact Change.intendApply waiting authorized named (synced.free untaken)
  · exact ⟨⟨reference, rfl, named⟩, Or.inr (Or.inr (Or.inl rfl))⟩

/-- A waiting record was never applied. -/
theorem Synced.unapplied (synced : Synced python trusted session)
    (found : session.orchestrator.records.find? record.responseId = some record)
    (waiting : record.asdict.waiting) : ∀ entry ∈ session.log, ¬ entry.applies record.responseId :=
  fun _ member applies => (synced.sound found).waiting waiting (synced.reached.claimed member applies)

/-- The committed intent of a confirmed record is a warrant for the adapter call. -/
theorem Written.warrant {before : List Entry} {called : Entry} {after : Session}
    (written : Written python trusted session (record.claiming reference timestamp) none after)
    (unapplied : ∀ entry ∈ session.log, ¬ entry.applies record.responseId)
    (log : session.log = before ++ [called])
    (call : called.occurrence = .called (.apply record.responseId (.aware timestamp)))
    (authorized : record.authorized = true)
    (passes : record.passes python session.orchestrator timestamp = true) :
    Warrant python after.log (after.entry (.invoked .apply (record.claiming reference timestamp) timestamp))
      (record.claiming reference timestamp) timestamp := by
  have sameLog : after.log = session.log ++ [after.entry (.committed (record.claiming reference timestamp).asdict none)] := by
    rw [written.log]
    simp [Session.validations]
  simp only [ResponseRecord.passes, Bool.and_eq_true, decide_eq_true_eq] at passes
  obtain ⟨inTime, reauthorized⟩ := passes
  have again : reauthorize python session.orchestrator.catalog session.orchestrator.authenticator record.command
      timestamp = .ok () := by
    revert reauthorized
    cases reauthorize python session.orchestrator.catalog session.orchestrator.authenticator record.command
      timestamp <;> simp [Except.isOk, Except.toBool]
  obtain ⟨confirmed, allowedTarget⟩ := reauthorize_ok again
  have sameCatalog : after.orchestrator.catalog = session.orchestrator.catalog := by rw [written.orchestrator]; rfl
  have sameRing : after.orchestrator.authenticator = session.orchestrator.authenticator := by
    rw [written.orchestrator]; rfl
  refine ⟨⟨before, called, _, by rw [sameLog, log, List.append_assoc]; rfl, call, rfl⟩, written.committed.find_self,
    rfl, authorized, ?_, ?_, inTime, ?_⟩
  · rw [Session.entry, sameCatalog, sameRing]
    exact confirmed
  · rw [Session.entry, sameCatalog]
    exact allowedTarget
  · intro earlier member applies
    rw [sameLog, List.mem_append, List.mem_singleton] at member
    rcases member with old | same
    · exact unapplied earlier old applies
    · obtain ⟨_, _, other, _⟩ := applies
      rw [same] at other
      cases other

/-- A record holds its target and is not queued any more. -/
def ResponseRecord.Occupies (record changed : ResponseRecord) : Prop :=
  record.SameInput changed ∧ changed.engaged = true ∧ changed.queued = false

/-- The acknowledged reference is remembered, and the application is committed. -/
theorem acknowledge_ends {acknowledged : String} {evidence : Evidence} (synced : Synced python trusted session)
    (found : session.orchestrator.records.find? record.responseId = some record)
    (pending : record.pendingOperation = some .apply) (state : record.state = .requested)
    (named : acknowledged ≠ "") (application : evidence.application.isSome) :
    Ends (transition python { record with adapterReference := some acknowledged } .applied timestamp evidence true)
      (session.remembering { record with adapterReference := some acknowledged })
      (upon python trusted session fun _ after => Touched python trusted session
        ({ record with adapterReference := some acknowledged }.moved .applied true) [] after) := by
  have durable := synced.reached.durable
  have stored := synced.stored found
  have counted : record.transitionNumber ≠ 0 := Nat.ne_of_gt (synced.sound found).counted.1
  have viewIs := view_remembering session { record with adapterReference := some acknowledged }
  rw [synced.mirror] at viewIs
  have engagedBefore : record.asdict.engaged := Or.inl (by simp [ResponseRecord.asdict, pending])
  have separate : Separate python (session.journal.records.upsert record.responseId
      ({ record with adapterReference := some acknowledged } : ResponseRecord).asdict) :=
    durable.separate.upsert durable.distinct fun row member different held _ =>
      durable.separate row member (record.responseId, record.asdict) (Table.mem_of_find? stored) different held
        engagedBefore
  have contained : ({ record with adapterReference := some acknowledged } : ResponseRecord).asdict.contained :=
    ⟨⟨acknowledged, rfl, named⟩, Or.inr (Or.inr (Or.inl (by simp [ResponseRecord.asdict, pending])))⟩
  have kept := durable.kept_upsert ({ record with adapterReference := some acknowledged } : ResponseRecord).asdict
    (fun _ => contained) separate
  change Ends _ _ (upon python trusted (session.remembering { record with adapterReference := some acknowledged }) _)
  refine upon_weaken (transition_ends synced.running synced.keyRing synced.reached synced.quiet
    (fun row => by rw [viewIs]; exact Table.upsert_upsert _ _ _ _) (viewIs ▸ kept) rfl rfl ?_)
    fun result after written => ?_
  · rw [show (session.remembering _).journal.records.find? _ = some record.asdict from stored]
    have moved : ({ record with adapterReference := some acknowledged } : ResponseRecord).transitionNumber ≠ 0 := counted
    exact Change.confirmApply pending state named (stamp_next true moved rfl rfl) application
  · refine ⟨?_, written.2.service, written.2.extends, written.2.synced⟩
    rw [written.2.orchestrator]
    simp only [Session.remembering, ResponseRecord.moved, Table.upsert_upsert]

/-- How an enforcement ends: it occupies the target, or the adapter gave no reference. -/
def enforced (python : Python) (trusted : CommandAuthenticator → Prop) (session : Session)
    (record : ResponseRecord) : Post Session PyError OrchestrationResult where
  returned _ after := session.tape.reference.usable = true ∧
    (∃ changed, Touched python trusted session changed [] after ∧ record.Occupies changed) ∧
    Consumed session.tape.referenced after.tape
  raised error after := Stops python trusted error after ∧
    (Calm session.tape → session.tape.reference.usable = false ∧ Extends [] session.log after.log)
  crashed after := Reached python trusted after.journal after.log ∧ ¬ Calm session.tape

/-- An adapter call for a queued record on a free target has its warrant, and its outcome is committed. -/
theorem enforce_ends {before : List Entry} {called : Entry} (synced : Synced python trusted session)
    (found : session.orchestrator.records.find? record.responseId = some record) (queued : record.queued = true)
    (untaken : targetTaken python session.orchestrator.records record = false)
    (passes : record.passes python session.orchestrator timestamp = true)
    (log : session.log = before ++ [called])
    (call : called.occurrence = .called (.apply record.responseId (.aware timestamp))) :
    Ends (enforce python record timestamp) session (enforced python trusted session record) := by
  obtain ⟨waiting, authorized⟩ := queued_asdict queued
  have unapplied := synced.unapplied found waiting
  have drawn : Synced python trusted { session with tape := session.tape.referenced } := synced.tape _
  unfold enforce
  refine recoveryReference_ends (fun bad _ error known => ?_) (fun dead => ?_) fun reference usable named => ?_
  · exact ⟨drawn.stops known, fun _ => ⟨bad, Extends.refl _⟩⟩
  · exact ⟨synced.reached, fun calm => calm.reference dead⟩
  · suffices ended : Ends _ { session with tape := session.tape.referenced }
        (upon python trusted { session with tape := session.tape.referenced } fun _ after =>
          ∃ changed, Touched python trusted session changed [] after ∧ record.Occupies changed) from
      ended.weaken (fun _ _ returned => ⟨usable, returned⟩)
        (fun _ _ stops => ⟨stops.1, fun calm => absurd calm.referenced stops.2⟩)
        (fun _ crashed => ⟨crashed.1, fun calm => crashed.2 calm.referenced⟩)
    refine upon_bind (intendApply_ends drawn found queued untaken named) fun intended middle ⟨same, written⟩ _ => ?_
    subst same
    have warrant := written.warrant unapplied log call authorized passes
    refine upon_bind (invoke_ends written.synced warrant) fun outcome last ⟨⟨tape, same⟩, _, _⟩ _ => ?_
    subst same
    have invoked := written.touched.invoke .apply timestamp warrant tape
    have touched : Touched python trusted session (record.claiming reference timestamp) []
        (middle.invoking .apply (record.claiming reference timestamp) timestamp tape) :=
      ⟨invoked.orchestrator, invoked.service, invoked.log, invoked.synced⟩
    dsimp only
    split
    · unfold failFromOutcome
      refine upon_bind (fail_ends touched.synced touched.find (Or.inr rfl)) fun event after moved _ => upon_pure ?_
      exact ⟨_, touched.trans moved rfl, ⟨rfl, rfl, rfl⟩, rfl, rfl⟩
    · rename_i answered
      rw [not_or] at answered
      rw [ends_bind, ends_remember]
      refine upon_bind (acknowledge_ends touched.synced touched.find rfl waiting.1 answered.2 rfl)
        fun result after moved _ => upon_pure ?_
      exact ⟨_, touched.trans moved rfl, ⟨rfl, rfl, rfl⟩, rfl, rfl⟩

/-- What an attempt to apply a queued record did to it. -/
inductive Attempt (python : Python) (session : Session) (record : ResponseRecord) (now : Int) (after : Session)
    (changed : ResponseRecord) : Prop
  | refused (fails : record.passes python session.orchestrator now = false)
      (free : changed.engaged = false) (consumed : Consumed session.tape after.tape)
  | occupied (passes : record.passes python session.orchestrator now = true)
      (untaken : targetTaken python session.orchestrator.records record = false)
      (usable : session.tape.reference.usable = true) (engaged : changed.engaged = true)
      (consumed : Consumed session.tape.referenced after.tape)

/-- How an attempt to apply a queued record ends. It raises only for a taken target or a missing reference. -/
def attempted (python : Python) (trusted : CommandAuthenticator → Prop) (session : Session)
    (record : ResponseRecord) (now : Int) : Post Session PyError OrchestrationResult where
  returned _ after := ∃ changed, Touched python trusted session changed [] after ∧ record.SameInput changed ∧
    changed.queued = false ∧ Attempt python session record now after changed
  raised error after := Stops python trusted error after ∧ (Calm session.tape →
    record.passes python session.orchestrator now = true ∧
      (targetTaken python session.orchestrator.records record = true ∨ session.tape.reference.usable = false) ∧
      Extends [] session.log after.log)
  crashed after := Reached python trusted after.journal after.log ∧ ¬ Calm session.tape

/-- A queued record that does not pass is refused. -/
theorem refuse_ends {code message : String} (synced : Synced python trusted session)
    (found : session.orchestrator.records.find? record.responseId = some record) (queued : record.queued = true)
    (fails : record.passes python session.orchestrator timestamp = false) :
    Ends (refuse python record timestamp code message) session
      (attempted python trusted session record timestamp) := by
  obtain ⟨waiting, authorized⟩ := queued_asdict queued
  suffices ended : Ends (refuse python record timestamp code message) session
      (upon python trusted session fun _ after =>
        Touched python trusted session (record.moved .failed false) [] after) from
    ended.weaken (fun _ after ⟨touched, consumed⟩ => ⟨_, touched, ⟨rfl, rfl, rfl⟩, rfl, .refused fails (by
        have reference : record.adapterReference = none := waiting.2.1
        have idle : record.pendingOperation = none := waiting.2.2
        simp [ResponseRecord.engaged, ResponseRecord.recoverable, ResponseRecord.moved, reference, idle]) consumed⟩)
      (fun _ _ stops => ⟨stops.1, fun calm => absurd calm stops.2⟩) (fun _ crashed => crashed)
  unfold refuse
  exact upon_bind (fail_ends synced found (Or.inl waiting)) fun event after touched _ => upon_pure touched

/-- A queued record is refused, or its target is checked and occupied. -/
theorem attempt_ends {before : List Entry} {called : Entry} (synced : Synced python trusted session)
    (found : session.orchestrator.records.find? record.responseId = some record) (queued : record.queued = true)
    (log : session.log = before ++ [called])
    (call : called.occurrence = .called (.apply record.responseId (.aware timestamp))) :
    Ends (if record.expiresAt ≤ timestamp then
        refuse python record timestamp "EXPIRED_BEFORE_APPLY" "containment TTL elapsed before adapter invocation"
      else do
        let orchestrator ← gets (·.orchestrator)
        match reauthorize python orchestrator.catalog orchestrator.authenticator record.command timestamp with
        | .error (.commandRejected _) | .error (.policyError _) =>
            refuse python record timestamp "REAUTHORIZATION_FAILED" "queued command no longer authorized"
        | .error error => raise error
        | .ok _ =>
            require (targetTaken python orchestrator.records record = false)
              (.commandRejected "target has an active or unresolved containment operation")
            enforce python record timestamp) session (attempted python trusted session record timestamp) := by
  split
  · rename_i late
    exact refuse_ends synced found queued (by simp [ResponseRecord.passes, late])
  · rename_i inTime
    rw [ends_bind, ends_gets]
    dsimp only
    cases checked : reauthorize python session.orchestrator.catalog session.orchestrator.authenticator record.command
      timestamp with
    | error error =>
        have fails : record.passes python session.orchestrator timestamp = false := by
          simp [ResponseRecord.passes, checked, Except.isOk, Except.toBool]
        rcases reauthorize_fails (synced.timed found) checked with ⟨message, rfl⟩ | ⟨message, rfl⟩
        · exact refuse_ends synced found queued fails
        · exact refuse_ends synced found queued fails
    | ok passed =>
        have passes : record.passes python session.orchestrator timestamp = true := by
          simp [ResponseRecord.passes, checked, Except.isOk, Except.toBool, not_le.mp inTime]
        refine require_ends (fun taken => ?_) fun untaken => ?_
        · refine ⟨synced.stops (by simp), fun _ => ⟨passes, Or.inl (by simpa using taken), Extends.refl _⟩⟩
        · refine (enforce_ends synced found queued untaken passes log call).weaken ?_ ?_ fun _ crashed => crashed
          · rintro _ after ⟨usable, ⟨changed, touched, same, engaged, unqueued⟩, consumed⟩
            exact ⟨changed, touched, same, unqueued, .occupied passes untaken usable engaged consumed⟩
          · intro _ after stops
            exact ⟨stops.1, fun calm => ⟨passes, Or.inr (stops.2 calm).1, (stops.2 calm).2⟩⟩

variable (timestamp) in
/-- `apply` of a queued record refuses it or occupies its target. -/
theorem apply_ends (synced : Synced python trusted session)
    (found : session.orchestrator.records.find? responseId = some record) (queued : record.queued = true) :
    Ends (apply python responseId (.aware timestamp)) session
      (attempted python trusted session record timestamp) := by
  have key := synced.keyed found
  obtain ⟨waiting, authorized⟩ := queued_asdict queued
  unfold apply
  refine serialized_ends synced fun seen => ?_
  rw [asUtc_aware]
  refine findRecord_found found (require_ends (fun other => absurd waiting.1 other) fun _ => ?_)
  refine require_ends (fun other => absurd authorized other) fun _ => ?_
  refine require_ends (fun other => absurd waiting.2.1 other) fun _ => ?_
  subst key
  refine (attempt_ends seen found queued rfl rfl).weaken ?_ ?_ fun _ crashed => crashed
  · rintro _ after ⟨changed, touched, same, unqueued, attempt⟩
    refine ⟨changed, touched.called, same, unqueued, ?_⟩
    cases attempt with
    | refused fails free consumed => exact .refused fails free consumed
    | occupied passes untaken usable engaged consumed => exact .occupied passes untaken usable engaged consumed
  · rintro _ after ⟨stops, calmly⟩
    refine ⟨stops, fun calm => ?_⟩
    obtain ⟨passes, cause, extended⟩ := calmly calm
    exact ⟨passes, cause, (extends_observed _ (by simp)).trans extended⟩

theorem apply_safe {now : Moment} (synced : Synced python trusted session) :
    Ends (apply python responseId now) session (safe python trusted) := by
  unfold apply
  refine serialized_ends synced fun seen => ?_
  refine asUtc_ends (fun _ other => seen.stops other) fun value aware => ?_
  subst aware
  refine findRecord_ends (fun _ => seen.stops (by simp)) fun record found => ?_
  have key := seen.keyed found
  subst key
  refine require_ends (fun _ => seen.stops (by simp)) fun state => ?_
  refine require_ends (fun _ => seen.stops (by simp)) fun authorized => ?_
  refine require_ends (fun _ => seen.stops (by simp)) fun unreferenced => ?_
  -- The adapter is called only with a reference, so a record without one has no unfinished operation.
  have idle : record.pendingOperation = none := by
    by_contra pending
    have referenced := ((seen.sound found).pending (Option.isSome_iff_ne_none.mpr pending)).1
    simp [ResponseRecord.asdict, unreferenced] at referenced
  have queued : record.queued = true := by
    simp [ResponseRecord.queued, state, authorized, unreferenced, idle]
  refine (attempt_ends seen found queued rfl rfl).weaken ?_ (fun _ _ stops => stops.1) fun _ crashed => crashed.1
  rintro _ after ⟨changed, touched, _⟩
  exact touched.synced

end ClosedLoop.Response
