import ClosedLoop.Proof.Response.Stages

namespace ClosedLoop.Response

open ClosedLoop.Library ClosedLoop.Library.Program

variable {python : Python} {trusted : CommandAuthenticator → Prop} {session : Session} {record : ResponseRecord}
  {now : Int} {responseId : String}

section Loops

/-- An attempt to apply a queued record is a part of a pass that calls no revert. -/
theorem Touched.attemptStage {changed : ResponseRecord} {after : Session}
    (touched : Touched python trusted session changed [] after)
    (found : session.orchestrator.records.find? record.responseId = some record) (queued : record.queued = true)
    (same : record.SameInput changed) (attempt : Attempt python session record now after changed) :
    Stage python trusted now session [] after := by
  have calm : Calm session.tape → Calm after.tape := by
    cases attempt with
    | refused _ _ consumed => exact consumed.calm
    | occupied _ _ _ _ consumed => exact fun start => consumed.calm start.referenced
  refine touched.stage found same calm (fun due => ?_) (fun due => ?_) (by simp)
  · have engaged := (ResponseRecord.due_iff.mp due).1
    rw [queued_unengaged queued] at engaged
    cases engaged
  · obtain ⟨engaged, late⟩ := ResponseRecord.due_iff.mp due
    rw [same.2.2] at late
    cases attempt with
    | refused _ free _ =>
        rw [free] at engaged
        cases engaged
    | occupied passes _ _ _ _ =>
        simp only [ResponseRecord.passes, Bool.and_eq_true, decide_eq_true_eq] at passes
        exact absurd late (not_le.mpr passes.1)

/-- How the apply loop of a pass ends. It raises only when one of its applies is obstructed. -/
def passedApplies {α : Type} (python : Python) (trusted : CommandAuthenticator → Prop) (now : Int)
    (session : Session) (responseIds : List String) : Post Session PyError α where
  returned _ after := Stage python trusted now session [] after ∧
    ¬ Obstructed python session.orchestrator session.tape now responseIds
  raised error after := Stops python trusted error after ∧ (Calm session.tape →
    Obstructed python session.orchestrator session.tape now responseIds ∧ Extends [] session.log after.log)
  crashed after := Reached python trusted after.journal after.log ∧ ¬ Calm session.tape

/-- Nothing obstructs an empty list. -/
theorem unobstructed_nil : ¬ Obstructed python session.orchestrator session.tape now [] := by
  simp [Obstructed]

/-- An attempt that raises is obstructed. -/
theorem obstructed_head {rest : List String} (synced : Synced python trusted session)
    (found : session.orchestrator.records.find? record.responseId = some record)
    (passes : record.passes python session.orchestrator now = true)
    (cause : targetTaken python session.orchestrator.records record = true ∨
      session.tape.reference.usable = false) :
    Obstructed python session.orchestrator session.tape now (record.responseId :: rest) := by
  rcases cause with taken | unusable
  · obtain ⟨otherId, other, known, different, same, engaged⟩ := synced.taken_iff.mp taken
    exact Or.inl ⟨_, List.mem_cons_self, record, found, passes, otherId, other, known, different, same,
      Or.inl engaged⟩
  · refine Or.inr ?_
    have counts : selected (ResponseRecord.passes python session.orchestrator now) session.orchestrator.records
        record.responseId = true := by
      rw [selected, found]
      exact passes
    unfold Tape.reference at unusable
    cases given : session.tape.references with
    | nil => simp [given, ReferenceReply.usable] at unusable
    | cons reply more =>
        refine ⟨reply, ?_, by simpa [given] using unusable⟩
        rw [List.countP_cons, if_pos counts]
        simp

variable (now) in
/-- The apply loop of a pass attempts every queued record, unless one of the applies is obstructed. -/
theorem applyAll_ends (responseIds : List String) (distinct : responseIds.Nodup)
    (synced : Synced python trusted session)
    (queued : ∀ responseId ∈ responseIds, ∃ record, session.orchestrator.records.find? responseId = some record ∧
      record.queued = true) :
    Ends (collect (fun responseId => do return some (← apply python responseId (.aware now))) responseIds) session
      (passedApplies python trusted now session responseIds) := by
  induction responseIds generalizing session with
  | nil => exact ⟨Stage.refl synced, unobstructed_nil⟩
  | cons responseId rest ih =>
      obtain ⟨fresh, distinctRest⟩ := List.nodup_cons.mp distinct
      obtain ⟨record, found, isQueued⟩ := queued responseId List.mem_cons_self
      have key := synced.keyed found
      subst key
      have idle := queued_unengaged isQueued
      unfold collect
      rw [ends_bind, ends_bind]
      refine (apply_ends now synced found isQueued).weaken ?_ ?_ (fun _ crashed => crashed)
      · rintro result middle ⟨changed, touched, same, unqueued, attempt⟩
        have shifted := touched.shifted synced same attempt
        have stage := touched.attemptStage found isQueued same attempt
        have still : ∀ other ∈ rest, ∃ row, middle.orchestrator.records.find? other = some row ∧
            row.queued = true := by
          intro other member
          have different : other ≠ record.responseId := fun equal => fresh (equal ▸ member)
          rw [shifted.records, Table.find?_upsert_of_ne _ _ different]
          exact queued other (List.mem_cons_of_mem _ member)
        dsimp only
        rw [ends_pure]
        dsimp only
        rw [ends_bind]
        refine (ih distinctRest stage.synced still).weaken ?_ ?_ ?_
        · rintro tail after ⟨later, clear⟩
          exact ⟨stage.trans later, fun blocked => clear ((shifted.obstructed found idle fresh).mp blocked)⟩
        · rintro error after ⟨stops, calmly⟩
          refine ⟨stops, fun calm => ?_⟩
          obtain ⟨blocked, extended⟩ := calmly (stage.calm calm)
          exact ⟨(shifted.obstructed found idle fresh).mpr blocked, stage.log.trans extended⟩
        · rintro after ⟨reached, uncalm⟩
          exact ⟨reached, fun calm => uncalm (stage.calm calm)⟩
      · rintro error after ⟨stops, calmly⟩
        refine ⟨stops, fun calm => ?_⟩
        obtain ⟨passes, cause, extended⟩ := calmly calm
        exact ⟨obstructed_head synced found passes cause, extended⟩

/-- The verification of an application is a part of a pass. -/
theorem Touched.verifyStage {changed : ResponseRecord} {done : List String} {after : Session}
    (touched : Touched python trusted session changed done after)
    (found : session.orchestrator.records.find? record.responseId = some record) (state : record.state = .applied)
    (settled : record.Settled changed now done) (consumed : Consumed session.tape after.tape) :
    Stage python trusted now session done after := by
  have engaged : record.engaged = true := by simp [ResponseRecord.engaged, state]
  obtain ⟨same, outcome⟩ := settled
  refine touched.stage found same consumed.calm (fun due => ?_) (fun due => ?_) fun responseId member => ?_
  · rcases outcome with ⟨called, -⟩ | ⟨early, -⟩
    · exact Or.inl (by simp [called])
    · exact absurd (ResponseRecord.due_iff.mp due).2 (not_le.mpr early)
  · have late := (ResponseRecord.due_iff.mp due).2
    rw [same.2.2] at late
    exact ResponseRecord.due_iff.mpr ⟨engaged, late⟩
  · refine ⟨?_, fun late => ResponseRecord.due_iff.mpr ⟨engaged, late⟩⟩
    rcases outcome with ⟨called, -⟩ | ⟨-, called, -⟩
    · rw [called] at member
      exact List.mem_singleton.mp member
    · simp [called] at member

variable (now) in
/-- The verify loop of a pass settles every application that waits for it. -/
theorem verifyAll_ends (responseIds : List String) (distinct : responseIds.Nodup)
    (synced : Synced python trusted session)
    (awaiting : ∀ responseId ∈ responseIds, ∃ record,
      session.orchestrator.records.find? responseId = some record ∧ record.awaiting = true) :
    Ends (collect (fun responseId => do return some (← verify python responseId (.aware now))) responseIds) session
      (upon python trusted session fun _ after => ∃ done, Stage python trusted now session done after) := by
  induction responseIds generalizing session with
  | nil => exact upon_pure ⟨[], Stage.refl synced⟩
  | cons responseId rest ih =>
      obtain ⟨fresh, distinctRest⟩ := List.nodup_cons.mp distinct
      obtain ⟨record, found, waits⟩ := awaiting responseId List.mem_cons_self
      have key := synced.keyed found
      subst key
      have state : record.state = .applied := by
        simp only [ResponseRecord.awaiting, Bool.and_eq_true, decide_eq_true_eq] at waits
        exact waits.1
      unfold collect
      have turn : Ends (do return some (← verify python record.responseId (.aware now))) session
          (upon python trusted session fun _ middle => ∃ changed done,
            Touched python trusted session changed done middle ∧ record.Settled changed now done) :=
        upon_bind (verify_ends now synced found waits) fun _ _ settled _ => upon_pure settled
      refine upon_bind turn fun head middle turned consumed => ?_
      obtain ⟨changed, done, touched, settled⟩ := turned
      have stage := touched.verifyStage found state settled consumed
      have still : ∀ other ∈ rest, ∃ row, middle.orchestrator.records.find? other = some row ∧
          row.awaiting = true := by
        intro other member
        have different : other ≠ changed.responseId := fun equal =>
          fresh ((equal.trans settled.1.1) ▸ member)
        rw [touched.orchestrator]
        simp only [Session.remembering, Table.find?_upsert_of_ne _ _ different]
        exact awaiting other (List.mem_cons_of_mem _ member)
      refine upon_bind (ih distinctRest stage.synced still) fun tail after others _ => upon_pure ?_
      obtain ⟨more, later⟩ := others
      exact ⟨done ++ more, stage.trans later⟩

end Loops

section Selecting

variable {test : ResponseRecord → Bool}

/-- A record is selected when it passes the test. -/
theorem Synced.mem_select (synced : Synced python trusted session) :
    responseId ∈ selectRecords test session.orchestrator.records ↔
      ∃ record, session.orchestrator.records.find? responseId = some record ∧ test record = true := by
  unfold selectRecords
  simp only [List.mem_map, List.mem_filter]
  constructor
  · rintro ⟨row, ⟨member, passed⟩, rfl⟩
    have found := Table.find?_of_mem synced.distinct (show (row.1, row.2) ∈ _ from member)
    exact ⟨row.2, (synced.keyed found).symm ▸ found, passed⟩
  · rintro ⟨record, found, passed⟩
    exact ⟨(responseId, record), ⟨Table.mem_of_find? found, passed⟩, synced.keyed found⟩

/-- The selection keeps the order of the records. -/
theorem Synced.select_eq (synced : Synced python trusted session) :
    selectRecords test session.orchestrator.records =
      (session.orchestrator.records.filter fun row => test row.2).map Prod.fst := by
  unfold selectRecords
  refine List.map_congr_left fun row member => ?_
  exact synced.keyed (Table.find?_of_mem synced.distinct (show (row.1, row.2) ∈ _ from (List.mem_filter.mp member).1))

/-- No record is selected twice. -/
theorem Synced.select_nodup (synced : Synced python trusted session) :
    (selectRecords test session.orchestrator.records).Nodup := by
  rw [synced.select_eq]
  exact synced.distinct.sublist ((List.filter_sublist).map Prod.fst)

end Selecting

/-- A queued record that its next apply would not refuse. -/
def ResponseRecord.candidate (python : Python) (orchestrator : Orchestrator) (now : Int) (record : ResponseRecord) :
    Bool :=
  record.queued && record.passes python orchestrator now

/-- Two records want or hold one target, or an adapter will give a candidate no reference. -/
def Blocked (python : Python) (orchestrator : Orchestrator) (tape : Tape) (now : Int) : Prop :=
  (∃ firstId first secondId second, orchestrator.records.find? firstId = some first ∧
    orchestrator.records.find? secondId = some second ∧ firstId ≠ secondId ∧
    first.candidate python orchestrator now = true ∧
    (second.engaged = true ∨ second.candidate python orchestrator now = true) ∧
    identity python second.command = identity python first.command) ∨
  ∃ reply ∈ tape.references.take (orchestrator.records.countP fun row => row.2.candidate python orchestrator now),
    reply.usable = false

/-- The candidates are the queued records that pass. -/
theorem Synced.candidates (synced : Synced python trusted session) :
    (selectRecords (·.queued) session.orchestrator.records).countP
      (selected (ResponseRecord.passes python session.orchestrator now) session.orchestrator.records) =
    session.orchestrator.records.countP fun row => row.2.candidate python session.orchestrator now := by
  rw [synced.select_eq, List.countP_map, List.countP_filter]
  refine List.countP_congr fun row member => ?_
  have found := Table.find?_of_mem synced.distinct (show (row.1, row.2) ∈ _ from member)
  simp [selected, found, ResponseRecord.candidate, and_comm]

variable (now) in
/-- A pass is blocked exactly when its apply loop is obstructed. -/
theorem Synced.blocked_iff (synced : Synced python trusted session) (tape : Tape) :
    Blocked python session.orchestrator tape now ↔ Obstructed python session.orchestrator tape now
      (selectRecords (·.queued) session.orchestrator.records) := by
  refine or_congr ?_ (by rw [synced.candidates])
  constructor
  · rintro ⟨firstId, first, secondId, second, foundFirst, foundSecond, different, candidate, held, same⟩
    simp only [ResponseRecord.candidate, Bool.and_eq_true] at candidate held
    refine ⟨firstId, synced.mem_select.mpr ⟨first, foundFirst, candidate.1⟩, first, foundFirst, candidate.2, secondId,
      second, foundSecond, different.symm, same, ?_⟩
    rcases held with engaged | ⟨queued, passes⟩
    · exact Or.inl engaged
    · exact Or.inr ⟨synced.mem_select.mpr ⟨second, foundSecond, queued⟩, passes⟩
  · rintro ⟨firstId, member, first, foundFirst, passes, secondId, second, foundSecond, different, same, held⟩
    obtain ⟨row, found, queued⟩ := synced.mem_select.mp member
    rw [foundFirst] at found
    cases found
    refine ⟨firstId, first, secondId, second, foundFirst, foundSecond, different.symm,
      by simp [ResponseRecord.candidate, queued, passes], ?_, same⟩
    rcases held with engaged | ⟨alsoMember, alsoPasses⟩
    · exact Or.inl engaged
    · obtain ⟨row, found, alsoQueued⟩ := synced.mem_select.mp alsoMember
      rw [foundSecond] at found
      cases found
      exact Or.inr (by simp [ResponseRecord.candidate, alsoQueued, alsoPasses])

section Passing

variable (now) in
/-- A call that is noted is the first stage. -/
theorem Synced.calledStage (synced : Synced python trusted session) (call : PublicCall) :
    Stage python trusted now session [] (session.observed (.called call)) :=
  ⟨synced.observe _ trivial ⟨by simp, by simp⟩, rfl, rfl, extends_observed (.called call) (by simp),
    fun _ record found => ⟨record, found, rfl⟩, fun _ record found due => Or.inr ⟨record, found, due⟩,
    fun _ later found due => ⟨later, found, due⟩, by simp, id⟩

/-- The service's counters do not matter. -/
theorem Stage.counted {done : List String} {after : Session} (stage : Stage python trusted now session done after)
    (service : Service) (exporter : service.exporter = after.service.exporter) :
    Stage python trusted now session done { after with service } :=
  ⟨⟨stage.synced.running, stage.synced.keyRing, stage.synced.reached, stage.synced.mirror, stage.synced.quiet⟩,
    stage.frame, exporter.trans stage.exporter, stage.log, stage.expiry, stage.forward, stage.backward, stage.only,
    stage.calm⟩

/-- A query of the orchestrator returns its selection. -/
theorem query_ends {α : Type} {call : PublicCall} {part : Session → List String}
    {next : List String → Op α} {post : Post Session PyError α} (synced : Synced python trusted session)
    (later : Ends (next (part (session.observed (.called call)))) (session.observed (.called call)) post) :
    Ends (serialized call (gets part) >>= next) session post := by
  rw [ends_bind]
  exact serialized_ends synced fun _ => later

/-- The pass called the adapter for every record that was due at its start. -/
def Complete (now : Int) (session : Session) (done : List String) : Prop :=
  ∀ responseId record, session.orchestrator.records.find? responseId = some record → record.due now = true →
    responseId ∈ done

variable (now) in
/-- The work of a pass after its apply loop reaches every due record. -/
theorem finishPass_ends {α : Type} {next : List OrchestrationResult → List OrchestrationResult →
      List OrchestrationResult → α} (synced : Synced python trusted session) :
    Ends (do
        let awaiting ← awaitingVerification
        let verified ← collect (fun responseId => do return some (← verify python responseId (.aware now))) awaiting
        let expired ← expireDue python (.aware now)
        changeService fun service => { service with ticks := service.ticks + 1 }
        let service ← gets (·.service)
        let recovered ← if service.ticks % service.recoverEvery = 0 then recoverPending python (.aware now)
          else pure []
        return next verified expired recovered) session (upon python trusted session fun _ after =>
      ∃ done, Stage python trusted now session done after ∧ Complete now session done) := by
  have first := synced.calledStage now .awaitingVerification
  refine query_ends synced ?_
  change Ends _ _ (upon python trusted (session.observed (.called .awaitingVerification)) _)
  refine upon_bind (verifyAll_ends now _ first.synced.select_nodup first.synced fun _ member =>
      first.synced.mem_select.mp member) fun verified second ⟨seen, verifyStage⟩ _ => ?_
  have before := first.trans verifyStage
  refine upon_bind (expireDue_ends now before.synced) fun expired third swept consumed => ?_
  have stage := before.trans
    (swept.stage now (fun record due => (ResponseRecord.due_iff.mp due).1) consumed.calm)
  -- Whatever was due at the start and has not been reverted yet is due at the sweep.
  have complete : Complete now session ([] ++ seen ++ second.orchestrator.records.keys.filter
      (selected (ResponseRecord.due now) second.orchestrator.records)) := by
    intro responseId record found due
    rcases before.forward responseId record found due with called | ⟨later, present, still⟩
    · exact List.mem_append_left _ called
    · refine List.mem_append_right _ (List.mem_filter.mpr ⟨Table.mem_keys_iff.mpr ⟨later, present⟩, ?_⟩)
      rw [selected, present]
      exact still
  have counted := stage.counted { third.service with ticks := third.service.ticks + 1 } rfl
  rw [ends_bind, ends_changeService]
  dsimp only
  rw [ends_bind, ends_gets]
  dsimp only
  split
  · change Ends _ _
      (upon python trusted { third with service := { third.service with ticks := third.service.ticks + 1 } } _)
    refine upon_bind (recoverPending_ends now counted.synced) fun recovered after swept consumed => upon_pure ?_
    have sweep := swept.stage now (fun record unfinished =>
      ResponseRecord.engaged_of_unfinished unfinished) consumed.calm
    exact ⟨_, counted.trans sweep, fun responseId record found due =>
      List.mem_append_left _ (complete responseId record found due)⟩
  · exact upon_pure ⟨_, counted, complete⟩

/-- How a lifecycle pass ends. It raises only when it is blocked. -/
def passed {α : Type} (python : Python) (trusted : CommandAuthenticator → Prop) (now : Int) (session : Session) :
    Post Session PyError α where
  returned _ after := (∃ done, Stage python trusted now session done after ∧ Complete now session done) ∧
    ¬ Blocked python session.orchestrator session.tape now
  raised error after := Stops python trusted error after ∧ (Calm session.tape →
    Blocked python session.orchestrator session.tape now ∧ Extends [] session.log after.log)
  crashed after := Reached python trusted after.journal after.log ∧ ¬ Calm session.tape

variable (now) in
/-- A lifecycle pass reaches every due record, unless it is blocked. -/
theorem lifecyclePass_ends (synced : Synced python trusted session) :
    Ends (lifecyclePass python (.aware now)) session (passed python trusted now session) := by
  have first := synced.calledStage now .pendingApply
  have blocked := synced.blocked_iff now session.tape
  unfold lifecyclePass
  refine query_ends synced ?_
  rw [ends_bind]
  refine (applyAll_ends now _ first.synced.select_nodup first.synced fun _ member =>
    first.synced.mem_select.mp member).weaken ?_ ?_ (fun _ crashed => crashed)
  · rintro applied second ⟨attempts, clear⟩
    have before := first.trans attempts
    refine (finishPass_ends now before.synced).weaken ?_ ?_ ?_
    · rintro report after ⟨⟨done, stage, complete⟩, -⟩
      refine ⟨⟨_, before.trans stage, fun responseId record found due => ?_⟩, fun held => clear (blocked.mp held)⟩
      rcases before.forward responseId record found due with called | ⟨later, present, still⟩
      · simp at called
      · exact complete responseId later present still
    · rintro error after ⟨stops, uncalm⟩
      exact ⟨stops, fun calm => absurd (before.calm calm) uncalm⟩
    · rintro after ⟨reached, uncalm⟩
      exact ⟨reached, fun calm => uncalm (before.calm calm)⟩
  · rintro error after ⟨stops, calmly⟩
    refine ⟨stops, fun calm => ?_⟩
    obtain ⟨obstructed, extended⟩ := calmly calm
    exact ⟨blocked.mpr obstructed, first.log.trans extended⟩

end Passing

end ClosedLoop.Response
