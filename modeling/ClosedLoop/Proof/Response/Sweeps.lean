import ClosedLoop.Proof.Response.Reversal

namespace ClosedLoop.Response

open ClosedLoop.Library ClosedLoop.Library.Program

variable {python : Python} {trusted : CommandAuthenticator → Prop} {session : Session} {record : ResponseRecord}
  {timestamp : Int} {responseId : String}

/-- An operation on a process in sync ends in sync, or stops, or dies with a reached store. -/
def safe {α : Type} (python : Python) (trusted : CommandAuthenticator → Prop) : Post Session PyError α where
  returned _ after := Synced python trusted after
  raised error after := Stops python trusted error after
  crashed after := Reached python trusted after.journal after.log

/-- A program that ends in sync is safe. -/
theorem safe_of_upon {α : Type} {program : Op α} {result : α → Session → Prop}
    (ended : Ends program session (upon python trusted session result))
    (synced : ∀ value after, result value after → Synced python trusted after) :
    Ends program session (safe python trusted) :=
  ended.weaken (fun value after returned => synced value after returned.1) (fun _ _ stops => stops.1)
    (fun _ crashed => crashed.1)

/-- An error that is no failed assertion stops a synced process where it stands. -/
theorem Synced.stops (synced : Synced python trusted session) {error : PyError} (known : error ≠ .assertionError) :
    Stops python trusted error session :=
  ⟨known, Or.inl synced⟩

/-- A lookup goes on with the record that it finds. -/
theorem findRecord_ends {α : Type} {next : ResponseRecord → Op α} {post : Post Session PyError α}
    (missing : session.orchestrator.records.find? responseId = none →
      post.raised (.commandRejected s!"unknown response: {responseId}") session)
    (present : ∀ record, session.orchestrator.records.find? responseId = some record →
      Ends (next record) session post) : Ends (findRecord responseId >>= next) session post := by
  unfold findRecord
  rw [ends_bind, ends_bind, ends_gets]
  dsimp only
  cases found : session.orchestrator.records.find? responseId with
  | none => exact missing found
  | some record => exact present record found

/-- A record that is there is found. -/
theorem findRecord_found {α : Type} {next : ResponseRecord → Op α} {post : Post Session PyError α}
    (found : session.orchestrator.records.find? responseId = some record)
    (later : Ends (next record) session post) : Ends (findRecord responseId >>= next) session post := by
  refine findRecord_ends (fun missing => ?_) fun other present => ?_
  · rw [found] at missing
    cases missing
  · rw [found] at present
    cases present
    exact later

/-- A call goes on with an aware clock. -/
theorem asUtc_ends {α : Type} {now : Moment} {next : Int → Op α} {post : Post Session PyError α}
    (refused : ∀ error, error ≠ .assertionError → post.raised error session)
    (aware : ∀ value, now = .aware value → Ends (next value) session post) :
    Ends (ofExcept (asUtc now) >>= next) session post := by
  cases now with
  | naive => exact refused _ (by simp)
  | aware value => exact aware value rfl
  | beyond _ => exact refused _ (by simp)

/-- An aware clock is its own moment. -/
@[simp] theorem asUtc_aware {α : Type} {now : Int} {next : Int → Op α} {post : Post Session PyError α} :
    Ends (ofExcept (asUtc (.aware now)) >>= next) session post ↔ Ends (next now) session post := Iff.rfl

/-- A guard that holds is passed. -/
theorem require_ends {α : Type} {condition : Prop} [Decidable condition] {error : PyError} {next : Unit → Op α}
    {post : Post Session PyError α} (fails : ¬ condition → post.raised error session)
    (later : condition → Ends (next ()) session post) : Ends (require condition error >>= next) session post := by
  rw [ends_bind, ends_require]
  exact ⟨later, fails⟩

/-- A call of a public operation is seen in the log. -/
theorem serialized_ends {α : Type} {call : PublicCall} {method : Op α} {post : Post Session PyError α}
    (synced : Synced python trusted session)
    (body : Synced python trusted (session.observed (.called call)) →
      Ends method (session.observed (.called call)) post) : Ends (serialized call method) session post := by
  have seen := synced.observe (.called call) trivial ⟨by simp, by simp⟩
  unfold serialized
  rw [ends_bind, ends_note]
  dsimp only
  rw [ends_bind, ends_gets]
  dsimp only
  rw [seen.running]
  exact body seen

/-- A halted process refuses every public operation and touches neither the store nor an adapter. -/
theorem serialized_halted {α : Type} {call : PublicCall} {method : Op α} {post : Post Session PyError α}
    (stopped : session.orchestrator.storageFailed = true)
    (raised : post.raised (.runtimeError
      "response persistence failed; close and reopen the store before recovery")
      (session.observed (.called call))) : Ends (serialized call method) session post := by
  unfold serialized
  rw [ends_bind, ends_note]
  dsimp only
  rw [ends_bind, ends_gets]
  dsimp only
  rw [show (session.observed (.called call)).orchestrator.storageFailed = true from stopped]
  exact raised

/-- A call that is noted touches nothing. -/
theorem Touched.called {call : PublicCall} {done : List String} {after : Session}
    (touched : Touched python trusted (session.observed (.called call)) record done after) :
    Touched python trusted session record done after :=
  ⟨touched.orchestrator, touched.service, (extends_observed (.called call) (by simp)).trans touched.log,
    touched.synced⟩

section Verification

/-- The history of an applied record holds its application. -/
theorem Synced.application (synced : Synced python trusted session)
    (found : session.orchestrator.records.find? record.responseId = some record)
    (state : record.state = .applied) :
    ∃ application, lastApplication (session.journal.events record.responseId) = some application := by
  have durable := synced.reached.durable
  have chronicle := durable.chronicle _ _ (synced.stored found)
  obtain ⟨last, present, lastState, -⟩ := chronicle.latest
  obtain ⟨front, split⟩ := List.getLast?_eq_some_iff.mp present
  have placed := chronicle.orderly front last [] split
  have applied : last.state = .applied := lastState.trans state
  obtain ⟨application, carried⟩ := Option.isSome_iff_exists.mp (placed.2.2.2.2.2.2.2.2.2.2.2.1 applied).1
  refine ⟨application, ?_⟩
  rw [durable.events, split, lastApplication, List.reverse_append]
  simp [carried]

/-- The time of application of an applied record is read. -/
theorem appliedAt_ends (synced : Synced python trusted session)
    (found : session.orchestrator.records.find? record.responseId = some record)
    (state : record.state = .applied) :
    Ends (appliedAt record) session (upon python trusted session fun _ after =>
      ∃ tape, after = { session with tape }) := by
  obtain ⟨application, present⟩ := synced.application found state
  unfold appliedAt
  refine upon_bind (readLedger_ends synced) fun value after ⟨same, tape, ended⟩ _ => ?_
  rw [same, present]
  exact upon_pure ⟨tape, ended⟩

/-- A confirmed application is VERIFIED. -/
theorem confirm_ends {evidenceRefs : List String} (synced : Synced python trusted session)
    (found : session.orchestrator.records.find? record.responseId = some record)
    (state : record.state = .applied) (idle : record.pendingOperation = none) (proven : evidenceRefs ≠ [])
    (named : ∀ reference ∈ evidenceRefs, reference ≠ "") :
    Ends (confirm python record timestamp evidenceRefs) session (upon python trusted session fun _ after =>
      Touched python trusted session (record.moved .verified false) [] after) := by
  have counted : record.transitionNumber ≠ 0 := Nat.ne_of_gt (synced.sound found).counted.1
  unfold confirm
  refine upon_bind (appliedAt_ends synced found state) fun appliedAt after ⟨tape, same⟩ _ => ?_
  subst same
  have kept := synced.tape tape
  refine upon_bind (move_ends kept rfl rfl ?_) fun result last written _ => upon_pure ?_
  · rw [kept.stored found]
    exact Change.confirmVerify state idle (stamp_next false counted rfl rfl)
      rfl ⟨_, rfl, rfl, proven, named⟩
  · exact ⟨written.2.touched.orchestrator, written.2.touched.service, written.2.touched.log,
      written.2.touched.synced⟩

/-- A failed verification calls the adapter to revert. -/
theorem retract_ends {outcome : AdapterOutcome} (synced : Synced python trusted session)
    (found : session.orchestrator.records.find? record.responseId = some record)
    (state : record.state = .applied) :
    Ends (retract python record timestamp outcome) session (upon python trusted session fun _ after =>
      ∃ changed, Touched python trusted session changed [record.responseId] after ∧
        record.Reversed .rolledBack changed) := by
  have engaged : record.engaged = true := by simp [ResponseRecord.engaged, state]
  unfold retract
  refine revertCall_ends synced found engaged fun rollback after touched named follows => ?_
  split
  · refine upon_bind (appliedAt_ends touched.synced touched.find state) fun appliedAt read times _ => ?_
    obtain ⟨tape, rfl⟩ := times
    have kept := touched_tape touched tape
    refine upon_bind (conclude_ends kept.synced kept.find rfl rfl (by simp) rfl) fun result last moved _ =>
      upon_pure ⟨_, kept.trans moved rfl, ⟨rfl, rfl, rfl⟩, Or.inl ⟨rfl, rfl⟩⟩
  · unfold failFromOutcome
    refine upon_bind (fail_ends touched.synced touched.find (Or.inr rfl)) fun event last moved _ =>
      upon_pure ⟨_, touched.trans moved rfl, ⟨rfl, rfl, rfl⟩, Or.inr ⟨rfl, rfl⟩⟩

end Verification

section Sweeping

/-- A record ended, or it failed and its operation is still pending. -/
def ResponseRecord.Ended (record after : ResponseRecord) : Prop :=
  record.SameInput after ∧ ((after.state.terminal = true ∧ after.pendingOperation = none) ∨
    (after.state = .failed ∧ after.pendingOperation.isSome))

/-- The record with this identifier is selected. -/
def selected (select : ResponseRecord → Bool) (records : Table String ResponseRecord) (responseId : String) : Bool :=
  (records.find? responseId).any select

/-- Exactly the selected records of a list were reverted. -/
structure Swept (python : Python) (trusted : CommandAuthenticator → Prop) (select : ResponseRecord → Bool)
    (session : Session) (responseIds : List String) (after : Session) : Prop where
  synced : Synced python trusted after
  frame : after.orchestrator = { session.orchestrator with records := after.orchestrator.records }
  service : after.service = session.service
  keys : after.orchestrator.records.keys = session.orchestrator.records.keys
  log : Extends (responseIds.filter (selected select session.orchestrator.records)) session.log after.log
  chosen : ∀ responseId ∈ responseIds, ∀ record,
    session.orchestrator.records.find? responseId = some record → select record = true →
    ∃ later, after.orchestrator.records.find? responseId = some later ∧ record.Ended later ∧
      ((∀ reply ∈ session.tape.replies, reply.Good) → later.state.terminal = true)
  spared : ∀ responseId, responseId ∉ responseIds ∨ selected select session.orchestrator.records responseId = false →
    after.orchestrator.records.find? responseId = session.orchestrator.records.find? responseId

/-- A sweep over nothing changes nothing. -/
theorem swept_nil {select : ResponseRecord → Bool} (synced : Synced python trusted session) :
    Swept python trusted select session [] session :=
  ⟨synced, rfl, rfl, rfl, Extends.refl _, by simp, fun _ _ => rfl⟩

/-- A turn of the sweep reverts its record if it is selected. -/
def Turns (python : Python) (trusted : CommandAuthenticator → Prop) (select : ResponseRecord → Bool)
    (body : String → Op (Option OrchestrationResult)) : Prop :=
  ∀ session responseId record, Synced python trusted session →
    session.orchestrator.records.find? responseId = some record →
    Ends (body responseId) session (upon python trusted session fun _ after =>
      Swept python trusted select session [responseId] after)

/-- A selected record that is reverted is swept. -/
theorem Touched.swept {select : ResponseRecord → Bool} {changed : ResponseRecord} {after : Session}
    (found : session.orchestrator.records.find? responseId = some record) (chosen : select record = true)
    (touched : Touched python trusted session changed [responseId] after) (ended : record.Ended changed)
    (same : changed.responseId = responseId)
    (good : (∀ reply ∈ session.tape.replies, reply.Good) → changed.state.terminal = true) :
    Swept python trusted select session [responseId] after := by
  have isSelected : selected select session.orchestrator.records responseId = true := by
    simp [selected, found, chosen]
  have recordsAre : after.orchestrator.records = session.orchestrator.records.upsert responseId changed := by
    rw [touched.orchestrator, ← same]
    rfl
  refine ⟨touched.synced, ?_, touched.service, ?_, ?_, ?_, ?_⟩
  · rw [touched.orchestrator]
    rfl
  · rw [recordsAre]
    exact Table.keys_upsert_of_mem _ (Table.mem_keys_iff.mpr ⟨record, found⟩)
  · simpa [isSelected] using touched.log
  · intro other member old oldFound _
    rw [List.mem_singleton] at member
    subst member
    rw [found] at oldFound
    cases oldFound
    exact ⟨changed, by rw [recordsAre, Table.find?_upsert_self], ended, good⟩
  · intro other apart
    rw [recordsAre]
    apply Table.find?_upsert_of_ne
    rintro rfl
    rcases apart with outside | unselected
    · exact outside List.mem_cons_self
    · rw [isSelected] at unselected
      cases unselected

/-- A record that is not selected is spared. -/
theorem swept_spared {select : ResponseRecord → Bool} (synced : Synced python trusted session)
    (found : session.orchestrator.records.find? responseId = some record) (spared : select record = false) :
    Swept python trusted select session [responseId] session := by
  have unselected : selected select session.orchestrator.records responseId = false := by
    simp [selected, found, spared]
  refine ⟨synced, rfl, rfl, rfl, by simpa [unselected] using Extends.refl session.log, ?_, fun _ _ => rfl⟩
  intro other member old oldFound chosen
  rw [List.mem_singleton] at member
  subst member
  rw [found] at oldFound
  cases oldFound
  rw [spared] at chosen
  cases chosen

/-- A sweep of one record and a sweep of the others are one sweep. -/
theorem Swept.cons {select : ResponseRecord → Bool} {rest : List String} {middle after : Session}
    (fresh : responseId ∉ rest) (head : Swept python trusted select session [responseId] middle)
    (tail : Swept python trusted select middle rest after) (consumed : Consumed session.tape middle.tape) :
    Swept python trusted select session (responseId :: rest) after := by
  have unmoved : ∀ other ∈ rest, middle.orchestrator.records.find? other =
      session.orchestrator.records.find? other := by
    intro other member
    refine head.spared other (Or.inl fun same => fresh ?_)
    rw [← List.mem_singleton.mp same]
    exact member
  have sameFilter : rest.filter (selected select middle.orchestrator.records) =
      rest.filter (selected select session.orchestrator.records) :=
    List.filter_congr fun other member => by rw [selected, selected, unmoved other member]
  refine ⟨tail.synced, ?_, tail.service.trans head.service, tail.keys.trans head.keys, ?_, ?_, ?_⟩
  · rw [tail.frame, head.frame]
  · have joined := head.log.trans tail.log
    rw [sameFilter, ← List.filter_append] at joined
    exact joined
  · intro other member record found chosen
    rcases List.mem_cons.mp member with same | later
    · subst same
      obtain ⟨changed, present, ended, good⟩ := head.chosen other List.mem_cons_self record found chosen
      refine ⟨changed, ?_, ended, good⟩
      rw [tail.spared other (Or.inl fresh), present]
    · rw [← unmoved other later] at found
      obtain ⟨changed, present, ended, good⟩ := tail.chosen other later record found chosen
      exact ⟨changed, present, ended, fun all => good fun reply inside => all reply (consumed.replies inside)⟩
  · intro other apart
    rcases apart with outside | unselected
    · rw [List.mem_cons, not_or] at outside
      rw [tail.spared other (Or.inl outside.2), head.spared other (Or.inl (by simpa using outside.1))]
    · have kept := head.spared other (Or.inr unselected)
      rw [tail.spared other (Or.inr (by rw [selected, kept]; exact unselected)), kept]

/-- The loop over a list of distinct records sweeps the list. -/
theorem sweep_ends {select : ResponseRecord → Bool} {body : String → Op (Option OrchestrationResult)}
    (turns : Turns python trusted select body) (responseIds : List String) (distinct : responseIds.Nodup)
    (synced : Synced python trusted session)
    (known : ∀ responseId ∈ responseIds, responseId ∈ session.orchestrator.records.keys) :
    Ends (collect body responseIds) session (upon python trusted session fun _ after =>
      Swept python trusted select session responseIds after) := by
  induction responseIds generalizing session with
  | nil => exact upon_pure (swept_nil synced)
  | cons responseId rest ih =>
      obtain ⟨fresh, distinctRest⟩ := List.nodup_cons.mp distinct
      obtain ⟨record, found⟩ := Table.mem_keys_iff.mp (known responseId List.mem_cons_self)
      unfold collect
      refine upon_bind (turns session responseId record synced found) fun head middle first consumed => ?_
      refine upon_bind (ih distinctRest first.synced fun other member => ?_) fun tail after later _ => upon_pure ?_
      · rw [first.keys]
        exact known other (List.mem_cons_of_mem _ member)
      · exact first.cons fresh later consumed

end Sweeping

end ClosedLoop.Response
