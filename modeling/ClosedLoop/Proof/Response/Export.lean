import ClosedLoop.Construction.Response.Export
import ClosedLoop.Library.Trace
import ClosedLoop.Proof.Response.Checkpoint
import ClosedLoop.Proof.Workers.Delivery
import Mathlib.Data.List.Infix

namespace ClosedLoop.Response

open ClosedLoop.Library

section Marks

/-- No transaction touches the export marks. -/
theorem checkpoint_exported {journal next : Journal} {record : Snapshot} {event : Option AuditEvent}
    (accepted : journal.checkpoint record event = .ok next) : next.exported = journal.exported := by
  unfold Journal.checkpoint at accepted
  simp only [Check.bind_ok] at accepted
  obtain ⟨claimed, claim, appended, append, _, -, write⟩ := accepted
  rw [writeRecord_ok write]
  have claimedIs := claimIntent_ok claim
  subst claimedIs
  cases event with
  | none =>
      cases append
      rfl
  | some payload =>
      simp only [Journal.appendOptional, Journal.appendAudit, Check.bind_ok, Check.pure_ok] at append
      obtain ⟨_, -, _, -, same⟩ := append
      subst same
      dsimp only
      split
      · unfold Journal.recordAdmission
        split <;> rfl
      · rfl

/-- What a checkpoint leaves in the table of the events, whose ids stay apart. -/
theorem checkpointRow_ok {journal next : Journal} {record : Snapshot} {event : Option AuditEvent}
    (accepted : journal.checkpointRow record event = .ok next) :
    next.audit = journal.audit ++ event.toList ∧ next.exported = journal.exported ∧
      ∀ added ∈ event, ∀ row ∈ journal.audit, row.auditEventId ≠ added.auditEventId := by
  simp only [Journal.checkpointRow, Check.bind_ok, Check.guard_ok] at accepted
  obtain ⟨_, fresh, committed⟩ := accepted
  exact ⟨(checkpoint_ok committed).audit, checkpoint_exported committed, fresh⟩

/-- Filling in admissions changes neither the audit log nor its marks. -/
theorem backfill_exported (journal : Journal) :
    journal.backfillAdmissions.audit = journal.audit ∧ journal.backfillAdmissions.exported = journal.exported := by
  have fold : ∀ (events : List AuditEvent) (start : Journal),
      (events.foldl Journal.recordAdmission start).audit = start.audit ∧
        (events.foldl Journal.recordAdmission start).exported = start.exported := by
    intro events
    induction events with
    | nil => exact fun _ => ⟨rfl, rfl⟩
    | cons event rest ih =>
        intro start
        have head : (start.recordAdmission event).audit = start.audit ∧
            (start.recordAdmission event).exported = start.exported := by
          unfold Journal.recordAdmission
          split <;> exact ⟨rfl, rfl⟩
        exact ⟨(ih _).1.trans head.1, (ih _).2.trans head.2⟩
  unfold Journal.backfillAdmissions
  split
  · exact ⟨rfl, rfl⟩
  · exact fold _ journal

end Marks

section Order

/-- An export call works on a piece of the log that starts at a place up to which all events are marked. -/
structure ExportCall.Follows (log : List AuditEvent) (documents : List (Workers.Stored AuditEvent)) (count : Nat)
    (call : ExportCall) : Prop where
  piece : ∃ place ≤ count, call.remaining <+: (log.drop place).map fun event => (event.auditEventId, event)
  answered : call.answered = true → ∀ row ∈ call.remaining.head?, auditDocument row.2 ∈ documents

/-- The first events of the log are marked and delivered, and at most the one after them is delivered as well. -/
structure Ordered (stream : AuditStream) (count : Nat) : Prop where
  nodup : (stream.journal.audit.map (·.auditEventId)).Nodup
  within : count ≤ stream.journal.audit.length
  marks : stream.journal.exported = (stream.journal.audit.take count).map (·.auditEventId)
  delivered : ∀ event ∈ stream.journal.audit.take count, auditDocument event ∈ stream.documents
  ahead : ∀ document ∈ stream.documents, ∃ event ∈ stream.journal.audit.take (count + 1), document = auditDocument event
  requests : ∀ request ∈ stream.requests, ∃ event ∈ stream.journal.audit, request = auditDocument event
  addresses : (stream.documents.map Workers.Stored.address).Nodup
  calls : ∀ call ∈ stream.calls, call.Follows stream.journal.audit stream.documents count

variable {stream after : AuditStream} {count : Nat}

/-- Before the first event the stream is in order. -/
theorem Ordered.initial : Ordered {} 0 := by
  constructor <;> simp

/-- A call can end at any time. -/
theorem Ordered.fewer (ordered : Ordered stream count) {calls : List ExportCall} (subset : calls ⊆ stream.calls) :
    Ordered { stream with calls } count :=
  { ordered with calls := fun call member => ordered.calls call (subset member) }

/-- Only calls that were made survive. -/
theorem survivors_subset (calls : List ExportCall) (fate : CommitFate) : AuditStream.survivors calls fate ⊆ calls := by
  unfold AuditStream.survivors
  split
  · exact List.nil_subset _
  · exact List.Subset.refl _

/-- The log grows at its end. -/
theorem Ordered.append (ordered : Ordered stream count) {event : Option AuditEvent} {journal : Journal}
    (audit : journal.audit = stream.journal.audit ++ event.toList) (exported : journal.exported = stream.journal.exported)
    (fresh : ∀ added ∈ event, ∀ row ∈ stream.journal.audit, row.auditEventId ≠ added.auditEventId) :
    Ordered { stream with journal } count := by
  have same : journal.audit.take count = stream.journal.audit.take count := by
    rw [audit, List.take_append_of_le_length ordered.within]
  have grown : stream.journal.audit <+: journal.audit := audit ▸ List.prefix_append _ _
  refine ⟨?_, ordered.within.trans grown.length_le, ?_, ?_, ?_, ?_, ordered.addresses, ?_⟩
  · rw [audit, List.map_append, List.nodup_append]
    refine ⟨ordered.nodup, ?_, ?_⟩
    · cases event <;> simp
    · intro identifier earlier other listed equal
      obtain ⟨row, member, rfl⟩ := List.mem_map.mp earlier
      obtain ⟨added, new, rfl⟩ := List.mem_map.mp listed
      exact fresh added (Option.mem_toList.mp new) row member equal
  · rw [exported, ordered.marks, same]
  · rw [same]
    exact ordered.delivered
  · intro document member
    obtain ⟨event, listed, found⟩ := ordered.ahead document member
    exact ⟨event, (grown.take (count + 1)).subset listed, found⟩
  · intro request member
    obtain ⟨event, listed, found⟩ := ordered.requests request member
    exact ⟨event, grown.subset listed, found⟩
  · intro call member
    obtain ⟨⟨place, early, piece⟩, answered⟩ := ordered.calls call member
    refine ⟨⟨place, early, piece.trans ?_⟩, answered⟩
    exact (grown.drop place).map _

/-- A commit keeps the stream in order. -/
theorem Ordered.checkpoint (ordered : Ordered stream count) (record : Snapshot) (event : Option AuditEvent)
    (fate : CommitFate) : Ordered (stream.checkpoint record event fate) count := by
  unfold AuditStream.checkpoint
  split
  · exact ordered.fewer (survivors_subset _ _)
  · rename_i journal accepted
    obtain ⟨audit, exported, fresh⟩ := checkpointRow_ok accepted
    split
    · exact (ordered.append audit exported fresh).fewer (survivors_subset _ _)
    · exact ordered.fewer (survivors_subset _ _)

/-- A new call starts at the first event without a mark. -/
theorem Ordered.beginExport (ordered : Ordered stream count) (limit : Int) :
    Ordered (stream.beginExport limit) count := by
  refine { ordered with calls := fun call member => ?_ }
  rcases List.mem_append.mp member with old | new
  · exact ordered.calls call old
  · rw [List.mem_singleton] at new
    subst new
    refine ⟨⟨count, le_rfl, ?_⟩, by simp⟩
    simp only [Journal.unexportedWithin, Journal.unexportedEvents, ordered.marks, filter_unmarked ordered.nodup]
    exact (List.take_prefix _ _).map _

/-- The first event of a call is not behind the first one without a mark. -/
theorem Ordered.first (ordered : Ordered stream count) {index : Nat} {auditId : String} {event : AuditEvent}
    {rest : List (String × AuditEvent)} {answered : Bool}
    (found : stream.calls[index]? = some ⟨(auditId, event) :: rest, answered⟩) :
    ∃ place ≤ count, auditId = event.auditEventId ∧ stream.journal.audit[place]? = some event ∧
      rest <+: (stream.journal.audit.drop (place + 1)).map fun event => (event.auditEventId, event) := by
  obtain ⟨⟨place, early, piece⟩, _⟩ := ordered.calls _ (List.mem_of_getElem? found)
  refine ⟨place, early, ?_⟩
  cases left : stream.journal.audit.drop place with
  | nil =>
      rw [left] at piece
      exact absurd (List.prefix_nil.mp piece) (List.cons_ne_nil _ _)
  | cons head tail =>
      rw [left, List.map_cons, List.cons_prefix_cons, Prod.mk.injEq] at piece
      obtain ⟨⟨named, rfl⟩, more⟩ := piece
      have here : stream.journal.audit[place]? = some event := by
        rw [← List.head?_drop, left, List.head?_cons]
      refine ⟨named, here, ?_⟩
      rw [← List.tail_drop, left, List.tail_cons]
      exact more

/-- The documents after a request of a call. -/
theorem Ordered.put (ordered : Ordered stream count) {place : Nat} {event : AuditEvent} (early : place ≤ count)
    (here : stream.journal.audit[place]? = some event) (fault : Option Workers.Fault)
    {documents : List (Workers.Stored AuditEvent)}
    (answer : documents = (Workers.put stream.documents (auditIndex event) event.auditEventId event fault).2) :
    Ordered { stream with documents, requests := stream.requests ++ [auditDocument event] } count := by
  have listed : event ∈ stream.journal.audit.take (count + 1) := by
    have there : (stream.journal.audit.take (count + 1))[place]? = some event := by
      rw [List.getElem?_take_of_lt (Nat.lt_succ_of_le early), here]
    exact List.mem_of_getElem? there
  have kept : stream.documents ⊆ documents := answer ▸ Workers.subset_put _ _ _ _ _
  refine ⟨ordered.nodup, ordered.within, ordered.marks, fun event member => kept (ordered.delivered event member), ?_, ?_,
    ?_, ?_⟩
  · intro document member
    rw [answer] at member
    rcases Workers.mem_put member with old | rfl
    · exact ordered.ahead document old
    · exact ⟨event, listed, rfl⟩
  · intro request member
    rcases List.mem_append.mp member with old | new
    · exact ordered.requests request old
    · exact ⟨event, List.mem_of_mem_take listed, List.mem_singleton.mp new⟩
  · rw [answer]
    exact Workers.nodup_put ordered.addresses fault
  · intro call member
    obtain ⟨piece, answered⟩ := ordered.calls call member
    exact ⟨piece, fun done row first => kept (answered done row first)⟩

/-- A request that was answered has the event in the index. -/
theorem Ordered.created (ordered : Ordered stream count) {event : AuditEvent}
    (listed : event ∈ stream.journal.audit) :
    auditDocument event ∈ Workers.insert stream.documents (auditIndex event) event.auditEventId event := by
  obtain ⟨document, member, index, id⟩ :=
    Workers.insert_there stream.documents (auditIndex event) event.auditEventId event
  rcases Workers.mem_insert member with old | rfl
  · obtain ⟨other, there, rfl⟩ := ordered.ahead document old
    have same : other = event :=
      List.inj_on_of_nodup_map ordered.nodup (List.mem_of_mem_take there) listed id
    exact same ▸ member
  · exact member

/-- So does the creation of a document. -/
theorem Ordered.create (ordered : Ordered stream count) (call : Nat) (fault : Option Workers.Fault) :
    Ordered (stream.create call fault) count := by
  unfold AuditStream.create
  split
  · rename_i auditId event rest found
    obtain ⟨place, early, named, here, more⟩ := ordered.first found
    have listed := List.mem_of_getElem? here
    by_cases refused : event.auditEventId = "" ∨ 512 < event.auditEventId.toList.length
    · rw [Workers.create, if_pos refused]
      exact ordered.fewer (List.eraseIdx_subset)
    · rw [Workers.create, if_neg refused]
      split
      · rename_i answer
        cases fault <;> simp only [Workers.put, Prod.mk.injEq] at answer
        · split at answer <;> cases answer.1
        · cases answer.1
      · rename_i after answer
        exact (ordered.put early here fault (by rw [answer])).fewer (List.eraseIdx_subset)
      · rename_i reply documents unrefused unfailed answer
        have next := ordered.put early here fault (congrArg Prod.snd answer).symm
        have there : auditDocument event ∈ documents := by
          cases fault with
          | none =>
              simp only [Workers.put, Prod.mk.injEq] at answer
              exact answer.2 ▸ ordered.created listed
          | some fault =>
              simp only [Workers.put, Prod.mk.injEq] at answer
              exact absurd answer.1.symm (unfailed fault.error)
        refine { next with calls := fun other member => ?_ }
        rcases List.mem_or_eq_of_mem_set member with old | rfl
        · exact next.calls other old
        · refine ⟨(ordered.calls _ (List.mem_of_getElem? found)).piece, fun _ row first => ?_⟩
          cases first
          exact there
  · exact ordered

/-- The first event without a mark gets one. -/
theorem Ordered.advance (ordered : Ordered stream count) {event : AuditEvent}
    (here : stream.journal.audit[count]? = some event) (there : auditDocument event ∈ stream.documents) :
    Ordered { stream with journal := stream.journal.markExported event.auditEventId } (count + 1) := by
  have inside : count < stream.journal.audit.length := (List.getElem?_eq_some_iff.mp here).1
  have taken : stream.journal.audit.take (count + 1) = stream.journal.audit.take count ++ [event] := by
    rw [List.take_add_one, here, Option.toList_some]
  have unmarked : event.auditEventId ∉ stream.journal.exported := by
    rw [ordered.marks]
    have apart := ordered.nodup.sublist ((List.take_sublist (count + 1) stream.journal.audit).map AuditEvent.auditEventId)
    rw [taken, List.map_append, List.nodup_append] at apart
    intro marked
    exact apart.2.2 _ marked _ (List.mem_singleton_self _) rfl
  have tables : (stream.journal.markExported event.auditEventId).audit = stream.journal.audit ∧
      (stream.journal.markExported event.auditEventId).exported = stream.journal.exported ++ [event.auditEventId] := by
    rw [Journal.markExported, if_neg unmarked]
    exact ⟨rfl, rfl⟩
  refine ⟨?_, ?_, ?_, ?_, ?_, ?_, ordered.addresses, ?_⟩
  · rw [tables.1]
    exact ordered.nodup
  · rw [tables.1]
    exact inside
  · rw [tables.1, tables.2, taken, ordered.marks, List.map_append, List.map_singleton]
  · rw [tables.1, taken]
    intro other member
    rcases List.mem_append.mp member with old | new
    · exact ordered.delivered other old
    · exact List.mem_singleton.mp new ▸ there
  · rw [tables.1]
    intro document member
    obtain ⟨other, listed, found⟩ := ordered.ahead document member
    exact ⟨other, (List.take_prefix_take_left (Nat.le_succ _)).subset listed, found⟩
  · rw [tables.1]
    exact ordered.requests
  · rw [tables.1]
    intro call member
    obtain ⟨⟨place, early, piece⟩, answered⟩ := ordered.calls call member
    exact ⟨⟨place, Nat.le_succ_of_le early, piece⟩, answered⟩

/-- The store after a mark, which changes nothing when the event is marked already. -/
theorem Ordered.marked (ordered : Ordered stream count) {place : Nat} {event : AuditEvent} (early : place ≤ count)
    (here : stream.journal.audit[place]? = some event) (there : auditDocument event ∈ stream.documents) :
    ∃ further, place + 1 ≤ further ∧
      Ordered { stream with journal := stream.journal.markExported event.auditEventId } further := by
  rcases Nat.lt_or_eq_of_le early with before | rfl
  · have listed : (stream.journal.audit.take count)[place]? = some event := by
      rw [List.getElem?_take_of_lt before, here]
    have marked : event.auditEventId ∈ stream.journal.exported := by
      rw [ordered.marks]
      exact List.mem_map_of_mem (List.mem_of_getElem? listed)
    rw [Journal.markExported, if_pos marked]
    exact ⟨count, before, ordered⟩
  · exact ⟨place + 1, le_rfl, ordered.advance here there⟩

/-- A mark changes no audit event. -/
theorem markExported_audit (journal : Journal) (auditId : String) :
    (journal.markExported auditId).audit = journal.audit := by
  unfold Journal.markExported
  split <;> rfl

/-- A mark keeps the stream in order, one event further. -/
theorem Ordered.mark (ordered : Ordered stream count) (call : Nat) (fate : CommitFate) :
    ∃ further, Ordered (stream.mark call fate) further := by
  unfold AuditStream.mark
  split
  · rename_i auditId event rest found
    obtain ⟨place, early, named, here, more⟩ := ordered.first found
    have there := (ordered.calls _ (List.mem_of_getElem? found)).answered rfl (auditId, event) rfl
    obtain ⟨further, later, next⟩ := ordered.marked early here there
    rw [named]
    by_cases durable : fate = .durable
    · subst durable
      rw [if_pos rfl]
      refine ⟨further, { next with calls := fun other member => ?_ }⟩
      have kept : other ∈ stream.calls.set call ⟨rest, false⟩ := survivors_subset _ .durable member
      rcases List.mem_or_eq_of_mem_set kept with old | rfl
      · exact next.calls other old
      · refine ⟨⟨place + 1, later, ?_⟩, by simp⟩
        change rest <+: ((stream.journal.markExported event.auditEventId).audit.drop (place + 1)).map _
        rw [markExported_audit]
        exact more
    · rw [if_neg durable]
      split
      · exact ⟨further, next.fewer (List.Subset.trans (survivors_subset _ _) List.eraseIdx_subset)⟩
      · exact ⟨count, ordered.fewer (List.Subset.trans (survivors_subset _ _) List.eraseIdx_subset)⟩
  · exact ⟨count, ordered⟩

/-- So does every move. -/
theorem Ordered.step (ordered : Ordered stream count) (move : StreamMove) :
    ∃ further, Ordered (stream.step move) further := by
  cases move with
  | checkpoint record event fate => exact ⟨count, ordered.checkpoint record event fate⟩
  | beginExport limit => exact ⟨count, ordered.beginExport limit⟩
  | create call fault => exact ⟨count, ordered.create call fault⟩
  | mark call fate => exact ordered.mark call fate
  | reopen =>
      obtain ⟨audit, exported⟩ := backfill_exported stream.journal
      have same : stream.journal.backfillAdmissions.audit = stream.journal.audit ++ (none : Option AuditEvent).toList := by
        rw [audit, Option.toList_none, List.append_nil]
      exact ⟨count, (ordered.append same exported (by simp)).fewer (List.nil_subset _)⟩

end Order

section Runs

/-- Every run is in order. -/
theorem run_ordered (moves : List StreamMove) : ∃ count, Ordered (AuditStream.run moves) count := by
  induction moves using List.reverseRecOn with
  | nil => exact ⟨0, Ordered.initial⟩
  | append_singleton front last ih =>
      obtain ⟨count, ordered⟩ := ih
      rw [AuditStream.run, List.foldl_append]
      exact ordered.step last

/-- No event and no mark is lost in a move. -/
theorem step_keeps_log (stream : AuditStream) (move : StreamMove) :
    stream.journal.audit <+: (stream.step move).journal.audit ∧
      stream.journal.exported <+: (stream.step move).journal.exported := by
  cases move with
  | checkpoint record event fate =>
      simp only [AuditStream.step, AuditStream.checkpoint]
      split
      · exact ⟨List.prefix_rfl, List.prefix_rfl⟩
      · rename_i journal accepted
        obtain ⟨audit, exported, _⟩ := checkpointRow_ok accepted
        dsimp only
        split
        · rw [audit, exported]
          exact ⟨List.prefix_append _ _, List.prefix_rfl⟩
        · exact ⟨List.prefix_rfl, List.prefix_rfl⟩
  | beginExport limit => exact ⟨List.prefix_rfl, List.prefix_rfl⟩
  | create call fault =>
      simp only [AuditStream.step, AuditStream.create]
      split
      · split <;> exact ⟨List.prefix_rfl, List.prefix_rfl⟩
      · exact ⟨List.prefix_rfl, List.prefix_rfl⟩
  | mark call fate =>
      simp only [AuditStream.step, AuditStream.mark]
      split
      · dsimp only
        split
        · rw [markExported_audit, Journal.markExported]
          split
          · exact ⟨List.prefix_rfl, List.prefix_rfl⟩
          · exact ⟨List.prefix_rfl, List.prefix_append _ _⟩
        · exact ⟨List.prefix_rfl, List.prefix_rfl⟩
      · exact ⟨List.prefix_rfl, List.prefix_rfl⟩
  | reopen =>
      obtain ⟨audit, exported⟩ := backfill_exported stream.journal
      simp only [AuditStream.step, audit, exported]
      exact ⟨List.prefix_rfl, List.prefix_rfl⟩

/-- No later move takes back an event or a mark. -/
theorem run_keeps_log (before after : List StreamMove) :
    (AuditStream.run before).journal.audit <+: (AuditStream.run (before ++ after)).journal.audit ∧
      (AuditStream.run before).journal.exported <+: (AuditStream.run (before ++ after)).journal.exported := by
  induction after using List.reverseRecOn with
  | nil =>
      rw [List.append_nil]
      exact ⟨List.prefix_rfl, List.prefix_rfl⟩
  | append_singleton front last ih =>
      have step := step_keeps_log (AuditStream.run (before ++ front)) last
      have same : AuditStream.run (before ++ (front ++ [last])) = (AuditStream.run (before ++ front)).step last := by
        rw [← List.append_assoc, AuditStream.run, List.foldl_append]
        rfl
      rw [same]
      exact ⟨ih.1.trans step.1, ih.2.trans step.2⟩

/-- The export of a stream keeps the order of the events and loses none. -/
structure ExportsInOrder (stream : AuditStream) : Prop where
  marked : ∃ count, stream.journal.exported = (stream.journal.audit.take count).map (·.auditEventId) ∧
    (∀ event ∈ stream.journal.audit.take count, auditDocument event ∈ stream.documents) ∧
    ∀ event ∈ stream.journal.audit, auditDocument event ∈ stream.documents →
      event.auditEventId ∉ stream.journal.exported → stream.journal.audit[count]? = some event
  repeated : ∀ first ∈ stream.requests, ∀ second ∈ stream.requests, first.id = second.id → first = second
  owned : ∀ document ∈ stream.documents, ∃ event ∈ stream.journal.audit, document = auditDocument event
  single : (stream.documents.map (·.id)).Nodup

/-- A stream in order exports in order. -/
theorem Ordered.exports {stream : AuditStream} {count : Nat} (ordered : Ordered stream count) :
    ExportsInOrder stream := by
  have known : ∀ {first second : AuditEvent}, first ∈ stream.journal.audit → second ∈ stream.journal.audit →
      first.auditEventId = second.auditEventId → first = second :=
    fun member other same => List.inj_on_of_nodup_map ordered.nodup member other same
  have owned : ∀ document ∈ stream.documents, ∃ event ∈ stream.journal.audit, document = auditDocument event := by
    intro document member
    obtain ⟨event, listed, found⟩ := ordered.ahead document member
    exact ⟨event, List.mem_of_mem_take listed, found⟩
  refine ⟨⟨count, ordered.marks, ordered.delivered, ?_⟩, ?_, owned, ?_⟩
  · intro event listed delivered unmarked
    obtain ⟨other, early, same⟩ := ordered.ahead _ delivered
    have equal : event = other := congrArg Workers.Stored.source same
    subst equal
    rw [List.take_add_one, List.mem_append] at early
    rcases early with marked | next
    · rw [ordered.marks] at unmarked
      exact absurd (List.mem_map_of_mem marked) unmarked
    · exact Option.mem_toList.mp next
  · intro first made second again same
    obtain ⟨event, listed, rfl⟩ := ordered.requests first made
    obtain ⟨other, there, rfl⟩ := ordered.requests second again
    rw [known listed there same]
  · have apart := List.pairwise_map.mp ordered.addresses
    refine List.pairwise_map.mpr (apart.imp_of_mem fun {first second} member other different same => ?_)
    obtain ⟨event, listed, rfl⟩ := owned first member
    obtain ⟨twin, there, rfl⟩ := owned second other
    exact different (congrArg (fun event => (auditDocument event).address) (known listed there same))

/-- Audit export keeps order and loses nothing, in every interleaving with checkpoints, failures, and crashes. -/
theorem audit_export_in_order (moves : List StreamMove) :
    ExportsInOrder (AuditStream.run moves) ∧ ∀ before after, moves = before ++ after →
      (AuditStream.run before).journal.audit <+: (AuditStream.run moves).journal.audit ∧
        (AuditStream.run before).journal.exported <+: (AuditStream.run moves).journal.exported := by
  obtain ⟨count, ordered⟩ := run_ordered moves
  refine ⟨ordered.exports, ?_⟩
  intro before after split
  rw [split]
  exact run_keeps_log before after

end Runs

end ClosedLoop.Response
