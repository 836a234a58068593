import ClosedLoop.Construction.Response.DecisionRunner

namespace ClosedLoop.Response

open ClosedLoop.Library
open ClosedLoop.Workers (AnomalyEvent DeliveryError Fault Stored SortTuple)

section Handling

variable {python : Python} {runner : DecisionRunner}

/-- The verdict on an anomaly with the evidence that a call has gathered. -/
def DecisionRunner.Decides (python : Python) (runner : DecisionRunner) (document : AnomalyEvent) (answers : Answers)
    (result : DecisionResult) : Prop :=
  ∃ type entity policyId, DecisionRunner.target document = some (type, entity) ∧
    runner.policyByTarget.find? type.text = some policyId ∧
    runner.decide python document type entity policyId answers.telemetry answers.now = .ok result

/-- A call for one anomaly leaves the cursor and loses no row. It sends at most one command, the one of its verdict. -/
structure DecisionState.Extends (python : Python) (runner : DecisionRunner) (document : AnomalyEvent)
    (answers : Answers) (before after : DecisionState) : Prop where
  cursor : after.cursor = before.cursor
  rows : before.decisions.keys ⊆ after.decisions.keys
  commands : after.commands = before.commands ∨ ∃ result, runner.Decides python document answers result ∧
    result.eligible = true ∧ runner.enforce = true ∧
    after.commands = before.commands ++ result.command.toList.map fun command => (document.eventId, command)

/-- A row is in the table once it is recorded. -/
theorem mem_record (state : DecisionState) (anomalyId : String) (row : DecisionRow) :
    anomalyId ∈ (state.record anomalyId row).decisions.keys :=
  Table.mem_keys_upsert.mpr (Or.inl rfl)

/-- A row that is recorded takes no other one away. -/
theorem subset_record (state : DecisionState) (anomalyId : String) (row : DecisionRow) :
    state.decisions.keys ⊆ (state.record anomalyId row).decisions.keys :=
  fun _ member => Table.mem_keys_upsert.mpr (Or.inr member)

variable {document : AnomalyEvent} {answers : Answers}

/-- A state extends itself. -/
theorem DecisionState.Extends.refl (state : DecisionState) : state.Extends python runner document answers state :=
  ⟨rfl, List.Subset.refl _, Or.inl rfl⟩

/-- A row that is recorded extends the state. -/
theorem DecisionState.Extends.record {before after : DecisionState}
    (further : before.Extends python runner document answers after) (anomalyId : String) (row : DecisionRow) :
    before.Extends python runner document answers (after.record anomalyId row) :=
  ⟨further.cursor, List.Subset.trans further.rows (subset_record after anomalyId row), further.commands⟩

/-- What a call of `handle` does to the state, and that it leaves a row when it is done. -/
def Handled.Spec (python : Python) (runner : DecisionRunner) (document : AnomalyEvent) (answers : Answers)
    (before : DecisionState) (ended : Handled × DecisionState) : Prop :=
  before.Extends python runner document answers ended.2 ∧
    (ended.1 = .done → document.eventId ∈ ended.2.decisions.keys)

/-- A document is done when its row is recorded. -/
theorem Handled.Spec.recorded {before after : DecisionState}
    (further : before.Extends python runner document answers after) (row : DecisionRow) :
    Handled.Spec python runner document answers before (.done, after.record document.eventId row) :=
  ⟨further.record document.eventId row, fun _ => mem_record after document.eventId row⟩

/-- A document that waits needs no row yet. -/
theorem Handled.Spec.unfinished {before after : DecisionState} {handled : Handled} (waits : handled ≠ .done)
    (further : before.Extends python runner document answers after) :
    Handled.Spec python runner document answers before (handled, after) :=
  ⟨further, fun done => absurd done waits⟩

/-- A failed delivery ends as its error says. -/
theorem deliveryFailed_spec {before after : DecisionState}
    (further : before.Extends python runner document answers after) (error : DeliveryError) :
    Handled.Spec python runner document answers before (deliveryFailed after document.eventId error) := by
  unfold deliveryFailed
  split
  · exact .unfinished (by simp) further
  · exact .recorded further _

/-- The last part of `handle` sends a command only for an eligible verdict in enforce mode. -/
theorem conclude_spec {before : DecisionState} {result : DecisionResult}
    (decided : runner.Decides python document answers result) (event : DecisionEvent) :
    Handled.Spec python runner document answers before
      (conclude runner before document.eventId result event answers) := by
  have written : ∀ event : DecisionEvent,
      before.Extends python runner document answers (writeDecision before event answers.writeFault).2 :=
    fun event => ⟨rfl, List.Subset.refl _, Or.inl rfl⟩
  unfold conclude
  split
  · rename_i enforced
    have wrote := written event
    split
    · rename_i answer
      rw [answer] at wrote
      exact deliveryFailed_spec wrote _
    · rename_i answer
      rw [answer] at wrote
      exact .unfinished (by simp) wrote
    · rename_i reply state _ _ answer
      rw [answer] at wrote
      have same : state.commands = before.commands := by
        have := congrArg (fun pair => pair.2.commands) answer
        exact this.symm
      have sent : before.Extends python runner document answers
          (sendCommand state document.eventId result.command) := by
        refine ⟨wrote.cursor, wrote.rows, Or.inr ⟨result, decided, ?_, ?_, ?_⟩⟩
        · exact (Bool.and_eq_true_iff.mp enforced).1
        · exact (Bool.and_eq_true_iff.mp enforced).2
        · rw [sendCommand, same]
      dsimp only
      split
      · exact deliveryFailed_spec sent _
      · exact .recorded sent _
  · have wrote := written (if result.eligible then observeEvent event else event)
    dsimp only
    split
    · rename_i answer
      rw [answer] at wrote
      exact deliveryFailed_spec wrote _
    · rename_i answer
      rw [answer] at wrote
      exact .unfinished (by simp) wrote
    · rename_i answer
      rw [answer] at wrote
      exact .recorded wrote _

/-- What one call of `handle` can do. -/
theorem handle_spec (python : Python) (runner : DecisionRunner) (state : DecisionState) (document : AnomalyEvent)
    (answers : Answers) :
    Handled.Spec python runner document answers state (handle python runner state document answers) := by
  have same : state.Extends python runner document answers state := .refl state
  unfold handle
  split
  · exact .recorded same _
  · rename_i type entity target
    split
    · exact .recorded same _
    · rename_i policyId policy
      split
      · split
        · exact .unfinished (by simp) same
        · exact .recorded same _
      · split
        · exact .recorded same _
        · exact .recorded same _
        · exact .unfinished (by simp) same
        · rename_i result verdict
          split
          · exact .recorded same _
          · exact conclude_spec ⟨type, entity, policyId, target, policy, verdict⟩ _

end Handling

section Polling

variable {python : Python} {runner : DecisionRunner}

/-- The hits that a call of `run_once` has handled are the first ones. The cursor is at the last of them, and each of
them has a row. -/
structure Polled (before after : DecisionState) (read : List (Stored AnomalyEvent)) : Prop where
  cursor : after.cursor = Cursor.advance place before.cursor read
  rows : before.decisions.keys ⊆ after.decisions.keys
  handled : ∀ document ∈ read, document.source.eventId ∈ after.decisions.keys

/-- A poll without hits leaves the cursor. -/
theorem Polled.nil {before after : DecisionState} (cursor : after.cursor = before.cursor)
    (rows : before.decisions.keys ⊆ after.decisions.keys) : Polled before after [] :=
  ⟨cursor, rows, by simp⟩

/-- A hit that is done moves the cursor past it. -/
theorem Polled.cons {before middle after : DecisionState} {hit : Stored AnomalyEvent}
    {read : List (Stored AnomalyEvent)} (rows : before.decisions.keys ⊆ middle.decisions.keys)
    (recorded : hit.source.eventId ∈ middle.decisions.keys)
    (polled : Polled { middle with cursor := some (place hit) } after read) : Polled before after (hit :: read) where
  cursor := by
    rw [polled.cursor]
    cases read with
    | nil => rfl
    | cons next rest =>
        rw [Cursor.advance, Cursor.advance, List.getLast?_cons_cons, List.getLast?_eq_some_getLast (by simp)]
        rfl
  rows := List.Subset.trans rows polled.rows
  handled := by
    intro document member
    rcases List.mem_cons.mp member with rfl | later
    · exact polled.rows recorded
    · exact polled.handled document later

/-- The loop of `run_once` handles hits from the first one on, and all of them when it completes. -/
theorem handleHits_polled (state : DecisionState) (hits : List (Stored AnomalyEvent)) (answers : List Answers) :
    ∃ read, read <+: hits ∧ Polled state (handleHits python runner state hits answers).2 read ∧
      ((handleHits python runner state hits answers).1 = .done → read = hits) := by
  induction hits generalizing state answers with
  | nil => exact ⟨[], List.prefix_rfl, .nil rfl (List.Subset.refl _), fun _ => rfl⟩
  | cons hit rest ih =>
      cases answers with
      | nil => exact ⟨[], List.nil_prefix, .nil rfl (List.Subset.refl _), fun done => by cases done⟩
      | cons answer others =>
          obtain ⟨further, recorded⟩ := handle_spec python runner state hit.source answer
          rw [handleHits]
          split
          · rename_i middle ended
            rw [ended] at further recorded
            obtain ⟨read, taken, polled, all⟩ := ih { middle with cursor := some (place hit) } others
            exact ⟨hit :: read, (List.prefix_cons_inj hit).mpr taken, .cons further.rows (recorded rfl) polled,
              fun done => by rw [all done]⟩
          · rename_i unfinished
            refine ⟨[], List.nil_prefix, .nil further.cursor further.rows, fun done => ?_⟩
            exact (unfinished _ (Prod.ext done rfl)).elim

end Polling

end ClosedLoop.Response
