import ClosedLoop.Construction.Workers.Pipeline
import ClosedLoop.Library.Trace

namespace ClosedLoop.Workers

open ClosedLoop.Library ClosedLoop.Response

section Outboxes

/-- The outbox has the job of a vector under some approved model. -/
def Enqueued (python : Python) (outbox : Outbox) (vector : FeatureVector) : Prop :=
  ∃ metadataHash, isSha256 metadataHash = true ∧ jobId python metadataHash vector ∈ outbox.jobs.keys

theorem Enqueued.grow {python : Python} {outbox after : Outbox} {vector : FeatureVector}
    (enqueued : Enqueued python outbox vector) (grows : outbox.jobs.keys ⊆ after.jobs.keys) :
    Enqueued python after vector := by
  obtain ⟨metadataHash, approved, member⟩ := enqueued
  exact ⟨metadataHash, approved, grows member⟩

/-- An update of a job keeps the ids. -/
@[simp] theorem keys_change (outbox : Outbox) (identifier : String) (update : Job → Job) :
    (outbox.change identifier update).jobs.keys = outbox.jobs.keys := by
  unfold Outbox.change Table.keys
  rw [List.map_map]
  apply List.map_congr_left
  intro row _
  by_cases same : row.1 = identifier <;> simp [same]

@[simp] theorem cursors_change (outbox : Outbox) (identifier : String) (update : Job → Job) :
    (outbox.change identifier update).cursors = outbox.cursors := rfl

@[simp] theorem keys_setMeta (outbox : Outbox) (key : String) (value : SortTuple) :
    (outbox.setMeta key value).jobs = outbox.jobs := rfl

/-- After `enqueue` the job of the vector is there, and no job has gone. -/
theorem enqueue_ok {python : Python} {outbox after : Outbox} {vector : FeatureVector} {metadataHash : String}
    {now : Int} {added : Bool} (ok : outbox.enqueue python vector metadataHash now = .ok (added, after)) :
    Enqueued python after vector ∧ outbox.jobs.keys ⊆ after.jobs.keys ∧ after.cursors = outbox.cursors := by
  unfold Outbox.enqueue at ok
  by_cases approved : isSha256 metadataHash = true
  · rw [if_neg (by simp [approved])] at ok
    split at ok
    · rename_i job found
      cases ok
      exact ⟨⟨metadataHash, approved, Table.mem_keys_iff.mpr ⟨job, found⟩⟩, List.Subset.refl _, rfl⟩
    · cases ok
      refine ⟨⟨metadataHash, approved, ?_⟩, ?_, rfl⟩
      · simp [Table.keys]
      · simp [Table.keys]
  · rw [if_pos (by simpa using approved)] at ok
    cases ok

end Outboxes

section Reading

variable (python : Python) (contracts : Contracts)

/-- A pull has read some vectors and moved on to the last of them. -/
structure Reads (pull : Pull) (outbox : Outbox) (read : List FeatureVector) (next : Pull) (after : Outbox) : Prop where
  schema : next.schema = pull.schema
  limit : next.limit = pull.limit
  pageSize : next.pageSize = pull.pageSize
  last : next.last = Cursor.advance FeatureVector.place pull.last read
  seen : next.seen = pull.seen + read.length
  enqueued : ∀ vector ∈ read, vector.valid contracts = true → Enqueued python after vector
  grows : outbox.jobs.keys ⊆ after.jobs.keys
  cursors : after.cursors = outbox.cursors

/-- What the loop over the hits of a page has done when it ends. -/
def Consumed.Spec (pull : Pull) (outbox : Outbox) (hits : List FeatureVector) : Consumed → Prop
  | .goesOn next after => Reads python contracts pull outbox hits next after
  | .leaves next after =>
      next.limit ≤ next.seen ∧ ∃ read, read <+: hits ∧ Reads python contracts pull outbox read next after
  | .raises after => outbox.jobs.keys ⊆ after.jobs.keys ∧ after.cursors = outbox.cursors

variable {python contracts}

theorem Reads.nil (pull : Pull) (outbox : Outbox) : Reads python contracts pull outbox [] pull outbox where
  schema := rfl
  limit := rfl
  pageSize := rfl
  last := rfl
  seen := rfl
  enqueued := by simp
  grows := List.Subset.refl _
  cursors := rfl

/-- The first vector is read before the others. -/
theorem Reads.cons {pull between next : Pull} {outbox middle after : Outbox} {vector : FeatureVector}
    {read : List FeatureVector} (head : Reads python contracts pull outbox [vector] between middle)
    (tail : Reads python contracts between middle read next after) :
    Reads python contracts pull outbox (vector :: read) next after where
  schema := tail.schema.trans head.schema
  limit := tail.limit.trans head.limit
  pageSize := tail.pageSize.trans head.pageSize
  last := by
    rw [tail.last, head.last]
    rcases List.eq_nil_or_concat read with rfl | ⟨front, last, rfl⟩
    · rfl
    · simp [Cursor.advance, List.getLast?_cons]
  seen := by
    rw [tail.seen, head.seen, List.length_singleton, List.length_cons]
    omega
  enqueued := by
    intro other member valid
    rcases List.mem_cons.mp member with rfl | later
    · exact (head.enqueued other (by simp) valid).grow tail.grows
    · exact tail.enqueued other later valid
  grows := List.Subset.trans head.grows tail.grows
  cursors := tail.cursors.trans head.cursors

/-- A loop that starts with a vector and goes on as specified is as specified. -/
theorem Consumed.Spec.cons {pull between : Pull} {outbox middle : Outbox} {vector : FeatureVector}
    {hits : List FeatureVector} {consumed : Consumed} (tail : consumed.Spec python contracts between middle hits)
    (head : Reads python contracts pull outbox [vector] between middle) :
    consumed.Spec python contracts pull outbox (vector :: hits) := by
  cases consumed with
  | goesOn next after => exact head.cons tail
  | leaves next after =>
      obtain ⟨full, read, taken, reads⟩ := tail
      exact ⟨full, vector :: read, List.cons_prefix_cons.mpr ⟨rfl, taken⟩, head.cons reads⟩
  | raises after => exact ⟨List.Subset.trans head.grows tail.1, tail.2.trans head.cursors⟩

theorem consume_spec (clock : Nat → Int) (pull : Pull) (outbox : Outbox) (hits : List FeatureVector) :
    (consume python contracts clock pull outbox hits).Spec python contracts pull outbox hits := by
  induction hits generalizing pull outbox with
  | nil => exact Reads.nil pull outbox
  | cons vector rest ih =>
      unfold consume
      by_cases full : pull.limit ≤ pull.seen
      · rw [if_pos full]
        exact ⟨full, [], List.nil_prefix, Reads.nil pull outbox⟩
      rw [if_neg full]
      dsimp only
      split
      · -- A vector that does not pass its contract is counted and left out.
        rename_i invalid
        refine (ih _ _).cons ⟨rfl, rfl, rfl, rfl, rfl, ?_, List.Subset.refl _, rfl⟩
        intro other member valid
        rw [List.mem_singleton.mp member] at valid
        simp [valid] at invalid
      · split
        · exact ⟨List.Subset.refl _, rfl⟩
        all_goals
          rename_i middle enqueued
          obtain ⟨there, grows, cursors⟩ := enqueue_ok enqueued
          refine (ih _ _).cons ⟨rfl, rfl, rfl, rfl, rfl, ?_, grows, cursors⟩
          intro other member _
          rw [List.mem_singleton.mp member]
          exact there

end Reading

end ClosedLoop.Workers
