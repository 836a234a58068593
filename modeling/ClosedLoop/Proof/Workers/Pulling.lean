import ClosedLoop.Proof.Workers.Jobs
import ClosedLoop.Construction.Workers.Engine
import ClosedLoop.Proof.Decision.Verdict

namespace ClosedLoop.Workers

open ClosedLoop.Library ClosedLoop.Response

/-- Different schemas have different cursors. -/
theorem featureCursor_injective {first second : String} (same : featureCursor first = featureCursor second) :
    first = second := by
  unfold featureCursor at same
  exact String.append_right_inj _ |>.mp same

namespace Pipeline

variable (deployment : Deployment)

/-- The last vector of a schema that a pull has read: in the call that is under way, or before the calls that have
returned. -/
def position (pipeline : Pipeline) (schema : String) : Option SortTuple :=
  match pipeline.activity with
  | some (.pulling pull) => if pull.schema = schema then pull.last else pipeline.outbox.getMeta (featureCursor schema)
  | _ => pipeline.outbox.getMeta (featureCursor schema)

/-- A move in order creates no vector at or before the last one of its schema that a pull has read. -/
def InOrder (pipeline : Pipeline) (move : Move) : Prop :=
  Creates move → ∀ delivery ∈ pipeline.delivery, ∀ vector ∈ delivery.remaining.head?,
    exists? pipeline.features (featureIndex (delivery.start + fiveMinutes)) vector.vectorId = true ∨
      Cursor.Beyond FeatureVector.place (pipeline.position vector.featureSchema.text) vector

/-- What the pipeline owes for a vector in the index. -/
def Served (outbox : Outbox) (document : Stored FeatureVector) : Prop :=
  document.source.valid deployment.contracts = true → Enqueued deployment.python outbox document.source

/-- The wanted vectors up to a cursor are in the outbox. -/
abbrev CoveredTo (pipeline : Pipeline) (schema : String) (cursor : Option SortTuple) : Prop :=
  Cursor.Covered (fun document => document.source.place) (wantedVector schema)
    (Served deployment pipeline.outbox) pipeline.features cursor

/-- No vector is behind the cursor of its schema without being in the outbox, and a pull that is under way is not
behind the cursor that it has started from. -/
structure Caught (pipeline : Pipeline) : Prop where
  covered : ∀ schema, pipeline.CoveredTo deployment schema (pipeline.position schema)
  behind : ∀ pull, pipeline.activity = some (.pulling pull) → ∀ vector : FeatureVector,
    Cursor.Beyond FeatureVector.place pull.last vector →
      Cursor.Beyond FeatureVector.place (pipeline.outbox.getMeta (featureCursor pull.schema)) vector

/-- Without a pull the position is the stored cursor. -/
theorem position_idle {pipeline : Pipeline} (idle : ∀ pull, pipeline.activity ≠ some (.pulling pull))
    (schema : String) : pipeline.position schema = pipeline.outbox.getMeta (featureCursor schema) := by
  unfold position
  split
  · rename_i pull running
    exact absurd running (idle pull)
  · rfl

/-- A pull has its own position in its schema. -/
theorem position_pulling {pipeline : Pipeline} {pull : Pull} (running : pipeline.activity = some (.pulling pull))
    (schema : String) : pipeline.position schema =
      if pull.schema = schema then pull.last else pipeline.outbox.getMeta (featureCursor schema) := by
  unfold position
  rw [running]

variable {deployment}

/-- The stored cursors are covered too. -/
theorem Caught.stored {pipeline : Pipeline} (caught : Caught deployment pipeline) (schema : String) :
    pipeline.CoveredTo deployment schema (pipeline.outbox.getMeta (featureCursor schema)) := by
  intro document member wanted reached
  refine caught.covered schema document member wanted fun beyond => reached ?_
  rw [Cursor.beyond_source] at beyond ⊢
  by_cases pulling : ∃ pull, pipeline.activity = some (.pulling pull)
  · obtain ⟨pull, running⟩ := pulling
    rw [position_pulling running] at beyond
    split at beyond
    · rename_i same
      exact same ▸ caught.behind pull running document.source beyond
    · exact beyond
  · rw [position_idle (fun pull running => pulling ⟨pull, running⟩)] at beyond
    exact beyond

/-- Before any vector there is nothing to catch. -/
theorem Caught.initial : Caught deployment {} where
  covered := fun schema => Cursor.Covered.empty
  behind := by simp

/-- A move that keeps the vectors, the cursors, and the ids of the jobs, and starts no pull. -/
theorem Caught.calm {pipeline after : Pipeline} (caught : Caught deployment pipeline)
    (features : after.features = pipeline.features) (cursors : after.outbox.cursors = pipeline.outbox.cursors)
    (grows : pipeline.outbox.jobs.keys ⊆ after.outbox.jobs.keys)
    (activity : after.activity = pipeline.activity ∨ ∀ pull, after.activity ≠ some (.pulling pull)) :
    Caught deployment after := by
  have stored : ∀ schema, after.outbox.getMeta (featureCursor schema) =
      pipeline.outbox.getMeta (featureCursor schema) := by
    intro schema
    rw [Outbox.getMeta, Outbox.getMeta, cursors]
  have served : ∀ document, Served deployment pipeline.outbox document → Served deployment after.outbox document :=
    fun document owed valid => (owed valid).grow grows
  rcases activity with same | idle
  · refine ⟨fun schema => ?_, fun pull running vector beyond => ?_⟩
    · have place : after.position schema = pipeline.position schema := by
        unfold position
        rw [same, stored]
      rw [CoveredTo, features, place]
      exact (caught.covered schema).weaken served
    · rw [stored]
      exact caught.behind pull (same ▸ running) vector beyond
  · refine ⟨fun schema => ?_, fun pull running => absurd running (idle pull)⟩
    rw [CoveredTo, features, position_idle idle, stored]
    exact (caught.stored schema).weaken served

/-- A vector that is created in order leaves none behind. -/
theorem Caught.create {pipeline after : Pipeline} (caught : Caught deployment pipeline) {document : Stored FeatureVector}
    (features : after.features = pipeline.features ++ [document]) (outbox : after.outbox = pipeline.outbox)
    (activity : after.activity = pipeline.activity)
    (beyond : Cursor.Beyond FeatureVector.place (pipeline.position document.source.featureSchema.text)
      document.source) : Caught deployment after where
  covered := by
    intro schema
    have place : after.position schema = pipeline.position schema := by
      unfold position
      rw [activity, outbox]
    rw [CoveredTo, features, place, outbox]
    refine (caught.covered schema).create fun wanted => ?_
    rw [Cursor.beyond_source]
    have same : document.source.featureSchema.text = schema := by simpa [wantedVector] using wanted
    exact same ▸ beyond
  behind := by
    rw [activity, outbox]
    exact caught.behind

/-- A pull starts from the cursor of its schema. -/
theorem Caught.start {pipeline : Pipeline} (caught : Caught deployment pipeline) {pull : Pull}
    (last : pull.last = pipeline.outbox.getMeta (featureCursor pull.schema)) :
    Caught deployment { pipeline with activity := some (.pulling pull) } where
  covered := by
    intro schema
    rw [position_pulling rfl]
    split
    · rename_i same
      rw [last, same]
      exact caught.stored schema
    · exact caught.stored schema
  behind := by
    intro found running vector beyond
    cases running
    rwa [last] at beyond

/-- A pull that reads on from its last vector passes none that is not in the outbox. -/
theorem Caught.read {pipeline : Pipeline} (caught : Caught deployment pipeline) (filed : Filed pipeline)
    {pull next : Pull} {after : Outbox} (running : pipeline.activity = some (.pulling pull))
    {read : List (Stored FeatureVector)} (taken : read <+: searchVectors pipeline.features pull)
    (reads : Reads deployment.python deployment.contracts pull pipeline.outbox (read.map (·.source)) next after) :
    Caught deployment { pipeline with outbox := after, activity := some (.pulling next) } := by
  have stored : ∀ schema, after.getMeta (featureCursor schema) = pipeline.outbox.getMeta (featureCursor schema) := by
    intro schema
    rw [Outbox.getMeta, Outbox.getMeta, reads.cursors]
  have served : ∀ document, Served deployment pipeline.outbox document → Served deployment after document :=
    fun document owed valid => (owed valid).grow reads.grows
  have moved : next.last = Cursor.advance (fun document => document.source.place) pull.last read := by
    rw [reads.last]
    exact (Cursor.advance_source Stored.source pull.last read).symm
  refine ⟨fun schema => ?_, fun found pulling vector beyond => ?_⟩
  · rw [position_pulling rfl]
    split
    · rename_i same
      have start := caught.covered pull.schema
      rw [position_pulling running, if_pos rfl] at start
      rw [moved, ← same, reads.schema]
      refine (start.weaken served).advance (filed.distinct _) taken fun document member valid => ?_
      exact reads.enqueued document.source (List.mem_map_of_mem member) valid
    · exact stored schema ▸ (caught.stored schema).weaken served
  · cases pulling
    have place : ∀ cursor,
        Cursor.Beyond (fun document : Stored FeatureVector => document.source.place) cursor ⟨"", "", vector⟩ ↔
        Cursor.Beyond FeatureVector.place cursor vector := fun cursor => Cursor.beyond_source Stored.source cursor _
    have earlier : Cursor.Beyond FeatureVector.place pull.last vector := by
      rw [← place]
      rw [← place, moved] at beyond
      exact Cursor.beyond_of_advance taken beyond
    rw [stored, reads.schema]
    exact caught.behind pull running vector earlier

/-- The end of a pull keeps the last vector that it has read as the cursor. -/
theorem Caught.save {pipeline : Pipeline} (caught : Caught deployment pipeline) {pull : Pull}
    (running : pipeline.activity = some (.pulling pull)) (reports : List PullReport) :
    Caught deployment { pipeline with outbox := (finishPull pull pipeline.outbox).2, activity := none, reports } := by
  refine ⟨fun schema => ?_, by simp⟩
  rw [position_idle (by simp)]
  have here := caught.covered schema
  rw [position_pulling running] at here
  have owed : ∀ document, Served deployment pipeline.outbox document →
      Served deployment (finishPull pull pipeline.outbox).2 document := by
    intro document served valid
    refine (served valid).grow ?_
    unfold finishPull
    split <;> simp
  refine Cursor.Covered.weaken ?_ owed
  cases moved : pull.last with
  | none =>
      rw [finishPull, moved]
      exact caught.stored schema
  | some last =>
      rw [finishPull, moved]
      change Cursor.Covered _ _ _ _ ((pipeline.outbox.cursors.upsert (featureCursor pull.schema) last).find?
        (featureCursor schema))
      rw [Table.find?_upsert]
      by_cases same : pull.schema = schema
      · rw [if_pos (by rw [same])]
        rwa [if_pos same, moved] at here
      · rw [if_neg fun equal => same (featureCursor_injective equal).symm]
        exact caught.stored schema

/-- What a search of a pull has done. One that returns with fewer hits than its limit has read all that was ahead. -/
def TurnedSpec (deployment : Deployment) (documents : List (Stored FeatureVector)) (outbox : Outbox) (pull : Pull) : Turned → Prop
  | .goesOn next after => Reads deployment.python deployment.contracts pull outbox
      ((searchVectors documents pull).map (·.source)) next after
  | .returns report last => ∃ read next after, read <+: searchVectors documents pull ∧
      Reads deployment.python deployment.contracts pull outbox (read.map (·.source)) next after ∧
      report = (finishPull next after).1 ∧ last = (finishPull next after).2 ∧ (report.pulled < report.limit →
        (searchVectors documents pull).length < pull.pageSize ∧ read = searchVectors documents pull)
  | .raises after => outbox.jobs.keys ⊆ after.jobs.keys ∧ after.cursors = outbox.cursors

/-- A page that is read leaves the pull on, done or failed, as its outcome says. -/
theorem readPage_spec (deployment : Deployment) (clock : Nat → Int) (documents : List (Stored FeatureVector))
    (outbox : Outbox) (pull : Pull) (fault : Option DeliveryError) : TurnedSpec deployment documents outbox pull
      (Workers.readPage deployment.python deployment.contracts clock documents outbox pull fault) := by
  unfold Workers.readPage
  cases fault with
  | some error => exact ⟨List.Subset.refl _, rfl⟩
  | none =>
      have spec : (consume deployment.python deployment.contracts clock pull outbox
          ((searchVectors documents pull).map (·.source))).Spec deployment.python deployment.contracts pull outbox
            ((searchVectors documents pull).map (·.source)) := consume_spec clock pull outbox _
      dsimp only
      generalize consume deployment.python deployment.contracts clock pull outbox
        ((searchVectors documents pull).map (·.source)) = consumed at spec ⊢
      cases consumed with
      | raises after => exact spec
      | leaves next after =>
          obtain ⟨full, part, taken, reads⟩ := spec
          obtain ⟨count, rfl⟩ : ∃ count, part = ((searchVectors documents pull).take count).map (·.source) := by
            refine ⟨part.length, ?_⟩
            rw [List.map_take]
            exact List.prefix_iff_eq_take.mp taken
          refine ⟨_, next, after, List.take_prefix _ _, reads, rfl, rfl, fun fewer => ?_⟩
          exact absurd fewer (Nat.not_lt.mpr full)
      | goesOn next after =>
          have size : next.pageSize = pull.pageSize := spec.pageSize
          dsimp only
          rw [List.length_map, size]
          by_cases short : (searchVectors documents pull).length < pull.pageSize
          · rw [if_pos short]
            exact ⟨_, next, after, List.prefix_rfl, spec, rfl, rfl, fun _ => ⟨short, rfl⟩⟩
          · rw [if_neg short]
            exact spec

/-- A drain that ends is no pull. -/
theorem drained_idle (drain : Drain) (pull : Pull) : drained drain ≠ some (.pulling pull) := by
  unfold drained
  split <;> simp

/-- The outbox after a move that reads no vectors: the cursors stay, no job goes, and no pull starts. -/
structure Calm (pipeline after : Pipeline) : Prop where
  cursors : after.outbox.cursors = pipeline.outbox.cursors
  grows : pipeline.outbox.jobs.keys ⊆ after.outbox.jobs.keys
  activity : after.activity = pipeline.activity ∨ ∀ pull, after.activity ≠ some (.pulling pull)

/-- A move that touches neither the outbox nor a pull is calm. -/
theorem Calm.same {pipeline after : Pipeline} (outbox : after.outbox = pipeline.outbox)
    (activity : after.activity = pipeline.activity ∨ ∀ pull, after.activity ≠ some (.pulling pull)) :
    Calm pipeline after := by
  refine ⟨by rw [outbox], ?_, activity⟩
  rw [outbox]
  exact List.Subset.refl _

/-- A call on the outbox that changes rows keeps it calm. -/
theorem infer_outbox (contracts : Contracts) (outbox : Outbox) (drain : Drain) (reply : InferenceReply) (now : Int) :
    (Workers.infer contracts outbox drain reply now).1.jobs.keys = outbox.jobs.keys ∧
      (Workers.infer contracts outbox drain reply now).1.cursors = outbox.cursors := by
  unfold Workers.infer
  split
  · exact ⟨rfl, rfl⟩
  · split
    · exact ⟨keys_change _ _ _, rfl⟩
    · exact ⟨keys_change _ _ _, rfl⟩

/-- Publishing an anomaly moves no cursor and loses no job. -/
theorem publish_outbox (documents : List (Stored AnomalyEvent)) (outbox : Outbox) (drain : Drain)
    (event : AnomalyEvent) (fault : Option Fault) (now : Int) :
    (Workers.publish documents outbox drain event fault now).2.1.jobs.keys = outbox.jobs.keys ∧
      (Workers.publish documents outbox drain event fault now).2.1.cursors = outbox.cursors := by
  unfold Workers.publish
  split
  · exact ⟨rfl, rfl⟩
  · split
    · exact ⟨keys_change _ _ _, rfl⟩
    · exact ⟨keys_change _ _ _, rfl⟩

/-- Putting a job back moves no cursor and loses no job. -/
theorem requeue_outbox {outbox after : Outbox} {identifier : String} {now : Int}
    (ok : outbox.requeue identifier now = .ok after) :
    after.jobs.keys = outbox.jobs.keys ∧ after.cursors = outbox.cursors := by
  unfold Outbox.requeue at ok
  split at ok
  · split at ok
    · cases ok
      exact ⟨keys_change _ _ _, rfl⟩
    · cases ok
  · cases ok

/-- The moves of a pull. -/
def Pulls : Move → Prop
  | .beginPull _ _ _ _ => True
  | .readPage _ _ => True
  | _ => False

/-- Every move that does not pull is calm. -/
theorem step_calm (deployment : Deployment) (pipeline : Pipeline) (move : Move) (other : ¬ Pulls move) :
    Calm pipeline (pipeline.step deployment move) := by
  cases move with
  | beginPull | readPage => exact absurd trivial other
  | openWindow schema start fetched =>
      simp only [step, Pipeline.openWindow]
      split <;> exact Calm.same rfl (Or.inl rfl)
  | deliver fault =>
      simp only [step, Pipeline.deliver]
      split <;> exact Calm.same rfl (Or.inl rfl)
  | cutDeliver effect =>
      simp only [step, Pipeline.cutDeliver, Pipeline.deliver]
      split <;> exact Calm.same rfl (Or.inl rfl)
  | stopFeatures => exact Calm.same rfl (Or.inl rfl)
  | runOnce limit answers => exact Calm.same rfl (Or.inl rfl)
  | stopEnrichment => exact Calm.same rfl (Or.inr (by simp [step]))
  | enqueue vector metadataHash now =>
      simp only [step, Pipeline.enqueue]
      split
      · rename_i outbox _ _ enqueued
        obtain ⟨_, grows, cursors⟩ := enqueue_ok enqueued
        exact ⟨cursors, grows, Or.inl rfl⟩
      · exact Calm.same rfl (Or.inl rfl)
  | cutPage clock count =>
      simp only [step, Pipeline.cutPage]
      split
      · rename_i pull _
        have spec : (consume deployment.python deployment.contracts clock pull pipeline.outbox
            (((searchVectors pipeline.features pull).map (·.source)).take count)).Spec deployment.python
              deployment.contracts pull pipeline.outbox
                (((searchVectors pipeline.features pull).map (·.source)).take count) := consume_spec clock pull _ _
        generalize consume deployment.python deployment.contracts clock pull pipeline.outbox
          (((searchVectors pipeline.features pull).map (·.source)).take count) = consumed at spec ⊢
        cases consumed with
        | goesOn next after => exact ⟨spec.cursors, spec.grows, Or.inr (by simp)⟩
        | leaves next after =>
            obtain ⟨_, _, _, reads⟩ := spec
            exact ⟨reads.cursors, reads.grows, Or.inr (by simp)⟩
        | raises after => exact ⟨spec.2, spec.1, Or.inr (by simp)⟩
      · exact Calm.same rfl (Or.inl rfl)
  | beginDrain now limit =>
      simp only [step, Pipeline.beginDrain]
      split
      · exact Calm.same rfl (Or.inr (drained_idle _))
      · exact Calm.same rfl (Or.inl rfl)
  | infer reply now =>
      simp only [step, Pipeline.infer]
      split
      · rename_i drain _
        split
        · exact Calm.same rfl (Or.inl rfl)
        · obtain ⟨keys, cursors⟩ := infer_outbox deployment.contracts pipeline.outbox drain reply now
          exact ⟨cursors, keys ▸ List.Subset.refl _, Or.inr (drained_idle _)⟩
      · exact Calm.same rfl (Or.inl rfl)
  | publish fault now =>
      simp only [step, Pipeline.publish]
      split
      · rename_i drain _
        split
        · exact Calm.same rfl (Or.inl rfl)
        · rename_i event _
          obtain ⟨keys, cursors⟩ := publish_outbox pipeline.anomalies pipeline.outbox drain event fault now
          exact ⟨cursors, keys ▸ List.Subset.refl _, Or.inr (drained_idle _)⟩
      · exact Calm.same rfl (Or.inl rfl)
  | cutPublish effect => exact Calm.same rfl (Or.inr (by simp [step, Pipeline.cutPublish]))
  | requeue identifier now =>
      simp only [step, Pipeline.requeue]
      split
      · rename_i outbox _ ok
        obtain ⟨keys, cursors⟩ := requeue_outbox ok
        exact ⟨cursors, keys ▸ List.Subset.refl _, Or.inl rfl⟩
      · exact Calm.same rfl (Or.inl rfl)

/-- The end of a pull changes no job. -/
theorem finishPull_jobs (pull : Pull) (outbox : Outbox) : (finishPull pull outbox).2.jobs = outbox.jobs := by
  unfold finishPull
  split <;> rfl

/-- No move removes a job. -/
theorem step_grows (deployment : Deployment) (pipeline : Pipeline) (move : Move) :
    pipeline.outbox.jobs.keys ⊆ (pipeline.step deployment move).outbox.jobs.keys := by
  by_cases pulls : Pulls move
  · cases move with
    | beginPull schema metadataHash limit pageSize =>
        simp only [step, Pipeline.beginPull]
        split <;> exact List.Subset.refl _
    | readPage clock fault =>
        simp only [step, Pipeline.readPage]
        split
        · rename_i pull _
          have spec := readPage_spec deployment clock pipeline.features pipeline.outbox pull fault
          split
          · rename_i result
            rw [result] at spec
            exact spec.grows
          · rename_i report last result
            rw [result] at spec
            obtain ⟨_, next, after, _, reads, _, same, _⟩ := spec
            change pipeline.outbox.jobs.keys ⊆ last.jobs.keys
            rw [same, finishPull_jobs]
            exact reads.grows
          · rename_i result
            rw [result] at spec
            exact spec.1
        · exact List.Subset.refl _
    | _ => exact absurd pulls id
  · exact (step_calm deployment pipeline move pulls).grows

/-- A move in order keeps every vector behind the position caught. -/
theorem Caught.step {pipeline : Pipeline} (caught : Caught deployment pipeline) (filed : Filed pipeline) {move : Move}
    (ordered : pipeline.InOrder move) : Caught deployment (pipeline.step deployment move) := by
  by_cases pulls : Pulls move
  · cases move with
    | beginPull schema metadataHash limit pageSize =>
        simp only [Pipeline.step, Pipeline.beginPull]
        split
        · rename_i pull _ begun
          refine caught.start ?_
          simp only [Workers.beginPull, Check.bind_ok, Check.guard_ok, Check.pure_ok] at begun
          obtain ⟨_, _, _, _, rfl⟩ := begun
          rfl
        · exact caught
    | readPage clock fault =>
        simp only [Pipeline.step, Pipeline.readPage]
        split
        · rename_i pull running
          have spec := readPage_spec deployment clock pipeline.features pipeline.outbox pull fault
          split
          · rename_i result
            rw [result] at spec
            exact caught.read filed running List.prefix_rfl spec
          · rename_i report last result
            rw [result] at spec
            obtain ⟨read, next, after, taken, reads, _, same, _⟩ := spec
            have saved := (caught.read filed running taken reads).save rfl (pipeline.reports ++ [report])
            rw [same]
            exact saved
          · rename_i result
            rw [result] at spec
            exact caught.calm rfl spec.2 spec.1 (Or.inr (by simp))
        · exact caught
    | _ => exact absurd pulls id
  · have calm := step_calm deployment pipeline move pulls
    rcases step_features deployment pipeline move with same | ⟨creates, delivery, running, vector, first, grown⟩
    · exact caught.calm same calm.cursors calm.grows calm.activity
    · rcases insert_cases pipeline.features (featureIndex (delivery.start + fiveMinutes)) vector.vectorId vector with
        known | ⟨fresh, added⟩
      · exact caught.calm (grown.trans known) calm.cursors calm.grows calm.activity
      · have beyond : Cursor.Beyond FeatureVector.place (pipeline.position vector.featureSchema.text) vector := by
          rcases ordered creates delivery running vector first with known | beyond
          · simp [fresh] at known
          · exact beyond
        cases move with
        | deliver fault =>
            refine caught.create (grown.trans added) ?_ ?_ beyond
            · simp only [Pipeline.step, Pipeline.deliver]
              split <;> rfl
            · simp only [Pipeline.step, Pipeline.deliver]
              split <;> rfl
        | cutDeliver effect =>
            refine caught.create (grown.trans added) ?_ ?_ beyond
            · simp only [Pipeline.step, Pipeline.cutDeliver, Pipeline.deliver]
              split <;> rfl
            · simp only [Pipeline.step, Pipeline.cutDeliver, Pipeline.deliver]
              split <;> rfl
        | _ => exact absurd creates id

end Pipeline

section Runs

variable (deployment : Deployment)

open Pipeline

/-- When a pull has returned with fewer hits than its limit, every valid vector of its schema that was in the index
is in the outbox from then on. -/
def NoVectorLost (moves : List Move) : Prop :=
  ∀ before move after report, moves = before ++ move :: after →
    (run deployment (before ++ [move])).reports = (run deployment before).reports ++ [report] →
    report.pulled < report.limit →
    ∀ document ∈ (run deployment before).features, document.source.featureSchema.text = report.schema →
      document.source.valid deployment.contracts = true →
      Enqueued deployment.python (run deployment moves).outbox document.source

variable {deployment}

/-- The last move of a run comes after the others. -/
theorem run_snoc (before : List Move) (move : Move) :
    run deployment (before ++ [move]) = (run deployment before).step deployment move := by
  simp [run, List.foldl_append]

/-- A job that is queued stays so. -/
theorem run_grows (deployment : Deployment) (before after : List Move) :
    (run deployment before).outbox.jobs.keys ⊆ (run deployment (before ++ after)).outbox.jobs.keys := by
  induction after using List.reverseRecOn with
  | nil => simp
  | append_singleton front last ih =>
      rw [← List.append_assoc, run_snoc]
      exact List.Subset.trans ih (step_grows deployment _ last)

/-- In a run whose moves are in order no vector is left behind. -/
theorem run_caught {moves : List Move}
    (ordered : Always (fun earlier move => (run deployment earlier).InOrder move) moves) :
    Filed (run deployment moves) ∧ Caught deployment (run deployment moves) := by
  refine Always.foldl InOrder (fun pipeline => Filed pipeline ∧ Caught deployment pipeline) ordered
    ⟨Filed.initial, Caught.initial⟩ ?_
  intro pipeline move held inOrder
  exact ⟨held.1.step deployment move, held.2.step held.1 inOrder⟩

/-- A pull that returns with fewer hits than its limit leaves no vector of its schema out. -/
theorem readPage_serves {pipeline : Pipeline} (caught : Caught deployment pipeline) {move : Move}
    {report : PullReport} (reported : (pipeline.step deployment move).reports = pipeline.reports ++ [report])
    (fewer : report.pulled < report.limit) {document : Stored FeatureVector} (member : document ∈ pipeline.features)
    (schema : document.source.featureSchema.text = report.schema)
    (valid : document.source.valid deployment.contracts = true) :
    Enqueued deployment.python (pipeline.step deployment move).outbox document.source := by
  cases move with
  | readPage clock fault =>
      simp only [step, Pipeline.readPage] at reported ⊢
      split at reported
      · rename_i pull running
        have spec := readPage_spec deployment clock pipeline.features pipeline.outbox pull fault
        split at reported
        · simp at reported
        · rename_i found last result
          rw [result] at spec
          obtain ⟨read, next, after, taken, reads, told, same, whole⟩ := spec
          obtain rfl : found = report := by simpa using reported
          obtain ⟨short, rfl⟩ := whole fewer
          have start := caught.covered pull.schema
          rw [position_pulling running, if_pos rfl] at start
          have kept : Cursor.Covered _ (wantedVector pull.schema) (Served deployment after) pipeline.features pull.last :=
            start.weaken fun document owed valid => (owed valid).grow reads.grows
          have done := kept.finish short fun document member valid =>
            reads.enqueued document.source (List.mem_map_of_mem member) valid
          have here : pull.schema = found.schema := by
            rw [told]
            exact reads.schema.symm
          refine (done document member (by simp [wantedVector, schema, here]) valid).grow ?_
          change after.jobs.keys ⊆ last.jobs.keys
          rw [same, finishPull_jobs]
          exact List.Subset.refl _
        · simp at reported
      · simp at reported
  | openWindow | deliver | cutDeliver | stopFeatures | enqueue | beginPull | cutPage | beginDrain | infer | publish
  | cutPublish | requeue | stopEnrichment | runOnce =>
      exfalso
      simp only [step, Pipeline.openWindow, Pipeline.deliver, Pipeline.cutDeliver, Pipeline.enqueue, Pipeline.beginPull,
        Pipeline.cutPage, Pipeline.beginDrain, Pipeline.infer, Pipeline.publish, Pipeline.cutPublish,
        Pipeline.requeue, Pipeline.runOnce] at reported
      repeat' (first | simp at reported | split at reported)

/-- No vector is lost in a run that creates every vector after the last one of its schema that a pull has read. -/
theorem vectors_kept_in_order (moves : List Move)
    (ordered : Always (fun earlier move => (run deployment earlier).InOrder move) moves) :
    NoVectorLost deployment moves := by
  intro before move after report split reported fewer document member schema valid
  subst split
  have caught := (run_caught ordered.earlier).2
  rw [run_snoc] at reported
  have now := readPage_serves caught reported fewer member schema valid
  rw [← run_snoc] at now
  have later := run_grows deployment (before ++ [move]) after
  rw [List.append_assoc, List.singleton_append] at later
  exact now.grow later

end Runs

/-- The document of a vector tells its id. -/
theorem vectorId_of_canonical {first second : FeatureVector}
    (same : first.toJson.canonical = second.toJson.canonical) : first.vectorId = second.vectorId := by
  have field := Json.canonical_field same "vector_id"
  simpa [List.lookup_cons] using field

section Lab

open Pipeline

/-- The texts that the lab hashes, with their SHA-256 digests. -/
def labDigests : Table String String :=
  [("flow-1", "e865168f04ce2eb66741c2d97d2e4909bc180ed2f785b1d0a5b3bc447d7812ab"),
    ("network-window-v1|src_ip|192.168.40.10|2026-01-01T00:00:00Z|2026-01-01T00:05:00Z|" ++
      "e865168f04ce2eb66741c2d97d2e4909bc180ed2f785b1d0a5b3bc447d7812ab",
      "c42b9e119bd74f33606714a3edf93044a4c0c7f6d9370074b53564ae76f9ba5f"),
    ("flow-2", "160bf8979aa548fe886ba4b90e7f9334a7a8e6d3fb136201c484c5609bd9041b"),
    ("network-window-v1|src_ip|192.168.40.10|2026-01-01T00:05:00Z|2026-01-01T00:10:00Z|" ++
      "160bf8979aa548fe886ba4b90e7f9334a7a8e6d3fb136201c484c5609bd9041b",
      "f4a59868a8942ba651bc10005a5747ad18cabea3a20bad84ca875a464f0ee46d"),
    ("flow-1\nflow-3", "9c6a5e660bc8f8980215449bc73650e039692c83e1d7ea4cebc0900521d9f7fb"),
    ("network-window-v1|src_ip|192.168.40.10|2026-01-01T00:00:00Z|2026-01-01T00:05:00Z|" ++
      "9c6a5e660bc8f8980215449bc73650e039692c83e1d7ea4cebc0900521d9f7fb",
      "c7f357e3b6feeb4e78b61b10b750c7ba780a027b9a024732622f8130d4dc9ace")]

def labTimes : Table String Int :=
  [("2026-01-01T00:01:00Z", deskTime + seconds 60), ("2026-01-01T00:02:00Z", deskTime + seconds 120),
    ("2026-01-01T00:06:00Z", deskTime + seconds 360), ("2026-01-01T00:05:00Z", deskTime + seconds 300),
    ("2026-01-01T00:10:00Z", deskTime + seconds 600)]

/-- A text that is not in the list of digests stands for itself. -/
def labPython : Python where
  sha256Hex text := (labDigests.find? text).getD ("digest of " ++ text)
  fromIsoformat text := (labTimes.find? text).map .aware
  lower text := String.ofList (text.toList.map Char.toLower)
  upper text := String.ofList (text.toList.map Char.toUpper)
  repr text := "'" ++ text ++ "'"

def labValues : PythonValues where
  repr _ := ""
  isDigit text := text ≠ "" && text.toList.all Char.isDigit
  parseInt text := text.toNat?.map Int.ofNat

def labContracts : Contracts where
  conforms _ := true
  schemaSha256
    | .networkWindow => some "6551c997e42a378f4999c28d4a5ea1a5f9fe1a90401ed5f6ae5cc46a607faded"
    | .endpointWindow => some "f350453ec05aff6ef2e92ee884ef800a9aa563b691e45f7acee56bdb89807d88"

def labRunner : DecisionRunner where
  engine := deskEngine
  enforce := false
  minScore := mkRat 29 32
  protectedAssets := []
  threatIntel := []
  policyByTarget := [("ip", "COR-001"), ("host", "COR-002")]

def labDeployment : Deployment :=
  ⟨labPython, labContracts, featureEngine labPython labValues none, "0123abc", labRunner⟩

/-- A flow of one address, as Suricata logs it. -/
def labFlow (identifier timestamp : String) : Json :=
  .obj [("@timestamp", .str timestamp), ("event_type", .str "flow"),
    ("event", .obj [("id", .str identifier), ("dataset", .str "suricata.eve")]),
    ("flow", .obj [("bytes_toserver", .int 1), ("bytes_toclient", .int 1)]),
    ("source", .obj [("ip", .str "192.168.40.10")]),
    ("destination", .obj [("ip", .str "10.0.0.1"), ("port", .int 443)]),
    ("cxyz", .obj [("schema_version", .str "soc-event-v1")])]

def labHash : String := "aaaaaaaaaaaaaaaaaaaaaaaaaaaaaaaaaaaaaaaaaaaaaaaaaaaaaaaaaaaaaaaa"

/-- The feature worker opens the first or the second window of the day. -/
def labOpen (second : Bool) : Move :=
  if second then
    .openWindow .networkWindow (deskTime + seconds 300) (.events [labFlow "flow-2" "2026-01-01T00:06:00Z"])
  else .openWindow .networkWindow deskTime (.events [labFlow "flow-1" "2026-01-01T00:01:00Z"])

/-- The vector of the first or of the second window of the day. -/
def labVector (second : Bool) : FeatureVector where
  featureSchema := .networkWindow
  featureSchemaSha256 := "6551c997e42a378f4999c28d4a5ea1a5f9fe1a90401ed5f6ae5cc46a607faded"
  vectorId := if second then "network-window-v1:f4a59868a8942ba651bc10005a5747ad18cabea3"
    else "network-window-v1:c42b9e119bd74f33606714a3edf93044a4c0c7f6"
  entityType := "src_ip"
  entity := "192.168.40.10"
  windowStart := if second then deskTime + seconds 300 else deskTime
  windowEnd := if second then deskTime + seconds 600 else deskTime + seconds 300
  sourceEventCount := 1
  sourceEventSetSha256 := if second then "160bf8979aa548fe886ba4b90e7f9334a7a8e6d3fb136201c484c5609bd9041b"
    else "e865168f04ce2eb66741c2d97d2e4909bc180ed2f785b1d0a5b3bc447d7812ab"
  generatorGitSha := "0123abc"
  generatedAt := if second then deskTime + seconds 600 else deskTime + seconds 300
  features := [("connection_count", .int 1), ("unique_dst_ip", .int 1), ("unique_dst_port", .int 1),
    ("bytes_in", .int 1), ("bytes_out", .int 1), ("failed_auth_count", .int 0), ("suricata_alert_count", .int 0),
    ("dns_query_count", .int 0), ("unique_domain_count", .int 0), ("tls_count", .int 0), ("blocked_ratio", .int 0)]

/-- The vectors of the examples keep their contract. -/
theorem labVector_valid (second : Bool) : validateVector labContracts (labVector second) = .ok () := by
  have valid : ∀ second, (labVector second).valid labContracts = true := by decide +kernel
  obtain ⟨_, passes⟩ : ∃ passed, validateVector labContracts (labVector second) = .ok passed :=
    ⟨_, Check.ok_get (valid second)⟩
  exact passes

def labPull : List Move := [.beginPull "network-window-v1" labHash 10 500, .readPage (fun _ => 0) none]

/-- The first window fails while Elasticsearch is away and is delivered after a pull has read the second one. -/
def lateRetry : List Move :=
  [labOpen false, .deliver (some ⟨⟨"HTTP_503", true⟩, false⟩), labOpen true, .deliver none, .deliver none] ++ labPull ++
    [labOpen false, .deliver none, .deliver none] ++ labPull

/-- A job of the lab has an id of its own. -/
theorem labSha_job {metadataHash : String} (approved : isSha256 metadataHash = true) (body : String) :
    labPython.sha256Hex (metadataHash ++ "\n" ++ body) = "digest of " ++ (metadataHash ++ "\n" ++ body) := by
  let hexadecimal : String → Bool := fun text =>
    (text.toList.take 64).all fun char => char.isDigit || (decide ('a' ≤ char) && decide (char ≤ 'f'))
  have others : ∀ key ∈ labDigests.keys, hexadecimal key = false := by decide +kernel
  have this : hexadecimal (metadataHash ++ "\n" ++ body) = true := by
    rw [isSha256, Bool.and_eq_true, decide_eq_true_eq] at approved
    simp only [hexadecimal, String.toList_append, List.append_assoc]
    rw [List.take_append_of_le_length (by omega), List.take_of_length_le (by omega)]
    exact approved.2
  have absent : labDigests.find? (metadataHash ++ "\n" ++ body) = none := by
    rw [Table.find?_eq_none_iff]
    intro member
    rw [others _ member] at this
    cases this
  simp [labPython, absent]

/-- Two jobs of approved models with one identifier are for one vector. -/
theorem labJob_injective {first second : String} (approved : isSha256 first = true) (known : isSha256 second = true)
    {vector other : FeatureVector} (same : jobId labPython first vector = jobId labPython second other) :
    vector.vectorId = other.vectorId := by
  unfold jobId at same
  rw [labSha_job approved, labSha_job known] at same
  have texts := congrArg String.toList (String.append_right_inj _ |>.mp same)
  simp only [String.toList_append, List.append_assoc] at texts
  rw [isSha256, Bool.and_eq_true, decide_eq_true_eq] at approved known
  have bodies := (List.append_inj texts (approved.1.trans known.1.symm)).2
  exact vectorId_of_canonical (String.toList_injective (List.append_cancel_left bodies))

/-- The vector of the window that was tried again late is in the index, and no pull will ever read it. -/
theorem late_retry_loses_vector : ¬ NoVectorLost labDeployment lateRetry := by
  intro kept
  have listed : ((run labDeployment (lateRetry.take 11)).features.any fun document =>
      document.source.vectorId = "network-window-v1:c42b9e119bd74f33606714a3edf93044a4c0c7f6" &&
        document.source.featureSchema.text = "network-window-v1" && document.source.valid labContracts) = true := by
    decide +kernel
  obtain ⟨document, member, checked⟩ := List.any_eq_true.mp listed
  simp only [Bool.and_eq_true, decide_eq_true_eq] at checked
  obtain ⟨⟨identity, schema⟩, valid⟩ := checked
  obtain ⟨metadataHash, approved, queued⟩ := kept (lateRetry.take 11) (.readPage (fun _ => 0) none) []
    ⟨"network-window-v1", 10, 0, 0, 0, 0⟩ rfl (by decide +kernel) (by decide) document member schema valid
  obtain ⟨job, found⟩ := Table.mem_keys_iff.mp queued
  have sound := (run_stocked labDeployment lateRetry).rows _ job found
  have rows : ((run labDeployment lateRetry).outbox.jobs.all fun row =>
      row.2.vector.vectorId = "network-window-v1:f4a59868a8942ba651bc10005a5747ad18cabea3") = true := by
    decide +kernel
  have other := of_decide_eq_true (List.all_eq_true.mp rows _ (Table.mem_of_find? found))
  have same := labJob_injective approved sound.approved sound.identified
  rw [identity, other] at same
  exact absurd same (by decide)

/-- A window that is delivered before the pull. -/
def promptRun : List Move := [labOpen false, .deliver none, .deliver none] ++ labPull

/-- Before the first pull every vector lies after what has been read. -/
theorem beyond_unread {pipeline : Pipeline} (idle : pipeline.activity.isNone = true)
    (fresh : pipeline.outbox.cursors.isEmpty = true) (vector : FeatureVector) :
    Cursor.Beyond FeatureVector.place (pipeline.position vector.featureSchema.text) vector := by
  have nowhere : pipeline.position vector.featureSchema.text = none := by
    rw [position, Option.isNone_iff_eq_none.mp idle, Outbox.getMeta, List.isEmpty_iff.mp fresh]
    rfl
  rw [nowhere]
  trivial

/-- The vector of a window that is delivered before the pull is in the outbox after it. -/
theorem vectors_kept_in_prompt_run :
    ∃ document ∈ (run labDeployment (promptRun.take 4)).features, document.source.valid labContracts = true ∧
      Enqueued labPython (run labDeployment promptRun).outbox document.source := by
  have ordered : Always (fun earlier move => (run labDeployment earlier).InOrder move) promptRun := by
    refine Always.of_getElem fun index inside => ?_
    have unread : index = 1 ∨ index = 2 → (run labDeployment (promptRun.take index)).activity.isNone = true ∧
        (run labDeployment (promptRun.take index)).outbox.cursors.isEmpty = true := by
      rintro (rfl | rfl) <;> decide +kernel
    by_cases delivering : index = 1 ∨ index = 2
    · intro _ _ _ vector _
      exact Or.inr (beyond_unread (unread delivering).1 (unread delivering).2 vector)
    · have others : index = 0 ∨ index = 3 ∨ index = 4 := by
        have : index < 5 := inside
        omega
      rcases others with rfl | rfl | rfl <;> exact fun creates => absurd creates id
  have listed : ((run labDeployment (promptRun.take 4)).features.any fun document =>
      document.source.featureSchema.text = "network-window-v1" && document.source.valid labContracts) = true := by
    decide +kernel
  obtain ⟨document, member, checked⟩ := List.any_eq_true.mp listed
  simp only [Bool.and_eq_true, decide_eq_true_eq] at checked
  exact ⟨document, member, checked.2, vectors_kept_in_order promptRun ordered (promptRun.take 4)
    (.readPage (fun _ => 0) none) [] ⟨"network-window-v1", 10, 1, 1, 0, 0⟩ rfl (by decide +kernel) (by decide) document
    member checked.1 checked.2⟩

end Lab

end ClosedLoop.Workers
