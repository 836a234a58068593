import ClosedLoop.Proof.Workers.Polling

namespace ClosedLoop.Workers

open ClosedLoop.Library ClosedLoop.Response

/-- A move that fails for good on a job: the first row of the drain meets an error that is not retryable. -/
def Pipeline.Condemns (deployment : Deployment) (pipeline : Pipeline) (identifier : String) : Move → Prop
  | .infer reply now => ∃ drain row rest error, pipeline.activity = some (.draining drain) ∧
      drain.remaining = (identifier, row) :: rest ∧
      scoreJob deployment.contracts identifier row reply now = .error error ∧ error.retryable = false
  | .publish (some fault) _ => ∃ drain row rest, pipeline.activity = some (.draining drain) ∧
      drain.remaining = (identifier, row) :: rest ∧ fault.error.retryable = false
  | _ => False

section Steps

variable {deployment : Deployment} {pipeline : Pipeline}

/-- What a move can do to the outbox: it adds jobs, or it lets one job advance. -/
def Reworks (deployment : Deployment) (pipeline : Pipeline) (move : Move) (after : Outbox) : Prop :=
  pipeline.outbox.Grows deployment.python after ∨
    ∃ identifier job update, pipeline.outbox.jobs.find? identifier = some job ∧
      after = pipeline.outbox.change identifier update ∧ job.Advances (update job) ∧
      ((update job).state = .deadletter → pipeline.Condemns deployment identifier move)

/-- A failed attempt ends as a dead letter only when the error is not retryable. -/
theorem fail_deadletter {job : Job} (waiting : job.state = .pending ∨ job.state = .scored) {error : DeliveryError}
    {now : Int} (dead : (job.fail error now).state = .deadletter) : error.retryable = false := by
  cases retryable : error.retryable with
  | false => rfl
  | true =>
      simp only [Job.fail, retryable, if_true] at dead
      rcases waiting with state | state <;> rw [state] at dead <;> cases dead

theorem infer_reworks (stocked : Stocked deployment pipeline) (reply : InferenceReply) (now : Int) :
    Reworks deployment pipeline (.infer reply now) (pipeline.infer deployment reply now).outbox := by
  unfold Pipeline.infer
  split
  · rename_i drain running
    split
    · exact Or.inl (Outbox.Grows.refl _)
    rename_i unscored
    cases left : drain.remaining with
    | nil =>
        simp only [Workers.infer, left]
        exact Or.inl (Outbox.Grows.refl _)
    | cons head rest =>
        obtain ⟨identifier, row⟩ := head
        obtain ⟨job, found, state, event, _, _⟩ := stocked.first running left
        have sound := stocked.rows identifier job found
        simp only [Workers.infer, left]
        split
        · rename_i saved scored
          have pending : job.state = .pending := by
            rcases state with pending | done
            · exact pending
            · obtain ⟨earlier, there⟩ := sound.saved (Or.inl done)
              rw [event.trans unscored] at there
              cases there
          refine Or.inr ⟨identifier, job, _, found, rfl, (sound.score pending (scoreJob_id scored) now).1, ?_⟩
          intro dead
          rw [Job.score, if_pos pending] at dead
          cases dead
        · rename_i error failed
          refine Or.inr ⟨identifier, job, _, found, rfl, (sound.fail state error now).1, ?_⟩
          intro dead
          exact ⟨drain, row, rest, error, running, left, failed, fail_deadletter state dead⟩
  · exact Or.inl (Outbox.Grows.refl _)

theorem publish_reworks (stocked : Stocked deployment pipeline) (fault : Option Fault) (now : Int) :
    Reworks deployment pipeline (.publish fault now) (pipeline.publish fault now).outbox := by
  unfold Pipeline.publish
  split
  · rename_i drain running
    split
    · exact Or.inl (Outbox.Grows.refl _)
    rename_i event scored
    obtain ⟨identifier, row, rest, left, _, _⟩ := stocked.request running scored
    obtain ⟨job, found, state, _, _, _⟩ := stocked.first running left
    have sound := stocked.rows identifier job found
    simp only [Workers.publish, left]
    split
    · rename_i error after answer
      refine Or.inr ⟨identifier, job, _, found, rfl, (sound.fail state error now).1, ?_⟩
      intro dead
      cases fault with
      | none =>
          rw [put, Prod.mk.injEq] at answer
          split at answer
          · cases answer.1
          · cases answer.1
      | some fault =>
          rw [put, Prod.mk.injEq] at answer
          cases answer.1
          exact ⟨drain, row, rest, running, left, fail_deadletter state dead⟩
    · refine Or.inr ⟨identifier, job, _, found, rfl, ?_, ?_⟩
      · unfold Job.send
        split
        · exact ⟨rfl, rfl, fun _ saved => saved, fun _ => rfl⟩
        · exact Job.Advances.refl job
      · intro dead
        rcases state with state | state <;> simp [Job.send, state] at dead
  · exact Or.inl (Outbox.Grows.refl _)

theorem requeue_reworks (stocked : Stocked deployment pipeline) (identifier : String) (now : Int) :
    Reworks deployment pipeline (.requeue identifier now) (pipeline.requeue identifier now).outbox := by
  unfold Pipeline.requeue
  split
  · rename_i outbox idle revived
    unfold Outbox.requeue at revived
    split at revived
    · rename_i job found
      split at revived
      · rename_i dead
        cases revived
        refine Or.inr ⟨identifier, job, _, found, rfl, ((stocked.rows identifier job found).revive dead now).1, ?_⟩
        intro again
        simp only [Job.revive] at again
        split at again <;> cases again
      · cases revived
    · cases revived
  · exact Or.inl (Outbox.Grows.refl _)

/-- Every move adds jobs or lets one advance. -/
theorem step_reworks (stocked : Stocked deployment pipeline) (move : Move) :
    Reworks deployment pipeline move (pipeline.step deployment move).outbox := by
  have still : ∀ after : Outbox, after = pipeline.outbox → Reworks deployment pipeline move after := by
    intro after same
    rw [same]
    exact Or.inl (Outbox.Grows.refl _)
  cases move with
  | infer reply now => exact infer_reworks stocked reply now
  | publish fault now => exact publish_reworks stocked fault now
  | requeue identifier now => exact requeue_reworks stocked identifier now
  | stopFeatures | stopEnrichment | runOnce | cutPublish => exact still _ rfl
  | openWindow schema start fetched =>
      simp only [Pipeline.step, Pipeline.openWindow]
      split <;> exact still _ rfl
  | deliver fault =>
      simp only [Pipeline.step, Pipeline.deliver]
      split <;> exact still _ rfl
  | cutDeliver effect =>
      simp only [Pipeline.step, Pipeline.cutDeliver, Pipeline.deliver]
      split <;> exact still _ rfl
  | beginPull schema metadataHash limit pageSize =>
      simp only [Pipeline.step, Pipeline.beginPull]
      split <;> exact still _ rfl
  | beginDrain now limit =>
      simp only [Pipeline.step, Pipeline.beginDrain]
      split <;> exact still _ rfl
  | enqueue vector metadataHash now =>
      simp only [Pipeline.step, Pipeline.enqueue]
      split
      · rename_i enqueued
        exact Or.inl (enqueue_grows enqueued)
      · exact still _ rfl
  | cutPage clock count =>
      simp only [Pipeline.step, Pipeline.cutPage]
      split
      · exact Or.inl (consume_grows _ _ _ _ _)
      · exact still _ rfl
  | readPage clock fault =>
      simp only [Pipeline.step, Pipeline.readPage]
      split
      · rename_i pull running
        have grows := readPage_grows deployment.python deployment.contracts clock pipeline.features
          pipeline.outbox pull fault
        split <;> rename_i result <;> rw [result] at grows <;> exact Or.inl grows
      · exact still _ rfl

/-- No move loses a job or takes back what is settled about it. -/
theorem step_advances (stocked : Stocked deployment pipeline) (move : Move) :
    pipeline.outbox.Advances (pipeline.step deployment move).outbox := by
  rcases step_reworks stocked move with grows | ⟨identifier, job, update, found, same, advances, _⟩
  · exact grows.keeps.advances
  · rw [same]
    refine advances_change fun other there => ?_
    cases there.symm.trans found
    exact advances

/-- A job becomes a dead letter only by an error that is not retryable. -/
theorem step_condemns (stocked : Stocked deployment pipeline) (move : Move) {identifier : String} {job next : Job}
    (found : pipeline.outbox.jobs.find? identifier = some job)
    (after : (pipeline.step deployment move).outbox.jobs.find? identifier = some next)
    (alive : job.state ≠ .deadletter) (dead : next.state = .deadletter) :
    pipeline.Condemns deployment identifier move := by
  rcases step_reworks stocked move with grows | ⟨changed, row, update, there, same, _, condemns⟩
  · cases (grows.keeps identifier job found).symm.trans after
    exact absurd dead alive
  · rw [same, find?_change] at after
    by_cases here : identifier = changed
    · subst here
      cases found.symm.trans there
      rw [if_pos rfl, found, Option.map_some, Option.some.injEq] at after
      subst after
      exact condemns dead
    · rw [if_neg here] at after
      cases found.symm.trans after
      exact absurd dead alive

end Steps

section Runs

open Pipeline

variable (deployment : Deployment)

/-- The outbox of an earlier moment of a run has advanced to the later one. -/
theorem run_advances (before after : List Move) :
    (run deployment before).outbox.Advances (run deployment (before ++ after)).outbox := by
  induction after using List.reverseRecOn with
  | nil =>
      rw [List.append_nil]
      exact Outbox.Advances.refl _
  | append_singleton front last ih =>
      rw [← List.append_assoc, run_snoc]
      exact ih.trans (step_advances (run_stocked deployment (before ++ front)) last)

/-- No address in the index of the events is taken twice. -/
theorem run_addresses (moves : List Move) : ((run deployment moves).anomalies.map Stored.address).Nodup := by
  induction moves using List.reverseRecOn with
  | nil => simp [run]
  | append_singleton front last ih =>
      rw [run_snoc]
      rcases step_anomalies deployment (run deployment front) last with same | ⟨_, _, grown⟩
      · rw [same]
        exact ih
      · rw [grown]
        exact nodup_insert ih

/-- Two documents for one job are the same. -/
theorem Backed.unique {outbox : Outbox} {first second : Stored AnomalyEvent} (backed : Backed outbox first)
    (other : Backed outbox second) (same : first.id = second.id) : first = second := by
  obtain ⟨job, found, saved, placed⟩ := backed
  obtain ⟨job', found', saved', placed'⟩ := other
  rw [same] at found
  cases found.symm.trans found'
  obtain ⟨index, id, source⟩ := first
  obtain ⟨index', id', source'⟩ := second
  have sources : source = source' := Option.some.inj (saved.symm.trans saved')
  dsimp only at same placed placed'
  subst sources same
  rw [placed, placed']

/-- What the delivery of each scored job exactly once in effect means for the run of a list of moves. -/
structure DeliversOnce (moves : List Move) : Prop where
  kept : ∀ before after, moves = before ++ after →
    (run deployment before).outbox.Advances (run deployment moves).outbox
  requested : ∀ request ∈ (run deployment moves).requests, Backed (run deployment moves).outbox request
  repeated : ∀ first ∈ (run deployment moves).requests, ∀ second ∈ (run deployment moves).requests,
    first.id = second.id → first = second
  sent : ∀ identifier job, (run deployment moves).outbox.jobs.find? identifier = some job → job.state = .sent →
    ∃ event, job.event = some event ∧
      ⟨anomalyIndex event.timestamp, identifier, event⟩ ∈ (run deployment moves).anomalies
  scored : ∀ identifier job, (run deployment moves).outbox.jobs.find? identifier = some job → job.state = .scored →
    ∃ event, job.event = some event
  condemned : ∀ before move after, moves = before ++ move :: after → ∀ identifier job next,
    (run deployment before).outbox.jobs.find? identifier = some job →
    (run deployment (before ++ [move])).outbox.jobs.find? identifier = some next →
    job.state ≠ .deadletter → next.state = .deadletter → (run deployment before).Condemns deployment identifier move
  single : ((run deployment moves).anomalies.map (·.id)).Nodup
  owned : ∀ document ∈ (run deployment moves).anomalies, Backed (run deployment moves).outbox document

/-- The outbox delivers each scored job exactly once in effect, whatever fails and wherever a worker dies. -/
theorem outbox_delivers_once (moves : List Move) : DeliversOnce deployment moves where
  kept := by
    intro before after split
    rw [split]
    exact run_advances deployment before after
  requested := (run_stocked deployment moves).requests
  repeated := by
    intro first made second again same
    have stocked := run_stocked deployment moves
    exact (stocked.requests first made).unique (stocked.requests second again) same
  sent := by
    intro identifier job found sent
    have sound := (run_stocked deployment moves).rows identifier job found
    obtain ⟨event, saved⟩ := sound.saved (Or.inr sent)
    exact ⟨event, saved, sound.delivered sent event saved⟩
  scored := by
    intro identifier job found scored
    exact ((run_stocked deployment moves).rows identifier job found).saved (Or.inl scored)
  condemned := by
    intro before move after _ identifier job next found later alive dead
    rw [run_snoc] at later
    exact step_condemns (run_stocked deployment before) move found later alive dead
  single := by
    have stocked := run_stocked deployment moves
    have apart := List.pairwise_map.mp (run_addresses deployment moves)
    refine List.pairwise_map.mpr (apart.imp_of_mem fun {first second} member other different same => ?_)
    exact different (congrArg Stored.address ((stocked.documents first member).unique (stocked.documents second other) same))
  owned := (run_stocked deployment moves).documents

end Runs

end ClosedLoop.Workers
