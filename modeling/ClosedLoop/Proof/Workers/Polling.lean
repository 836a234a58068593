import ClosedLoop.Library.Trace
import ClosedLoop.Proof.Decision.Runner
import ClosedLoop.Proof.Workers.Pulling

namespace ClosedLoop.Workers

open ClosedLoop.Library ClosedLoop.Response

namespace Pipeline

variable {deployment : Deployment} {pipeline : Pipeline}

/-- The requests for a document of `soc-ai-*` that a move makes when a drain has an event to publish. -/
def publishes (pipeline : Pipeline) : Move → List (Stored AnomalyEvent)
  | .publish _ _ | .cutPublish _ =>
      match pipeline.activity with
      | some (.draining drain) => drain.event.toList.flatMap drain.request
      | _ => []
  | _ => []

/-- A publication leaves the documents or adds the one that it asks for. -/
theorem publish_anomalies (documents : List (Stored AnomalyEvent)) (outbox : Outbox) (drain : Drain)
    (event : AnomalyEvent) (fault : Option Fault) (now : Int) :
    (Workers.publish documents outbox drain event fault now).1 = documents ∨ ∃ request ∈ drain.request event,
      (Workers.publish documents outbox drain event fault now).1 =
        insert documents request.index request.id request.source := by
  cases left : drain.remaining with
  | nil => exact Or.inl (by rw [Workers.publish, left])
  | cons head rest =>
      have request : drain.request event = [⟨anomalyIndex event.timestamp, head.1, event⟩] := by
        rw [Drain.request, left]
      have answer : (Workers.publish documents outbox drain event fault now).1 =
          (put documents (anomalyIndex event.timestamp) head.1 event fault).2 := by
        simp only [Workers.publish, left]
        split
        · rename_i same
          rw [same]
        · rename_i same
          rw [same]
      rw [answer, request]
      unfold put
      split
      · exact Or.inr ⟨_, List.mem_singleton_self _, rfl⟩
      · dsimp only
        split
        · exact Or.inr ⟨_, List.mem_singleton_self _, rfl⟩
        · exact Or.inl rfl

/-- A move leaves the anomalies in the index, or adds the one that it asks for. -/
theorem step_anomalies (deployment : Deployment) (pipeline : Pipeline) (move : Move) :
    (pipeline.step deployment move).anomalies = pipeline.anomalies ∨ ∃ request ∈ pipeline.publishes move,
      (pipeline.step deployment move).anomalies =
        insert pipeline.anomalies request.index request.id request.source := by
  have publishing : ∀ fault now, (pipeline.publish fault now).anomalies = pipeline.anomalies ∨
      ∃ request ∈ pipeline.publishes (.publish fault now), (pipeline.publish fault now).anomalies =
        insert pipeline.anomalies request.index request.id request.source := by
    intro fault now
    unfold Pipeline.publish publishes
    split
    · rename_i drain running
      dsimp only
      split
      · exact Or.inl rfl
      · rename_i event scored
        rcases publish_anomalies pipeline.anomalies pipeline.outbox drain event fault now with same | ⟨request, made, grown⟩
        · exact Or.inl same
        · exact Or.inr ⟨request, by simpa [running, scored] using made, grown⟩
    · exact Or.inl rfl
  cases move with
  | publish fault now => exact publishing fault now
  | cutPublish effect => exact publishing _ 0
  | openWindow | deliver | cutDeliver | stopFeatures | enqueue | beginPull | readPage | cutPage | beginDrain | infer
  | requeue | stopEnrichment | runOnce =>
      left
      simp only [step, Pipeline.openWindow, Pipeline.deliver, Pipeline.cutDeliver, Pipeline.enqueue, Pipeline.beginPull,
        Pipeline.readPage, Pipeline.cutPage, Pipeline.beginDrain, Pipeline.infer, Pipeline.requeue, Pipeline.runOnce]
      repeat' (first | rfl | split)

/-- Only the decision runner changes its own state, and it changes nothing else. -/
theorem step_decisions (deployment : Deployment) (pipeline : Pipeline) (move : Move) :
    ((∀ limit answers, move ≠ .runOnce limit answers) ∧
      (pipeline.step deployment move).decisions = pipeline.decisions) ∨
    ∃ limit answers, move = .runOnce limit answers := by
  cases move with
  | runOnce limit answers => exact Or.inr ⟨limit, answers, rfl⟩
  | openWindow | deliver | cutDeliver | stopFeatures | enqueue | beginPull | readPage | cutPage | beginDrain | infer
  | publish | cutPublish | requeue | stopEnrichment =>
      refine Or.inl ⟨by simp, ?_⟩
      simp only [step, Pipeline.openWindow, Pipeline.deliver, Pipeline.cutDeliver, Pipeline.enqueue, Pipeline.beginPull,
        Pipeline.readPage, Pipeline.cutPage, Pipeline.beginDrain, Pipeline.infer, Pipeline.publish, Pipeline.cutPublish,
        Pipeline.requeue]
      repeat' (first | rfl | split)

end Pipeline

section Watching

variable (deployment : Deployment)

/-- The runner has left a row for an anomaly. -/
def Pipeline.Recorded (pipeline : Pipeline) (document : Stored AnomalyEvent) : Prop :=
  document.source.eventId ∈ pipeline.decisions.decisions.keys

/-- A move is punctual when it creates no wanted anomaly at or before the cursor of the runner. -/
def Pipeline.Punctual (pipeline : Pipeline) (move : Move) : Prop :=
  ∀ request ∈ pipeline.publishes move, deployment.runner.wanted request = true →
    exists? pipeline.anomalies request.index request.id = true ∨
      Cursor.Beyond place pipeline.decisions.cursor request

/-- Each wanted anomaly up to the cursor has a row. -/
def Watched (pipeline : Pipeline) : Prop :=
  Cursor.Covered place deployment.runner.wanted pipeline.Recorded pipeline.anomalies pipeline.decisions.cursor

variable {deployment} {pipeline : Pipeline}

/-- Different anomalies have different places, since a document has the id of its job. -/
theorem Stocked.distinct (stocked : Stocked deployment pipeline) :
    Cursor.Distinct place deployment.runner.wanted pipeline.anomalies := by
  intro first member second other _ _ same
  obtain ⟨job, found, saved, index⟩ := stocked.documents first member
  obtain ⟨job', found', saved', index'⟩ := stocked.documents second other
  have name := (stocked.rows _ _ found).named _ saved
  have name' := (stocked.rows _ _ found').named _ saved'
  have ids : first.id = second.id := by
    rw [← name, ← name']
    exact congrArg (fun place => (ofLex place).2) same
  rw [ids] at found
  cases found.symm.trans found'
  have sources : first.source = second.source := Option.some.inj (saved.symm.trans saved')
  obtain ⟨place, id, source⟩ := first
  obtain ⟨place', id', source'⟩ := second
  dsimp only at ids sources index index'
  subst ids sources
  rw [index, index']

/-- One poll reads the first hits and leaves a row for each of them. -/
theorem step_polled (deployment : Deployment) (pipeline : Pipeline) (limit : Nat) (answers : List Answers) :
    ∃ read, read <+: Cursor.page place deployment.runner.wanted pipeline.anomalies pipeline.decisions.cursor limit ∧
      Polled pipeline.decisions (pipeline.step deployment (.runOnce limit answers)).decisions read ∧
      ((Response.runOnce deployment.python deployment.runner pipeline.decisions pipeline.anomalies limit answers).1 =
        .done → read = Cursor.page place deployment.runner.wanted pipeline.anomalies pipeline.decisions.cursor limit) :=
  handleHits_polled _ _ _

/-- No row is lost. -/
theorem step_recorded (deployment : Deployment) (pipeline : Pipeline) (move : Move) {document : Stored AnomalyEvent}
    (recorded : pipeline.Recorded document) : (pipeline.step deployment move).Recorded document := by
  unfold Pipeline.Recorded at recorded ⊢
  rcases Pipeline.step_decisions deployment pipeline move with ⟨other, same⟩ | ⟨limit, answers, rfl⟩
  · rw [same]
    exact recorded
  · obtain ⟨read, _, polled, _⟩ := step_polled deployment pipeline limit answers
    exact polled.rows recorded

/-- A punctual move keeps every anomaly watched. -/
theorem Watched.step (watched : Watched deployment pipeline) (stocked : Stocked deployment pipeline) {move : Move}
    (punctual : pipeline.Punctual deployment move) : Watched deployment (pipeline.step deployment move) := by
  have kept : Cursor.Covered place deployment.runner.wanted (pipeline.step deployment move).Recorded
      pipeline.anomalies pipeline.decisions.cursor :=
    watched.weaken fun document recorded => step_recorded deployment pipeline move recorded
  unfold Watched
  rcases Pipeline.step_decisions deployment pipeline move with ⟨other, same⟩ | ⟨limit, answers, rfl⟩
  · rw [same]
    rcases Pipeline.step_anomalies deployment pipeline move with still | ⟨request, made, grown⟩
    · rw [still]
      exact kept
    · rw [grown]
      rcases insert_cases pipeline.anomalies request.index request.id request.source with known | ⟨fresh, added⟩
      · rw [known]
        exact kept
      · rw [added]
        refine kept.create fun asked => ?_
        rcases punctual request made asked with known | beyond
        · simp [fresh] at known
        · exact beyond
  · obtain ⟨read, taken, polled, _⟩ := step_polled deployment pipeline limit answers
    rw [polled.cursor]
    exact kept.advance stocked.distinct taken polled.handled

end Watching

section Runs

open Pipeline

/-- A call of `run_once` that asks for hits and handles all that it gets. -/
def Pipeline.completes (deployment : Deployment) (pipeline : Pipeline) : Move → Bool
  | .runOnce limit answers => decide (1 ≤ limit) &&
      decide ((Response.runOnce deployment.python deployment.runner pipeline.decisions pipeline.anomalies limit
        answers).1 = .done)
  | _ => false

/-- The number of calls of `run_once` that complete. -/
def Pipeline.completed (deployment : Deployment) : Pipeline → List Move → Nat
  | _, [] => 0
  | pipeline, move :: rest =>
      (if pipeline.completes deployment move then 1 else 0) + completed deployment (pipeline.step deployment move) rest

/-- No wanted anomaly is up to the cursor without a row, and each one has a row once the calls of `run_once` that have
completed after its creation are as many as the wanted anomalies. -/
def NoAnomalySkipped (deployment : Deployment) (moves : List Move) : Prop :=
  ∀ before after, moves = before ++ after → ∀ document ∈ (run deployment before).anomalies,
    deployment.runner.wanted document = true →
    (¬ Cursor.Beyond place (run deployment before).decisions.cursor document →
      (run deployment before).Recorded document) ∧
    ((run deployment moves).anomalies.countP deployment.runner.wanted ≤
        completed deployment (run deployment before) after →
      (run deployment moves).Recorded document)

/-- The number of wanted anomalies that the cursor of the runner has passed. -/
def Pipeline.passed (deployment : Deployment) (pipeline : Pipeline) : Nat :=
  Cursor.passed place deployment.runner.wanted pipeline.anomalies pipeline.decisions.cursor

variable {deployment : Deployment} {pipeline : Pipeline}

/-- No move takes an anomaly out of the index. -/
theorem step_keeps (deployment : Deployment) (pipeline : Pipeline) (move : Move) :
    ∃ more, (pipeline.step deployment move).anomalies = pipeline.anomalies ++ more := by
  rcases step_anomalies deployment pipeline move with same | ⟨request, _, grown⟩
  · exact ⟨[], by simp [same]⟩
  · rcases insert_cases pipeline.anomalies request.index request.id request.source with known | ⟨_, added⟩
    · exact ⟨[], by simp [grown, known]⟩
    · exact ⟨_, grown.trans added⟩

/-- The cursor never moves back. -/
theorem step_beyond (deployment : Deployment) (pipeline : Pipeline) (move : Move) {document : Stored AnomalyEvent}
    (beyond : Cursor.Beyond place (pipeline.step deployment move).decisions.cursor document) :
    Cursor.Beyond place pipeline.decisions.cursor document := by
  rcases step_decisions deployment pipeline move with ⟨other, same⟩ | ⟨limit, answers, rfl⟩
  · rwa [same] at beyond
  · obtain ⟨read, taken, polled, _⟩ := step_polled deployment pipeline limit answers
    rw [polled.cursor] at beyond
    exact Cursor.beyond_of_advance taken beyond

/-- While a wanted anomaly is ahead of the cursor, each call that completes passes another one. -/
theorem step_passed (deployment : Deployment) (pipeline : Pipeline) (move : Move) {document : Stored AnomalyEvent}
    (member : document ∈ pipeline.anomalies) (asked : deployment.runner.wanted document = true)
    (beyond : Cursor.Beyond place pipeline.decisions.cursor document) :
    pipeline.passed deployment + (if pipeline.completes deployment move then 1 else 0) ≤
      (pipeline.step deployment move).passed deployment := by
  unfold Pipeline.passed
  rcases step_decisions deployment pipeline move with ⟨other, same⟩ | ⟨limit, answers, rfl⟩
  · have idle : pipeline.completes deployment move = false := by
      unfold completes
      split
      · exact absurd rfl (other _ _)
      · rfl
    obtain ⟨more, grown⟩ := step_keeps deployment pipeline move
    rw [same, grown, idle]
    exact Cursor.passed_append deployment.runner.wanted pipeline.anomalies more pipeline.decisions.cursor
  · obtain ⟨read, taken, polled, all⟩ := step_polled deployment pipeline limit answers
    have still : (pipeline.step deployment (.runOnce limit answers)).anomalies = pipeline.anomalies := rfl
    rw [polled.cursor, still]
    split
    · rename_i completes
      simp only [Pipeline.completes, Bool.and_eq_true, decide_eq_true_eq] at completes
      refine Cursor.passed_lt_advance taken fun nothing => ?_
      -- The page has room for the wanted anomaly, so a call that completes reads something.
      have listed : document ∈ Cursor.ahead place deployment.runner.wanted pipeline.anomalies
          pipeline.decisions.cursor := Cursor.mem_ahead.mpr ⟨member, asked, beyond⟩
      have empty := (all completes.2).symm.trans nothing
      rw [Cursor.page, List.take_eq_nil_iff] at empty
      rcases empty with zero | none
      · omega
      · rw [none] at listed
        cases listed
    · exact Cursor.passed_advance taken

/-- No move takes an anomaly away. -/
theorem foldl_keeps (deployment : Deployment) (pipeline : Pipeline) (after : List Move) :
    pipeline.anomalies ⊆ (after.foldl (step deployment) pipeline).anomalies := by
  induction after generalizing pipeline with
  | nil => exact List.Subset.refl _
  | cons move rest ih =>
      obtain ⟨more, grown⟩ := step_keeps deployment pipeline move
      have first : pipeline.anomalies ⊆ (pipeline.step deployment move).anomalies := by
        rw [grown]
        exact List.subset_append_left _ _
      exact List.Subset.trans first (ih (pipeline.step deployment move))

/-- While a wanted anomaly is ahead of the cursor, the calls that complete are counted by what the cursor has passed. -/
theorem foldl_passed (deployment : Deployment) (pipeline : Pipeline) (after : List Move)
    {document : Stored AnomalyEvent} (member : document ∈ pipeline.anomalies)
    (asked : deployment.runner.wanted document = true)
    (beyond : Cursor.Beyond place (after.foldl (step deployment) pipeline).decisions.cursor document) :
    Cursor.Beyond place pipeline.decisions.cursor document ∧
      pipeline.passed deployment + completed deployment pipeline after ≤
        (after.foldl (step deployment) pipeline).passed deployment := by
  induction after generalizing pipeline with
  | nil => exact ⟨beyond, by simp [completed]⟩
  | cons move rest ih =>
      have later := foldl_keeps deployment pipeline [move] member
      obtain ⟨ahead, counted⟩ := ih (pipeline.step deployment move) later beyond
      have here := step_beyond deployment pipeline move ahead
      have passed := step_passed deployment pipeline move member asked here
      refine ⟨here, ?_⟩
      rw [completed, List.foldl_cons]
      omega

/-- In a run of punctual moves each wanted anomaly up to the cursor has a row. -/
theorem run_watched {moves : List Move}
    (punctual : Always (fun earlier move => (run deployment earlier).Punctual deployment move) moves) :
    Stocked deployment (run deployment moves) ∧ Watched deployment (run deployment moves) := by
  refine Always.foldl (fun pipeline move => pipeline.Punctual deployment move)
    (fun pipeline => Stocked deployment pipeline ∧ Watched deployment pipeline) punctual
    ⟨Stocked.initial deployment, Cursor.Covered.empty⟩ ?_
  intro pipeline move held inTime
  exact ⟨held.1.step move, held.2.step held.1 inTime⟩

end Runs

section Drains

open Pipeline

variable (deployment : Deployment) (pipeline : Pipeline) {identifier : String} {job : Job}
  (rest : List (String × Job)) {scored : Option AnomalyEvent} {event : AnomalyEvent} {now : Int}

/-- A drain that begins holds the jobs that are due. -/
theorem step_beginDrain (idle : pipeline.activity = none) {limit : Nat} (fits : 1 ≤ limit ∧ limit ≤ 10000) :
    pipeline.step deployment (.beginDrain now limit) =
      { pipeline with activity := drained ⟨pipeline.outbox.due now limit, none⟩ } := by
  have begun : Workers.beginDrain pipeline.outbox now limit = .ok ⟨pipeline.outbox.due now limit, none⟩ := by
    simp only [Workers.beginDrain, Check.bind_ok, Check.guard_ok, Check.pure_ok]
    exact ⟨(), fits, trivial⟩
  simp [step, Pipeline.beginDrain, idle, begun]

/-- An accepted score is saved with its job. -/
theorem step_infer {reply : InferenceReply}
    (accepted : scoreJob deployment.contracts identifier job reply now = .ok event) (unsaved : job.event = none)
    (running : pipeline.activity = some (.draining ⟨(identifier, job) :: rest, none⟩)) :
    pipeline.step deployment (.infer reply now) = { pipeline with
      outbox := pipeline.outbox.saveEvent identifier event now
      activity := some (.draining ⟨(identifier, job) :: rest, some event⟩) } := by
  simp [step, Pipeline.infer, running, Drain.event, unsaved, Workers.infer, accepted, drained]

variable {rest}

/-- A publication that fails puts the job back for later. -/
theorem step_publish_failed (error : DeliveryError)
    (running : pipeline.activity = some (.draining ⟨(identifier, job) :: rest, scored⟩))
    (found : job.event.or scored = some event) :
    pipeline.step deployment (.publish (some ⟨error, false⟩) now) = { pipeline with
      outbox := pipeline.outbox.failed identifier error now
      activity := drained ⟨rest, none⟩
      requests := pipeline.requests ++ [⟨anomalyIndex event.timestamp, identifier, event⟩] } := by
  simp [step, Pipeline.publish, running, Drain.event, found, Workers.publish, put, Drain.request]

/-- A publication that creates its document completes the job. -/
theorem step_publish_created (running : pipeline.activity = some (.draining ⟨(identifier, job) :: rest, scored⟩))
    (found : job.event.or scored = some event)
    (fresh : exists? pipeline.anomalies (anomalyIndex event.timestamp) identifier = false) :
    pipeline.step deployment (.publish none now) = { pipeline with
      anomalies := pipeline.anomalies ++ [⟨anomalyIndex event.timestamp, identifier, event⟩]
      outbox := pipeline.outbox.sent identifier now
      activity := drained ⟨rest, none⟩
      requests := pipeline.requests ++ [⟨anomalyIndex event.timestamp, identifier, event⟩] } := by
  simp [step, Pipeline.publish, running, Drain.event, found, Workers.publish, put, insert, fresh, Drain.request]

end Drains

section Lab

open Pipeline

/-- What the model of the lab answers. -/
def labResult : List (String × Json) :=
  [("model_id", .str "iforest-1"), ("algorithm", .str "IsolationForest"), ("feature_schema", .str "network-window-v1"),
    ("feature_schema_sha256", .str "6551c997e42a378f4999c28d4a5ea1a5f9fe1a90401ed5f6ae5cc46a607faded"),
    ("model_sha256", .str labHash), ("model_metadata_sha256", .str labHash), ("score", .int 1), ("threshold", .int 1),
    ("is_anomaly", .bool true), ("inference_ms", .int 5)]

/-- The event of a vector of the lab. -/
def labEvent (second : Bool) (identifier : String) (now : Int) : AnomalyEvent where
  timestamp := now
  eventId := identifier
  observer := "soc-ai-inference"
  vectorId := (labVector second).vectorId
  featureSchema := .networkWindow
  featureSchemaSha256 := (labVector second).featureSchemaSha256
  entityType := "src_ip"
  entity := "192.168.40.10"
  windowStart := (labVector second).windowStart
  windowEnd := (labVector second).windowEnd
  sourceEventSetSha256 := (labVector second).sourceEventSetSha256
  modelId := "iforest-1"
  modelSha256 := labHash
  modelMetadataSha256 := labHash
  score := .int 1
  threshold := .int 1
  isAnomaly := true
  inferenceMs := .int 5

/-- The model of the examples is approved. -/
theorem labHash_approved : isSha256 labHash = true := by decide +kernel

/-- The event of a job of the lab. -/
theorem labVector_scored (second : Bool) (identifier : String) (job : Job) (vector : job.vector = labVector second)
    (hash : job.metadataHash = labHash) (now : Int) :
    scoreJob labContracts identifier job (.ok (200, labResult)) now = .ok (labEvent second identifier now) := by
  have exact' : Json.hasExactly labResult inferenceFields = true := by decide +kernel
  have one : finite? (.int 1) = some 1 := by decide +kernel
  have five : finite? (.int 5) = some 5 := by decide +kernel
  have checked : validateVector labContracts job.vector = .ok () := by rw [vector, labVector_valid]
  have score : inferenceNumber labResult "score" = .ok 1 := by
    simp [inferenceNumber, labResult, Json.get, List.lookup_cons, one, Check.guard]
  have threshold : inferenceNumber labResult "threshold" = .ok 1 := by
    simp [inferenceNumber, labResult, Json.get, List.lookup_cons, one, Check.guard]
  have latency : inferenceNumber labResult "inference_ms" = .ok 5 := by
    have positive : (0 : Rat) ≤ 5 := by decide
    simp [inferenceNumber, labResult, Json.get, List.lookup_cons, five, Check.guard, positive]
  unfold scoreJob
  rw [checked]
  simp only [Check.bind_ok, Check.guard_ok]
  refine ⟨(), rfl, _, rfl, (), rfl, ?_⟩
  unfold anomalyEvent
  simp only [Check.bind_ok, Check.guard_ok]
  refine ⟨(), exact', (), ?_, (), ?_, (), ?_, 1, score, 1, threshold, 5, latency, ?_⟩
  · simp [isText, labResult, Json.get, List.lookup_cons, vector, hash, labVector, FeatureSchema.text]
  · simp [labResult, Json.get, List.lookup_cons, Json.text, labHash_approved]
  · simp [isText, labResult, Json.get, List.lookup_cons, Json.text]
  · simp [labResult, Json.get, List.lookup_cons, Json.text, vector, labEvent, Check.guard]
    exact ⟨rfl, rfl, rfl⟩

def labMinute (minute : Int) : Int := deskTime + seconds (60 * minute)

/-- The row of a job of the lab. -/
def labRow (second : Bool) : Job where
  metadataHash := labHash
  vector := labVector second
  createdAt := labMinute (if second then 12 else 11)
  updatedAt := labMinute (if second then 12 else 11)

/-- The document of a vector of the lab that is scored at a minute. -/
def labDocument (second : Bool) (identifier : String) (minute : Int) : Stored AnomalyEvent where
  index := anomalyIndex (labMinute minute)
  id := identifier
  source := labEvent second identifier (labMinute minute)

def labOutage : DeliveryError := ⟨"HTTP_503", true⟩

def labQueueing : List Move :=
  [.enqueue (labVector false) labHash (labMinute 11), .enqueue (labVector true) labHash (labMinute 12)]

def labDrain : List Move :=
  [.beginDrain (labMinute 13) 10, .infer (.ok (200, labResult)) (labMinute 14),
    .publish (some ⟨labOutage, false⟩) (labMinute 15), .infer (.ok (200, labResult)) (labMinute 16),
    .publish none (labMinute 17)]

def labAnswers : List Answers :=
  [{ telemetry := {}, evidenceFault := some ⟨"HTTP_400", false⟩, now := labMinute 18 }]

def labPoll : Move := .runOnce 200 labAnswers

def labRetry : List Move := [.beginDrain (labMinute 60) 10, .publish none (labMinute 61)]

/-- The first event cannot be delivered before the runner has handled the second one. -/
def lateEvent : List Move := labQueueing ++ labDrain ++ [labPoll] ++ labRetry

section States

/- The ids of the jobs are variables here, since it is slow to compute them. -/
variable (first second : String)

/-- The jobs of the lab before the first drain. -/
def labQueued : Pipeline where
  outbox := ⟨[(first, labRow false), (second, labRow true)], []⟩

/-- The row of the first job, whose event waits for its next attempt. -/
def labWaiting : Job :=
  (labRow false |>.score (labEvent false first (labMinute 14)) (labMinute 14)).fail labOutage (labMinute 15)

/-- The second event is in the index, and the first one waits. -/
def labDelayed : Pipeline where
  outbox := ⟨[(first, labWaiting first),
    (second, (labRow true |>.score (labEvent true second (labMinute 16)) (labMinute 16)).send (labMinute 17))], []⟩
  anomalies := [labDocument true second 16]
  requests := [labDocument false first 14, labDocument true second 16]

/-- The runner has handled the second event. -/
def labPolled : Pipeline where
  outbox := (labDelayed first second).outbox
  anomalies := (labDelayed first second).anomalies
  requests := (labDelayed first second).requests
  decisions :=
    { cursor := some (place (labDocument true second 16))
      decisions := [(second, { outcome := .evidenceError, detail := "HTTP_400" })] }

variable {deployment : Deployment}

/-- The runner of the examples wants each of its anomalies. -/
theorem lab_wanted (second : Bool) (identifier : String) (minute : Int) :
    labRunner.wanted (labDocument second identifier minute) = true := by
  have one : finite? (.int 1) = some 1 := by decide +kernel
  have high : labRunner.minScore ≤ 1 := by decide +kernel
  simp [DecisionRunner.wanted, labDocument, labEvent, one, high]

/-- The poll handles the second event and completes. -/
theorem lab_runOnce (python : Python) : Response.runOnce python labRunner (labDelayed first second).decisions
    (labDelayed first second).anomalies 200 labAnswers = (.done, (labPolled first second).decisions) := by
  have policy : labRunner.policyByTarget.find? "ip" = some "COR-001" := by decide
  have page : Cursor.page place labRunner.wanted (labDelayed first second).anomalies none 200 =
      [labDocument true second 16] := by
    unfold Cursor.page Cursor.ahead
    rw [List.filter_eq_self.mpr]
    · rfl
    · intro document member
      cases List.mem_singleton.mp member
      rw [lab_wanted true second 16]
      rfl
  have text : truncate 500 "HTTP_400" = "HTTP_400" := by decide +kernel
  unfold Response.runOnce
  rw [show (labDelayed first second).decisions.cursor = none from rfl, page]
  simp [handleHits, handle, DecisionRunner.target, labDocument, labEvent, TargetType.text, policy,
    DecisionState.record, text, Table.upsert, labDelayed, labPolled, labAnswers]

/-- The poll of the examples handles the anomaly that is there. -/
theorem lab_polled (deployed : deployment.runner = labRunner) :
    (labDelayed first second).step deployment labPoll = labPolled first second ∧
      (labDelayed first second).completes deployment labPoll = true := by
  have polled := lab_runOnce first second deployment.python
  constructor
  · simp only [labPoll, step, Pipeline.runOnce]
    rw [deployed, polled]
    rfl
  · simp only [labPoll, completes]
    rw [deployed, polled]
    rfl

variable {first second} (different : first ≠ second)

include different

/-- The drain of the examples publishes one anomaly and delays the other. -/
theorem lab_delayed (deployed : deployment.contracts = labContracts) :
    labDrain.foldl (step deployment) (labQueued first second) = labDelayed first second := by
  have due : (labQueued first second).outbox.due (labMinute 13) 10 = [(first, labRow false), (second, labRow true)] := by
    simp [Outbox.due, labQueued, labRow, List.filter, Outbox.earlier, labMinute, deskTime, seconds]
  have scored := fun second identifier minute => deployed ▸ labVector_scored second identifier (labRow second) rfl rfl
    (labMinute minute)
  have head := fun pipeline => step_infer deployment pipeline [(second, labRow true)] (scored false first 14) rfl
  have last := fun pipeline => step_infer deployment pipeline [] (scored true second 16) rfl
  simp only [labDrain, List.foldl]
  rw [step_beginDrain _ _ rfl (by decide), due, head _ rfl, step_publish_failed _ _ labOutage rfl rfl, last _ rfl,
    step_publish_created _ _ rfl rfl rfl]
  simp [labDelayed, labWaiting, labQueued, labDocument, Outbox.saveEvent, Outbox.failed, Outbox.sent, Outbox.change,
    different, different.symm, Pipeline.drained, labEvent]

/-- The retry publishes the delayed one. -/
theorem lab_retried : labRetry.foldl (step deployment) (labPolled first second) =
    { labPolled first second with
      outbox := (labPolled first second).outbox.sent first (labMinute 61)
      anomalies := [labDocument true second 16, labDocument false first 14]
      requests := [labDocument false first 14, labDocument true second 16, labDocument false first 14] } := by
  have due : (labPolled first second).outbox.due (labMinute 60) 10 = [(first, labWaiting first)] := by
    simp [Outbox.due, labPolled, labDelayed, labWaiting, labRow, List.filter, Job.score, Job.fail, Job.send, labOutage,
      Job.delay, labMinute, deskTime, seconds]
  have fresh : exists? (labPolled first second).anomalies (anomalyIndex (labMinute 14)) first = false := by
    simp [exists?, labPolled, labDelayed, labDocument, different.symm]
  have found : (labWaiting first).event.or none = some (labEvent false first (labMinute 14)) := by
    simp [labWaiting, Job.fail, Job.score, labRow]
  simp only [labRetry, List.foldl]
  rw [step_beginDrain _ _ rfl (by decide), due]
  refine (step_publish_created deployment { labPolled first second with activity := _ } rfl found fresh).trans ?_
  simp [labPolled, labDelayed, drained, labDocument, labEvent]

end States

variable {deployment : Deployment}

/-- Both jobs of the examples are queued. -/
theorem lab_queued (deployed : deployment.contracts = labContracts)
    (different : jobId deployment.python labHash (labVector false) ≠ jobId deployment.python labHash (labVector true)) :
    run deployment labQueueing = labQueued (jobId deployment.python labHash (labVector false))
      (jobId deployment.python labHash (labVector true)) := by
  simp [labQueueing, run, step, Pipeline.enqueue, deployed, labVector_valid, Outbox.enqueue, labHash_approved,
    Table.find?, different, labQueued, labRow]

/-- After the drain one of them is delayed. -/
theorem lab_run (deployed : deployment.contracts = labContracts)
    (different : jobId deployment.python labHash (labVector false) ≠ jobId deployment.python labHash (labVector true)) :
    run deployment (labQueueing ++ labDrain) = labDelayed (jobId deployment.python labHash (labVector false))
      (jobId deployment.python labHash (labVector true)) := by
  rw [← lab_delayed different deployed, ← lab_queued deployed different]
  simp [run]

/-- The event that was delivered late is up to the cursor. -/
theorem lab_skipped (deployed : deployment.contracts = labContracts) (runner : deployment.runner = labRunner)
    (different : jobId deployment.python labHash (labVector false) ≠ jobId deployment.python labHash (labVector true)) :
    ¬ NoAnomalySkipped deployment lateEvent := by
  intro kept
  have delayed := lab_run deployed different
  generalize jobId deployment.python labHash (labVector false) = first at delayed different
  generalize jobId deployment.python labHash (labVector true) = second at delayed different
  have final : run deployment lateEvent = labRetry.foldl (step deployment) (labPolled first second) := by
    rw [← (lab_polled first second runner).1, ← delayed]
    simp [run, lateEvent]
  rw [lab_retried different] at final
  have member : labDocument false first 14 ∈ (run deployment lateEvent).anomalies := by
    rw [final]
    simp
  have recorded := (kept lateEvent [] (by simp) _ member (by rw [runner]; exact lab_wanted false first 14)).1
  unfold Pipeline.Recorded at recorded
  rw [final] at recorded
  have behind : ¬ Cursor.Beyond place (some (place (labDocument true second 16))) (labDocument false first 14) := by
    simp [Cursor.Beyond, place, labDocument, labEvent, sortTuple, Prod.Lex.lt_iff, labMinute, deskTime, seconds]
  have row := recorded behind
  simp [labPolled, Table.keys, labDocument, labEvent, different] at row

/-- The jobs of two vectors have different ids. -/
theorem labJob_different : jobId labPython labHash (labVector false) ≠ jobId labPython labHash (labVector true) := by
  intro same
  exact absurd (labJob_injective labHash_approved labHash_approved same) (by decide)

/-- A runner that has no cursor can be late for nothing. -/
theorem punctual_unpolled {pipeline : Pipeline} (unpolled : pipeline.decisions.cursor = none) (move : Move) :
    pipeline.Punctual deployment move := by
  intro request _ _
  rw [unpolled]
  exact Or.inr trivial

/-- Without a poll the runner has no cursor. -/
theorem run_unpolled {moves : List Move} (unpolled : ∀ move ∈ moves, ∀ limit answers, move ≠ .runOnce limit answers) :
    (run deployment moves).decisions.cursor = none := by
  induction moves using List.reverseRecOn with
  | nil => rfl
  | append_singleton front last ih =>
      rw [run_snoc]
      rcases step_decisions deployment (run deployment front) last with ⟨_, same⟩ | ⟨limit, answers, same⟩
      · rw [same]
        exact ih fun move member => unpolled move (List.mem_append_left _ member)
      · exact absurd same (unpolled last (by simp) limit answers)

end Lab

end ClosedLoop.Workers
