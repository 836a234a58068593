import ClosedLoop.Proof.Workers.Delivery

namespace ClosedLoop.Workers

open ClosedLoop.Library ClosedLoop.Response

section Rows

/-- What the triggers of the table let an update do to a job, and what the states let it do. -/
structure Job.Advances (before after : Job) : Prop where
  vector : after.vector = before.vector
  metadataHash : after.metadataHash = before.metadataHash
  event : ∀ event, before.event = some event → after.event = some event
  sent : before.state = .sent → after.state = .sent

theorem Job.Advances.refl (job : Job) : job.Advances job := ⟨rfl, rfl, fun _ saved => saved, id⟩

/-- Two advances of a job are one. -/
theorem Job.Advances.trans {first second third : Job} (head : first.Advances second) (tail : second.Advances third) :
    first.Advances third :=
  ⟨tail.vector.trans head.vector, tail.metadataHash.trans head.metadataHash,
    fun event saved => tail.event event (head.event event saved), fun sent => tail.sent (head.sent sent)⟩

/-- Every job of an outbox is in the later one, further on. -/
def Outbox.Advances (before after : Outbox) : Prop :=
  ∀ identifier job, before.jobs.find? identifier = some job →
    ∃ next, after.jobs.find? identifier = some next ∧ job.Advances next

theorem Outbox.Advances.refl (outbox : Outbox) : outbox.Advances outbox :=
  fun _ job found => ⟨job, found, Job.Advances.refl job⟩

theorem Outbox.Advances.trans {first second third : Outbox} (head : first.Advances second)
    (tail : second.Advances third) : first.Advances third := by
  intro identifier job found
  obtain ⟨next, there, advances⟩ := head identifier job found
  obtain ⟨last, later, more⟩ := tail identifier next there
  exact ⟨last, later, advances.trans more⟩

/-- A change meets the named job only. -/
theorem find?_change (outbox : Outbox) (identifier other : String) (update : Job → Job) :
    (outbox.change identifier update).jobs.find? other =
      if other = identifier then (outbox.jobs.find? other).map update else outbox.jobs.find? other :=
  Table.find?_map_at outbox.jobs identifier other update

/-- An update of one job that lets it advance. -/
theorem advances_change {outbox : Outbox} {identifier : String} {update : Job → Job}
    (fine : ∀ job, outbox.jobs.find? identifier = some job → job.Advances (update job)) :
    outbox.Advances (outbox.change identifier update) := by
  intro other job found
  rw [find?_change]
  by_cases same : other = identifier
  · subst same
    exact ⟨update job, by simp [found], fine job found⟩
  · exact ⟨job, by simp [same, found], Job.Advances.refl job⟩

end Rows

section Additions

variable {python : Python}

/-- A job that was just added. -/
structure Fresh (python : Python) (identifier : String) (job : Job) : Prop where
  identified : identifier = jobId python job.metadataHash job.vector
  approved : isSha256 job.metadataHash = true
  state : job.state = .pending
  event : job.event = none

/-- The later outbox has the jobs of the earlier one as they were, and fresh ones. -/
def Outbox.Adds (python : Python) (before after : Outbox) : Prop :=
  ∀ identifier job, after.jobs.find? identifier = some job →
    before.jobs.find? identifier = some job ∨ before.jobs.find? identifier = none ∧ Fresh python identifier job

/-- No job is lost or changed by an addition. -/
def Outbox.Keeps (before after : Outbox) : Prop :=
  ∀ identifier job, before.jobs.find? identifier = some job → after.jobs.find? identifier = some job

/-- Jobs that are kept advance. -/
theorem Outbox.Keeps.advances {before after : Outbox} (keeps : before.Keeps after) : before.Advances after :=
  fun identifier job found => ⟨job, keeps identifier job found, Job.Advances.refl job⟩

/-- What an addition does to an outbox. -/
structure Outbox.Grows (python : Python) (before after : Outbox) : Prop where
  adds : before.Adds python after
  keeps : before.Keeps after
  nodup : before.jobs.keys.Nodup → after.jobs.keys.Nodup

theorem Outbox.Grows.refl (outbox : Outbox) : outbox.Grows python outbox :=
  ⟨fun _ _ found => Or.inl found, fun _ _ found => found, id⟩

theorem Outbox.Grows.trans {first second third : Outbox} (head : first.Grows python second)
    (tail : second.Grows python third) : first.Grows python third := by
  refine ⟨fun identifier job found => ?_, fun identifier job found => ?_, fun nodup => tail.nodup (head.nodup nodup)⟩
  · rcases tail.adds identifier job found with there | ⟨absent, fresh⟩
    · exact head.adds identifier job there
    · refine Or.inr ⟨?_, fresh⟩
      cases before : first.jobs.find? identifier with
      | none => rfl
      | some old =>
          rw [head.keeps identifier old before] at absent
          cases absent
  · exact tail.keeps identifier job (head.keeps identifier job found)

/-- Enqueuing a vector loses no job. -/
theorem enqueue_grows {outbox after : Outbox} {vector : FeatureVector} {metadataHash : String}
    {now : Int} {added : Bool} (ok : outbox.enqueue python vector metadataHash now = .ok (added, after)) :
    outbox.Grows python after := by
  unfold Outbox.enqueue at ok
  by_cases approved : isSha256 metadataHash = true
  · rw [if_neg (by simp [approved])] at ok
    split at ok
    · cases ok
      exact Outbox.Grows.refl outbox
    · rename_i absent
      cases ok
      refine ⟨fun identifier job found => ?_, fun identifier job found => ?_, fun nodup => ?_⟩
      · rw [Table.find?_append] at found
        cases before : outbox.jobs.find? identifier with
        | some old =>
            rw [before, Option.some_or] at found
            exact Or.inl found
        | none =>
            rw [before, Option.none_or] at found
            by_cases same : jobId python metadataHash vector = identifier
            · simp only [Table.find?, if_pos same, Option.some.injEq] at found
              subst found
              exact Or.inr ⟨rfl, same.symm, approved, rfl, rfl⟩
            · simp [Table.find?, if_neg same] at found
      · rw [Table.find?_append, found, Option.some_or]
      · have new := Table.find?_eq_none_iff.mp absent
        rw [Table.keys, List.map_append, List.nodup_append]
        refine ⟨nodup, by simp, ?_⟩
        intro identifier member other listed same
        rw [List.map_singleton, List.mem_singleton] at listed
        rw [same, listed] at member
        exact new member
  · rw [if_pos (by simpa using approved)] at ok
    cases ok

/-- Consuming a page of hits loses no job. -/
theorem consume_grows (contracts : Contracts) (clock : Nat → Int) (pull : Pull) (outbox : Outbox)
    (hits : List FeatureVector) :
    outbox.Grows python (consume python contracts clock pull outbox hits).outbox := by
  induction hits generalizing pull outbox with
  | nil => exact Outbox.Grows.refl outbox
  | cons vector rest ih =>
      unfold consume
      dsimp only
      split
      · exact Outbox.Grows.refl outbox
      · split
        · exact ih _ outbox
        · split
          · exact Outbox.Grows.refl outbox
          all_goals
            rename_i middle enqueued
            exact (enqueue_grows enqueued).trans (ih _ middle)

/-- Reading a page loses no job, however it ends. -/
theorem readPage_grows (python : Python) (contracts : Contracts) (clock : Nat → Int)
    (documents : List (Stored FeatureVector)) (outbox : Outbox) (pull : Pull) (fault : Option DeliveryError) :
    match readPage python contracts clock documents outbox pull fault with
    | .goesOn _ after => outbox.Grows python after
    | .returns _ after => outbox.Grows python after
    | .raises after => outbox.Grows python after := by
  have grows : outbox.Grows python (consume python contracts clock pull outbox
      ((searchVectors documents pull).map (·.source))).outbox := consume_grows contracts clock pull outbox _
  have saved : ∀ pull after, outbox.Grows python after → outbox.Grows python (finishPull pull after).2 := by
    intro pull after grown
    unfold finishPull
    split
    · exact grown
    · exact ⟨grown.adds, grown.keeps, grown.nodup⟩
  unfold readPage
  cases fault with
  | some error => exact Outbox.Grows.refl outbox
  | none =>
      dsimp only
      generalize consume python contracts clock pull outbox ((searchVectors documents pull).map (·.source)) = consumed
        at grows ⊢
      cases consumed with
      | raises after => exact grows
      | leaves next after => exact saved next after grows
      | goesOn next after =>
          dsimp only
          by_cases short : ((searchVectors documents pull).map (·.source)).length < next.pageSize
          · rw [if_pos short]
            exact saved next after grows
          · rw [if_neg short]
            exact grows

end Additions

section Stock

/-- What holds of a job, given the documents in the index. -/
structure Job.Sound (python : Python) (anomalies : List (Stored AnomalyEvent)) (identifier : String) (job : Job) :
    Prop where
  identified : identifier = jobId python job.metadataHash job.vector
  approved : isSha256 job.metadataHash = true
  pending : job.state = .pending → job.event = none
  saved : job.state = .scored ∨ job.state = .sent → ∃ event, job.event = some event
  named : ∀ event, job.event = some event → event.eventId = identifier
  delivered : job.state = .sent → ∀ event, job.event = some event →
    ⟨anomalyIndex event.timestamp, identifier, event⟩ ∈ anomalies

/-- A document is the event of the job with its id, in the index of the day of the event. -/
def Backed (outbox : Outbox) (document : Stored AnomalyEvent) : Prop :=
  ∃ job, outbox.jobs.find? document.id = some job ∧ job.event = some document.source ∧
    document.index = anomalyIndex document.source.timestamp

/-- A document stays backed while the jobs advance. -/
theorem Backed.advance {outbox after : Outbox} {document : Stored AnomalyEvent} (backed : Backed outbox document)
    (advances : outbox.Advances after) : Backed after document := by
  obtain ⟨job, found, saved, placed⟩ := backed
  obtain ⟨next, there, further⟩ := advances _ _ found
  exact ⟨next, there, further.event _ saved, placed⟩

/-- A row that a drain has read is still to be delivered, and its job has the event that the drain has for it. -/
structure Open (outbox : Outbox) (row : String × Job) (event : Option AnomalyEvent) : Prop where
  found : ∃ job, outbox.jobs.find? row.1 = some job ∧ (job.state = .pending ∨ job.state = .scored) ∧
    job.event = event ∧ job.vector = row.2.vector ∧ job.metadataHash = row.2.metadataHash

/-- The rows of a drain are open, and only the first of them may have been scored since. -/
structure Drain.Sound (outbox : Outbox) (drain : Drain) : Prop where
  nodup : (drain.remaining.map Prod.fst).Nodup
  head : ∀ row rest, drain.remaining = row :: rest → Open outbox row (row.2.event.or drain.scored)
  tail : ∀ row ∈ drain.remaining.tail, Open outbox row row.2.event

/-- The jobs, the documents, and the drain that is under way fit together. -/
structure Stocked (deployment : Deployment) (pipeline : Pipeline) : Prop where
  nodup : pipeline.outbox.jobs.keys.Nodup
  rows : ∀ identifier job, pipeline.outbox.jobs.find? identifier = some job →
    job.Sound deployment.python pipeline.anomalies identifier
  drain : ∀ drain, pipeline.activity = some (.draining drain) → drain.Sound pipeline.outbox
  documents : ∀ document ∈ pipeline.anomalies, Backed pipeline.outbox document
  requests : ∀ request ∈ pipeline.requests, Backed pipeline.outbox request
  single : Single pipeline.anomalies

/-- The first state is stocked. -/
theorem Stocked.initial (deployment : Deployment) : Stocked deployment {} where
  nodup := by simp [Table.keys]
  rows := by simp [Table.find?]
  drain := by simp
  documents := by simp
  requests := by simp
  single := by simp [Single]

variable {deployment : Deployment} {pipeline after : Pipeline}

/-- A job that is there as it was, or is fresh, is sound. -/
theorem Stocked.grow (stocked : Stocked deployment pipeline)
    (grows : pipeline.outbox.Grows deployment.python after.outbox) (anomalies : after.anomalies = pipeline.anomalies)
    (requests : after.requests = pipeline.requests) (calm : ∀ drain, after.activity ≠ some (.draining drain)) :
    Stocked deployment after where
  nodup := grows.nodup stocked.nodup
  rows := by
    intro identifier job found
    rw [anomalies]
    rcases grows.adds identifier job found with old | ⟨_, fresh⟩
    · exact stocked.rows identifier job old
    · exact ⟨fresh.identified, fresh.approved, fun _ => fresh.event, by simp [fresh.state], by simp [fresh.event],
        by simp [fresh.state]⟩
  drain := fun drain running => absurd running (calm drain)
  documents := by
    rw [anomalies]
    exact fun document member => (stocked.documents document member).advance grows.keeps.advances
  requests := by
    rw [requests]
    exact fun request member => (stocked.requests request member).advance grows.keeps.advances
  single := anomalies ▸ stocked.single

/-- A move that leaves the outbox and the index of the events. -/
theorem Stocked.calm (stocked : Stocked deployment pipeline) (outbox : after.outbox = pipeline.outbox)
    (anomalies : after.anomalies = pipeline.anomalies) (requests : after.requests = pipeline.requests)
    (activity : ∀ drain, after.activity = some (.draining drain) → drain.Sound pipeline.outbox) :
    Stocked deployment after where
  nodup := outbox ▸ stocked.nodup
  rows := by
    rw [outbox, anomalies]
    exact stocked.rows
  drain := by
    rw [outbox]
    exact activity
  documents := by
    rw [outbox, anomalies]
    exact stocked.documents
  requests := by
    rw [outbox, requests]
    exact stocked.requests
  single := anomalies ▸ stocked.single

/-- An update of one job that lets it advance and leaves it sound. -/
theorem Stocked.change (stocked : Stocked deployment pipeline) {identifier : String} {update : Job → Job}
    (outbox : after.outbox = pipeline.outbox.change identifier update)
    (fine : ∀ job, pipeline.outbox.jobs.find? identifier = some job → job.Advances (update job) ∧
      (update job).Sound deployment.python after.anomalies identifier)
    (kept : pipeline.anomalies ⊆ after.anomalies)
    (documents : ∀ document ∈ after.anomalies, Backed after.outbox document)
    (requests : ∀ request ∈ after.requests, Backed after.outbox request) (single : Single after.anomalies)
    (activity : ∀ drain, after.activity = some (.draining drain) → drain.Sound after.outbox) :
    Stocked deployment after where
  nodup := by
    rw [outbox, keys_change]
    exact stocked.nodup
  rows := by
    intro other job found
    rw [outbox, find?_change] at found
    by_cases same : other = identifier
    · rw [if_pos same] at found
      obtain ⟨old, there, rfl⟩ := Option.map_eq_some_iff.mp found
      subst same
      exact (fine old there).2
    · rw [if_neg same] at found
      have sound := stocked.rows other job found
      exact ⟨sound.identified, sound.approved, sound.pending, sound.saved, sound.named,
        fun sent event saved => kept (sound.delivered sent event saved)⟩
  drain := activity
  documents := documents
  requests := requests
  single := single

/-- An open row with another id stays open. -/
theorem Open.change {outbox : Outbox} {row : String × Job} {event : Option AnomalyEvent} (opened : Open outbox row event)
    {identifier : String} (other : row.1 ≠ identifier) (update : Job → Job) :
    Open (outbox.change identifier update) row event := by
  obtain ⟨job, found, rest⟩ := opened.found
  exact ⟨job, by rw [find?_change, if_neg other, found], rest⟩

/-- After the first row the other rows of a drain are left. -/
theorem Drain.Sound.next {outbox : Outbox} {drain : Drain} (sound : drain.Sound outbox) {identifier : String} {job : Job}
    {rest : List (String × Job)} (left : drain.remaining = (identifier, job) :: rest) (update : Job → Job) :
    Drain.Sound (outbox.change identifier update) ⟨rest, none⟩ := by
  have nodup := sound.nodup
  rw [left, List.map_cons, List.nodup_cons] at nodup
  have others : ∀ row ∈ rest, Open (outbox.change identifier update) row row.2.event := by
    intro row member
    refine (sound.tail row (by rw [left]; exact member)).change ?_ update
    intro same
    have listed : row.1 ∈ rest.map Prod.fst := List.mem_map_of_mem member
    exact nodup.1 (same ▸ listed)
  refine ⟨nodup.2, fun row more split => ?_, fun row member => others row (List.mem_of_mem_tail member)⟩
  dsimp only at split
  subst split
  rw [Option.or_none]
  exact others row List.mem_cons_self

/-- A drain that has no rows left is none. -/
theorem drained_sound {outbox : Outbox} {drain : Drain} (sound : drain.Sound outbox) :
    ∀ found, Pipeline.drained drain = some (.draining found) → found.Sound outbox := by
  intro found running
  unfold Pipeline.drained at running
  split at running
  · cases running
  · cases running
    exact sound

/-- The rows that are due are open. -/
theorem Stocked.due (stocked : Stocked deployment pipeline) (now : Int) (limit : Nat) :
    Drain.Sound pipeline.outbox ⟨pipeline.outbox.due now limit, none⟩ := by
  have opened : ∀ row ∈ pipeline.outbox.due now limit, Open pipeline.outbox row row.2.event := by
    intro row member
    have listed := List.mem_of_mem_take member
    rw [List.mem_insertionSort, List.mem_filter] at listed
    obtain ⟨inside, waiting⟩ := listed
    have state := of_decide_eq_true waiting
    exact ⟨row.2, Table.find?_of_mem stocked.nodup inside, state.1, rfl, rfl, rfl⟩
  refine ⟨?_, fun row rest split => ?_, fun row member => opened row (List.mem_of_mem_tail member)⟩
  · unfold Outbox.due
    rw [List.map_take]
    refine List.Nodup.sublist (List.take_sublist _ _) ?_
    refine ((List.perm_insertionSort _ _).map Prod.fst).nodup_iff.mpr ?_
    exact List.Nodup.sublist (List.filter_sublist.map Prod.fst) stocked.nodup
  · rw [Option.or_none]
    have first : row ∈ row :: rest := List.mem_cons_self
    rw [← split] at first
    exact opened row first

/-- The event that `anomaly_event` builds for a job has the id of the job. -/
theorem anomalyEvent_id {vector : FeatureVector} {result : List (String × Json)}
    {identifier metadataHash observer : String} {now : Int} {event : AnomalyEvent}
    (built : anomalyEvent vector result identifier metadataHash observer now = .ok event) :
    event.eventId = identifier := by
  unfold anomalyEvent at built
  simp only [Check.bind_ok, Check.guard_ok, exists_const] at built
  obtain ⟨-, -, -, -, score, -, threshold, -, latency, -, built⟩ := built
  split at built
  · simp only [Check.bind_ok, Check.guard_ok, Check.pure_ok, exists_const] at built
    obtain ⟨-, rfl⟩ := built
    rfl
  · cases built

/-- The event of a scored job has the job's identifier. -/
theorem scoreJob_id {contracts : Contracts} {identifier : String} {job : Job} {reply : InferenceReply} {now : Int}
    {event : AnomalyEvent} (scored : scoreJob contracts identifier job reply now = .ok event) :
    event.eventId = identifier := by
  unfold scoreJob at scored
  simp only [Check.bind_ok, Check.guard_ok, exists_const] at scored
  obtain ⟨valid, -, answer, -, -, built⟩ := scored
  exact anomalyEvent_id built

/-- The job of the first row of a drain. -/
theorem Stocked.first (stocked : Stocked deployment pipeline) {drain : Drain}
    (running : pipeline.activity = some (.draining drain)) {identifier : String} {row : Job}
    {rest : List (String × Job)} (left : drain.remaining = (identifier, row) :: rest) :
    ∃ job, pipeline.outbox.jobs.find? identifier = some job ∧ (job.state = .pending ∨ job.state = .scored) ∧
      job.event = drain.event ∧ job.vector = row.vector ∧ job.metadataHash = row.metadataHash := by
  have opened := ((stocked.drain drain running).head (identifier, row) rest left).found
  unfold Drain.event
  rw [left]
  exact opened

/-- A failure leaves an undelivered job sound. -/
theorem Job.Sound.fail {python : Python} {anomalies : List (Stored AnomalyEvent)} {identifier : String} {job : Job}
    (sound : job.Sound python anomalies identifier) (undelivered : job.state = .pending ∨ job.state = .scored)
    (error : DeliveryError) (now : Int) :
    job.Advances (job.fail error now) ∧ (job.fail error now).Sound python anomalies identifier := by
  have unsent : job.state ≠ .sent := by
    rcases undelivered with state | state <;> simp [state]
  refine ⟨⟨rfl, rfl, fun _ saved => saved, fun sent => absurd sent unsent⟩, sound.identified, sound.approved, ?_, ?_,
    sound.named, ?_⟩
  · cases retryable : error.retryable with
    | true => simpa [Job.fail, retryable] using sound.pending
    | false => simp [Job.fail, retryable]
  · cases retryable : error.retryable with
    | true => simpa [Job.fail, retryable] using sound.saved
    | false => simp [Job.fail, retryable]
  · cases retryable : error.retryable with
    | true => simp [Job.fail, retryable, unsent]
    | false => simp [Job.fail, retryable]

/-- The first event of a job is saved under the id of the job. -/
theorem Job.Sound.score {python : Python} {anomalies : List (Stored AnomalyEvent)} {identifier : String} {job : Job}
    (sound : job.Sound python anomalies identifier) (pending : job.state = .pending) {event : AnomalyEvent}
    (named : event.eventId = identifier) (now : Int) :
    job.Advances (job.score event now) ∧ (job.score event now).Sound python anomalies identifier := by
  rw [Job.score, if_pos pending]
  refine ⟨⟨rfl, rfl, by simp [sound.pending pending], by simp [pending]⟩, sound.identified, sound.approved, by simp,
    by simp, ?_, by simp⟩
  intro found same
  cases same
  exact named

/-- A job is sent when its event is in the index. -/
theorem Job.Sound.send {python : Python} {anomalies : List (Stored AnomalyEvent)} {identifier : String} {job : Job}
    (sound : job.Sound python anomalies identifier) {event : AnomalyEvent} (saved : job.event = some event)
    (there : ⟨anomalyIndex event.timestamp, identifier, event⟩ ∈ anomalies) (now : Int) :
    job.Advances (job.send now) ∧ (job.send now).Sound python anomalies identifier := by
  unfold Job.send
  split
  · rename_i scored
    refine ⟨⟨rfl, rfl, fun _ saved => saved, fun _ => rfl⟩, sound.identified, sound.approved, by simp,
      fun _ => ⟨event, saved⟩, sound.named, ?_⟩
    intro _ found same
    cases saved.symm.trans same
    exact there
  · exact ⟨Job.Advances.refl job, sound⟩

/-- A dead letter is sound when it goes on. -/
theorem Job.Sound.revive {python : Python} {anomalies : List (Stored AnomalyEvent)} {identifier : String} {job : Job}
    (sound : job.Sound python anomalies identifier) (dead : job.state = .deadletter) (now : Int) :
    job.Advances (job.revive now) ∧ (job.revive now).Sound python anomalies identifier := by
  refine ⟨⟨rfl, rfl, fun _ saved => saved, by simp [dead]⟩, sound.identified, sound.approved, ?_, ?_, sound.named, ?_⟩
  · cases saved : job.event with
    | none => simp [Job.revive, saved]
    | some event => simp [Job.revive, saved]
  · cases saved : job.event with
    | none => simp [Job.revive, saved]
    | some event => simp [Job.revive, saved]
  · cases saved : job.event with
    | none => simp [Job.revive, saved]
    | some event => simp [Job.revive, saved]

/-- After its first row a drain goes on with the others, when the update of the row lets it advance. -/
theorem Stocked.settle (stocked : Stocked deployment pipeline) {drain : Drain}
    (running : pipeline.activity = some (.draining drain)) {identifier : String} {row : Job}
    {rest : List (String × Job)} (left : drain.remaining = (identifier, row) :: rest) {update : Job → Job}
    {anomalies : List (Stored AnomalyEvent)} {requests : List (Stored AnomalyEvent)}
    (fine : ∀ job, pipeline.outbox.jobs.find? identifier = some job → job.Advances (update job) ∧
      (update job).Sound deployment.python anomalies identifier)
    (kept : pipeline.anomalies ⊆ anomalies) (documents : ∀ document ∈ anomalies, Backed pipeline.outbox document)
    (backed : ∀ request ∈ requests, Backed pipeline.outbox request) (single : Single anomalies) :
    Stocked deployment { pipeline with
      outbox := pipeline.outbox.change identifier update, activity := Pipeline.drained ⟨rest, none⟩
      anomalies, requests } := by
  have advances := advances_change fun job found => (fine job found).1
  refine stocked.change rfl fine kept (fun document member => (documents document member).advance advances)
    (fun request member => (backed request member).advance advances) single ?_
  exact drained_sound ((stocked.drain drain running).next left update)

/-- A drain that has scored its first row. -/
theorem Drain.Sound.score {outbox : Outbox} {drain : Drain} (sound : drain.Sound outbox) {identifier : String}
    {row job : Job} {rest : List (String × Job)} (left : drain.remaining = (identifier, row) :: rest)
    (unscored : drain.event = none) (found : outbox.jobs.find? identifier = some job) (pending : job.state = .pending)
    (vector : job.vector = row.vector) (hash : job.metadataHash = row.metadataHash) (event : AnomalyEvent) (now : Int) :
    Drain.Sound (outbox.saveEvent identifier event now) { drain with scored := some event } := by
  have nodup := sound.nodup
  have unsaved : row.event = none := by
    rw [Drain.event, left] at unscored
    exact (Option.or_eq_none_iff.mp unscored).1
  refine ⟨nodup, fun first more split => ?_, fun first member => ?_⟩
  · cases left.symm.trans split
    refine ⟨job.score event now, ?_, ?_, ?_, ?_, ?_⟩
    · rw [Outbox.saveEvent, find?_change, if_pos rfl, found, Option.map_some]
    · simp [Job.score, pending]
    · simp [Job.score, pending, unsaved]
    · simp [Job.score, pending, vector]
    · simp [Job.score, pending, hash]
  · refine (sound.tail first member).change ?_ _
    rw [left, List.map_cons, List.nodup_cons] at nodup
    intro same
    rw [left] at member
    have listed : first.1 ∈ rest.map Prod.fst := List.mem_map_of_mem member
    exact nodup.1 (same ▸ listed)

/-- A drain that scores its first row, or puts it off, leaves the stock in order. -/
theorem Stocked.infer (stocked : Stocked deployment pipeline) (reply : InferenceReply) (now : Int) :
    Stocked deployment (pipeline.infer deployment reply now) := by
  unfold Pipeline.infer
  split
  · rename_i drain running
    split
    · exact stocked
    rename_i unscored
    have drainSound := stocked.drain drain running
    cases left : drain.remaining with
    | nil =>
        simp only [Workers.infer, left]
        exact stocked.calm rfl rfl rfl (drained_sound drainSound)
    | cons head rest =>
        obtain ⟨identifier, row⟩ := head
        obtain ⟨job, found, state, event, vector, hash⟩ := stocked.first running left
        have sound := stocked.rows identifier job found
        have only : ∀ other, pipeline.outbox.jobs.find? identifier = some other → other = job :=
          fun other there => Option.some.inj (there.symm.trans found)
        simp only [Workers.infer, left]
        split
        · rename_i saved scored
          have pending : job.state = .pending := by
            rcases state with pending | done
            · exact pending
            · obtain ⟨earlier, there⟩ := sound.saved (Or.inl done)
              rw [event.trans unscored] at there
              cases there
          have fine : ∀ other, pipeline.outbox.jobs.find? identifier = some other →
              other.Advances (other.score saved now) ∧
                (other.score saved now).Sound deployment.python pipeline.anomalies identifier := by
            intro other there
            rw [only other there]
            exact sound.score pending (scoreJob_id scored) now
          have advances := advances_change fun other there => (fine other there).1
          refine stocked.change rfl fine (List.Subset.refl _)
            (fun document member => (stocked.documents document member).advance advances)
            (fun request member => (stocked.requests request member).advance advances) stocked.single ?_
          have next := drainSound.score left unscored found pending vector hash saved now
          rw [left] at next
          exact drained_sound next
        · rename_i error failed
          refine stocked.settle running left (fun other there => ?_) (List.Subset.refl _) stocked.documents
            stocked.requests stocked.single
          rw [only other there]
          exact sound.fail state error now
  · exact stocked

/-- The request of a drain is for the event of a job. -/
theorem Stocked.request (stocked : Stocked deployment pipeline) {drain : Drain}
    (running : pipeline.activity = some (.draining drain)) {event : AnomalyEvent} (scored : drain.event = some event) :
    ∃ identifier row rest, drain.remaining = (identifier, row) :: rest ∧
      drain.request event = [⟨anomalyIndex event.timestamp, identifier, event⟩] ∧
      Backed pipeline.outbox ⟨anomalyIndex event.timestamp, identifier, event⟩ := by
  cases left : drain.remaining with
  | nil =>
      rw [Drain.event, left] at scored
      cases scored
  | cons head rest =>
      obtain ⟨identifier, row⟩ := head
      obtain ⟨job, found, _, saved, _, _⟩ := stocked.first running left
      exact ⟨identifier, row, rest, rfl, by rw [Drain.request, left], job, found, saved.trans scored, rfl⟩

/-- The documents after a request for the event of a job are events of jobs. -/
theorem Stocked.put (stocked : Stocked deployment pipeline) {identifier : String} {event : AnomalyEvent}
    (backed : Backed pipeline.outbox ⟨anomalyIndex event.timestamp, identifier, event⟩) (fault : Option Fault) :
    ∀ document ∈ (put pipeline.anomalies (anomalyIndex event.timestamp) identifier event fault).2,
      Backed pipeline.outbox document := by
  intro document member
  rcases mem_put member with old | rfl
  · exact stocked.documents document old
  · exact backed

/-- A request that was answered has the event of the job in the index. -/
theorem Stocked.answered (stocked : Stocked deployment pipeline) {identifier : String} {event : AnomalyEvent}
    (backed : Backed pipeline.outbox ⟨anomalyIndex event.timestamp, identifier, event⟩) :
    ⟨anomalyIndex event.timestamp, identifier, event⟩ ∈
      insert pipeline.anomalies (anomalyIndex event.timestamp) identifier event := by
  obtain ⟨document, member, index, id⟩ := insert_there pipeline.anomalies
    (anomalyIndex event.timestamp) identifier event
  obtain ⟨job, found, saved, _⟩ := stocked.put backed none document member
  obtain ⟨other, there, event', _⟩ := backed
  have same : document.source = event := by
    rw [id] at found
    cases found.symm.trans there
    exact Option.some.inj (saved.symm.trans event')
  obtain ⟨place, name, source⟩ := document
  dsimp only at index id same
  subst same index id
  exact member

/-- A drain that publishes the event of its first row leaves the stock in order. -/
theorem Stocked.publish (stocked : Stocked deployment pipeline) (fault : Option Fault) (now : Int) :
    Stocked deployment (pipeline.publish fault now) := by
  unfold Pipeline.publish
  split
  · rename_i drain running
    split
    · exact stocked
    rename_i event scored
    obtain ⟨identifier, row, rest, left, request, backed⟩ := stocked.request running scored
    obtain ⟨job, found, state, saved, _, _⟩ := stocked.first running left
    have sound := stocked.rows identifier job found
    have only : ∀ other, pipeline.outbox.jobs.find? identifier = some other → other = job :=
      fun other there => Option.some.inj (there.symm.trans found)
    have requests : ∀ request ∈ pipeline.requests ++ drain.request event, Backed pipeline.outbox request := by
      intro made member
      rw [request, List.mem_append, List.mem_singleton] at member
      rcases member with old | rfl
      · exact stocked.requests made old
      · exact backed
    have documents := stocked.put backed fault
    have kept := subset_put pipeline.anomalies (anomalyIndex event.timestamp) identifier event fault
    have single := stocked.single.put (anomalyIndex event.timestamp) identifier event fault
    have later : job.Sound deployment.python
        (Workers.put pipeline.anomalies (anomalyIndex event.timestamp) identifier event fault).2 identifier :=
      ⟨sound.identified, sound.approved, sound.pending, sound.saved, sound.named,
        fun sent found same => kept (sound.delivered sent found same)⟩
    simp only [Workers.publish, left]
    split
    · rename_i error after answer
      rw [answer] at documents kept single later
      refine stocked.settle running left (fun other there => ?_) kept documents requests single
      rw [only other there]
      exact later.fail state error now
    · rename_i reply after unfailed answer
      have there : ⟨anomalyIndex event.timestamp, identifier, event⟩ ∈ after := by
        cases fault with
        | none =>
            have inserted := stocked.answered backed
            rw [Workers.put, Prod.mk.injEq] at answer
            exact answer.2 ▸ inserted
        | some fault =>
            rw [Workers.put, Prod.mk.injEq] at answer
            exact absurd answer.1.symm (unfailed fault.error)
      rw [answer] at documents kept single later
      refine stocked.settle running left (fun other found => ?_) kept documents requests single
      rw [only other found]
      exact later.send (saved.trans scored) there now
  · exact stocked

/-- A drain that dies during its request leaves the stock in order. -/
theorem Stocked.cutPublish (stocked : Stocked deployment pipeline) (effect : Bool) :
    Stocked deployment (pipeline.cutPublish effect) := by
  unfold Pipeline.cutPublish Pipeline.publish
  split
  · rename_i drain running
    split
    · exact stocked.calm rfl rfl rfl (by simp)
    rename_i event scored
    obtain ⟨identifier, row, rest, left, request, backed⟩ := stocked.request running scored
    generalize some (Fault.mk ⟨"", true⟩ effect) = fault
    have answer : (Workers.publish pipeline.anomalies pipeline.outbox drain event fault 0).1 =
        (Workers.put pipeline.anomalies (anomalyIndex event.timestamp) identifier event fault).2 := by
      simp only [Workers.publish, left]
      split
      · rename_i same
        rw [same]
      · rename_i same
        rw [same]
    refine ⟨stocked.nodup, ?_, by simp, ?_, ?_, ?_⟩
    · intro other job found
      have sound := stocked.rows other job found
      refine ⟨sound.identified, sound.approved, sound.pending, sound.saved, sound.named, fun sent event' saved => ?_⟩
      dsimp only
      rw [answer]
      exact subset_put _ _ _ _ fault (sound.delivered sent event' saved)
    · dsimp only
      rw [answer]
      exact stocked.put backed fault
    · intro made member
      dsimp only at member
      rw [request, List.mem_append, List.mem_singleton] at member
      rcases member with old | rfl
      · exact stocked.requests made old
      · exact backed
    · dsimp only
      rw [answer]
      exact stocked.single.put _ _ _ fault
  · exact stocked.calm rfl rfl rfl (by simp)

/-- Every move leaves the stock in order. -/
theorem Stocked.step (stocked : Stocked deployment pipeline) (move : Move) :
    Stocked deployment (pipeline.step deployment move) := by
  cases move with
  | infer reply now => exact stocked.infer reply now
  | publish fault now => exact stocked.publish fault now
  | cutPublish effect => exact stocked.cutPublish effect
  | stopEnrichment => exact stocked.calm rfl rfl rfl (by simp [Pipeline.step])
  | stopFeatures => exact stocked.calm rfl rfl rfl stocked.drain
  | runOnce limit answers => exact stocked.calm rfl rfl rfl stocked.drain
  | openWindow schema start fetched =>
      simp only [Pipeline.step, Pipeline.openWindow]
      split <;> exact stocked.calm rfl rfl rfl stocked.drain
  | deliver fault =>
      simp only [Pipeline.step, Pipeline.deliver]
      split <;> exact stocked.calm rfl rfl rfl stocked.drain
  | cutDeliver effect =>
      simp only [Pipeline.step, Pipeline.cutDeliver, Pipeline.deliver]
      split <;> exact stocked.calm rfl rfl rfl stocked.drain
  | beginPull schema metadataHash limit pageSize =>
      simp only [Pipeline.step, Pipeline.beginPull]
      split
      · exact stocked.calm rfl rfl rfl (by simp)
      · exact stocked
  | enqueue vector metadataHash now =>
      simp only [Pipeline.step, Pipeline.enqueue]
      split
      · rename_i idle _ enqueued
        exact stocked.grow (enqueue_grows enqueued) rfl rfl (by simp [idle])
      · exact stocked
  | readPage clock fault =>
      simp only [Pipeline.step, Pipeline.readPage]
      split
      · rename_i pull running
        have grows := readPage_grows deployment.python deployment.contracts clock pipeline.features
          pipeline.outbox pull fault
        split
        · rename_i result
          rw [result] at grows
          exact stocked.grow grows rfl rfl (by simp)
        · rename_i result
          rw [result] at grows
          exact stocked.grow grows rfl rfl (by simp)
        · rename_i result
          rw [result] at grows
          exact stocked.grow grows rfl rfl (by simp)
      · exact stocked
  | cutPage clock count =>
      simp only [Pipeline.step, Pipeline.cutPage]
      split
      · exact stocked.grow (consume_grows _ _ _ _ _) rfl rfl (by simp)
      · exact stocked
  | beginDrain now limit =>
      simp only [Pipeline.step, Pipeline.beginDrain]
      split
      · rename_i drain _ begun
        refine stocked.calm rfl rfl rfl (drained_sound ?_)
        simp only [beginDrain, Check.bind_ok, Check.guard_ok, Check.pure_ok] at begun
        obtain ⟨_, _, rfl⟩ := begun
        exact stocked.due now limit
      · exact stocked
  | requeue identifier now =>
      simp only [Pipeline.step, Pipeline.requeue]
      split
      · rename_i outbox idle revived
        unfold Outbox.requeue at revived
        split at revived
        · rename_i job found
          split at revived
          · rename_i dead
            cases revived
            have fine : ∀ other, pipeline.outbox.jobs.find? identifier = some other →
                other.Advances (other.revive now) ∧
                  (other.revive now).Sound deployment.python pipeline.anomalies identifier := by
              intro other there
              cases there.symm.trans found
              exact (stocked.rows identifier _ found).revive dead now
            have advances := advances_change fun other there => (fine other there).1
            exact stocked.change rfl fine (List.Subset.refl _)
              (fun document member => (stocked.documents document member).advance advances)
              (fun request member => (stocked.requests request member).advance advances) stocked.single
              (by simp [idle])
          · cases revived
        · cases revived
      · exact stocked

/-- The stock is in order after every run. -/
theorem run_stocked (deployment : Deployment) (moves : List Move) :
    Stocked deployment (Pipeline.run deployment moves) := by
  induction moves using List.reverseRecOn with
  | nil => exact Stocked.initial deployment
  | append_singleton front last ih =>
      rw [Pipeline.run, List.foldl_append]
      exact ih.step last

end Stock

end ClosedLoop.Workers
