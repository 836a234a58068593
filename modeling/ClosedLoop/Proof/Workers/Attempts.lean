import ClosedLoop.Proof.Workers.Windows

namespace ClosedLoop.Workers

open ClosedLoop.Library ClosedLoop.Response

section Entities

variable {python : Python}

/-- The events are grouped under one key for each entity. -/
theorem groupEvent_keys {schema : FeatureSchema} (grouped : Table String (List Json)) (event : Json)
    (next : Table String (List Json)) (nodup : grouped.keys.Nodup) (ok : groupEvent python schema grouped event = .ok next) :
    next.keys.Nodup := by
  simp only [groupEvent, Check.bind_ok] at ok
  obtain ⟨entity, _, ok⟩ := ok
  cases entity with
  | none =>
      cases ok
      exact nodup
  | some entity =>
      cases ok
      exact Table.nodup_keys_upsert nodup entity _

/-- The groups of a window have different entities. -/
theorem groupsOf_entities {values : PythonValues} {baseline : Option (List String)} {schema : FeatureSchema}
    {events : List Json} {start : Int} {groups : List Group}
    (ok : groupsOf python values baseline schema events start = .ok groups) : (groups.map (·.entity)).Nodup := by
  simp only [groupsOf, Check.bind_ok] at ok
  obtain ⟨selected, _, grouped, fold, each⟩ := ok
  have nodup : grouped.keys.Nodup := Check.foldlM_keeps groupEvent_keys (by simp [Table.keys]) fold
  have entities : groups.map (·.entity) =
      (grouped.insertionSort fun first second => entityBefore schema first.1 second.1).map Prod.fst := by
    refine (Check.map_related (Check.mapM_ok.mp each) fun row group made => ?_).symm
    simp only [groupOf, Check.bind_ok, Check.pure_ok] at made
    obtain ⟨_, _, _, _, rfl⟩ := made
    rfl
  rw [entities]
  exact ((List.perm_insertionSort _ _).map Prod.fst).nodup_iff.mpr nodup

end Entities

section Documents

/-- The schema, the entity, and the window of a vector. -/
def FeatureVector.window (vector : FeatureVector) : FeatureSchema × String × Int :=
  (vector.featureSchema, vector.entity, vector.windowEnd)

variable (python : Python)

/-- A vector whose id is derived from its window and from its events. -/
def Minted (vector : FeatureVector) : Prop :=
  vector.vectorId = vectorIdOf python vector.featureSchema vector.entity (vector.windowEnd - fiveMinutes)
    vector.windowEnd vector.sourceEventSetSha256

/-- Every document has the place of a minted vector, and no two of them have the same window. -/
structure Unrepeated (documents : List (Stored FeatureVector)) : Prop where
  minted : ∀ document ∈ documents, Minted python document.source ∧
    document.index = featureIndex document.source.windowEnd ∧ document.id = document.source.vectorId
  windows : (documents.map fun document => document.source.window).Nodup

/-- A vector whose window is in the index repeats the events of the one that is there. -/
def Repeats (documents : List (Stored FeatureVector)) (vector : FeatureVector) : Prop :=
  ∀ document ∈ documents, document.source.window = vector.window →
    document.source.sourceEventSetSha256 = vector.sourceEventSetSha256

instance (documents : List (Stored FeatureVector)) (vector : FeatureVector) : Decidable (Repeats documents vector) :=
  inferInstanceAs (Decidable (∀ document ∈ documents, document.source.window = vector.window →
    document.source.sourceEventSetSha256 = vector.sourceEventSetSha256))

variable {python} {documents : List (Stored FeatureVector)} {vector : FeatureVector}

theorem vectorOf_minted (gitSha : String) (schema : FeatureSchema) (digest : String) (start : Int) (group : Group) :
    Minted python (vectorOf python gitSha schema digest start group) := by
  simp [Minted, vectorOf]

/-- A vector that repeats what is there finds its own id taken. -/
theorem Unrepeated.insert (fine : Unrepeated python documents) (minted : Minted python vector)
    (repeats : Repeats documents vector) :
    Unrepeated python (insert documents (featureIndex vector.windowEnd) vector.vectorId vector) := by
  rcases insert_cases documents (featureIndex vector.windowEnd) vector.vectorId vector with same | ⟨fresh, grown⟩
  · rw [same]
    exact fine
  · rw [grown]
    refine ⟨?_, ?_⟩
    · intro document member
      rcases List.mem_append.mp member with old | new
      · exact fine.minted document old
      · rw [List.mem_singleton.mp new]
        exact ⟨minted, rfl, rfl⟩
    · rw [List.map_append, List.nodup_append]
      refine ⟨fine.windows, by simp, ?_⟩
      intro window earlier other listed equal
      rw [List.map_singleton, List.mem_singleton] at listed
      subst listed equal
      obtain ⟨document, member, placed⟩ := List.mem_map.mp earlier
      obtain ⟨known, index, id⟩ := fine.minted document member
      have events := repeats document member placed
      have window : document.source.featureSchema = vector.featureSchema ∧ document.source.entity = vector.entity ∧
          document.source.windowEnd = vector.windowEnd := by
        simpa [FeatureVector.window] using placed
      have taken : exists? documents (featureIndex vector.windowEnd) vector.vectorId = true := by
        refine exists?_iff.mpr ⟨document, member, by rw [index, window.2.2], ?_⟩
        rw [id, known, minted, window.1, window.2.1, window.2.2, events]
      rw [fresh] at taken
      cases taken

/-- A new document does not disturb a vector of another window. -/
theorem Repeats.insert {other : FeatureVector} (repeats : Repeats documents vector) (different : other.window ≠ vector.window)
    (index id : String) : Repeats (insert documents index id other) vector := by
  intro document member same
  rcases mem_insert member with old | rfl
  · exact repeats document old same
  · exact absurd same different

end Documents

section Requests

/-- The vectors whose requests take effect. The loop ends at the first request that fails. -/
def effectiveVectors : List FeatureVector → List CreateFate → List FeatureVector
  | [], _ => []
  | vector :: rest, fates =>
      match fates.headD (.answered none) with
      | .killed effect => if effect then [vector] else []
      | .answered (some fault) => if fault.effect then [vector] else []
      | .answered none => vector :: effectiveVectors rest fates.tail

/-- A request leaves the documents, or it takes effect and inserts its vector. -/
theorem create_documents (documents : List (Stored FeatureVector)) (index : String) (vector : FeatureVector)
    (fault : Option Fault) :
    (create documents index vector.vectorId vector fault).2 = documents ∨ Effective fault ∧
      (create documents index vector.vectorId vector fault).2 = insert documents index vector.vectorId vector := by
  unfold create
  split
  · exact Or.inl rfl
  · cases fault with
    | none => exact Or.inr ⟨by simp [Effective], rfl⟩
    | some fault =>
        cases effect : fault.effect with
        | true => exact Or.inr ⟨by simp [Effective, effect], by simp [put, effect]⟩
        | false => exact Or.inl (by simp [put, effect])

/-- The vectors that take effect are vectors of the window. -/
theorem effectiveVectors_subset (vectors : List FeatureVector) (fates : List CreateFate) :
    effectiveVectors vectors fates ⊆ vectors := by
  induction vectors generalizing fates with
  | nil => exact List.Subset.refl _
  | cons vector rest ih =>
      unfold effectiveVectors
      split
      · split <;> simp
      · split <;> simp
      · exact List.cons_subset_cons vector (ih fates.tail)

/-- A request that fails ends the loop. -/
theorem createVectors_fault {index : String} {documents : List (Stored FeatureVector)} {vector : FeatureVector}
    {rest : List FeatureVector} {fates : List CreateFate} {fault : Fault}
    (fate : fates.headD (.answered none) = .answered (some fault)) :
    (createVectors index documents (vector :: rest) fates).1 =
      (create documents index vector.vectorId vector (some fault)).2 := by
  unfold createVectors
  rw [fate]
  by_cases refused : vector.vectorId = "" ∨ 512 < vector.vectorId.toList.length
  · simp only [create, if_pos refused]
  · simp only [create, if_neg refused, put]

/-- A request that is answered lets the loop go on, unless the client refuses the id. -/
theorem createVectors_answer {index : String} {documents : List (Stored FeatureVector)} {vector : FeatureVector}
    {rest : List FeatureVector} {fates : List CreateFate} (fate : fates.headD (.answered none) = .answered none) :
    (createVectors index documents (vector :: rest) fates).1 = documents ∨
      (createVectors index documents (vector :: rest) fates).1 =
        (createVectors index (insert documents index vector.vectorId vector) rest fates.tail).1 := by
  rw [createVectors, fate]
  by_cases refused : vector.vectorId = "" ∨ 512 < vector.vectorId.toList.length
  · left
    simp only [create, if_pos refused]
  · right
    simp only [create, if_neg refused, put]
    cases exists? documents index vector.vectorId <;> rfl

variable {python : Python} {windowEnd : Int}

/-- The loop over the vectors of a window repeats no window. -/
theorem createVectors_unrepeated {vectors : List FeatureVector} {fates : List CreateFate}
    {documents : List (Stored FeatureVector)} (fine : Unrepeated python documents)
    (minted : ∀ vector ∈ vectors, Minted python vector ∧ vector.windowEnd = windowEnd)
    (apart : (vectors.map FeatureVector.window).Nodup)
    (repeats : ∀ vector ∈ effectiveVectors vectors fates, Repeats documents vector) :
    Unrepeated python (createVectors (featureIndex windowEnd) documents vectors fates).1 := by
  induction vectors generalizing documents fates with
  | nil => exact fine
  | cons vector rest ih =>
      obtain ⟨own, ends⟩ := minted vector List.mem_cons_self
      have one : ∀ fault : Option Fault, (Effective fault → Repeats documents vector) →
          Unrepeated python (create documents (featureIndex windowEnd) vector.vectorId vector fault).2 := by
        intro fault known
        rcases create_documents documents (featureIndex windowEnd) vector fault with same | ⟨effective, grown⟩
        · rw [same]
          exact fine
        · rw [grown, ← ends]
          exact fine.insert own (known effective)
      unfold effectiveVectors at repeats
      cases fate : fates.headD (.answered none) with
      | killed effect =>
          rw [fate] at repeats
          rw [createVectors, fate]
          refine one _ fun effective => repeats vector ?_
          have happens : effect = true := by simpa [Effective] using effective
          simp [happens]
      | answered fault =>
          rw [fate] at repeats
          cases fault with
          | some fault =>
              rw [createVectors_fault fate]
              refine one _ fun effective => repeats vector ?_
              have happens : fault.effect = true := by simpa [Effective] using effective
              simp [happens]
          | none =>
              have first := repeats vector List.mem_cons_self
              rw [List.map_cons, List.nodup_cons] at apart
              rcases createVectors_answer fate with same | goesOn
              · rw [same]
                exact fine
              · rw [goesOn]
                refine ih (ends ▸ fine.insert own first) (fun other member => minted other (List.mem_cons_of_mem _ member))
                  apart.2 fun other member => ?_
                have listed := effectiveVectors_subset rest fates.tail member
                refine (repeats other (List.mem_cons_of_mem _ member)).insert ?_ _ _
                intro same
                exact apart.1 (same ▸ List.mem_map_of_mem listed)

end Requests

section Attempts

variable (python : Python) (contracts : Contracts) (engine : FeatureEngine) (gitSha : String)

/-- The vectors of an attempt at a window whose requests take effect. -/
def Attempt.vectors (schema : FeatureSchema) (start : Int) (attempt : Attempt) : List FeatureVector :=
  match attempt.fetched with
  | .error _ => []
  | .ok fetched =>
      match (openWindow python contracts engine gitSha [] schema start fetched).2 with
      | none => []
      | some delivery => effectiveVectors delivery.remaining attempt.creates

/-- An attempt at a window, with the documents before it. -/
structure Tried where
  documents : List (Stored FeatureVector)
  schema : FeatureSchema
  start : Int
  attempt : Attempt

/-- Each vector that an attempt brings into the index repeats the events of one that is there for its entity and
window. -/
def Tried.Repeats (tried : Tried) : Prop :=
  ∀ vector ∈ tried.attempt.vectors python contracts engine gitSha tried.schema tried.start,
    Workers.Repeats tried.documents vector

/-- The attempts in the loop of `run_once` over the windows of a schema. -/
def triedIn (schema : FeatureSchema) : FeatureStore → List Int → List Attempt → List Tried
  | _, [], _ => []
  | store, start :: rest, attempts =>
      let attempt := attempts.headD { fetched := .ok (.events []) }
      ⟨store.documents, schema, start, attempt⟩ ::
        match processWindow python contracts engine gitSha store schema start attempt with
        | (_, none) => []
        | (store, some _) => triedIn schema store rest attempts.tail

/-- The attempts of a call. -/
def triedOnce (schedule : Schedule) (now : Int) : FeatureStore → List FeatureSchema → List Attempt → List Tried
  | _, [], _ => []
  | store, schema :: rest, attempts =>
      triedIn python contracts engine gitSha schema store (schedule.plan store.windows schema now) attempts ++
        match processWindows python contracts engine gitSha schema store
          (schedule.plan store.windows schema now) attempts with
        | (_, none, _) => []
        | (store, some _, attempts) => triedOnce schedule now store rest attempts

/-- In each attempt of a call the vectors that get through repeat the events of what is there. -/
def WorkerCall.Repeats (schedule : Schedule) (store : FeatureStore) (call : WorkerCall) : Prop :=
  ∀ tried ∈ triedOnce python contracts engine gitSha schedule call.now store call.schemas call.attempts,
    tried.Repeats python contracts engine gitSha

instance (schedule : Schedule) (store : FeatureStore) (call : WorkerCall) :
    Decidable (call.Repeats python contracts engine gitSha schedule store) :=
  inferInstanceAs (Decidable (∀ tried ∈ triedOnce python contracts engine gitSha schedule call.now store call.schemas
    call.attempts, ∀ vector ∈ tried.attempt.vectors python contracts engine gitSha tried.schema tried.start,
      Workers.Repeats tried.documents vector))

variable {python contracts gitSha} {values : PythonValues} {baseline : Option (List String)}

/-- The vectors of a window are of different entities. -/
theorem buildVectors_windows {schema : FeatureSchema} {events : List Json} {start : Int} {vectors : List FeatureVector}
    (built : buildVectors python contracts (featureEngine python values baseline) gitSha schema events start = .ok vectors) :
    (vectors.map FeatureVector.window).Nodup := by
  simp only [buildVectors, build, Check.bind_ok, Check.pure_ok] at built
  obtain ⟨_, ⟨groups, grouped, digest, _, rfl⟩, _, _, rfl⟩ := built
  have entities := groupsOf_entities grouped
  rw [List.map_map]
  refine List.Nodup.of_map (fun window => window.2.1) ?_
  rw [List.map_map]
  exact entities

theorem attemptWindow_unrepeated {documents : List (Stored FeatureVector)} {schema : FeatureSchema} {start : Int}
    {attempt : Attempt} (fine : Unrepeated python documents)
    (repeats : Tried.Repeats python contracts (featureEngine python values baseline) gitSha
      ⟨documents, schema, start, attempt⟩) :
    Unrepeated python (attemptWindow python contracts (featureEngine python values baseline) gitSha documents schema start
      attempt).1 := by
  unfold Tried.Repeats Attempt.vectors at repeats
  unfold attemptWindow
  split
  · exact fine
  · rename_i fetched found
    dsimp only at repeats
    rw [found] at repeats
    dsimp only at repeats
    split
    · exact fine
    · rename_i delivery opened
      rw [opened] at repeats
      obtain ⟨events, vectors, built, rfl⟩ := openWindow_delivery (congrArg Prod.snd opened)
      have after : Unrepeated python (createVectors (featureIndex (start + fiveMinutes)) documents vectors
          attempt.creates).1 := by
        refine createVectors_unrepeated fine (fun vector member => ?_) (buildVectors_windows built) repeats
        obtain ⟨digest, group, rfl⟩ := mem_buildVectors built member
        exact ⟨vectorOf_minted _ _ _ _ _, rfl⟩
      dsimp only
      split <;> rename_i result <;> rw [result] at after <;> exact after

theorem processWindow_documents (store : FeatureStore) (schema : FeatureSchema) (start : Int) (attempt : Attempt) :
    (processWindow python contracts engine gitSha store schema start attempt).1.documents =
      (attemptWindow python contracts engine gitSha store.documents schema start attempt).1 := by
  unfold processWindow
  generalize attemptWindow python contracts engine gitSha store.documents schema start attempt = result
  obtain ⟨documents, row⟩ := result
  cases row with
  | none => rfl
  | some row => cases attempt.recorded <;> rfl

theorem processWindows_unrepeated {schema : FeatureSchema} {windows : List Int} {store : FeatureStore}
    {attempts : List Attempt} (fine : Unrepeated python store.documents)
    (repeats : ∀ tried ∈ triedIn python contracts (featureEngine python values baseline) gitSha schema store windows attempts,
      tried.Repeats python contracts (featureEngine python values baseline) gitSha) :
    Unrepeated python (processWindows python contracts (featureEngine python values baseline) gitSha schema store windows
      attempts).1.documents := by
  induction windows generalizing store attempts with
  | nil => exact fine
  | cons start rest ih =>
      unfold triedIn at repeats
      have one := attemptWindow_unrepeated fine (repeats _ List.mem_cons_self)
      rw [← processWindow_documents] at one
      unfold processWindows
      split
      · rename_i ended
        rw [ended] at one
        exact one
      · rename_i went
        rw [went] at one
        refine ih one fun tried member => repeats tried (List.mem_cons_of_mem _ ?_)
        rw [went]
        exact member

theorem runOnce_unrepeated {schedule : Schedule} {now : Int} {schemas : List FeatureSchema} {store : FeatureStore}
    {attempts : List Attempt} (fine : Unrepeated python store.documents)
    (repeats : ∀ tried ∈ triedOnce python contracts (featureEngine python values baseline) gitSha schedule now store schemas
      attempts, tried.Repeats python contracts (featureEngine python values baseline) gitSha) :
    Unrepeated python (runOnce python contracts (featureEngine python values baseline) gitSha schedule now store schemas
      attempts).1.documents := by
  induction schemas generalizing store attempts with
  | nil => exact fine
  | cons schema rest ih =>
      unfold triedOnce at repeats
      have one := processWindows_unrepeated fine fun tried member => repeats tried (List.mem_append_left _ member)
      unfold runOnce
      split
      · rename_i ended
        rw [ended] at one
        exact one
      · rename_i went
        rw [went] at one
        refine ih one fun tried member => repeats tried (List.mem_append_right _ ?_)
        rw [went]
        exact member

end Attempts

section Runs

variable (python : Python) (contracts : Contracts) (engine : FeatureEngine) (gitSha : String) (schedule : Schedule)

/-- After every call the index holds at most one vector for each schema, entity, and window. -/
def OneVectorPerWindow (calls : List WorkerCall) : Prop :=
  ∀ before after, calls = before ++ after →
    ((runCalls python contracts engine gitSha schedule before).documents.map fun document => document.source.window).Nodup

/-- The index holds one vector for each window in a run in which each request that gets through repeats the events of
the vector that is there. -/
theorem one_vector_per_window (values : PythonValues) (baseline : Option (List String)) (calls : List WorkerCall)
    (repeats : Always (fun earlier call => call.Repeats python contracts (featureEngine python values baseline) gitSha
      schedule (runCalls python contracts (featureEngine python values baseline) gitSha schedule earlier)) calls) :
    OneVectorPerWindow python contracts (featureEngine python values baseline) gitSha schedule calls := by
  intro before after split
  subst split
  have fine : Unrepeated python (runCalls python contracts (featureEngine python values baseline) gitSha schedule
      before).documents := by
    refine Always.foldl (fun store call => WorkerCall.Repeats python contracts (featureEngine python values baseline) gitSha
      schedule store call) (fun store => Unrepeated python store.documents) repeats.earlier ⟨by simp, by simp⟩ ?_
    exact fun store call fine same => runOnce_unrepeated fine same
  exact fine.windows

end Runs

section Lab

/-- The worker asks for the first window of the day, and its request for the one vector ends as given. -/
def labRequest (minute : Int) (events : List Json) (fate : CreateFate) : WorkerCall :=
  ⟨deskTime + seconds (60 * minute), [.networkWindow], [⟨.ok (.events events), [fate], true⟩]⟩

/-- The vector is stored and the answer is lost. -/
def lostAnswer : WorkerCall :=
  labRequest 11 [labFlow "flow-1" "2026-01-01T00:01:00Z"]
    (.answered (some ⟨⟨"TLS_OR_NETWORK_UNAVAILABLE", true⟩, true⟩))

/-- The retry finds a second flow of the window. -/
def lateArrival : WorkerCall :=
  labRequest 12 [labFlow "flow-1" "2026-01-01T00:01:00Z", labFlow "flow-3" "2026-01-01T00:02:00Z"] (.answered none)

/-- The retry stores a second vector of the window, under another id. -/
theorem late_arrival_repeats_window : (runCalls labPython labContracts labDeployment.engine "0123abc" labSchedule
      [lostAnswer, lateArrival]).documents.map (fun document => document.source.window) =
        [(.networkWindow, "192.168.40.10", deskTime + fiveMinutes),
          (.networkWindow, "192.168.40.10", deskTime + fiveMinutes)] ∧
    ¬ OneVectorPerWindow labPython labContracts labDeployment.engine "0123abc" labSchedule [lostAnswer, lateArrival] := by
  have twice : (runCalls labPython labContracts labDeployment.engine "0123abc" labSchedule
      [lostAnswer, lateArrival]).documents.map (fun document => document.source.window) =
        [(.networkWindow, "192.168.40.10", deskTime + fiveMinutes),
          (.networkWindow, "192.168.40.10", deskTime + fiveMinutes)] := by decide +kernel
  refine ⟨twice, fun single => ?_⟩
  have nodup := single [lostAnswer, lateArrival] [] (by simp)
  rw [twice] at nodup
  simp at nodup

/-- The retry finds the same flow. -/
def repeatedRequest : List WorkerCall :=
  [lostAnswer, labRequest 12 [labFlow "flow-1" "2026-01-01T00:01:00Z"] (.answered none)]

theorem repeated_request_repeats : Always (fun earlier call => WorkerCall.Repeats labPython labContracts
    (featureEngine labPython labValues none) "0123abc" labSchedule (runCalls labPython labContracts
      (featureEngine labPython labValues none) "0123abc" labSchedule earlier) call) repeatedRequest := by
  have first : Always (fun earlier call => WorkerCall.Repeats labPython labContracts
      (featureEngine labPython labValues none) "0123abc" labSchedule (runCalls labPython labContracts
        (featureEngine labPython labValues none) "0123abc" labSchedule earlier) call) [lostAnswer] :=
    Always.snoc (Always.nil _) (by decide +kernel)
  exact first.snoc (by decide +kernel)

/-- The retry finds the vector of the window in its place. -/
theorem repeated_request_one_vector : (runCalls labPython labContracts (featureEngine labPython labValues none) "0123abc"
      labSchedule repeatedRequest).documents.map (fun document => document.source.window) =
        [(.networkWindow, "192.168.40.10", deskTime + fiveMinutes)] ∧
    OneVectorPerWindow labPython labContracts (featureEngine labPython labValues none) "0123abc" labSchedule
      repeatedRequest :=
  ⟨by decide +kernel, one_vector_per_window _ _ _ _ _ _ repeatedRequest repeated_request_repeats⟩

end Lab

end ClosedLoop.Workers
