import ClosedLoop.Proof.Workers.Vectors

namespace ClosedLoop.Workers

open ClosedLoop.Library ClosedLoop.Response

section Documents

variable {α : Type} {documents : List (Stored α)} {index id : String} {source : α}

/-- A document exists when one with its index and identifier is stored. -/
theorem exists?_iff : exists? documents index id = true ↔
    ∃ document ∈ documents, document.index = index ∧ document.id = id := by
  simp [exists?]

/-- An insertion adds the document when there is none under its id. -/
theorem insert_cases (documents : List (Stored α)) (index id : String) (source : α) : insert documents index id source = documents ∨
    exists? documents index id = false ∧ insert documents index id source = documents ++ [⟨index, id, source⟩] := by
  unfold insert
  cases known : exists? documents index id with
  | true => exact Or.inl rfl
  | false => exact Or.inr ⟨rfl, rfl⟩

/-- No two documents share an index and an id. -/
def Single (documents : List (Stored α)) : Prop :=
  ∀ first ∈ documents, ∀ second ∈ documents, first.index = second.index → first.id = second.id → first = second

/-- An insertion keeps one document for each address. -/
theorem Single.insert (single : Single documents) : Single (insert documents index id source) := by
  rcases insert_cases documents index id source with same | ⟨fresh, grown⟩
  · rw [same]
    exact single
  · rw [grown]
    have absent : ∀ document ∈ documents, document.index = index → document.id = id → False := by
      intro document member sameIndex sameId
      have known := exists?_iff.mpr ⟨document, member, sameIndex, sameId⟩
      simp [fresh] at known
    intro first firstMember second secondMember sameIndex sameId
    rw [List.mem_append, List.mem_singleton] at firstMember secondMember
    rcases firstMember with first | rfl
    · rcases secondMember with second | rfl
      · exact single _ first _ second sameIndex sameId
      · exact (absent _ first sameIndex sameId).elim
    · rcases secondMember with second | rfl
      · exact (absent _ second sameIndex.symm sameId.symm).elim
      · rfl

theorem Single.put (single : Single documents) (index id : String) (source : α) (fault : Option Fault) :
    Single (put documents index id source fault).2 := by
  unfold Workers.put
  cases fault with
  | none => exact single.insert
  | some fault =>
      cases effect : fault.effect with
      | true => simpa [effect] using single.insert
      | false => simpa [effect] using single

/-- The index and the id of a document. -/
def Stored.address (document : Stored α) : String × String := (document.index, document.id)

/-- The server never takes an address twice. -/
theorem nodup_insert (nodup : (documents.map Stored.address).Nodup) :
    ((insert documents index id source).map Stored.address).Nodup := by
  rcases insert_cases documents index id source with same | ⟨fresh, grown⟩
  · rw [same]
    exact nodup
  · rw [grown, List.map_append, List.nodup_append]
    refine ⟨nodup, by simp, ?_⟩
    intro address member other listed same
    rw [List.map_singleton, List.mem_singleton] at listed
    subst listed same
    obtain ⟨document, there, placed⟩ := List.mem_map.mp member
    have taken : exists? documents index id = true :=
      exists?_iff.mpr ⟨document, there, congrArg Prod.fst placed, congrArg Prod.snd placed⟩
    rw [fresh] at taken
    cases taken

/-- The addresses stay distinct. -/
theorem nodup_put (nodup : (documents.map Stored.address).Nodup) (fault : Option Fault) :
    ((put documents index id source fault).2.map Stored.address).Nodup := by
  unfold put
  split
  · exact nodup_insert nodup
  · dsimp only
    split
    · exact nodup_insert nodup
    · exact nodup

/-- An insertion adds its own document only. -/
theorem mem_insert {document : Stored α} (member : document ∈ insert documents index id source) :
    document ∈ documents ∨ document = ⟨index, id, source⟩ := by
  rcases insert_cases documents index id source with same | ⟨_, grown⟩
  · exact Or.inl (same ▸ member)
  · rwa [grown, List.mem_append, List.mem_singleton] at member

/-- An insertion loses no document. -/
theorem subset_insert : documents ⊆ insert documents index id source := by
  rcases insert_cases documents index id source with same | ⟨_, grown⟩
  · rw [same]
    exact List.Subset.refl _
  · rw [grown]
    exact List.subset_append_left _ _

/-- After an insertion there is a document under the id. -/
theorem insert_there (documents : List (Stored α)) (index id : String) (source : α) :
    ∃ document ∈ insert documents index id source, document.index = index ∧ document.id = id := by
  unfold insert
  cases known : exists? documents index id with
  | true => exact exists?_iff.mp known
  | false => exact ⟨⟨index, id, source⟩, by simp, rfl, rfl⟩

theorem mem_put {document : Stored α} {fault : Option Fault} (member : document ∈ (put documents index id source fault).2) :
    document ∈ documents ∨ document = ⟨index, id, source⟩ := by
  cases fault with
  | none => exact mem_insert member
  | some fault =>
      simp only [put] at member
      split at member
      · exact mem_insert member
      · exact Or.inl member

theorem subset_put (documents : List (Stored α)) (index id : String) (source : α) (fault : Option Fault) :
    documents ⊆ (put documents index id source fault).2 := by
  cases fault with
  | none => exact subset_insert
  | some fault =>
      simp only [put]
      split
      · exact subset_insert
      · exact List.Subset.refl _

end Documents

section Deliveries

/-- A request that takes effect, whatever is answered. -/
def Effective (fault : Option Fault) : Prop := ∀ failed ∈ fault, failed.effect = true

/-- A delivery leaves the documents, or adds the one of the first vector that is left. -/
theorem deliver_documents (documents : List (Stored FeatureVector)) (state : FeatureState) (delivery : Delivery)
    (fault : Option Fault) :
    (deliver documents state delivery fault).1 = documents ∨ Effective fault ∧
      ∃ vector ∈ delivery.remaining.head?, (deliver documents state delivery fault).1 =
        insert documents (featureIndex (delivery.start + fiveMinutes)) vector.vectorId vector := by
  unfold deliver
  split
  · exact Or.inl rfl
  · rename_i vector rest left
    have first : vector ∈ delivery.remaining.head? := by simp [left]
    unfold create
    by_cases refused : vector.vectorId = "" ∨ 512 < vector.vectorId.toList.length
    · rw [if_pos refused]
      exact Or.inl rfl
    rw [if_neg refused]
    cases fault with
    | none =>
        refine Or.inr ⟨by simp [Effective], vector, first, ?_⟩
        unfold put
        cases exists? documents (featureIndex (delivery.start + fiveMinutes)) vector.vectorId <;> rfl
    | some fault =>
        cases effect : fault.effect with
        | true => exact Or.inr ⟨by simp [Effective, effect], vector, first, by simp [put, effect]⟩
        | false => exact Or.inl (by simp [put, effect])

/-- After a delivery fewer vectors are left. -/
theorem deliver_remaining {documents : List (Stored FeatureVector)} {state : FeatureState}
    {delivery next : Delivery} {fault : Option Fault}
    (goesOn : (deliver documents state delivery fault).2.2 = some next) :
    next.start = delivery.start ∧ next.schema = delivery.schema ∧ next.remaining = delivery.remaining.tail := by
  unfold deliver at goesOn
  split at goesOn
  · cases goesOn
  · rename_i vector rest left
    split at goesOn
    · cases goesOn
    · cases goesOn
    · cases goesOn
      simp [left]

/-- The vectors of a window end with it, and they are of its schema. -/
theorem mem_buildVectors {python : Python} {contracts : Contracts} {engine : FeatureEngine} {gitSha : String}
    {schema : FeatureSchema} {events : List Json} {start : Int} {vectors : List FeatureVector}
    (built : buildVectors python contracts engine gitSha schema events start = .ok vectors) {vector : FeatureVector}
    (member : vector ∈ vectors) : ∃ digest group, vector = vectorOf python gitSha schema digest start group := by
  unfold buildVectors build at built
  simp only [Check.bind_ok, Check.pure_ok] at built
  obtain ⟨_, ⟨groups, _, digest, _, rfl⟩, _, _, rfl⟩ := built
  obtain ⟨group, _, same⟩ := List.mem_map.mp member
  exact ⟨digest, group, same.symm⟩

/-- The delivery of an opened window carries the vectors that were built for it. -/
theorem openWindow_delivery {python : Python} {contracts : Contracts} {engine : FeatureEngine} {gitSha : String}
    {state : FeatureState} {schema : FeatureSchema} {start : Int} {fetched : Fetched} {delivery : Delivery}
    (opened : (openWindow python contracts engine gitSha state schema start fetched).2 = some delivery) :
    ∃ events vectors, buildVectors python contracts engine gitSha schema events start = .ok vectors ∧
      delivery = ⟨schema, start, events.length, vectors.length, vectors⟩ := by
  unfold openWindow at opened
  split at opened
  · cases opened
  · cases opened
  · rename_i events _
    split at opened
    · cases opened
    · rename_i vectors built
      cases opened
      exact ⟨events, vectors, built, rfl⟩

end Deliveries

namespace Pipeline

variable (deployment : Deployment)

/-- The request for a document that a move makes takes effect. -/
def Creates : Move → Prop
  | .deliver fault => Effective fault
  | .cutDeliver effect => effect = true
  | _ => False

/-- A move leaves the vectors in the index, or adds the first one that is left to deliver. -/
theorem step_features (pipeline : Pipeline) (move : Move) :
    (pipeline.step deployment move).features = pipeline.features ∨ Creates move ∧
      ∃ delivery ∈ pipeline.delivery, ∃ vector ∈ delivery.remaining.head?,
        (pipeline.step deployment move).features =
          insert pipeline.features (featureIndex (delivery.start + fiveMinutes)) vector.vectorId vector := by
  have delivering : ∀ fault, (pipeline.deliver fault).features = pipeline.features ∨ Effective fault ∧
      ∃ delivery ∈ pipeline.delivery, ∃ vector ∈ delivery.remaining.head?, (pipeline.deliver fault).features =
        insert pipeline.features (featureIndex (delivery.start + fiveMinutes)) vector.vectorId vector := by
    intro fault
    unfold Pipeline.deliver
    split
    · exact Or.inl rfl
    · rename_i delivery running
      rcases deliver_documents pipeline.features pipeline.windows delivery fault with same | ⟨effect, vector, first, grown⟩
      · exact Or.inl same
      · exact Or.inr ⟨effect, delivery, running, vector, first, grown⟩
  cases move with
  | deliver fault => exact delivering fault
  | cutDeliver effect =>
      rcases delivering (some ⟨⟨"", true⟩, effect⟩) with same | ⟨effective, created⟩
      · exact Or.inl same
      · exact Or.inr ⟨by simpa [Effective, Creates] using effective, created⟩
  | openWindow | stopFeatures | enqueue | beginPull | readPage | cutPage | beginDrain | infer | publish | cutPublish
  | requeue | stopEnrichment | runOnce =>
      left
      simp only [step, Pipeline.openWindow, Pipeline.enqueue, Pipeline.beginPull, Pipeline.readPage, Pipeline.cutPage,
        Pipeline.beginDrain, Pipeline.infer, Pipeline.publish, Pipeline.cutPublish, Pipeline.requeue, Pipeline.runOnce]
      repeat' (first | rfl | split)

/-- A delivery that is under way after a move was under way before it, or is one of a window that was opened. -/
theorem step_delivery {pipeline : Pipeline} {move : Move} {next : Delivery}
    (running : (pipeline.step deployment move).delivery = some next) :
    (∃ delivery ∈ pipeline.delivery, next.start = delivery.start ∧ next.schema = delivery.schema ∧
      next.remaining <:+ delivery.remaining) ∨
    ∃ schema start events vectors, buildVectors deployment.python deployment.contracts deployment.engine
      deployment.gitSha schema events start = .ok vectors ∧
        next = ⟨schema, start, events.length, vectors.length, vectors⟩ := by
  have kept : pipeline.delivery = some next → ∃ delivery ∈ pipeline.delivery, next.start = delivery.start ∧
      next.schema = delivery.schema ∧ next.remaining <:+ delivery.remaining :=
    fun same => ⟨next, same, rfl, rfl, List.suffix_refl _⟩
  cases move with
  | openWindow schema start fetched =>
      simp only [step, Pipeline.openWindow] at running
      split at running
      · rename_i same
        exact Or.inl (kept running)
      · obtain ⟨events, vectors, built, same⟩ := openWindow_delivery running
        exact Or.inr ⟨schema, start, events, vectors, built, same⟩
  | deliver fault =>
      simp only [step, Pipeline.deliver] at running
      split at running
      · exact Or.inl (kept running)
      · rename_i delivery under
        obtain ⟨start, schema, left⟩ := deliver_remaining running
        exact Or.inl ⟨delivery, under, start, schema, left ▸ List.tail_suffix _⟩
  | cutDeliver effect => simp [step, Pipeline.cutDeliver] at running
  | stopFeatures => simp [step] at running
  | enqueue | beginPull | readPage | cutPage | beginDrain | infer | publish | cutPublish | requeue | stopEnrichment
  | runOnce =>
      refine Or.inl (kept ?_)
      rw [← running]
      simp only [step, Pipeline.enqueue, Pipeline.beginPull, Pipeline.readPage, Pipeline.cutPage, Pipeline.beginDrain,
        Pipeline.infer, Pipeline.publish, Pipeline.cutPublish, Pipeline.requeue, Pipeline.runOnce]
      repeat' (first | rfl | split)

/-- Every vector is stored in the index of its window, under its id, and once. -/
structure Filed (pipeline : Pipeline) : Prop where
  placed : ∀ document ∈ pipeline.features,
    document.index = featureIndex document.source.windowEnd ∧ document.id = document.source.vectorId
  single : Single pipeline.features
  ends : ∀ delivery ∈ pipeline.delivery, ∀ vector ∈ delivery.remaining,
    vector.windowEnd = delivery.start + fiveMinutes

/-- The empty pipeline is filed. -/
theorem Filed.initial : Filed {} where
  placed := by simp
  single := by simp [Single]
  ends := by simp

/-- Every move keeps documents filed under their own index. -/
theorem Filed.step {pipeline : Pipeline} (filed : Filed pipeline) (move : Move) :
    Filed (pipeline.step deployment move) where
  placed := by
    intro document member
    rcases step_features deployment pipeline move with same | ⟨_, delivery, running, vector, first, grown⟩
    · exact filed.placed document (same ▸ member)
    · have ends := filed.ends delivery running vector (List.mem_of_mem_head? first)
      rw [grown] at member
      rcases insert_cases pipeline.features (featureIndex (delivery.start + fiveMinutes)) vector.vectorId vector with
        known | ⟨_, added⟩
      · exact filed.placed document (known ▸ member)
      · rw [added, List.mem_append, List.mem_singleton] at member
        rcases member with old | rfl
        · exact filed.placed document old
        · exact ⟨by rw [ends], rfl⟩
  single := by
    rcases step_features deployment pipeline move with same | ⟨_, delivery, _, vector, _, grown⟩
    · exact same ▸ filed.single
    · exact grown ▸ filed.single.insert
  ends := by
    intro next running vector member
    rcases step_delivery deployment running with
      ⟨delivery, before, start, _, suffix⟩ | ⟨schema, start, events, vectors, built, rfl⟩
    · rw [start]
      exact filed.ends delivery before vector (suffix.subset member)
    · obtain ⟨digest, group, rfl⟩ := mem_buildVectors built member
      rfl

/-- Two vectors of one index at one place are the same. -/
theorem Filed.distinct {pipeline : Pipeline} (filed : Filed pipeline) (wanted : Stored FeatureVector → Bool) :
    Cursor.Distinct (fun document => document.source.place) wanted pipeline.features := by
  intro first firstMember second secondMember _ _ same
  have parts : first.source.windowEnd / 1000 = second.source.windowEnd / 1000 ∧
      first.source.vectorId = second.source.vectorId := by
    simpa [FeatureVector.place, sortTuple] using same
  obtain ⟨firstIndex, firstId⟩ := filed.placed first firstMember
  obtain ⟨secondIndex, secondId⟩ := filed.placed second secondMember
  have sameDay : day first.source.windowEnd = day second.source.windowEnd := by
    unfold day dateOf
    have days : first.source.windowEnd / 86400000000 = second.source.windowEnd / 86400000000 := by omega
    rw [days]
  refine filed.single first firstMember second secondMember ?_ ?_
  · rw [firstIndex, secondIndex, featureIndex, featureIndex, sameDay]
  · rw [firstId, secondId, parts.2]

end Pipeline

end ClosedLoop.Workers
