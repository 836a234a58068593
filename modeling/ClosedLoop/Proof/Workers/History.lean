import ClosedLoop.Construction.Workers.History
import ClosedLoop.Proof.Workers.Pulling

namespace ClosedLoop.Workers

open ClosedLoop.Library ClosedLoop.Response

section Texts

/-- The characters of a time up to its seconds. -/
def secondsChars (value : Int) : List Char :=
  let date := dateOf value
  let time := (value % 86400000000).toNat
  Calendar.yearChars date.1 ++ ('-' :: Calendar.lastDigits 2 date.2.1 ++ '-' :: Calendar.lastDigits 2 date.2.2 ++
    'T' :: Calendar.lastDigits 2 (time / 3600000000) ++ ':' :: Calendar.lastDigits 2 (time / 60000000 % 60) ++
    ':' :: Calendar.lastDigits 2 (time / 1000000 % 60))

/-- The characters of the microseconds, if there are some. -/
def fractionChars (value : Int) : List Char :=
  let time := (value % 86400000000).toNat
  if time % 1000000 = 0 then [] else '.' :: Calendar.lastDigits 6 (time % 1000000)

/-- A written time is its seconds, its fraction and the zone. -/
theorem rfc3339_chars (value : Int) :
    (rfc3339 value).toList = secondsChars value ++ fractionChars value ++ ['Z'] := by
  simp only [rfc3339, String.toList_ofList, secondsChars, fractionChars, List.append_assoc, List.cons_append]

/-- The seconds hold no point. -/
theorem point_not_mem_secondsChars (value : Int) : '.' ∉ secondsChars value := by
  have digits : ∀ width number, '.' ∉ Calendar.lastDigits width number := fun width number member =>
    absurd (Calendar.lastDigits_digits width number '.' member) (by decide)
  have year : ∀ number : Int, '.' ∉ Calendar.yearChars number := fun number member =>
    (Calendar.mem_yearChars member).elim (by decide) (by decide)
  simp [secondsChars, year, digits]

/-- The fraction is what a text has after its point. -/
theorem fractionChars_length {first second : Int}
    (same : secondsChars first ++ fractionChars first = secondsChars second ++ fractionChars second) :
    (fractionChars first).length = (fractionChars second).length := by
  have pointed : ∀ value, '.' ∈ secondsChars value ++ fractionChars value ↔ fractionChars value ≠ [] := by
    intro value
    rw [List.mem_append, or_iff_right (point_not_mem_secondsChars value)]
    unfold fractionChars
    dsimp only
    split <;> simp
  have sized : ∀ value, (fractionChars value).length = if fractionChars value = [] then 0 else 7 := by
    intro value
    unfold fractionChars
    dsimp only
    split <;> simp [Calendar.length_lastDigits]
  have both : fractionChars first = [] ↔ fractionChars second = [] := by
    rw [← not_iff_not, ← ne_eq, ← ne_eq, ← pointed, ← pointed, same]
  rw [sized, sized]
  simp only [both]

/-- Different times have different texts. -/
theorem rfc3339_injective {first second : Int} (same : rfc3339 first = rfc3339 second) : first = second := by
  have chars := congrArg String.toList same
  rw [rfc3339_chars, rfc3339_chars] at chars
  have parts := (List.append_inj' chars rfl).1
  obtain ⟨whole, fractions⟩ := List.append_inj' parts (fractionChars_length parts)
  obtain ⟨years, rests⟩ := List.append_inj' whole (by simp [Calendar.length_lastDigits])
  simp only [List.cons_append, List.append_assoc, List.cons.injEq, true_and] at rests
  obtain ⟨months, rests⟩ := Calendar.block_unique rests
  obtain ⟨days, rests⟩ := Calendar.block_unique rests
  obtain ⟨hours, rests⟩ := Calendar.block_unique rests
  obtain ⟨minutes, rests⟩ := Calendar.block_unique rests
  have seconds := Calendar.lastDigits_unique rests
  have ordinals := Calendar.ordinal_unique years months days
  have micros : (first % 86400000000).toNat % 1000000 = (second % 86400000000).toNat % 1000000 := by
    unfold fractionChars at fractions
    dsimp only at fractions
    split at fractions <;> split at fractions
    · omega
    · cases fractions
    · cases fractions
    · have digits := Calendar.lastDigits_unique (List.cons.inj fractions).2
      simp only [Nat.reducePow] at digits
      omega
  simp only [Nat.reducePow] at hours minutes seconds
  clear same chars parts whole fractions years rests months days
  omega

end Texts

section Search

/-- A vector matches the filters of a search. The index keeps dates as multiples of its resolution. -/
def HistoryQuery.Matches (query : HistoryQuery) (resolution : Int) (vector : FeatureVector) : Prop :=
  vector.featureSchema.text = query.featureSchema ∧ vector.entity = query.entity ∧
    ∃ moment, rfc3339 moment ∈ query.ends ∧ moment / resolution = vector.windowEnd / resolution

open Classical in
/-- An index that holds these vectors answers with matching ones in any order, and with no more than were asked for. -/
def SearchAnswers (resolution : Int) (vectors : List FeatureVector) (query : HistoryQuery) (hits : List FeatureVector) : Prop :=
  ∃ matched : List FeatureVector, matched.Perm (vectors.filter fun vector => query.Matches resolution vector) ∧
    hits = matched.take query.size

/-- The window of a vector, as the index sees it. -/
def FeatureVector.entityEnd (resolution : Int) (vector : FeatureVector) : String × Int :=
  (vector.entity, vector.windowEnd / resolution)

/-- No entity has two vectors for a window. -/
def OnePerWindow (resolution : Int) (vectors : List FeatureVector) : Prop :=
  (vectors.map (FeatureVector.entityEnd resolution)).Nodup

variable {resolution : Int} {vectors : List FeatureVector}

/-- Vectors of one entity with different windows have different ends. -/
theorem nodup_ends (unique : OnePerWindow resolution vectors) :
    (vectors.map fun vector => (vector.entity, rfc3339 vector.windowEnd)).Nodup := by
  refine List.Pairwise.map _ (fun {first second} apart same => apart ?_) (List.pairwise_map.mp unique)
  obtain ⟨entities, texts⟩ := Prod.mk.inj same
  exact Prod.ext entities (congrArg (· / resolution) (rfc3339_injective texts))

/-- The hits of a search for the ends of windows. -/
structure Finds (vectors : List FeatureVector) (query : HistoryQuery) (ends : List Int) (hits : List FeatureVector) :
    Prop where
  known : ∀ hit ∈ hits, hit ∈ vectors ∧ hit.entity = query.entity
  distinct : (hits.map fun hit => rfc3339 hit.windowEnd).Nodup
  all : ∀ vector ∈ vectors, vector.featureSchema.text = query.featureSchema → vector.entity = query.entity →
    vector.windowEnd ∈ ends → vector ∈ hits

/-- A search that asks for as many vectors as there are windows misses none. -/
theorem finds_of_answers (unique : OnePerWindow resolution vectors) {query : HistoryQuery} {ends : List Int}
    (asked : query.ends = ends.map rfc3339) (size : query.size = ends.length) {hits : List FeatureVector}
    (answers : SearchAnswers resolution vectors query hits) : Finds vectors query ends hits := by
  classical
  obtain ⟨matched, perm, rfl⟩ := answers
  have members : ∀ {vector}, vector ∈ matched ↔ vector ∈ vectors ∧ query.Matches resolution vector := by
    intro vector
    rw [perm.mem_iff, List.mem_filter, decide_eq_true_eq]
  have windows : (matched.map (FeatureVector.entityEnd resolution)).Nodup :=
    (perm.map _).nodup_iff.mpr (unique.sublist (List.filter_sublist.map _))
  have few : matched.length ≤ query.size := by
    have fits : matched.map (FeatureVector.entityEnd resolution) ⊆ ends.map fun last => (query.entity, last / resolution) := by
      intro window member
      obtain ⟨vector, listed, rfl⟩ := List.mem_map.mp member
      obtain ⟨_, _, entity, moment, named, same⟩ := members.mp listed
      rw [asked] at named
      obtain ⟨last, inside, text⟩ := List.mem_map.mp named
      refine List.mem_map.mpr ⟨last, inside, ?_⟩
      rw [FeatureVector.entityEnd, entity, ← same, rfc3339_injective text]
    have bound := (List.subperm_of_subset windows fits).length_le
    rw [List.length_map, List.length_map] at bound
    rw [size]
    exact bound
  rw [List.take_of_length_le few]
  refine ⟨fun hit member => ?_, ?_, fun vector listed schema entity inside => ?_⟩
  · obtain ⟨listed, _, entity, _⟩ := members.mp member
    exact ⟨listed, entity⟩
  · refine List.Nodup.map_on (fun first here second there same => ?_) (List.Nodup.of_map _ windows)
    have entities := (members.mp here).2.2.1.trans (members.mp there).2.2.1.symm
    refine List.inj_on_of_nodup_map windows here there (Prod.ext entities ?_)
    exact congrArg (· / resolution) (rfc3339_injective same)
  · refine members.mpr ⟨listed, schema, entity, vector.windowEnd, ?_, rfl⟩
    rw [asked]
    exact List.mem_map_of_mem inside

end Search

section Agreement

variable {python : Python} {resolution : Int} {vectors : List FeatureVector}

/-- `datetime.fromisoformat` reads the text of a time back. -/
def ReadsTime (python : Python) (time : Int) : Prop := python.fromIsoformat (rfc3339 time) = some (.aware time)

/-- A time that reads back is parsed to itself. -/
theorem parseTimestamp_rfc3339 {time : Int} (reads : ReadsTime python time) :
    parseTimestamp python (rfc3339 time) = .ok time := by
  rw [parseTimestamp, reads]

/-- The windows before a window begin after the beginning of the year 1. -/
def Reaches (windowEnd length : Int) : Prop := earliestTime ≤ windowEnd - fiveMinutes * (length - 1)

/-- The ends of a history are the ends before its last window. -/
theorem historyWindowEnds_ok {time : Int} (reads : ReadsTime python time) {length : Int} (long : 2 ≤ length)
    (reaches : Reaches time length) :
    historyWindowEnds python (rfc3339 time) length = .ok ((endsBefore time (length - 1).toNat).map rfc3339) := by
  simp only [historyWindowEnds, Check.bind_ok, Check.guard_ok, Check.pure_ok]
  exact ⟨(), long, time, parseTimestamp_rfc3339 reads, (), reaches, rfl⟩

/-- A sequence that begins before the year 1 overflows. -/
theorem historyWindowEnds_overflow {time : Int} (reads : ReadsTime python time) {length : Int} (long : 2 ≤ length)
    (early : ¬ Reaches time length) : historyWindowEnds python (rfc3339 time) length = .error dateOverflow := by
  unfold Reaches at early
  simp [historyWindowEnds, Check.guard, long, early, parseTimestamp_rfc3339 reads, bind, Except.bind]

/-- A table of distinct keys has exactly the rows of its items. -/
theorem find?_map {α κ β : Type} [DecidableEq κ] {items : List α} {key : α → κ} (distinct : (items.map key).Nodup)
    (value : α → β) (wanted : κ) (found : β) :
    Table.find? (items.map fun item => (key item, value item)) wanted = some found ↔
      ∃ item ∈ items, key item = wanted ∧ value item = found := by
  have keys : (Table.keys (items.map fun item => (key item, value item))).Nodup := by
    rw [Table.keys, List.map_map]
    exact distinct
  constructor
  · intro there
    obtain ⟨item, member, same⟩ := List.mem_map.mp (Table.mem_of_find? there)
    obtain ⟨left, right⟩ := Prod.mk.inj same
    exact ⟨item, member, left, right⟩
  · rintro ⟨item, member, rfl, rfl⟩
    exact Table.find?_of_mem keys (List.mem_map_of_mem (f := fun item => (key item, value item)) member)

/-- Rows under distinct keys are a table. -/
theorem foldl_upsert_map {α κ β : Type} [DecidableEq κ] {items : List α} {key : α → κ} (distinct : (items.map key).Nodup)
    (value : α → β) :
    items.foldl (fun table item => Table.upsert table (key item) (value item)) [] =
      items.map fun item => (key item, value item) := by
  have keys : (Table.keys ([] ++ items.map fun item => (key item, value item))).Nodup := by
    rw [List.nil_append, Table.keys, List.map_map]
    exact distinct
  have all := Table.foldl_upsert (items.map fun item => (key item, value item)) [] keys
  rwa [List.foldl_map, List.nil_append] at all

/-- Vectors of distinct windows are indexed one by one. -/
theorem indexVectors_ok (unique : OnePerWindow resolution vectors)
    (reads : ∀ vector ∈ vectors, ReadsTime python vector.windowEnd) :
    indexVectorsByWindowEnd python vectors =
      .ok (vectors.map fun vector => ((vector.entity, rfc3339 vector.windowEnd), vector)) := by
  rw [← foldl_upsert_map (nodup_ends unique) fun vector => vector]
  refine Check.foldlM_pure (fun vector member index => ?_) []
  rw [parseTimestamp_rfc3339 (reads vector member)]
  rfl

/-- The features of an entity in a window. -/
def Featured (vectors : List FeatureVector) (entity : String) (windowEnd : Int) (features : List (String × Json)) : Prop :=
  ∃ vector ∈ vectors, vector.entity = entity ∧ vector.windowEnd = windowEnd ∧ vector.features = features

/-- The entries of a history are the features of the windows before a window, oldest first. -/
def HistoryOf (vectors : List FeatureVector) (vector : FeatureVector) (length : Int)
    (history : List (Option (List (String × Json)))) : Prop :=
  history.length = (length - 1).toNat ∧ ∀ place (inside : place < history.length) features,
    history[place] = some features ↔
      Featured vectors vector.entity (vector.windowEnd - fiveMinutes * (length - 1 - place)) features

/-- The history that training builds. -/
def trainedHistory (python : Python) (vectors : List FeatureVector) (length : Int) (vector : FeatureVector) :
    Except FeatureError (List (Option (List (String × Json)))) := do
  let index ← indexVectorsByWindowEnd python vectors
  entityHistory python vector index length

/-- The history in training is looked up at the ends before the vector's window. -/
theorem trainedHistory_ok (unique : OnePerWindow resolution vectors)
    (reads : ∀ vector ∈ vectors, ReadsTime python vector.windowEnd) {vector : FeatureVector} (member : vector ∈ vectors)
    {length : Int} (long : 2 ≤ length) (reaches : Reaches vector.windowEnd length) :
    trainedHistory python vectors length vector =
      .ok ((endsBefore vector.windowEnd (length - 1).toNat).map fun last =>
        (Table.find? (vectors.map fun vector => ((vector.entity, rfc3339 vector.windowEnd), vector))
          (vector.entity, rfc3339 last)).map (·.features)) := by
  unfold trainedHistory
  rw [indexVectors_ok unique reads]
  simp only [entityHistory, Check.bind_ok, Check.pure_ok]
  refine ⟨_, rfl, _, historyWindowEnds_ok (reads vector member) long reaches, ?_⟩
  rw [List.map_map]
  rfl

/-- What training finds for a window are the features of the entity in it. -/
theorem trained_lookup (unique : OnePerWindow resolution vectors) (entity : String) (last : Int)
    (features : List (String × Json)) :
    (Table.find? (vectors.map fun vector => ((vector.entity, rfc3339 vector.windowEnd), vector))
      (entity, rfc3339 last)).map (·.features) = some features ↔ Featured vectors entity last features := by
  rw [Option.map_eq_some_iff]
  constructor
  · rintro ⟨vector, found, rfl⟩
    obtain ⟨_, member, same, rfl⟩ := (find?_map (nodup_ends unique) (fun vector => vector) _ vector).mp found
    obtain ⟨entities, texts⟩ := Prod.mk.inj same
    exact ⟨_, member, entities, rfc3339_injective texts, rfl⟩
  · rintro ⟨vector, member, rfl, rfl, rfl⟩
    exact ⟨vector, (find?_map (nodup_ends unique) (fun vector => vector) _ vector).mpr ⟨vector, member, rfl, rfl⟩, rfl⟩

/-- What serving finds for a window are the features of the entity in it. -/
theorem served_lookup {schema : FeatureSchema} (same : ∀ vector ∈ vectors, vector.featureSchema = schema)
    {query : HistoryQuery} (asked : query.featureSchema = schema.text) {ends : List Int} {hits : List FeatureVector}
    (finds : Finds vectors query ends hits) {last : Int} (inside : last ∈ ends) (features : List (String × Json)) :
    Table.find? (hits.map fun hit => (rfc3339 hit.windowEnd, hit.features)) (rfc3339 last) = some features ↔
      Featured vectors query.entity last features := by
  rw [find?_map finds.distinct]
  constructor
  · rintro ⟨hit, member, text, rfl⟩
    obtain ⟨listed, entity⟩ := finds.known hit member
    exact ⟨hit, listed, entity, rfc3339_injective text, rfl⟩
  · rintro ⟨vector, member, entity, rfl, rfl⟩
    exact ⟨vector, finds.all vector member (by rw [same vector member, asked]) entity inside, rfl, rfl⟩

/-- Training and serving build the same histories, and the same sequences. -/
theorem histories_agree (schema : FeatureSchema) (same : ∀ vector ∈ vectors, vector.featureSchema = schema)
    (unique : OnePerWindow resolution vectors) (reads : ∀ vector ∈ vectors, ReadsTime python vector.windowEnd)
    (search : HistoryQuery → Except DeliveryError (List FeatureVector))
    (answers : ∀ query, ∃ hits, search query = .ok hits ∧ SearchAnswers resolution vectors query hits)
    (vector : FeatureVector) (member : vector ∈ vectors) (length : Int) (long : 2 ≤ length)
    (reaches : Reaches vector.windowEnd length) :
    ∃ served trained, fetchHistory python search length vector = .ok served ∧
      trainedHistory python vectors length vector = .ok trained ∧ served = trained ∧
      HistoryOf vectors vector length served ∧
      sequenceMatrix schema served vector.features = sequenceMatrix schema trained vector.features := by
  let ends := endsBefore vector.windowEnd (length - 1).toNat
  let query : HistoryQuery := ⟨(ends.map rfc3339).length, vector.featureSchema.text, vector.entity, ends.map rfc3339⟩
  obtain ⟨hits, found, answered⟩ := answers query
  have asked : query.featureSchema = schema.text := congrArg FeatureSchema.text (same vector member)
  have finds : Finds vectors query ends hits := finds_of_answers unique rfl (by simp [query]) answered
  have fetched : fetchHistory python search length vector =
      .ok (ends.map fun last =>
        Table.find? (hits.map fun hit => (rfc3339 hit.windowEnd, hit.features)) (rfc3339 last)) := by
    simp only [fetchHistory, Check.bind_ok, Check.pure_ok, Check.mapError_ok]
    refine ⟨_, historyWindowEnds_ok (reads vector member) long reaches, hits, found, ?_⟩
    rw [foldl_upsert_map finds.distinct, List.map_map]
    rfl
  have lookups : ∀ last ∈ ends, Table.find? (hits.map fun hit => (rfc3339 hit.windowEnd, hit.features)) (rfc3339 last) =
      (Table.find? (vectors.map fun vector => ((vector.entity, rfc3339 vector.windowEnd), vector))
        (vector.entity, rfc3339 last)).map (·.features) := by
    intro last inside
    refine Option.ext fun features => ?_
    exact (served_lookup same asked finds inside features).trans (trained_lookup unique vector.entity last features).symm
  have equal := List.map_congr_left lookups
  refine ⟨_, _, fetched, trainedHistory_ok unique reads member long reaches, equal, ⟨?_, ?_⟩, by rw [equal]⟩
  · rw [List.length_map]
    simp [ends, endsBefore]
  · intro place inside features
    rw [List.getElem_map]
    have count : place < (length - 1).toNat := by simpa [ends, endsBefore] using inside
    have bound : place < ends.length := by simpa using inside
    have last : ends[place] = vector.windowEnd - fiveMinutes * (length - 1 - place) := by
      simp only [ends, endsBefore, List.getElem_map, List.getElem_range]
      congr 2
      omega
    rw [served_lookup same asked finds (List.getElem_mem bound), last]

/-- Training and serving build the same histories and the same sequences, or both overflow. -/
theorem training_and_serving_agree (schema : FeatureSchema) (same : ∀ vector ∈ vectors, vector.featureSchema = schema)
    (unique : OnePerWindow resolution vectors) (reads : ∀ vector ∈ vectors, ReadsTime python vector.windowEnd)
    (search : HistoryQuery → Except DeliveryError (List FeatureVector))
    (answers : ∀ query, ∃ hits, search query = .ok hits ∧ SearchAnswers resolution vectors query hits)
    (vector : FeatureVector) (member : vector ∈ vectors) (length : Int) (long : 2 ≤ length) :
    (Reaches vector.windowEnd length → ∃ served trained, fetchHistory python search length vector = .ok served ∧
      trainedHistory python vectors length vector = .ok trained ∧ served = trained ∧
      HistoryOf vectors vector length served ∧
      sequenceMatrix schema served vector.features = sequenceMatrix schema trained vector.features) ∧
    (¬ Reaches vector.windowEnd length →
      fetchHistory python search length vector = .error (.feature dateOverflow) ∧
      trainedHistory python vectors length vector = .error dateOverflow) := by
  refine ⟨histories_agree schema same unique reads search answers vector member length long, fun early => ?_⟩
  have ends := historyWindowEnds_overflow (reads vector member) long early
  constructor
  · rw [fetchHistory, ends]
    rfl
  · rw [trainedHistory, indexVectors_ok unique reads]
    change entityHistory python vector _ length = _
    rw [entityHistory, ends]
    rfl

/-- A vector of a host that ends some seconds after midnight. -/
def hostVector (after : Int) (count : Int) : FeatureVector where
  featureSchema := .endpointWindow
  featureSchemaSha256 := "s"
  vectorId := "v"
  entityType := "host"
  entity := "h"
  windowStart := deskTime + seconds after - fiveMinutes
  windowEnd := deskTime + seconds after
  sourceEventCount := 1
  sourceEventSetSha256 := "e"
  generatorGitSha := "g"
  generatedAt := deskTime + seconds after
  features := [("process_count", .int count)]

def hostVectors : List FeatureVector := [hostVector 300 1, hostVector 600 2]

/-- An index with the two vectors. -/
def searchHost (query : HistoryQuery) : Except DeliveryError (List FeatureVector) :=
  .ok ((hostVectors.filter fun vector => vector.featureSchema.text = query.featureSchema ∧ vector.entity = query.entity ∧
    rfc3339 vector.windowEnd ∈ query.ends).take query.size)

/-- The search of the example answers every query. -/
theorem searchHost_answers (query : HistoryQuery) :
    ∃ hits, searchHost query = .ok hits ∧ SearchAnswers 1 hostVectors query hits := by
  refine ⟨_, rfl, _, ?_, rfl⟩
  refine List.Perm.of_eq (List.filter_congr fun vector _ => ?_)
  refine decide_eq_decide.mpr (and_congr_right fun _ => and_congr_right fun _ => ?_)
  constructor
  · exact fun named => ⟨vector.windowEnd, named, rfl⟩
  · rintro ⟨moment, named, same⟩
    rw [Int.ediv_one, Int.ediv_one] at same
    exact same ▸ named

/-- The history of the second vector has the first one, in training as in serving. -/
theorem host_history_agrees :
    ∃ served trained, fetchHistory labPython searchHost 2 (hostVector 600 2) = .ok served ∧
      trainedHistory labPython hostVectors 2 (hostVector 600 2) = .ok trained ∧ served = trained ∧
      HistoryOf hostVectors (hostVector 600 2) 2 served ∧
      sequenceMatrix .endpointWindow served (hostVector 600 2).features =
        sequenceMatrix .endpointWindow trained (hostVector 600 2).features := by
  have reads : ∀ vector ∈ hostVectors, ReadsTime labPython vector.windowEnd := by
    intro vector member
    rcases List.mem_cons.mp member with rfl | later
    · rfl
    · rw [List.mem_singleton.mp later]
      rfl
  have unique : OnePerWindow 1 hostVectors := by
    unfold OnePerWindow
    decide
  have agree := training_and_serving_agree .endpointWindow (by simp [hostVectors, hostVector]) unique reads searchHost
    searchHost_answers (hostVector 600 2) (by simp [hostVectors]) 2 (by decide)
  exact agree.1 (by unfold Reaches; decide)

end Agreement

end ClosedLoop.Workers
