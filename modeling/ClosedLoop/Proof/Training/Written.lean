import ClosedLoop.Proof.Training.Gate
import ClosedLoop.Proof.Workers.Selection

namespace ClosedLoop.Training

open ClosedLoop.Library ClosedLoop.Response ClosedLoop.Workers

section Reading

variable {python : Python}

/-- A field of a document with sorted names is the field with sorted names. -/
theorem item_sortKeys (document : Json) (name : String) :
    item document.sortKeys name = (item document name).map Json.sortKeys := by
  cases document with
  | obj fields =>
      rw [Json.sortKeys, item, item, Json.lookup_sortFields]
      cases fields.lookup name <;> rfl
  | _ => rfl

/-- A field that is found is found sorted in the sorted document. -/
theorem item_ok_sortKeys {document value : Json} {name : String} (found : item document name = .ok value) :
    item document.sortKeys name = .ok value.sortKeys := by
  rw [item_sortKeys, found]
  rfl

/-- An object has the names of a set, whatever their order is. -/
theorem requireNames_sortKeys {fields : List (String × Json)} {names : List String} {message : String} {passed : Unit} :
    requireNames (Json.sortKeys (.obj fields)) names message = .ok passed ↔
      fields.map Prod.fst ⊆ names ∧ names ⊆ fields.map Prod.fst := by
  have sorted : (((Json.sortFields fields).insertionSort fun first second => first.1 ≤ second.1).map Prod.fst).Perm
      (fields.map Prod.fst) := by
    refine ((List.perm_insertionSort _ _).map Prod.fst).trans (List.Perm.of_eq ?_)
    rw [Json.sortFields_eq, List.map_map]
    rfl
  rw [← sorted.subset_congr_left, ← sorted.subset_congr_right, Json.sortKeys]
  generalize (Json.sortFields fields).insertionSort (fun first second => first.1 ≤ second.1) = others
  simp only [requireNames, iterate, Check.bind_ok, Check.guard_ok, Except.ok.injEq, exists_eq_left', List.all_eq_true,
    List.any_eq_true, isText_iff, Json.str.injEq, List.subset_def, exists_eq_right, List.mem_map]
  refine and_congr_left fun _ => ⟨?_, ?_⟩
  · rintro each name ⟨field, member, same⟩
    obtain ⟨known, listed, equal⟩ := each _ ⟨field, member, rfl⟩
    rw [← same, Json.str.inj equal]
    exact listed
  · rintro each _ ⟨field, member, rfl⟩
    exact ⟨field.1, each ⟨field, member, rfl⟩, rfl⟩

/-- A time that is written is read back. -/
theorem timestampOf_written {time : Int} (back : python.fromIsoformat (rfc3339 time) = some (.aware time)) :
    timestampOf python (.str (rfc3339 time)) = .ok time := by
  unfold timestampOf
  simp only [back]

/-- A range that is written is read back. -/
theorem rangeOf_written {document : Json} {start stop : Int} (opens : item document "start" = .ok (.str (rfc3339 start)))
    (closes : item document "end" = .ok (.str (rfc3339 stop)))
    (startBack : python.fromIsoformat (rfc3339 start) = some (.aware start))
    (stopBack : python.fromIsoformat (rfc3339 stop) = some (.aware stop)) :
    rangeOf python document.sortKeys = .ok (start, stop) := by
  simp only [rangeOf, Check.bind_ok, Check.pure_ok]
  exact ⟨_, item_ok_sortKeys opens, start, timestampOf_written startBack, _, item_ok_sortKeys closes, stop,
    timestampOf_written stopBack, rfl⟩

/-- A list of texts is read as it is written. -/
theorem textsOf_map (texts : List String) : textsOf (texts.map .str) = some texts := by
  induction texts with
  | nil => rfl
  | cons text rest ih => rw [List.map_cons, textsOf, ih, Option.map_some]

/-- Texts have no fields to sort. -/
theorem sortItems_texts (texts : List String) : Json.sortItems (texts.map .str) = texts.map .str := by
  rw [Json.sortItems_eq, List.map_map]
  rfl

/-- Identifiers that are written are read back when they are distinct and not empty. -/
theorem identifiersOf_written {identifiers found : List String} :
    identifiersOf (.arr (identifiers.map .str)) = .ok found ↔
      (identifiers ≠ [] ∧ "" ∉ identifiers ∧ identifiers.Nodup) ∧ found = identifiers := by
  simp only [identifiersOf, textsOf_map]
  split
  · rename_i listed
    simp [listed, eq_comm]
  · rename_i unlisted
    simp [unlisted]

end Reading

section Rows

/-- The libraries read a vector as it was written. -/
structure ReadsVector (python : Python) (contracts : Contracts) (libraries : GateLibraries) (vector : FeatureVector) :
    Prop where
  contract : libraries.validateVector vector.toJson.sortKeys = validateVector contracts vector
  finite : compliant vector.toJson.sortKeys = true
  opens : python.fromIsoformat (rfc3339 vector.windowStart) = some (.aware vector.windowStart)
  closes : python.fromIsoformat (rfc3339 vector.windowEnd) = some (.aware vector.windowEnd)

variable {python : Python} {contracts : Contracts} {libraries : GateLibraries} {vector : FeatureVector} {member : Member}
  {name : Partition} {schema : FeatureSchema}

/-- The contract on a vector that is read back is the one on the vector. -/
theorem requireContract_written (reads : ReadsVector python contracts libraries vector) {passed : Unit} :
    requireContract libraries (.str schema.text) vector.toJson.sortKeys = .ok passed ↔
      validateVector contracts vector = .ok passed ∧ vector.featureSchema = schema := by
  have found : item vector.toJson.sortKeys "feature_schema" = .ok (.str vector.featureSchema.text) := by
    rw [item_sortKeys]
    rfl
  have same : sameText (.str vector.featureSchema.text) (.str schema.text) = true ↔ vector.featureSchema = schema := by
    cases vector.featureSchema <;> cases schema <;> decide
  simp only [requireContract, Check.bind_ok, Check.guard_ok, Check.mapError_ok, reads.contract, found, Except.ok.injEq,
    exists_eq_left', same, exists_and_right]
  refine and_congr_left fun _ => ⟨?_, fun checked => ⟨_, checked⟩⟩
  rintro ⟨_, checked⟩
  exact checked

theorem freshKey_written (reads : ReadsVector python contracts libraries vector) {start stop : Int}
    {seen : List (String × Int × Int)} {key : String × Int × Int} :
    freshKey python start stop seen vector.toJson.sortKeys = .ok key ↔
      (start ≤ vector.windowStart ∧ vector.windowStart < vector.windowEnd ∧ vector.windowEnd ≤ stop) ∧
        (vector.entity, vector.windowStart, vector.windowEnd) ∉ seen ∧
          key = (vector.entity, vector.windowStart, vector.windowEnd) := by
  have opens : item vector.toJson.sortKeys "window_start" = .ok (.str (rfc3339 vector.windowStart)) := by
    rw [item_sortKeys]
    rfl
  have closes : item vector.toJson.sortKeys "window_end" = .ok (.str (rfc3339 vector.windowEnd)) := by
    rw [item_sortKeys]
    rfl
  have named : item vector.toJson.sortKeys "entity" = .ok (.str vector.entity) := by
    rw [item_sortKeys]
    rfl
  simp only [freshKey, windowInside, entityOf, opens, closes, named, timestampOf_written reads.opens,
    timestampOf_written reads.closes, Check.bind_ok, Check.guard_ok, Check.pure_ok, Except.ok.injEq, exists_eq_left',
    exists_const]
  constructor
  · rintro ⟨_, ⟨early, late, rfl⟩, fresh, rfl⟩
    exact ⟨⟨early, late⟩, fresh, rfl⟩
  · rintro ⟨⟨early, late⟩, fresh, rfl⟩
    exact ⟨_, ⟨early, late, rfl⟩, fresh, rfl⟩

theorem requireBinding_written (reads : ReadsVector python contracts libraries vector) {passed : Unit} :
    requireBinding python vector.toJson.sortKeys member.toJson.sortKeys = .ok passed ↔
      member.vectorSha256 = vectorHash python vector := by
  have named : requireNames member.toJson.sortKeys ["vector_sha256", "source_event_ids", "session_ids"]
      "invalid membership fields" = .ok () := requireNames_sortKeys.mpr ⟨by simp, by simp⟩
  have listed : item member.toJson.sortKeys "vector_sha256" = .ok (.str member.vectorSha256) := by
    rw [item_sortKeys]
    rfl
  have hashed : canonicalHash python vector.toJson.sortKeys = .ok (vectorHash python vector) := by
    rw [canonicalHash, if_pos reads.finite, vectorHash, sha256Hex, sha256Hex,
      Json.canonical_eq_iff.mpr vector.toJson.sortKeys_sortKeys]
  simp only [requireBinding, named, listed, hashed, Check.bind_ok, Check.guard_ok, Except.ok.injEq, exists_eq_left',
    isText_iff, Json.str.injEq, true_and, exists_const]

/-- Identifiers are claimed when they are distinct and not empty and no other partition owns them. -/
theorem claimIds_ok {owners later : Table String Partition} {identifiers : List String} :
    claimIds name owners identifiers = .ok later ↔
      (identifiers ≠ [] ∧ "" ∉ identifiers ∧ identifiers.Nodup) ∧ claimDocument name owners identifiers = .ok later := by
  simp only [claimIds, claimDocument, Check.bind_ok, Check.guard_ok, exists_const,
    Owners.claimAll_ok_iff (GateFailure.value "source/session leakage across partitions")]

/-- The identifiers of a membership are claimed as they are written. -/
theorem claimField_written {field : String} {identifiers : List String} {owners : Table String Partition} {document : Json}
    (listed : item document field = .ok (.arr (identifiers.map .str)))
    {claimed : List String × Table String Partition} :
    claimField field name owners document = .ok claimed ↔
      claimIds name owners identifiers = .ok claimed.2 ∧ claimed.1 = identifiers := by
  simp only [claimField, listed, Check.bind_ok, Check.pure_ok, Except.ok.injEq, exists_eq_left', identifiersOf_written,
    claimIds_ok]
  constructor
  · rintro ⟨_, ⟨plain, rfl⟩, later, claims, rfl⟩
    exact ⟨⟨plain, claims⟩, rfl⟩
  · rintro ⟨⟨plain, claims⟩, same⟩
    exact ⟨identifiers, ⟨plain, rfl⟩, claimed.2, claims, Prod.ext same.symm rfl⟩

/-- The hash of the source events is checked over the written identifiers. -/
theorem requireSources_written {identifiers : List String} {passed : Unit} :
    requireSources python vector.toJson.sortKeys identifiers = .ok passed ↔
      python.sha256Hex (String.intercalate "\n" (sortNames identifiers)) = vector.sourceEventSetSha256 := by
  have found : item vector.toJson.sortKeys "source_event_set_sha256" = .ok (.str vector.sourceEventSetSha256) := by
    rw [item_sortKeys]
    rfl
  simp only [requireSources, found, Check.bind_ok, Check.guard_ok, Except.ok.injEq, exists_eq_left', isText_iff,
    Json.str.injEq]
  exact eq_comm

/-- The two gates make the same turn over a vector. -/
theorem checkDocument_written (reads : ReadsVector python contracts libraries vector) {entry : PartitionEntry}
    {scan next : Scan} :
    checkDocument python libraries (.str schema.text) entry.start entry.stop name scan
        (vector.toJson.sortKeys, member.toJson.sortKeys) = .ok next ↔
      checkVector python contracts schema entry name scan (vector, member) = .ok next := by
  have sources : item member.toJson.sortKeys "source_event_ids" = .ok (.arr (member.sourceEventIds.map .str)) := by
    rw [item_sortKeys]
    exact congrArg (fun items => Except.ok (Json.arr items)) (sortItems_texts _)
  have sessions : item member.toJson.sortKeys "session_ids" = .ok (.arr (member.sessionIds.map .str)) := by
    rw [item_sortKeys]
    exact congrArg (fun items => Except.ok (Json.arr items)) (sortItems_texts _)
  simp only [checkDocument, checkVector, Check.bind_ok, Check.guard_ok, Check.pure_ok, requireContract_written reads,
    freshKey_written reads, requireBinding_written reads, claimField_written sources, claimField_written sessions,
    requireSources_written, exists_const]
  constructor
  · rintro ⟨passed, ⟨valid, same⟩, _, ⟨inside, fresh, rfl⟩, bound, ⟨_, sourceOwners⟩, ⟨sourceClaims, rfl⟩,
      ⟨_, sessionOwners⟩, ⟨sessionClaims, rfl⟩, kept, rfl⟩
    exact ⟨passed, valid, same, inside, fresh, bound, sourceOwners, sourceClaims, sessionOwners, sessionClaims, kept, rfl⟩
  · rintro ⟨passed, valid, same, inside, fresh, bound, sourceOwners, sourceClaims, sessionOwners, sessionClaims, kept, rfl⟩
    exact ⟨passed, ⟨valid, same⟩, _, ⟨inside, fresh, rfl⟩, bound, (_, sourceOwners), ⟨sourceClaims, rfl⟩,
      (_, sessionOwners), ⟨sessionClaims, rfl⟩, kept, rfl⟩

/-- The two gates scan the vectors of a partition alike. -/
theorem scan_written {vectors : List FeatureVector} (reads : ∀ vector ∈ vectors, ReadsVector python contracts libraries vector)
    {members : List Member} {entry : PartitionEntry} {scan last : Scan} :
    ((vectors.map fun vector => vector.toJson.sortKeys).zip (members.map fun member => member.toJson.sortKeys)).foldlM
        (checkDocument python libraries (.str schema.text) entry.start entry.stop name) scan = .ok last ↔
      (vectors.zip members).foldlM (checkVector python contracts schema entry name) scan = .ok last := by
  rw [List.zip_map, List.foldlM_map]
  refine Check.foldlM_ok_congr fun row listed _ _ => ?_
  exact checkDocument_written (reads row.1 (List.of_mem_zip listed).1)

end Rows

section Files

/-- The libraries read the files of a dataset as they were written. -/
structure ReadsFiles (python : Python) (contracts : Contracts) (libraries : GateLibraries) (files : DatasetFiles) : Prop where
  manifest : libraries.conforms files.manifest.toJson.sortKeys = files.manifest.conforms
  digests : ∀ text, libraries.sha256 (utf8 text) = python.sha256Hex text
  ledger : libraries.loads (utf8 files.ledger.toJson.canonical) = some files.ledger.toJson.sortKeys
  vectors : ∀ name, ∀ vector ∈ files.vectors name, ReadsVector python contracts libraries vector
  start : python.fromIsoformat (rfc3339 files.manifest.start) = some (.aware files.manifest.start)
  stop : python.fromIsoformat (rfc3339 files.manifest.stop) = some (.aware files.manifest.stop)
  bounds : ∀ row ∈ files.manifest.split, python.fromIsoformat (rfc3339 row.2.start) = some (.aware row.2.start) ∧
    python.fromIsoformat (rfc3339 row.2.stop) = some (.aware row.2.stop)

variable {python : Python} {contracts : Contracts} {libraries : GateLibraries} {files : DatasetFiles} {name : Partition}

/-- A partition's row is looked up by the partition's name. -/
theorem lookup_rows {α : Type} (table : Table Partition α) (write : α → Json) (name : Partition) :
    (table.map fun row => (row.1.text, write row.2)).lookup name.text = (table.find? name).map write := by
  induction table with
  | nil => rfl
  | cons row rest ih =>
      rw [List.map_cons, List.lookup_cons, Table.find?, ih]
      have same : (name.text == row.1.text) = decide (row.1 = name) := by
        cases row.1 <;> cases name <;> rfl
      rw [same]
      by_cases here : row.1 = name <;> simp [here]

/-- The row of a partition is found among fields of other names. -/
theorem item_rows {α : Type} {front : List (String × Json)} (other : front.lookup name.text = none)
    {table : Table Partition α} {write : α → Json} {document : Json} :
    item (Json.sortKeys (.obj (front ++ table.map fun row => (row.1.text, write row.2)))) name.text = .ok document ↔
      ∃ value, table.find? name = some value ∧ document = (write value).sortKeys := by
  rw [item_sortKeys, item, List.lookup_append, other, Option.none_or, lookup_rows]
  cases table.find? name with
  | none => simp [Except.map]
  | some value => simp [Except.map, eq_comm]

/-- The digest of a written file is the digest of its text. -/
theorem requireDigest_written (reads : ReadsFiles python contracts libraries files) {text digest message : String}
    {passed : Unit} : requireDigest libraries (some (utf8 text)) (.str digest) message = .ok passed ↔
      python.sha256Hex text = digest := by
  simp only [requireDigest, Check.guard_ok, isText_iff, reads.digests, Json.str.injEq]
  exact eq_comm

/-- A partition that is required is there. -/
theorem required_ok {α : Type} {table : Table Partition α} {value : α} :
    required python table name = .ok value ↔ table.find? name = some value := by
  unfold required
  cases table.find? name <;> simp

/-- The split of the manifest, with the two fields that are no partition. -/
theorem split_written : item files.documents.manifest "split" = .ok (Json.sortKeys (.obj
    (("strategy", .str "temporal_session_isolated") ::
      ("session_assignment_sha256", .str files.manifest.sessionAssignmentSha256) ::
        files.manifest.split.map fun row => (row.1.text, row.2.toJson)))) := by
  change item files.manifest.toJson.sortKeys "split" = _
  rw [item_sortKeys]
  rfl

/-- A part of the ledger as it is written. -/
def LedgerPart.toJson (part : LedgerPart) : Json :=
  .obj [("vectors_sha256", .str part.vectorsSha256), ("memberships", .arr (part.memberships.map Member.toJson))]

theorem partitions_written : item files.ledger.toJson.sortKeys "partitions" =
    .ok (Json.sortKeys (.obj (files.ledger.partitions.map fun row => (row.1.text, row.2.toJson)))) := by
  rw [item_sortKeys]
  rfl

/-- The bounds of a partition are its entry in the manifest. -/
theorem bounds_written {bounds : Json} : (∃ split, item files.documents.manifest "split" = .ok split ∧
    item split name.text = .ok bounds) ↔
      ∃ entry, required python files.manifest.split name = .ok entry ∧ bounds = entry.toJson.sortKeys := by
  have other : List.lookup name.text [("strategy", Json.str "temporal_session_isolated"),
      ("session_assignment_sha256", Json.str files.manifest.sessionAssignmentSha256)] = none := by
    cases name <;> rfl
  simp only [split_written, Except.ok.injEq, exists_eq_left', required_ok]
  exact item_rows other

/-- The bounds that are read back are in order when the written ones are. -/
theorem orderedRange_written {entry : PartitionEntry}
    (startBack : python.fromIsoformat (rfc3339 entry.start) = some (.aware entry.start))
    (stopBack : python.fromIsoformat (rfc3339 entry.stop) = some (.aware entry.stop)) {previousEnd outerEnd : Int}
    {range : Int × Int} : orderedRange python entry.toJson.sortKeys previousEnd outerEnd = .ok range ↔
      (previousEnd ≤ entry.start ∧ entry.start < entry.stop ∧ entry.stop ≤ outerEnd) ∧
        range = (entry.start, entry.stop) := by
  have read : rangeOf python entry.toJson.sortKeys = .ok (entry.start, entry.stop) :=
    rangeOf_written rfl rfl startBack stopBack
  simp only [orderedRange, read, Check.bind_ok, Check.guard_ok, Check.pure_ok, Except.ok.injEq, exists_eq_left',
    exists_const]
  exact and_congr_right fun _ => eq_comm

/-- The training partition is benign in the file when it is in the manifest. -/
theorem requireProfile_written {entry : PartitionEntry} {passed : Unit} :
    requireProfile name entry.toJson.sortKeys = .ok passed ↔ (name = .train → entry.labelProfile = "benign_biased") := by
  have found : item entry.toJson.sortKeys "label_profile" = .ok (.str entry.labelProfile) := by
    rw [item_sortKeys]
    rfl
  unfold requireProfile
  split
  · rename_i train
    simp only [found, Check.bind_ok, Check.guard_ok, Except.ok.injEq, exists_eq_left', isText_iff, Json.str.injEq, train,
      forall_const]
  · rename_i other
    simp [other]

/-- A partition's part of the ledger is read back when its file has the digest in it. -/
theorem partOf_written (reads : ReadsFiles python contracts libraries files) {document : Json} :
    partOf libraries files.documents files.ledger.toJson.sortKeys name = .ok document ↔
      ∃ part, required python files.ledger.partitions name = .ok part ∧ document = part.toJson.sortKeys ∧
        vectorsSha256 python (files.vectors name) = part.vectorsSha256 := by
  have present (value : Json) : item (Json.sortKeys (.obj (files.ledger.partitions.map fun row =>
      (row.1.text, row.2.toJson)))) name.text = .ok value ↔
        ∃ part, files.ledger.partitions.find? name = some part ∧ value = part.toJson.sortKeys :=
    @item_rows name _ [] rfl _ _ _
  have named (part : LedgerPart) : requireNames part.toJson.sortKeys ["vectors_sha256", "memberships"]
      "invalid partition ledger fields" = .ok () := requireNames_sortKeys.mpr ⟨by simp, by simp⟩
  have digest (part : LedgerPart) : item part.toJson.sortKeys "vectors_sha256" = .ok (.str part.vectorsSha256) := by
    rw [item_sortKeys]
    rfl
  have file : files.documents.files name = some (utf8 (jsonl ((files.vectors name).map FeatureVector.toJson))) := rfl
  simp only [partOf, partitions_written, present, file, Check.bind_ok, Check.pure_ok, Except.ok.injEq, exists_eq_left', required_ok]
  constructor
  · rintro ⟨_, ⟨part, found, rfl⟩, _, -, _, given, _, same, rfl⟩
    rw [digest] at given
    cases given
    exact ⟨part, found, rfl, (requireDigest_written reads).mp same⟩
  · rintro ⟨part, found, rfl, same⟩
    exact ⟨_, ⟨part, found, rfl⟩, (), named part, _, digest part, (), (requireDigest_written reads).mpr same, rfl⟩

/-- The rows are the vectors beside their memberships, when both counts agree. -/
theorem rowsOf_written {vectors : List FeatureVector} {entry : PartitionEntry} {part : LedgerPart}
    {rows : List (Json × Json)} :
    rowsOf (vectors.map fun vector => vector.toJson.sortKeys) entry.toJson.sortKeys part.toJson.sortKeys = .ok rows ↔
      (vectors.length = entry.vectorCount ∧ vectors.length = part.memberships.length) ∧
        rows = (vectors.map fun vector => vector.toJson.sortKeys).zip
          (part.memberships.map fun member => member.toJson.sortKeys) := by
  have count : item entry.toJson.sortKeys "vector_count" = .ok (.int entry.vectorCount) := by
    rw [item_sortKeys]
    rfl
  have members : item part.toJson.sortKeys "memberships" =
      .ok (.arr (part.memberships.map fun member => member.toJson.sortKeys)) := by
    rw [item_sortKeys]
    change Except.ok (Json.arr (Json.sortItems (part.memberships.map Member.toJson))) = _
    rw [Json.sortItems_eq, List.map_map]
    rfl
  have same : (Json.int entry.vectorCount).equalsInt vectors.length = true ↔ vectors.length = entry.vectorCount := by
    simp [Json.equalsInt, eq_comm]
  simp only [rowsOf, members, count, iterate, Check.bind_ok, Check.guard_ok, Check.pure_ok, Except.ok.injEq,
    exists_eq_left', exists_const, List.length_map, same]
  exact and_congr_right fun _ => eq_comm

/-- The two gates make the same turn over a partition. -/
theorem checkDocuments_written (reads : ReadsFiles python contracts libraries files) {gate next : Gate} :
    checkDocuments python libraries files.documents files.ledger.toJson.sortKeys files.manifest.stop gate name = .ok next ↔
      checkPartition python contracts files gate name = .ok next := by
  have schema : item files.documents.manifest "feature_schema" = .ok (.str files.manifest.featureSchema.text) := by
    change item files.manifest.toJson.sortKeys "feature_schema" = _
    rw [item_sortKeys]
    rfl
  have profile (entry : PartitionEntry) : item entry.toJson.sortKeys "session_ids_sha256" =
      .ok (.str entry.sessionIdsSha256) := by
    rw [item_sortKeys]
    rfl
  have vectors : files.documents.vectors name = (files.vectors name).map fun vector => vector.toJson.sortKeys := rfl
  simp only [checkDocuments, checkPartition, Check.bind_ok, Check.guard_ok, Check.pure_ok, schema, vectors,
    Except.ok.injEq, exists_eq_left', partOf_written reads, exists_const]
  have entries {entry : PartitionEntry} (found : required python files.manifest.split name = .ok entry) :=
    reads.bounds (name, entry) (Table.mem_of_find? (required_ok.mp found))
  constructor
  · rintro ⟨split, divided, bounds, bounded, range, ranged, _, benign, _, ⟨part, listed, rfl, digest⟩, rows, paired, scan,
      scanned, _, hashed, same, rfl⟩
    obtain ⟨entry, found, rfl⟩ := bounds_written.mp ⟨split, divided, bounded⟩
    obtain ⟨ordered, rfl⟩ := (orderedRange_written (entries found).1 (entries found).2).mp ranged
    obtain ⟨counted, rfl⟩ := rowsOf_written.mp paired
    rw [profile] at hashed
    cases hashed
    exact ⟨entry, found, ordered, requireProfile_written.mp benign, part, listed, digest, counted, scan,
      (scan_written (reads.vectors name)).mp scanned, (Json.str.inj (isText_iff.mp same)).symm, rfl⟩
  · rintro ⟨entry, found, ordered, benign, part, listed, digest, counted, scan, scanned, same, rfl⟩
    obtain ⟨split, divided, bounded⟩ := bounds_written.mpr ⟨entry, found, rfl⟩
    exact ⟨split, divided, _, bounded, _, (orderedRange_written (entries found).1 (entries found).2).mpr ⟨ordered, rfl⟩, (),
      requireProfile_written.mpr benign, _, ⟨part, listed, rfl, digest⟩, _, rowsOf_written.mpr ⟨counted, rfl⟩, scan,
      (scan_written (reads.vectors name)).mpr scanned, _, profile entry, isText_iff.mpr (congrArg Json.str same.symm), rfl⟩

/-- The ledger is read back as it was written. -/
theorem ledgerOf_written (reads : ReadsFiles python contracts libraries files) {ledger : Json} :
    ledgerOf libraries files.documents = .ok ledger ↔
      (sha256Hex python files.ledger.toJson = files.manifest.sessionAssignmentSha256 ∧
        files.ledger.schemaVersion = "partition-membership-v1" ∧
        files.ledger.partitions.keys ⊆ partitionNames ∧ partitionNames ⊆ files.ledger.partitions.keys) ∧
        ledger = files.ledger.toJson.sortKeys := by
  have digest : item (Json.sortKeys (.obj (("strategy", .str "temporal_session_isolated") ::
      ("session_assignment_sha256", .str files.manifest.sessionAssignmentSha256) ::
        files.manifest.split.map fun row => (row.1.text, row.2.toJson)))) "session_assignment_sha256" =
          .ok (.str files.manifest.sessionAssignmentSha256) := by
    rw [item_sortKeys]
    rfl
  have assignment : files.documents.assignment = some (utf8 files.ledger.toJson.canonical) := rfl
  have version : item files.ledger.toJson.sortKeys "schema_version" = .ok (.str files.ledger.schemaVersion) := by
    rw [item_sortKeys]
    rfl
  have named : requireNames files.ledger.toJson.sortKeys ["schema_version", "partitions"]
      "unsupported membership ledger" = .ok () := requireNames_sortKeys.mpr ⟨by simp, by simp⟩
  have names : (files.ledger.partitions.map fun row => (row.1.text, row.2.toJson)).map Prod.fst =
      files.ledger.partitions.keys.map Partition.text := by
    rw [Table.keys, List.map_map, List.map_map]
    rfl
  have injective : Function.Injective Partition.text := by
    intro first second
    cases first <;> cases second <;> simp [Partition.text]
  simp only [ledgerOf, split_written, digest, assignment, version, partitions_written, requireDigest_written reads,
    Option.bind_some, reads.ledger, Check.bind_ok, Check.guard_ok, Check.pure_ok, Except.ok.injEq, exists_eq_left',
    requireNames_sortKeys, names, List.map_subset_iff _ injective, isText_iff, Json.str.injEq, exists_const]
  constructor
  · rintro ⟨same, _, -, current, all, rfl⟩
    exact ⟨⟨same, current, all⟩, rfl⟩
  · rintro ⟨⟨same, current, all⟩, rfl⟩
    exact ⟨same, (), named, current, all, rfl⟩

/-- The gate on the dataset and the gate on its files as they are read back accept the same datasets. -/
theorem validateDocuments_written (reads : ReadsFiles python contracts libraries files) :
    validateDocuments python libraries files.documents = .ok () ↔ validatePartitions python contracts files = .ok () := by
  have spanned : item files.documents.manifest "time_range" = .ok (Json.sortKeys (.obj
      [("start", .str (rfc3339 files.manifest.start)), ("end", .str (rfc3339 files.manifest.stop))])) := by
    change item files.manifest.toJson.sortKeys "time_range" = _
    rw [item_sortKeys]
    rfl
  have outer : rangeOf python (Json.sortKeys (.obj [("start", .str (rfc3339 files.manifest.start)),
      ("end", .str (rfc3339 files.manifest.stop))])) = .ok (files.manifest.start, files.manifest.stop) :=
    rangeOf_written rfl rfl reads.start reads.stop
  have manifest : libraries.conforms files.documents.manifest = files.manifest.conforms := reads.manifest
  have loop (gate : Gate) : partitionNames.foldlM (checkDocuments python libraries files.documents
      files.ledger.toJson.sortKeys files.manifest.stop) ⟨files.manifest.start, [], []⟩ = .ok gate ↔
        partitionNames.foldlM (checkPartition python contracts files) ⟨files.manifest.start, [], []⟩ = .ok gate :=
    Check.foldlM_ok_congr fun _ _ _ _ => checkDocuments_written reads
  simp only [validateDocuments, validatePartitions, Check.bind_ok, Check.guard_ok, Check.mapError_ok, Check.pure_ok,
    ledgerOf_written reads, spanned, outer, manifest, Except.ok.injEq, exists_eq_left', exists_const]
  constructor
  · rintro ⟨conforms, _, ⟨⟨digest, current, all⟩, rfl⟩, gate, passed, _⟩
    exact ⟨conforms, digest, current, all, gate, (loop gate).mp passed, trivial⟩
  · rintro ⟨conforms, digest, current, all, gate, passed, _⟩
    exact ⟨conforms, _, ⟨⟨digest, current, all⟩, rfl⟩, gate, (loop gate).mpr passed, trivial⟩

/-- A dataset that passes the gate is sound in its files. -/
theorem validatePartitions_sound (reads : ReadsFiles python contracts libraries files)
    (accepted : validatePartitions python contracts files = .ok ()) :
    ∃ ledger range outer keys memberships, SoundDataset python files.documents ledger range outer keys memberships := by
  obtain ⟨ledger, range, outer, keys, memberships, -, sound⟩ :=
    validateDocuments_sound ((validateDocuments_written reads).mpr accepted)
  exact ⟨ledger, range, outer, keys, memberships, sound⟩

end Files

end ClosedLoop.Training
