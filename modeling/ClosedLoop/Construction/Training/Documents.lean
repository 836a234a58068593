import ClosedLoop.Construction.Training.Partitions

/-! `validate_partitions` on the documents as they are read, before anything is known about their shape. -/

namespace ClosedLoop.Training

open ClosedLoop.Library ClosedLoop.Response ClosedLoop.Workers

section Reading

/-- The exceptions inside of `validate_partitions`. Each becomes a `ModelProvenanceError`. -/
inductive GateFailure where
  | value (message : String)
  | key (name : String)
  | type
  | attribute
  | file
  | schema
  deriving DecidableEq, Repr

/-- `document[name]` -/
def item (document : Json) (name : String) : Except GateFailure Json :=
  match document with
  | .obj fields =>
      match fields.lookup name with
      | some value => .ok value
      | none => .error (.key name)
  | _ => .error .type

/-- What a loop over a document sees. -/
def iterate (document : Json) : Except GateFailure (List Json) :=
  match document with
  | .arr items => .ok items
  | .obj fields => .ok (fields.map fun field => .str field.1)
  | .str text => .ok (text.toList.map fun char => .str (String.singleton char))
  | _ => .error .type

/-- `set(document) == names`. A set with anything but texts is another one. -/
def requireNames (document : Json) (names : List String) (message : String) : Except GateFailure Unit := do
  let items ← iterate document
  Check.guard (items.all (fun item => names.any (isText item)) ∧ names.all (fun name => items.any (isText · name)))
    (.value message)

variable (python : Python)

/-- `timestamp` -/
def timestampOf (value : Json) : Except GateFailure Int :=
  match value with
  | .str text =>
      match python.fromIsoformat text with
      | some (.aware time) | some (.beyond time) => .ok time
      | some .naive => .error (.value "timestamp must include timezone")
      | none => .error (.value ("Invalid isoformat string: " ++ python.repr text))
  | _ => .error .attribute

mutual

/-- A value without the numbers that `allow_nan=False` refuses. -/
def compliant : Json → Bool
  | .float number => number.number?.isSome
  | .arr items => compliantItems items
  | .obj fields => compliantFields fields
  | _ => true

def compliantItems : List Json → Bool
  | [] => true
  | item :: rest => compliant item && compliantItems rest

def compliantFields : List (String × Json) → Bool
  | [] => true
  | (_, value) :: rest => compliant value && compliantFields rest

end

/-- `canonical_hash` -/
def canonicalHash (value : Json) : Except GateFailure String :=
  if compliant value then .ok (sha256Hex python value)
  else .error (.value "Out of range float values are not JSON compliant")

/-- A list of texts. -/
def textsOf : List Json → Option (List String)
  | [] => some []
  | .str text :: rest => (textsOf rest).map (text :: ·)
  | _ :: _ => none

/-- The ids of a membership are a list of texts that are not empty and not repeated. -/
def identifiersOf (document : Json) : Except GateFailure (List String) :=
  match document with
  | .arr items =>
      match textsOf items with
      | some identifiers =>
          if identifiers ≠ [] ∧ "" ∉ identifiers ∧ identifiers.Nodup then .ok identifiers
          else .error (.value "membership IDs must be nonempty unique strings")
      | none => .error (.value "membership IDs must be nonempty unique strings")
  | _ => .error (.value "membership IDs must be nonempty unique strings")

end Reading

/-- What the gate uses from elsewhere. -/
structure GateLibraries where
  /-- `Draft202012Validator(schema, format_checker=FormatChecker()).validate` of a manifest -/
  conforms : Json → Bool
  /-- `validate_vector`, with the message of its error -/
  validateVector : Json → Except String Unit
  /-- `sha256(content).hexdigest()` -/
  sha256 : List UInt8 → String
  /-- `json.loads` -/
  loads : List UInt8 → Option Json

/-- The arguments of `validate_partitions`. A file that cannot be read has no content. -/
structure Documents where
  manifest : Json
  vectors : Partition → List Json
  files : Partition → Option (List UInt8)
  assignment : Option (List UInt8)

section Gate

variable (python : Python) (libraries : GateLibraries)

/-- `sha256_file(path) != digest` -/
def requireDigest (content : Option (List UInt8)) (digest : Json) (message : String) : Except GateFailure Unit :=
  match content with
  | none => .error .file
  | some content => Check.guard (isText digest (libraries.sha256 content) = true) (.value message)

/-- The ids of a membership belong to one partition. -/
def claimDocument (name : Partition) (owners : Table String Partition) (identifiers : List String) :
    Except GateFailure (Table String Partition) :=
  Owners.claimAll (.value "source/session leakage across partitions") name owners identifiers

/-- The window of a vector lies inside of a range. -/
def windowInside (vector : Json) (start stop : Int) : Except GateFailure (Int × Int) := do
  let windowStart ← timestampOf python (← item vector "window_start")
  Check.guard (start ≤ windowStart) (.value "vector crosses its temporal partition")
  let windowEnd ← timestampOf python (← item vector "window_end")
  Check.guard (windowStart < windowEnd ∧ windowEnd ≤ stop) (.value "vector crosses its temporal partition")
  return (windowStart, windowEnd)

/-- The entity of a vector, which is a text by its contract. -/
def entityOf (vector : Json) : Except GateFailure String := do
  match ← item vector "entity" with
  | .str entity => return entity
  | _ => .error .type

/-- Two values are one text. The schema of a manifest is a text. -/
def sameText : Json → Json → Bool
  | .str first, .str second => first = second
  | _, _ => false

/-- A vector fulfils its contract, which is the contract of the dataset. -/
def requireContract (schema vector : Json) : Except GateFailure Unit := do
  (libraries.validateVector vector).mapError .value
  Check.guard (sameText (← item vector "feature_schema") schema = true) (.value "mixed feature schemas")

/-- The entity and the window of a vector, which must be new and inside of the partition. -/
def freshKey (start stop : Int) (seen : List (String × Int × Int)) (vector : Json) :
    Except GateFailure (String × Int × Int) := do
  let window ← windowInside python vector start stop
  let entity ← entityOf vector
  Check.guard ((entity, window) ∉ seen) (.value "duplicate entity/window vector")
  return (entity, window)

/-- A membership has its fields and the hash of its vector. -/
def requireBinding (vector member : Json) : Except GateFailure Unit := do
  requireNames member ["vector_sha256", "source_event_ids", "session_ids"] "invalid membership fields"
  Check.guard (isText (← item member "vector_sha256") (← canonicalHash python vector) = true)
    (.value "membership is not bound to vector")

/-- The ids in a field of a membership, and their owners. -/
def claimField (field : String) (name : Partition) (owners : Table String Partition) (member : Json) :
    Except GateFailure (List String × Table String Partition) := do
  let identifiers ← identifiersOf (← item member field)
  let owners ← claimDocument name owners identifiers
  return (identifiers, owners)

/-- The hash of the source events is the one in the vector. -/
def requireSources (vector : Json) (sourceEventIds : List String) : Except GateFailure Unit := do
  Check.guard (isText (← item vector "source_event_set_sha256")
    (python.sha256Hex (String.intercalate "\n" (sortNames sourceEventIds))) = true)
    (.value "source membership differs from vector provenance")

/-- One turn of the loop over the vectors of a partition. -/
def checkDocument (schema : Json) (start stop : Int) (name : Partition) (scan : Scan) (row : Json × Json) :
    Except GateFailure Scan := do
  requireContract libraries schema row.1
  let key ← freshKey python start stop scan.seen row.1
  requireBinding python row.1 row.2
  let (sourceEventIds, sourceOwners) ← claimField "source_event_ids" name scan.sourceOwners row.2
  let (sessionIds, sessionOwners) ← claimField "session_ids" name scan.sessionOwners row.2
  requireSources python row.1 sourceEventIds
  return ⟨key :: scan.seen, scan.sessions ++ sessionIds, sourceOwners, sessionOwners⟩

/-- A range of times in the manifest. -/
def rangeOf (bounds : Json) : Except GateFailure (Int × Int) := do
  let start ← timestampOf python (← item bounds "start")
  let stop ← timestampOf python (← item bounds "end")
  return (start, stop)

/-- The profile of the training partition. -/
def requireProfile (name : Partition) (bounds : Json) : Except GateFailure Unit :=
  if name = .train then do
    Check.guard (isText (← item bounds "label_profile") "benign_biased" = true)
      (.value "training must use the benign-biased partition")
  else .ok ()

/-- The range of a partition comes after the one before it and is inside of the dataset. -/
def orderedRange (bounds : Json) (previousEnd outerEnd : Int) : Except GateFailure (Int × Int) := do
  let range ← rangeOf python bounds
  Check.guard (previousEnd ≤ range.1 ∧ range.1 < range.2 ∧ range.2 ≤ outerEnd)
    (.value "partitions must be ordered, nonoverlapping and within dataset bounds")
  return range

/-- The part of a partition in the ledger, which has the digest of the vector file. -/
def partOf (documents : Documents) (ledger : Json) (name : Partition) : Except GateFailure Json := do
  let part ← item (← item ledger "partitions") name.text
  requireNames part ["vectors_sha256", "memberships"] "invalid partition ledger fields"
  requireDigest libraries (documents.files name) (← item part "vectors_sha256") "vector file digest mismatch"
  return part

/-- The vectors of a partition and their memberships. -/
def rowsOf (vectors : List Json) (bounds part : Json) : Except GateFailure (List (Json × Json)) := do
  let memberships ← iterate (← item part "memberships")
  Check.guard ((← item bounds "vector_count").equalsInt vectors.length = true ∧ vectors.length = memberships.length)
    (.value "vector count mismatch")
  return vectors.zip memberships

/-- One turn of the loop over the partitions. -/
def checkDocuments (documents : Documents) (ledger : Json) (outerEnd : Int) (gate : Gate) (name : Partition) :
    Except GateFailure Gate := do
  let bounds ← item (← item documents.manifest "split") name.text
  let range ← orderedRange python bounds gate.previousEnd outerEnd
  requireProfile name bounds
  let part ← partOf libraries documents ledger name
  let rows ← rowsOf (documents.vectors name) bounds part
  let schema ← item documents.manifest "feature_schema"
  let scan ← rows.foldlM (checkDocument python libraries schema range.1 range.2 name)
    ⟨[], [], gate.sourceOwners, gate.sessionOwners⟩
  Check.guard (isText (← item bounds "session_ids_sha256") (namesHash python scan.sessions) = true)
    (.value "partition session digest mismatch")
  return ⟨range.2, scan.sourceOwners, scan.sessionOwners⟩

/-- The ledger, which has the digest of the manifest and the three partitions. -/
def ledgerOf (documents : Documents) : Except GateFailure Json := do
  let split ← item documents.manifest "split"
  requireDigest libraries documents.assignment (← item split "session_assignment_sha256")
    "session assignment digest mismatch"
  match documents.assignment.bind libraries.loads with
  | none => .error (.value "the ledger is not JSON")
  | some ledger => do
      requireNames ledger ["schema_version", "partitions"] "unsupported membership ledger"
      Check.guard (isText (← item ledger "schema_version") "partition-membership-v1" = true)
        (.value "unsupported membership ledger")
      requireNames (← item ledger "partitions") (partitionNames.map Partition.text) "all three partitions are required"
      return ledger

/-- `validate_partitions` -/
def validateDocuments (documents : Documents) : Except GateFailure Unit := do
  Check.guard (libraries.conforms documents.manifest = true) .schema
  let ledger ← ledgerOf libraries documents
  let outer ← rangeOf python (← item documents.manifest "time_range")
  let _ ← partitionNames.foldlM (checkDocuments python libraries documents ledger outer.2) ⟨outer.1, [], []⟩

end Gate

section Written

/-- The bytes of a text in UTF-8. -/
def utf8 (text : String) : List UInt8 := text.toList.flatMap String.utf8EncodeChar

def PartitionEntry.toJson (entry : PartitionEntry) : Json :=
  .obj [("start", .str (rfc3339 entry.start)), ("end", .str (rfc3339 entry.stop)),
    ("vector_count", .int entry.vectorCount), ("session_ids_sha256", .str entry.sessionIdsSha256),
    ("label_profile", .str entry.labelProfile)]

/-- The manifest that `write_dataset` writes. -/
def Manifest.toJson (manifest : Manifest) : Json :=
  let provenance := manifest.provenance
  .obj [("schema_version", .str "dataset-manifest-v1"), ("dataset_id", .str provenance.datasetId),
    ("created_at", .str (rfc3339 provenance.createdAt)),
    ("time_range", .obj [("start", .str (rfc3339 manifest.start)), ("end", .str (rfc3339 manifest.stop))]),
    ("sources", .arr (provenance.sources.map .str)), ("feature_schema", .str manifest.featureSchema.text),
    ("feature_schema_sha256", .str manifest.featureSchemaSha256), ("sha256", .str manifest.sha256),
    ("git_sha", .str manifest.gitSha), ("raw_data_committed", .bool false),
    ("raw_data_location_class", .str provenance.rawDataLocationClass),
    ("label_source", .obj [("method", .str "scenario_time_window"), ("protocol_version", .str "soc-labeling-v1"),
      ("sha256", .str manifest.labelsSha256)]),
    ("split", .obj (("strategy", .str "temporal_session_isolated") ::
      ("session_assignment_sha256", .str manifest.sessionAssignmentSha256) ::
        manifest.split.map fun row => (row.1.text, row.2.toJson))),
    ("provenance", .obj [("normalization_schema_sha256", .str provenance.normalizationSchemaSha256),
      ("collector_config_sha256", .str provenance.collectorConfigSha256),
      ("source_manifest_sha256", .str provenance.eventsSha256), ("feature_engine_git_sha", .str manifest.gitSha),
      ("generated_by", .str "soc-build-dataset-v1")])]

/-- The files of a dataset as they are read back. In their texts the names are sorted. -/
def DatasetFiles.documents (files : DatasetFiles) : Documents where
  manifest := files.manifest.toJson.sortKeys
  vectors name := (files.vectors name).map fun vector => vector.toJson.sortKeys
  files name := some (utf8 (jsonl ((files.vectors name).map FeatureVector.toJson)))
  assignment := some (utf8 files.ledger.toJson.canonical)

end Written

end ClosedLoop.Training
