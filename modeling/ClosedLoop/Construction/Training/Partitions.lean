import ClosedLoop.Construction.Training.Dataset
import ClosedLoop.Library.Owners

namespace ClosedLoop.Training

open ClosedLoop.Library ClosedLoop.Response ClosedLoop.Workers

section Text

/-- Parts that are separated by a comma and a blank. -/
def blankTail : List (List Char) → List Char
  | [] => []
  | part :: rest => ',' :: ' ' :: part ++ blankTail rest

def blankJoin : List (List Char) → List Char
  | [] => []
  | part :: rest => part ++ blankTail rest

mutual

/-- The text of a value with the separators that `json.dumps` has by default. -/
def dumpsChars : Json → List Char
  | .arr items => '[' :: blankJoin (dumpsItems items) ++ [']']
  | .obj fields => '{' :: blankJoin (dumpsFields fields) ++ ['}']
  | value => Json.render value

def dumpsItems : List Json → List (List Char)
  | [] => []
  | item :: rest => dumpsChars item :: dumpsItems rest

def dumpsFields : List (String × Json) → List (List Char)
  | [] => []
  | (name, value) :: rest => (Json.quote name ++ ':' :: ' ' :: dumpsChars value) :: dumpsFields rest

end

/-- `_jsonl` -/
def jsonl (rows : List Json) : String :=
  String.ofList (rows.flatMap fun row => dumpsChars row.sortKeys ++ ['\n'])

end Text

section Manifest

/-- A text matches a pattern between `^` and `$`, and `$` allows for one line end. -/
def matchesPattern (body : List Char → Bool) (text : String) : Bool :=
  body text.toList || (text.toList.getLast? = some '\n' && body text.toList.dropLast)

def isHexDigit (char : Char) : Bool := char.isDigit || ('a' ≤ char && char ≤ 'f') || ('A' ≤ char && char ≤ 'F')

/-- The pattern of a hexadecimal text with some number of digits. -/
def hexPattern (least most : Nat) (text : String) : Bool :=
  matchesPattern (fun body => least ≤ body.length && body.length ≤ most && body.all isHexDigit) text

def sha256Pattern : String → Bool := hexPattern 64 64

def gitShaPattern : String → Bool := hexPattern 7 64

def datasetIdPattern (text : String) : Bool :=
  matchesPattern (fun body =>
    match body with
    | [] => false
    | first :: rest => first.isLower && 2 ≤ rest.length && rest.length ≤ 127 &&
        rest.all fun char => char.isLower || char.isDigit || char = '-') text

/-- A partition in the manifest. -/
structure PartitionEntry where
  start : Int
  stop : Int
  vectorCount : Nat
  sessionIdsSha256 : String
  labelProfile : String

/-- The arguments of `write_dataset` that it only writes down. -/
structure Provenance where
  datasetId : String
  createdAt : Int
  sources : List String
  eventsSha256 : String
  collectorConfigSha256 : String
  normalizationSchemaSha256 : String
  rawDataLocationClass : String

/-- The manifest. Its constant fields are left out. -/
structure Manifest where
  provenance : Provenance
  start : Int
  stop : Int
  featureSchema : FeatureSchema
  featureSchemaSha256 : String
  sha256 : String
  gitSha : String
  labelsSha256 : String
  sessionAssignmentSha256 : String
  split : Table Partition PartitionEntry

/-- What the caller of `write_dataset` gives conforms to the schema. -/
def Provenance.conforms (provenance : Provenance) : Bool :=
  datasetIdPattern provenance.datasetId && provenance.sources ≠ [] && decide provenance.sources.Nodup &&
    provenance.sources.all (· ∈ ["suricata", "wazuh", "opnsense", "radius", "network_syslog", "endpoint"]) &&
    sha256Pattern provenance.eventsSha256 && sha256Pattern provenance.collectorConfigSha256 &&
    sha256Pattern provenance.normalizationSchemaSha256 &&
    decide (provenance.rawDataLocationClass ∈ ["local_ignored", "external_evidence", "approved_object_store"])

def PartitionEntry.conforms (entry : PartitionEntry) : Bool :=
  1 ≤ entry.vectorCount && sha256Pattern entry.sessionIdsSha256 &&
    decide (entry.labelProfile ∈ ["benign_biased", "mixed", "held_out_attack"])

/-- The schema `dataset-manifest-v1`. -/
def Manifest.conforms (manifest : Manifest) : Bool :=
  manifest.provenance.conforms && sha256Pattern manifest.featureSchemaSha256 && sha256Pattern manifest.sha256 &&
    gitShaPattern manifest.gitSha && sha256Pattern manifest.labelsSha256 &&
    sha256Pattern manifest.sessionAssignmentSha256 &&
    partitionNames.all fun name => (manifest.split.find? name).any PartitionEntry.conforms

end Manifest

section Files

/-- A partition in `session-assignments.json`. -/
structure LedgerPart where
  vectorsSha256 : String
  memberships : List Member

structure Ledger where
  schemaVersion : String
  partitions : Table Partition LedgerPart

def Member.toJson (member : Member) : Json :=
  .obj [("vector_sha256", .str member.vectorSha256), ("source_event_ids", .arr (member.sourceEventIds.map .str)),
    ("session_ids", .arr (member.sessionIds.map .str))]

def Ledger.toJson (ledger : Ledger) : Json :=
  .obj [("schema_version", .str ledger.schemaVersion),
    ("partitions", .obj (ledger.partitions.map fun row => (row.1.text,
      .obj [("vectors_sha256", .str row.2.vectorsSha256),
        ("memberships", .arr (row.2.memberships.map Member.toJson))])))]

def Label.toJson (label : Label) : Json :=
  let optional := fun text : Option String => match text with
    | some text => Json.str text
    | none => .null
  .obj [("schema_version", .str "labels-v1"), ("vector_sha256", .str label.vectorSha256),
    ("label", .int label.label), ("scenario_id", optional label.scenarioId),
    ("scenario_start", optional label.scenarioStart)]

/-- What `write_dataset` writes. A file is given by its content. -/
structure DatasetFiles where
  vectors : Partition → List FeatureVector
  labels : List Label
  ledger : Ledger
  manifest : Manifest

def labelProfile : Partition → String
  | .train => "benign_biased"
  | .validation => "mixed"
  | .test => "held_out_attack"

variable (python : Python) (contracts : Contracts)

/-- `sha256_file` of a vector file. -/
def vectorsSha256 (vectors : List FeatureVector) : String :=
  python.sha256Hex (jsonl (vectors.map FeatureVector.toJson))

/-- `canonical_hash` of a sorted list of texts. -/
def namesHash (names : List String) : String := sha256Hex python (.arr ((sortNames names.dedup).map .str))

/-- `write_dataset` into an empty directory. -/
def writeDataset (result : Progress) (provenance : Provenance) (schema : FeatureSchema) (boundaries : List Int)
    (gitSha : String) : Except String DatasetFiles := do
  let digest := fun name => vectorsSha256 python (result.vectors name)
  let ledger : Ledger := ⟨"partition-membership-v1",
    partitionNames.map fun name => (name, ⟨digest name, result.members name⟩)⟩
  let schemaSha256 ← contracts.sha256 schema
  let split : Table Partition PartitionEntry := (partitionBounds boundaries).map fun part => (part.1,
    { start := part.2.1, stop := part.2.2, vectorCount := (result.vectors part.1).length
      sessionIdsSha256 := namesHash python ((result.members part.1).flatMap (·.sessionIds))
      labelProfile := labelProfile part.1 })
  return {
    vectors := result.vectors, labels := result.labels, ledger := ledger
    manifest := {
      provenance := provenance, start := boundaries.headD 0, stop := boundaries.getLastD 0
      featureSchema := schema, featureSchemaSha256 := schemaSha256
      sha256 := sha256Hex python (.obj (partitionNames.map fun name => (name.text, .str (digest name))))
      gitSha := gitSha, labelsSha256 := python.sha256Hex (jsonl (result.labels.map Label.toJson))
      sessionAssignmentSha256 := sha256Hex python ledger.toJson, split := split } }

end Files

section Gate

/-- The owners of the ids at the end of a partition. -/
structure Gate where
  previousEnd : Int
  sourceOwners : Table String Partition
  sessionOwners : Table String Partition

instance windowKeyLawfulBEq : LawfulBEq (String × Int × Int) := inferInstance

/-- The accumulators of the loop over the vectors of a partition. -/
structure Scan where
  seen : List (String × Int × Int)
  sessions : List String
  sourceOwners : Table String Partition
  sessionOwners : Table String Partition

variable (python : Python) (contracts : Contracts)

/-- The checks of the ids of a membership. -/
def claimIds (name : Partition) (owners : Table String Partition) (identifiers : List String) :
    Except String (Table String Partition) := do
  Check.guard (identifiers ≠ [] ∧ "" ∉ identifiers ∧ identifiers.Nodup)
    "membership IDs must be nonempty unique strings"
  Owners.claimAll "source/session leakage across partitions" name owners identifiers

/-- One turn of the loop of `validate_partitions` over the vectors of a partition. -/
def checkVector (schema : FeatureSchema) (entry : PartitionEntry) (name : Partition) (scan : Scan)
    (row : FeatureVector × Member) : Except String Scan := do
  let (vector, member) := row
  validateVector contracts vector
  Check.guard (vector.featureSchema = schema) "mixed feature schemas"
  Check.guard (entry.start ≤ vector.windowStart ∧ vector.windowStart < vector.windowEnd ∧
    vector.windowEnd ≤ entry.stop) "vector crosses its temporal partition"
  let key := (vector.entity, vector.windowStart, vector.windowEnd)
  Check.guard (key ∉ scan.seen) "duplicate entity/window vector"
  Check.guard (member.vectorSha256 = vectorHash python vector) "membership is not bound to vector"
  let sourceOwners ← claimIds name scan.sourceOwners member.sourceEventIds
  let sessionOwners ← claimIds name scan.sessionOwners member.sessionIds
  Check.guard (python.sha256Hex (String.intercalate "\n" (sortNames member.sourceEventIds)) =
    vector.sourceEventSetSha256) "source membership differs from vector provenance"
  return ⟨key :: scan.seen, scan.sessions ++ member.sessionIds, sourceOwners, sessionOwners⟩

/-- A field of a document that must be there. -/
def required {α : Type} (table : Table Partition α) (name : Partition) : Except String α :=
  match table.find? name with
  | some value => .ok value
  | none => .error (python.repr name.text)

/-- One turn of the loop of `validate_partitions` over the partitions. -/
def checkPartition (files : DatasetFiles) (gate : Gate) (name : Partition) : Except String Gate := do
  let entry ← required python files.manifest.split name
  Check.guard (gate.previousEnd ≤ entry.start ∧ entry.start < entry.stop ∧ entry.stop ≤ files.manifest.stop)
    "partitions must be ordered, nonoverlapping and within dataset bounds"
  Check.guard (name = .train → entry.labelProfile = "benign_biased") "training must use the benign-biased partition"
  let part ← required python files.ledger.partitions name
  let rows := files.vectors name
  Check.guard (vectorsSha256 python rows = part.vectorsSha256) "vector file digest mismatch"
  Check.guard (rows.length = entry.vectorCount ∧ rows.length = part.memberships.length) "vector count mismatch"
  let scan ← (rows.zip part.memberships).foldlM
    (checkVector python contracts files.manifest.featureSchema entry name) ⟨[], [], gate.sourceOwners, gate.sessionOwners⟩
  Check.guard (namesHash python scan.sessions = entry.sessionIdsSha256) "partition session digest mismatch"
  return ⟨entry.stop, scan.sourceOwners, scan.sessionOwners⟩

/-- `validate_partitions`. The error is a `ModelProvenanceError`. -/
def validatePartitions (files : DatasetFiles) : Except String Unit := do
  Check.guard (files.manifest.conforms = true) "dataset partition schema validation refused"
  let checks : Except String Unit := do
    Check.guard (sha256Hex python files.ledger.toJson = files.manifest.sessionAssignmentSha256)
      "session assignment digest mismatch"
    Check.guard (files.ledger.schemaVersion = "partition-membership-v1") "unsupported membership ledger"
    Check.guard (files.ledger.partitions.keys ⊆ partitionNames ∧ partitionNames ⊆ files.ledger.partitions.keys)
      "all three partitions are required"
    let _ ← partitionNames.foldlM (checkPartition python contracts files) ⟨files.manifest.start, [], []⟩
  checks.mapError fun message => "dataset partition validation refused: " ++ message

end Gate

end ClosedLoop.Training
