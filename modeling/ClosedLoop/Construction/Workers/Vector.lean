import ClosedLoop.Construction.Workers.Common
import ClosedLoop.Library.Check

namespace ClosedLoop.Workers

open ClosedLoop.Library

/-- A value that is a given text. -/
def isText (value : Json) (text : String) : Bool :=
  match value with
  | .str found => found = text
  | _ => false

/-- The feature contracts. -/
inductive FeatureSchema where
  | networkWindow
  | endpointWindow
  deriving DecidableEq, Repr

def FeatureSchema.text : FeatureSchema → String
  | .networkWindow => "network-window-v1"
  | .endpointWindow => "endpoint-window-v1"

def FeatureSchema.entityType : FeatureSchema → String
  | .networkWindow => "src_ip"
  | .endpointWindow => "host"

/-- `expected_feature_names` -/
def FeatureSchema.features : FeatureSchema → List String
  | .networkWindow =>
      ["connection_count", "unique_dst_ip", "unique_dst_port", "bytes_out", "bytes_in", "blocked_ratio",
        "dns_query_count", "unique_domain_count", "tls_count", "suricata_alert_count", "failed_auth_count"]
  | .endpointWindow =>
      ["process_count", "rare_process_count", "powershell_count", "failed_login_count", "fim_change_count",
        "account_change_count", "privilege_change_count"]

/-- A vector describes one entity in one closed window. Its version is its schema and its duration is `5m`. -/
structure FeatureVector where
  featureSchema : FeatureSchema
  featureSchemaSha256 : String
  vectorId : String
  entityType : String
  entity : String
  windowStart : Int
  windowEnd : Int
  sourceEventCount : Nat
  sourceEventSetSha256 : String
  generatorGitSha : String
  generatedAt : Int
  features : List (String × Json)

/-- The document of a vector. -/
def FeatureVector.toJson (vector : FeatureVector) : Json :=
  .obj [("schema_version", .str vector.featureSchema.text), ("feature_schema", .str vector.featureSchema.text),
    ("feature_schema_sha256", .str vector.featureSchemaSha256), ("vector_id", .str vector.vectorId),
    ("entity_type", .str vector.entityType), ("entity", .str vector.entity),
    ("window_start", .str (rfc3339 vector.windowStart)), ("window_end", .str (rfc3339 vector.windowEnd)),
    ("window_duration", .str "5m"), ("source_event_count", .int vector.sourceEventCount),
    ("source_event_set_sha256", .str vector.sourceEventSetSha256),
    ("generator_git_sha", .str vector.generatorGitSha), ("generated_at", .str (rfc3339 vector.generatedAt)),
    ("features", .obj vector.features)]

/-- The local copy of the contracts. -/
structure Contracts where
  /-- `Draft202012Validator(document, format_checker=FormatChecker()).validate` -/
  conforms : FeatureVector → Bool
  /-- The digest of a schema file that is there. -/
  schemaSha256 : FeatureSchema → Option String

/-- `feature_schema_sha256` -/
def Contracts.sha256 (contracts : Contracts) (schema : FeatureSchema) : Except String String :=
  match contracts.schemaSha256 schema with
  | some digest => .ok digest
  | none => .error ("feature schema is missing: schemas/features/" ++ schema.text ++ ".schema.json")

/-- A feature is a finite number that is not negative. All but the ratio are counts. -/
def requireFeature (name : String) (value : Json) : Except String Unit := do
  let number ← match value with
    | .int number =>
        if number.natAbs < 2 ^ 1024 - 2 ^ 970 then .ok (number : Rat)
        else .error ("feature " ++ name ++ " must be finite")
    | .float number =>
        match number.number? with
        | some number => .ok number
        | none => .error ("feature " ++ name ++ " must be finite")
    | _ => .error ("feature " ++ name ++ " must be numeric")
  Check.guard (0 ≤ number) ("feature " ++ name ++ " must be non-negative")
  if name = "blocked_ratio" then Check.guard (number ≤ 1) "blocked_ratio must be in [0, 1]"
  else Check.guard (number.den = 1) ("feature " ++ name ++ " must be an integer count")

def sortNames (names : List String) : List String := names.insertionSort (· ≤ ·)

/-- `require_exact_features` -/
def requireExactFeatures (schema : FeatureSchema) (features : List (String × Json)) : Except String Unit := do
  let missing := sortNames (schema.features.filter fun name => name ∉ features.map Prod.fst)
  let unexpected := sortNames ((features.map Prod.fst).filter fun name => name ∉ schema.features)
  let details := (if missing = [] then [] else ["missing=" ++ String.intercalate "," missing]) ++
    if unexpected = [] then [] else ["unexpected=" ++ String.intercalate "," unexpected]
  Check.guard (details = [])
    ("feature keys do not match " ++ schema.text ++ ": " ++ String.intercalate "; " details)
  schema.features.forM fun name => requireFeature name (Json.get features name)

/-- `validate_vector` -/
def validateVector (contracts : Contracts) (vector : FeatureVector) : Except String Unit := do
  -- A schema file that cannot be read fails in the same way as a vector that does not conform to it.
  let digest ← (contracts.sha256 vector.featureSchema).mapError fun _ => "vector violates the versioned feature contract"
  Check.guard (contracts.conforms vector = true) "vector violates the versioned feature contract"
  requireExactFeatures vector.featureSchema vector.features
  Check.guard (vector.windowEnd - vector.windowStart = fiveMinutes) "feature window must span exactly five minutes"
  Check.guard (vector.featureSchemaSha256 = digest) "feature schema hash differs from the local contract"

/-- A vector that passes its contract. -/
def FeatureVector.valid (contracts : Contracts) (vector : FeatureVector) : Bool :=
  (validateVector contracts vector).toOption.isSome

end ClosedLoop.Workers
