import ClosedLoop.Construction.Workers.Outbox

namespace ClosedLoop.Workers

open ClosedLoop.Library ClosedLoop.Response

section Events

/-- A number that `math.isfinite` accepts. -/
def finite? : Json → Option Rat
  | .int number => if number.natAbs < 2 ^ 1024 - 2 ^ 970 then some number else none
  | .float number => number.number?
  | _ => none

def inferenceFields : List String :=
  ["model_id", "algorithm", "feature_schema", "feature_schema_sha256", "model_sha256", "model_metadata_sha256",
    "score", "threshold", "is_anomaly", "inference_ms"]

/-- A result number is finite and not negative. A score and a threshold are not above one. -/
def inferenceNumber (result : List (String × Json)) (name : String) : Except DeliveryError Rat := do
  let invalid : DeliveryError := ⟨"INVALID_INFERENCE_NUMBER", false⟩
  match finite? (Json.get result name) with
  | none => .error invalid
  | some number =>
      Check.guard (0 ≤ number ∧ (name = "inference_ms" ∨ number ≤ 1)) invalid
      return number

/-- `anomaly_event` binds a scored event to the exact feature vector and approved model. -/
def anomalyEvent (vector : FeatureVector) (result : List (String × Json))
    (identifier metadataHash observer : String) (now : Int) : Except DeliveryError AnomalyEvent := do
  let field := Json.get result
  Check.guard (Json.hasExactly result inferenceFields = true) ⟨"INFERENCE_RESPONSE_CONTRACT", false⟩
  Check.guard (isText (field "feature_schema") vector.featureSchema.text = true ∧
      isText (field "feature_schema_sha256") vector.featureSchemaSha256 = true ∧
      isText (field "model_metadata_sha256") metadataHash = true) ⟨"MODEL_OR_SCHEMA_MISMATCH", false⟩
  Check.guard (isSha256 (field "model_sha256").text = true ∧ isSha256 (field "model_metadata_sha256").text = true)
    ⟨"INVALID_MODEL_HASH", false⟩
  Check.guard (isText (field "algorithm") "IsolationForest" = true ∧ (field "model_id").text ≠ "")
    ⟨"INVALID_MODEL_IDENTITY", false⟩
  let score ← inferenceNumber result "score"
  let threshold ← inferenceNumber result "threshold"
  let _ ← inferenceNumber result "inference_ms"
  match field "is_anomaly" with
  | .bool isAnomaly =>
      Check.guard (isAnomaly = decide (threshold ≤ score)) ⟨"INCONSISTENT_ANOMALY_DECISION", false⟩
      return {
        timestamp := now, eventId := identifier, observer, vectorId := vector.vectorId
        featureSchema := vector.featureSchema, featureSchemaSha256 := vector.featureSchemaSha256
        entityType := vector.entityType, entity := vector.entity, windowStart := vector.windowStart
        windowEnd := vector.windowEnd, sourceEventSetSha256 := vector.sourceEventSetSha256
        modelId := (field "model_id").text, modelSha256 := (field "model_sha256").text
        modelMetadataSha256 := (field "model_metadata_sha256").text, score := field "score"
        threshold := field "threshold", isAnomaly, inferenceMs := field "inference_ms" }
  | _ => .error ⟨"INCONSISTENT_ANOMALY_DECISION", false⟩

end Events

section Pull

/-- The place of a vector in the order of `pull_features`. -/
def FeatureVector.place (vector : FeatureVector) : SortTuple := sortTuple vector.windowEnd vector.vectorId

/-- The key of the cursor of a schema. -/
def featureCursor (schema : String) : String := "features_cursor:" ++ schema

/-- A call of `pull_features` between two searches. At these points the last hit that it has seen is the one after
which the scan goes on. -/
structure Pull where
  schema : String
  metadataHash : String
  limit : Nat
  pageSize : Nat
  last : Option SortTuple
  seen : Nat := 0
  added : Nat := 0
  duplicates : Nat := 0
  invalid : Nat := 0

/-- `pull_features` up to its first search. -/
def beginPull (outbox : Outbox) (schema metadataHash : String) (limit pageSize : Nat) : Except String Pull := do
  Check.guard (1 ≤ limit ∧ limit ≤ 100000) "limit must be between 1 and 100000"
  Check.guard (1 ≤ min pageSize limit ∧ min pageSize limit ≤ 10000) "page_size must be between 1 and 10000"
  return { schema, metadataHash, limit, pageSize := min pageSize limit, last := outbox.getMeta (featureCursor schema) }

/-- After the hits of a page the call goes on, leaves its loop, or raises. -/
inductive Consumed where
  | goesOn (pull : Pull) (outbox : Outbox)
  | leaves (pull : Pull) (outbox : Outbox)
  | raises (outbox : Outbox)

def Consumed.outbox : Consumed → Outbox
  | .goesOn _ outbox => outbox
  | .leaves _ outbox => outbox
  | .raises outbox => outbox

/-- The loop of `pull_features` over the hits of one page. -/
def consume (python : Python) (contracts : Contracts) (clock : Nat → Int) :
    Pull → Outbox → List FeatureVector → Consumed
  | pull, outbox, [] => .goesOn pull outbox
  | pull, outbox, vector :: rest =>
      if pull.limit ≤ pull.seen then .leaves pull outbox
      else
        let pull := { pull with seen := pull.seen + 1, last := some vector.place }
        if !vector.valid contracts then
          consume python contracts clock { pull with invalid := pull.invalid + 1 } outbox rest
        else match outbox.enqueue python vector pull.metadataHash (clock pull.seen) with
          | .error _ => .raises outbox
          | .ok (true, outbox) => consume python contracts clock { pull with added := pull.added + 1 } outbox rest
          | .ok (false, outbox) =>
              consume python contracts clock { pull with duplicates := pull.duplicates + 1 } outbox rest

/-- What a call of `pull_features` has returned. -/
structure PullReport where
  schema : String
  limit : Nat
  pulled : Nat
  added : Nat
  duplicates : Nat
  invalid : Nat
  deriving DecidableEq

/-- The end of `pull_features` saves the cursor. -/
def finishPull (pull : Pull) (outbox : Outbox) : PullReport × Outbox :=
  (⟨pull.schema, pull.limit, pull.seen, pull.added, pull.duplicates, pull.invalid⟩,
    match pull.last with
    | none => outbox
    | some last => outbox.setMeta (featureCursor pull.schema) last)

/-- The vectors that a pull asks for. -/
def wantedVector (schema : String) (document : Stored FeatureVector) : Bool :=
  document.source.featureSchema.text = schema

/-- The search for one page of `scan`. -/
def searchVectors (documents : List (Stored FeatureVector)) (pull : Pull) : List (Stored FeatureVector) :=
  Cursor.page (fun document => document.source.place) (wantedVector pull.schema) documents pull.last pull.pageSize

/-- A pull goes on with its next search, has returned, or has raised. -/
inductive Turned where
  | goesOn (pull : Pull) (outbox : Outbox)
  | returns (report : PullReport) (outbox : Outbox)
  | raises (outbox : Outbox)

/-- One search of `pull_features` and the loop over its hits. A page that is not full is the last one. -/
def readPage (python : Python) (contracts : Contracts) (clock : Nat → Int) (documents : List (Stored FeatureVector))
    (outbox : Outbox) (pull : Pull) (fault : Option DeliveryError) : Turned :=
  match fault with
  | some _ => .raises outbox
  | none =>
      let hits := (searchVectors documents pull).map (·.source)
      match consume python contracts clock pull outbox hits with
      | .raises outbox => .raises outbox
      | .leaves pull outbox => .returns (finishPull pull outbox).1 (finishPull pull outbox).2
      | .goesOn pull outbox =>
          if hits.length < pull.pageSize then .returns (finishPull pull outbox).1 (finishPull pull outbox).2
          else .goesOn pull outbox

end Pull

section Drain

/-- A call of `drain` has rows left, and may have scored the first of them. -/
structure Drain where
  remaining : List (String × Job)
  scored : Option AnomalyEvent := none

/-- `drain` up to its first row. -/
def beginDrain (outbox : Outbox) (now : Int) (limit : Nat) : Except String Drain := do
  Check.guard (1 ≤ limit ∧ limit ≤ 10000) "limit must be between 1 and 10000"
  return ⟨outbox.due now limit, none⟩

/-- What the inference service answers, with the history that is read for it. -/
abbrev InferenceReply := Except DeliveryError (Nat × List (String × Json))

/-- The event of a row that has none yet. -/
def scoreJob (contracts : Contracts) (identifier : String) (job : Job) (reply : InferenceReply) (now : Int) :
    Except DeliveryError AnomalyEvent := do
  (validateVector contracts job.vector).mapError fun _ => ⟨"FEATURE_CONTRACT_MISMATCH", false⟩
  let (status, result) ← reply
  Check.guard (status = 200) ⟨"INFERENCE_NOT_ACKNOWLEDGED", true⟩
  anomalyEvent job.vector result identifier job.metadataHash "soc-ai-inference" now

/-- `drain` scores the first row, or puts it off. -/
def infer (contracts : Contracts) (outbox : Outbox) (drain : Drain) (reply : InferenceReply) (now : Int) :
    Outbox × Drain :=
  match drain.remaining with
  | [] => (outbox, drain)
  | (identifier, job) :: rest =>
      match scoreJob contracts identifier job reply now with
      | .ok event => (outbox.saveEvent identifier event now, { drain with scored := some event })
      | .error error => (outbox.failed identifier error now, ⟨rest, none⟩)

/-- The index of the events of a day. -/
def anomalyIndex (timestamp : Int) : String := "soc-ai-" ++ day timestamp

/-- The event that `drain` has for the first row: the one of the row, or else the one that it has scored. -/
def Drain.event (drain : Drain) : Option AnomalyEvent :=
  match drain.remaining with
  | [] => none
  | (_, job) :: _ => job.event.or drain.scored

/-- The request that `drain` makes for the event of the first row. -/
def Drain.request (drain : Drain) (event : AnomalyEvent) : List (Stored AnomalyEvent) :=
  match drain.remaining with
  | [] => []
  | (identifier, _) :: _ => [⟨anomalyIndex event.timestamp, identifier, event⟩]

/-- `drain` publishes the event of the first row. A conflict denotes a prior delivery of the same job. -/
def publish (documents : List (Stored AnomalyEvent)) (outbox : Outbox) (drain : Drain) (event : AnomalyEvent)
    (fault : Option Fault) (now : Int) : List (Stored AnomalyEvent) × Outbox × Drain :=
  match drain.remaining with
  | [] => (documents, outbox, drain)
  | (identifier, _) :: rest =>
      match put documents (anomalyIndex event.timestamp) identifier event fault with
      | (.failed error, after) => (after, outbox.failed identifier error now, ⟨rest, none⟩)
      | (_, after) => (after, outbox.sent identifier now, ⟨rest, none⟩)

end Drain

end ClosedLoop.Workers
