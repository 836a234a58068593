import ClosedLoop.Construction.Workers.Vector

namespace ClosedLoop.Workers

open ClosedLoop.Library ClosedLoop.Response

/-- The outcomes of a window. -/
inductive WindowStatus where
  | done
  | empty
  | oversized
  | failed
  deriving DecidableEq, Repr

structure WindowRow where
  status : WindowStatus
  events : Nat := 0
  vectors : Nat := 0
  error : Option String := none

/-- `FeatureState` keeps the last outcome of each window. -/
abbrev FeatureState := Table (FeatureSchema × Int) WindowRow

/-- The events of one entity in a window and the features that are calculated from them. -/
structure Group where
  entity : String
  eventIds : List String
  features : List (String × Json)

/-- The exceptions of the feature calculation and of the contracts, by the names of their types. -/
inductive FeatureError where
  | contract (message : String)
  | schema (message : String)
  | value (message : String)
  | overflow (message : String)
  deriving DecidableEq, Repr

/-- The error of `datetime` for a time beyond its years. -/
def dateOverflow : FeatureError := .overflow "date value out of range"

/-- `type(exc).__name__ + ": " + str(exc)[:500]`. -/
def FeatureError.text : FeatureError → String
  | .contract message => "FeatureContractError: " ++ truncate 500 message
  | .schema message => "FeatureSchemaError: " ++ truncate 500 message
  | .value message => "ValueError: " ++ truncate 500 message
  | .overflow message => "OverflowError: " ++ truncate 500 message

/-- The pure feature calculation, which groups the events of a window by their entities. -/
structure FeatureEngine where
  groups : FeatureSchema → List Json → Int → Except FeatureError (List Group)

section Build

variable (python : Python) (contracts : Contracts) (engine : FeatureEngine) (gitSha : String)

/-- `_source_event_set_sha256` -/
def sourceEventSetSha256 (eventIds : List String) : String :=
  python.sha256Hex (String.intercalate "\n" (sortNames eventIds))

/-- `_vector_id` -/
def vectorIdOf (schema : FeatureSchema) (entity : String) (start last : Int) (eventSet : String) : String :=
  let seed := String.intercalate "|" [schema.text, schema.entityType, entity, rfc3339 start, rfc3339 last, eventSet]
  schema.text ++ ":" ++ truncate 40 (python.sha256Hex seed)

/-- One vector of `build_network_vectors` or `build_endpoint_vectors`. -/
def vectorOf (schema : FeatureSchema) (schemaHash : String) (start : Int) (group : Group) : FeatureVector :=
  let last := start + fiveMinutes
  let eventSet := sourceEventSetSha256 python group.eventIds
  { featureSchema := schema, featureSchemaSha256 := schemaHash
    vectorId := vectorIdOf python schema group.entity start last eventSet
    entityType := schema.entityType, entity := group.entity, windowStart := start, windowEnd := last
    sourceEventCount := group.eventIds.length, sourceEventSetSha256 := eventSet
    generatorGitSha := gitSha, generatedAt := last, features := group.features }

/-- `build_network_vectors` or `build_endpoint_vectors`, by the schema. -/
def build (schema : FeatureSchema) (events : List Json) (start : Int) : Except FeatureError (List FeatureVector) := do
  let groups ← engine.groups schema events start
  let schemaHash ← (contracts.sha256 schema).mapError .schema
  return groups.map (vectorOf python gitSha schema schemaHash start)

/-- The vectors of a window, each of which has passed its contract. -/
def buildVectors (schema : FeatureSchema) (events : List Json) (start : Int) :
    Except FeatureError (List FeatureVector) := do
  let vectors ← build python contracts engine gitSha schema events start
  (vectors.forM (validateVector contracts)).mapError .schema
  return vectors

/-- What `fetch_window_events` gives. -/
inductive Fetched where
  | events (found : List Json)
  | exceeded (limit : Nat)

/-- A call of `process_window` that delivers the vectors of its window one by one. -/
structure Delivery where
  schema : FeatureSchema
  start : Int
  events : Nat
  vectors : Nat
  remaining : List FeatureVector

/-- `process_window` up to its first request for a document. -/
def openWindow (state : FeatureState) (schema : FeatureSchema) (start : Int) (fetched : Fetched) :
    FeatureState × Option Delivery :=
  match fetched with
  | .exceeded limit =>
      (state.upsert (schema, start) {
        status := .oversized, events := limit
        error := some (s!"scan exceeded the configured limit of {limit} documents") }, none)
  | .events [] => (state.upsert (schema, start) { status := .empty }, none)
  | .events found =>
      match buildVectors python contracts engine gitSha schema found start with
      | .error error =>
          (state.upsert (schema, start) {
            status := .failed, events := found.length, error := some error.text }, none)
      | .ok vectors => (state, some ⟨schema, start, found.length, vectors.length, vectors⟩)

end Build

/-- The index of the vectors of a window. -/
def featureIndex (windowEnd : Int) : String := "soc-features-" ++ day windowEnd

/-- One turn of the loop of `process_window` creates one document. A failure ends the call, and the window is
tried again later. -/
def deliver (documents : List (Stored FeatureVector)) (state : FeatureState) (delivery : Delivery)
    (fault : Option Fault) : List (Stored FeatureVector) × FeatureState × Option Delivery :=
  match delivery.remaining with
  | [] =>
      (documents, state.upsert (delivery.schema, delivery.start) {
        status := .done, events := delivery.events, vectors := delivery.vectors }, none)
  | vector :: rest =>
      match create documents (featureIndex (delivery.start + fiveMinutes)) vector.vectorId vector fault with
      | (.failed error, after) =>
          (after, state.upsert (delivery.schema, delivery.start) {
            status := .failed, events := delivery.events, error := some error.code }, none)
      | (.refused, after) => (after, state, none)
      | (_, after) => (after, state, some { delivery with remaining := rest })

end ClosedLoop.Workers
