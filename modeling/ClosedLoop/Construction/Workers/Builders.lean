import ClosedLoop.Construction.Workers.Engine

namespace ClosedLoop.Workers

open ClosedLoop.Library ClosedLoop.Response

section Features

variable (python : Python) (values : PythonValues)

/-- A process is rare by definition, or it is not in the baseline. -/
def isRareIn (rareProcesses : List String) (baseline : Option (List String)) (event : Json) : Bool :=
  let name := lowerText python (nested event ["process", "name"])
  (name ≠ "" && decide (name ∈ rareProcesses)) || isRare python baseline event

/-- `_endpoint_features` with processes that are rare by definition. -/
def endpointFeaturesIn (rareProcesses : List String) (baseline : Option (List String)) (events : List Json) :
    List (String × Json) :=
  Table.upsert (endpointFeatures python values baseline events) "rare_process_count"
    (.int ((events.filter (hasCategory "process")).countP (isRareIn python rareProcesses baseline) : Nat))

end Features

section Builders

variable (python : Python) (contracts : Contracts)

/-- `_window_bounds` -/
def windowBounds (start stop : Int) : Except FeatureError Unit := do
  Check.guard (start < stop) (.contract "window_end must be after window_start")
  Check.guard (stop - start = fiveMinutes)
    (.contract "v1 feature contracts permit exactly one five-minute window")

/-- The groups of a window, with the features that a function calculates from the events of an entity. -/
def groupsWith (features : List Json → Except FeatureError (List (String × Json))) (schema : FeatureSchema)
    (events : List Json) (start : Int) : Except FeatureError (List Group) := do
  let selected ← validateAndSelect python events start (start + fiveMinutes)
  let grouped ← selected.foldlM (groupEvent python schema) []
  (grouped.insertionSort fun first second => entityBefore schema first.1 second.1).mapM fun group => do
    let eventIds ← group.2.mapM eventId
    return ⟨group.1, eventIds, ← features group.2⟩

/-- A vector is generated at the end of its window, unless a time is given. -/
def emittedAt (generatedAt : Option Int) (vector : FeatureVector) : FeatureVector :=
  { vector with generatedAt := generatedAt.getD vector.windowEnd }

/-- The common part of `build_network_vectors` and `build_endpoint_vectors`. -/
def buildWith (features : List Json → Except FeatureError (List (String × Json))) (schema : FeatureSchema)
    (events : List Json) (windowStart windowEnd : Int) (gitSha : String) (generatedAt : Option Int) :
    Except FeatureError (List FeatureVector) := do
  windowBounds windowStart windowEnd
  let groups ← groupsWith python features schema events windowStart
  let schemaHash ← (contracts.sha256 schema).mapError .schema
  return groups.map fun group => emittedAt generatedAt (vectorOf python gitSha schema schemaHash windowStart group)

variable (values : PythonValues)

/-- `build_network_vectors` -/
def buildNetworkVectors (events : List Json) (windowStart windowEnd : Int) (gitSha : String)
    (generatedAt : Option Int) : Except FeatureError (List FeatureVector) :=
  buildWith python contracts (networkFeatures python values) .networkWindow events windowStart windowEnd gitSha
    generatedAt

/-- `{process.lower() for process in processes if process}`. -/
def lowerNames (processes : List String) : List String := (processes.filter (· ≠ "")).map python.lower

/-- `build_endpoint_vectors` -/
def buildEndpointVectors (events : List Json) (windowStart windowEnd : Int) (gitSha : String)
    (rareProcesses : List String) (processBaseline : Option (List String)) (generatedAt : Option Int) :
    Except FeatureError (List FeatureVector) :=
  let features := endpointFeaturesIn python values (lowerNames python rareProcesses)
    (processBaseline.map (lowerNames python))
  buildWith python contracts (fun events => .ok (features events)) .endpointWindow events windowStart windowEnd gitSha
    generatedAt

/-- The two builders with the arguments that only one of them has. -/
inductive Builder where
  | network
  | endpoint (rareProcesses : List String) (processBaseline : Option (List String))

def Builder.schema : Builder → FeatureSchema
  | .network => .networkWindow
  | .endpoint _ _ => .endpointWindow

/-- A call of a builder. -/
def Builder.build (builder : Builder) (events : List Json) (windowStart windowEnd : Int) (gitSha : String)
    (generatedAt : Option Int) : Except FeatureError (List FeatureVector) :=
  match builder with
  | .network => buildNetworkVectors python contracts values events windowStart windowEnd gitSha generatedAt
  | .endpoint rareProcesses processBaseline =>
      buildEndpointVectors python contracts values events windowStart windowEnd gitSha rareProcesses processBaseline
        generatedAt

end Builders

end ClosedLoop.Workers
