import ClosedLoop.Construction.Workers.Engine
import ClosedLoop.Library.FloatText

namespace ClosedLoop.Workers

open ClosedLoop.Library ClosedLoop.Response

section Sequences

variable (python : Python)

/-- `_parse` -/
def parseTimestamp (text : String) : Except FeatureError Int :=
  match python.fromIsoformat text with
  | none => .error (.value ("Invalid isoformat string: " ++ python.repr (text.replace "Z" "+00:00")))
  | some .naive => .error (.value "timestamp must include a UTC offset")
  | some (.aware time) => .ok time
  | some (.beyond _) => .error dateOverflow

/-- The ends of the windows before a window, oldest first. -/
def endsBefore (windowEnd : Int) (count : Nat) : List Int :=
  (List.range count).map fun place => windowEnd - fiveMinutes * ((count - place : Nat) : Int)

/-- The beginning of the year 1. -/
def earliestTime : Int := -62135596800000000

/-- `history_window_ends` -/
def historyWindowEnds (windowEnd : String) (length : Int) : Except FeatureError (List String) := do
  Check.guard (2 ≤ length) (.value "sequence length must be at least 2")
  let last ← parseTimestamp python windowEnd
  -- The first end is the earliest one, and no datetime is before the year 1.
  Check.guard (earliestTime ≤ last - fiveMinutes * (length - 1)) dateOverflow
  return (endsBefore last (length - 1).toNat).map rfc3339

/-- `float` of a number. -/
def floatOf : Json → Double
  | .int number => .finite (FloatText.nearestDouble number)
  | .float number => number
  | _ => .nan

/-- `ordered_feature_row` -/
def orderedFeatureRow (schema : FeatureSchema) (features : List (String × Json)) : Except FeatureError (List Double) := do
  (requireExactFeatures schema features).mapError .schema
  return schema.features.map fun name => floatOf (Json.get features name)

/-- `sequence_matrix` -/
def sequenceMatrix (schema : FeatureSchema) (history : List (Option (List (String × Json))))
    (features : List (String × Json)) : Except FeatureError (List (List Double)) := do
  let rows ← history.mapM fun item =>
    match item with
    | none => .ok (List.replicate schema.features.length (.finite 0))
    | some features => orderedFeatureRow schema features
  return rows ++ [← orderedFeatureRow schema features]

/-- `index_vectors_by_window_end` -/
def indexVectorsByWindowEnd (vectors : List FeatureVector) :
    Except FeatureError (Table (String × String) FeatureVector) :=
  vectors.foldlM (fun index vector => do
    let last ← parseTimestamp python (rfc3339 vector.windowEnd)
    return index.upsert (vector.entity, rfc3339 last) vector) []

/-- `entity_history` -/
def entityHistory (vector : FeatureVector) (index : Table (String × String) FeatureVector) (length : Int) :
    Except FeatureError (List (Option (List (String × Json)))) := do
  let ends ← historyWindowEnds python (rfc3339 vector.windowEnd) length
  return ends.map fun last => (index.find? (vector.entity, last)).map (·.features)

end Sequences

section Serving

/-- The search of `make_history_fetcher`. -/
structure HistoryQuery where
  size : Nat
  featureSchema : String
  entity : String
  ends : List String

/-- What the history fetcher raises. -/
inductive HistoryError where
  | feature (error : FeatureError)
  | delivery (error : DeliveryError)

/-- `make_history_fetcher` -/
def fetchHistory (python : Python) (search : HistoryQuery → Except DeliveryError (List FeatureVector)) (length : Int)
    (vector : FeatureVector) : Except HistoryError (List (Option (List (String × Json)))) := do
  let ends ← (historyWindowEnds python (rfc3339 vector.windowEnd) length).mapError .feature
  let hits ← (search ⟨ends.length, vector.featureSchema.text, vector.entity, ends⟩).mapError .delivery
  let byEnd : Table String (List (String × Json)) :=
    hits.foldl (fun table hit => table.upsert (rfc3339 hit.windowEnd) hit.features) []
  return ends.map byEnd.find?

end Serving

end ClosedLoop.Workers
