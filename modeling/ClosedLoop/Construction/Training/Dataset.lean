import ClosedLoop.Construction.Workers.Engine
import ClosedLoop.Construction.Workers.Windows

namespace ClosedLoop.Training

open ClosedLoop.Library ClosedLoop.Response ClosedLoop.Workers

/-- The exceptions of the export and of the dataset builder. -/
inductive TrainingError where
  /-- `DatasetBuildError` -/
  | dataset (message : String)
  /-- An exception of the feature calculation, or a `ValueError`. -/
  | raised (error : FeatureError)
  /-- A field that is missing or has the wrong type, or an iterator that is at its end. -/
  | lookup
  deriving DecidableEq, Repr

section Export

variable (python : Python)

/-- `event["@timestamp"]`, which must have a method `replace`. -/
def timestampText : Json → Except TrainingError String
  | .obj fields =>
      match fields.lookup "@timestamp" with
      | some (.str text) => .ok text
      | _ => .error .lookup
  | _ => .error .lookup

def invalidIsoformat (text : String) : TrainingError :=
  .raised (.value ("Invalid isoformat string: " ++ python.repr (text.replace "Z" "+00:00")))

/-- One turn of the loop of `main` over the lines of a capture. A blank line has no event. -/
def exportLine (windows : Table Int (List Json)) (line : Option Json × Nat) :
    Except TrainingError (Table Int (List Json)) :=
  match line with
  | (none, _) => return windows
  | (some event, number) => do
      let text ← timestampText event
      match python.fromIsoformat text with
      | none => .error (invalidIsoformat python text)
      | some .naive => .error (.raised (.value (s!"timestamp at line {number} needs a timezone")))
      | some (.aware timestamp) => return windows.push (floorWindow timestamp) event
      | some (.beyond _) => .error (.raised Workers.dateOverflow)

/-- The windows of a capture, by the lines that hold the events. -/
def exportWindows (lines : List (Option Json)) : Except TrainingError (Table Int (List Json)) :=
  (lines.zipIdx 1).foldlM (exportLine python) []

end Export

section Sessions

/-- A controlled attack on one entity, with the times of `load_scenarios`. -/
structure Scenario where
  id : String
  entity : String
  start : Int
  stop : Int
  deriving DecidableEq, Repr

variable (python : Python)

/-- `_ts` -/
def ts (text : String) : Except TrainingError Int :=
  match python.fromIsoformat text with
  | none => .error (invalidIsoformat python text)
  | some .naive => .error (.dataset "timestamps must include a UTC offset")
  | some (.aware time) => .ok time
  | some (.beyond _) => .error (.raised Workers.dateOverflow)

def eventTime (event : Json) : Except TrainingError Int := do ts python (← timestampText event)

/-- A field that must be a text. -/
def textField (fields : List (String × Json)) (name : String) : Except TrainingError String :=
  match fields.lookup name with
  | some (.str text) => .ok text
  | _ => .error .lookup

def requiredNames : List String := ["id", "entity", "start", "end"]

def unsupportedScenario : TrainingError := .dataset "scenario has missing or unsupported fields"

/-- `set(item)` of a list must be the names of the fields, and then `item["id"]` raises. -/
def listedScenario (parts : List Json) : TrainingError :=
  let compound := fun part : Json => match part with
    | .arr _ | .obj _ => true
    | _ => false
  if parts.any compound then .lookup
  else if parts.all (fun part => ("description" :: requiredNames).any (isText part)) &&
      requiredNames.all (fun name => parts.any (isText · name)) then .lookup
  else unsupportedScenario

/-- One turn of the loop of `load_scenarios`. The ids are texts. -/
def loadScenario (values : PythonValues) (loaded : List Scenario) (item : Json) : Except TrainingError (List Scenario) :=
  match item with
  | .obj fields => do
      let names := fields.map Prod.fst
      Check.guard (names ⊆ "description" :: requiredNames ∧ requiredNames ⊆ names) unsupportedScenario
      let id ← textField fields "id"
      Check.guard (id ∉ loaded.map (·.id)) (.dataset ("duplicate scenario id " ++ python.repr id))
      let start ← ts python (← textField fields "start")
      let stop ← ts python (← textField fields "end")
      Check.guard (start < stop) (.dataset ("scenario " ++ python.repr id ++ " must end after it starts"))
      return loaded ++ [⟨id, pyStr values (Json.get fields "entity"), start, stop⟩]
  | .arr parts => .error (listedScenario parts)
  | .str _ => .error unsupportedScenario
  | _ => .error .lookup

/-- What the loop over `payload.get("scenarios", [])` sees. -/
def scenarioItems (payload : Json) : Except TrainingError (List Json) :=
  match payload with
  | .obj fields =>
      match fields.lookup "scenarios" with
      | none => .ok []
      | some (.arr items) => .ok items
      | some (.obj named) => .ok (named.map fun field => .str field.1)
      | some (.str text) => .ok (text.toList.map fun char => .str (String.singleton char))
      | some _ => .error .lookup
  | _ => .error .lookup

/-- `load_scenarios` -/
def loadScenarios (values : PythonValues) (payload : Json) : Except TrainingError (List Scenario) := do
  Check.guard (isText (nested payload ["schema_version"]) "scenarios-v1" = true)
    (.dataset "scenario file must be scenarios-v1")
  let items ← scenarioItems payload
  items.foldlM (loadScenario python values) []

/-- `_aligned` -/
def aligned (value : Int) : Bool := value % 60000000 = 0 ∧ value / 60000000 % 60 % 5 = 0

/-- `_entity_of` -/
def eventEntity (schema : FeatureSchema) (event : Json) : Option String :=
  let value := match schema with
    | .networkWindow => (nested event ["source", "ip"]).text
    | .endpointWindow => (nested event ["host", "name"]).text
  if value = "" then none else some value

/-- `date().isoformat()`. -/
def isoDate (value : Int) : String :=
  let date := dateOf value
  String.ofList (Calendar.yearChars date.1 ++ ('-' :: Calendar.lastDigits 2 date.2.1 ++
    '-' :: Calendar.lastDigits 2 date.2.2))

/-- The first scenario that an entity is in at a time. Both ends of a scenario belong to it. -/
def scenarioAt (scenarios : List Scenario) (entity : String) (time : Int) : Option Scenario :=
  scenarios.find? fun scenario => scenario.entity = entity ∧ scenario.start ≤ time ∧ time ≤ scenario.stop

/-- The session of an entity at a time. -/
def sessionAt (scenarios : List Scenario) (entity : String) (time : Int) : String :=
  match scenarioAt scenarios entity time with
  | some scenario => "scenario:" ++ scenario.id
  | none => "entity-day:" ++ entity ++ ":" ++ isoDate time

/-- `_session` -/
def session (scenarios : List Scenario) (entity : String) (event : Json) : Except TrainingError String := do
  return sessionAt scenarios entity (← eventTime python event)

/-- `min(hits, key=lambda item: item["start"])` gives the first of the earliest ones. -/
def earliest : List Scenario → Option Scenario
  | [] => none
  | scenario :: rest =>
      match earliest rest with
      | none => some scenario
      | some other => if other.start < scenario.start then some other else some scenario

/-- `_attack_scenario` -/
def attackScenario (scenarios : List Scenario) (entity : String) (start stop : Int) : Option Scenario :=
  earliest (scenarios.filter fun scenario =>
    scenario.entity = entity ∧ start < scenario.stop ∧ scenario.start < stop)

end Sessions

section Build

inductive Partition where
  | train
  | validation
  | test
  deriving DecidableEq, Repr

def Partition.text : Partition → String
  | .train => "train"
  | .validation => "validation"
  | .test => "test"

def partitionNames : List Partition := [.train, .validation, .test]

/-- The partitions with their bounds. -/
def partitionBounds (boundaries : List Int) : List (Partition × Int × Int) :=
  partitionNames.zip (boundaries.zip boundaries.tail)

/-- The partition of a window. -/
def partitionOf (boundaries : List Int) (start : Int) : Option Partition :=
  ((partitionBounds boundaries).find? fun part => part.2.1 ≤ start ∧ start < part.2.2).map Prod.fst

/-- The events and the sessions of a vector. -/
structure Member where
  vectorSha256 : String
  sourceEventIds : List String
  sessionIds : List String
  deriving DecidableEq, Repr

/-- A row of `labels`, with the scenario that its last fields are read from. -/
structure Label where
  vectorSha256 : String
  scenario : Option Scenario
  deriving DecidableEq, Repr

def Label.label (label : Label) : Nat := if label.scenario.isSome then 1 else 0

def Label.scenarioId (label : Label) : Option String := label.scenario.map (·.id)

def Label.scenarioStart (label : Label) : Option String := label.scenario.map fun scenario => Workers.rfc3339 scenario.start

/-- A vector of a partition and its membership. -/
structure Row where
  partition : Partition
  vector : FeatureVector
  member : Member

/-- The accumulators of the loop of `build`, which are its result in the end. -/
structure Progress where
  rows : List Row := []
  labels : List Label := []
  droppedAttackFromTrain : Nat := 0
  scenarioPartitions : Table String (List Partition) := []

/-- `partitions[name]` -/
def Progress.vectors (progress : Progress) (name : Partition) : List FeatureVector :=
  (progress.rows.filter (·.partition = name)).map (·.vector)

/-- `members[name]` -/
def Progress.members (progress : Progress) (name : Partition) : List Member :=
  (progress.rows.filter (·.partition = name)).map (·.member)

variable (python : Python) (contracts : Contracts) (engine : FeatureEngine) (gitSha : String)

/-- `canonical_hash` of a vector. -/
def vectorHash (vector : FeatureVector) : String := sha256Hex python vector.toJson

/-- One turn of the loop that groups the events by their windows. -/
def datasetEvent (first last : Int) (windows : Table Int (List Json)) (event : Json) :
    Except TrainingError (Table Int (List Json)) := do
  let time ← eventTime python event
  if first ≤ time ∧ time < last then return windows.push (floorWindow time) event else return windows

/-- The windows between the first and the last boundary. -/
def datasetWindows (first last : Int) (events : List Json) : Except TrainingError (Table Int (List Json)) :=
  events.foldlM (datasetEvent python first last) []

/-- The membership of a vector, made of the events of its window. -/
def memberOf (scenarios : List Scenario) (schema : FeatureSchema) (events : List Json) (vector : FeatureVector) :
    Except TrainingError Member := do
  let own := events.filter fun event => eventEntity schema event = some vector.entity
  -- The feature calculation has found that each of these ids is a text.
  let mine := sortNames (own.map fun event => (nested event ["event", "id"]).text)
  Check.guard (python.sha256Hex (String.intercalate "\n" mine) = vector.sourceEventSetSha256)
    (.dataset "membership does not reproduce the vector's source-event hash")
  let sessions ← own.mapM (session python scenarios vector.entity)
  return ⟨vectorHash python vector, mine, sortNames sessions.dedup⟩

/-- One turn of the loop of `build` over the vectors of a window. -/
def addVector (boundaries : List Int) (scenarios : List Scenario) (schema : FeatureSchema) (start : Int)
    (events : List Json) (progress : Progress) (vector : FeatureVector) : Except TrainingError Progress := do
  (validateVector contracts vector).mapError fun message => .raised (.schema message)
  match partitionOf boundaries start with
  | none => .error .lookup
  | some name =>
      let scenario := attackScenario scenarios vector.entity vector.windowStart vector.windowEnd
      let seen := match scenario with
        | none => progress.scenarioPartitions
        | some scenario => progress.scenarioPartitions.upsert scenario.id
            (((progress.scenarioPartitions.find? scenario.id).getD []).insert name)
      if name = .train ∧ scenario.isSome = true then
        return { progress with
          droppedAttackFromTrain := progress.droppedAttackFromTrain + 1, scenarioPartitions := seen }
      else do
        let member ← memberOf python scenarios schema events vector
        return { progress with
          rows := progress.rows ++ [⟨name, vector, member⟩]
          labels := progress.labels ++ [⟨vectorHash python vector, scenario⟩]
          scenarioPartitions := seen }

/-- One turn of the loop of `build` over the windows. -/
def addWindow (boundaries : List Int) (scenarios : List Scenario) (schema : FeatureSchema) (progress : Progress)
    (window : Int × List Json) : Except TrainingError Progress := do
  let vectors ← (Workers.build python contracts engine gitSha schema window.2 window.1).mapError .raised
  vectors.foldlM (addVector python contracts boundaries scenarios schema window.1 window.2) progress

/-- A partition that is evaluated needs benign vectors and attacks. -/
def bothLabels (scenarios : List Scenario) (vectors : List FeatureVector) : Bool :=
  let attack := fun vector : FeatureVector =>
    (attackScenario scenarios vector.entity vector.windowStart vector.windowEnd).isSome
  vectors.any attack && vectors.any fun vector => !attack vector

/-- `build` -/
def buildDataset (events : List Json) (scenarios : List Scenario) (schema : FeatureSchema) (boundaries : List Int) :
    Except TrainingError Progress := do
  Check.guard (boundaries.length = 4 ∧ boundaries.all aligned = true)
    (.dataset "four five-minute-aligned boundaries are required")
  Check.guard (boundaries = boundaries.dedup.insertionSort (· ≤ ·))
    (.dataset "partition boundaries must be strictly increasing")
  let windows ← datasetWindows python (boundaries.headD 0) (boundaries.getLastD 0) events
  let result ← (windows.insertionSort fun first second => first.1 ≤ second.1).foldlM
    (addWindow python contracts engine gitSha boundaries scenarios schema) {}
  let straddling := sortNames ((result.scenarioPartitions.filter fun row => 1 < row.2.length).map Prod.fst)
  Check.guard (straddling = [])
    (.dataset ("scenarios span a partition boundary (session leakage): " ++ String.intercalate ", " straddling))
  partitionNames.forM fun name => Check.guard (result.vectors name ≠ [])
    (.dataset ("the " ++ name.text ++ " partition is empty"))
  [Partition.validation, .test].forM fun name => Check.guard (bothLabels scenarios (result.vectors name) = true)
    (.dataset ("the " ++ name.text ++ " partition needs both benign and attack vectors"))
  return result

end Build

end ClosedLoop.Training
