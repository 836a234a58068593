import ClosedLoop.Construction.Workers.Features
import ClosedLoop.Library.IpAddress
import Mathlib.Algebra.Ring.Int.Defs
import Mathlib.Algebra.GroupWithZero.Defs

namespace ClosedLoop.Workers

open ClosedLoop.Library ClosedLoop.Response

/-- The functions of the Python library on values and texts that the feature calculation leaves open. -/
structure PythonValues where
  /-- `repr` of a value that is no text -/
  repr : Json → String
  /-- `str.isdigit` -/
  isDigit : String → Bool
  /-- `int` of a text -/
  parseInt : String → Option Int

section Events

/-- `_nested` -/
def nested : Json → List String → Json
  | value, [] => value
  | .obj fields, key :: path => nested (Json.get fields key) path
  | _, _ :: _ => .null

/-- `_event_id` -/
def eventId (event : Json) : Except FeatureError String :=
  match nested event ["event", "id"] with
  | .str value => if value = "" then .error (.contract "normalized event is missing event.id") else .ok value
  | _ => .error (.contract "normalized event is missing event.id")

variable (python : Python)

/-- `_as_utc` of a text. -/
def asUtcText (text : String) : Except FeatureError Int :=
  match python.fromIsoformat text with
  | none => .error (.value ("Invalid isoformat string: " ++ python.repr (text.replace "Z" "+00:00")))
  | some .naive => .error (.contract "timestamps must include an explicit UTC offset")
  | some (.aware time) => .ok time
  | some (.beyond _) => .error dateOverflow

/-- `_event_timestamp` -/
def eventTimestamp (event : Json) : Except FeatureError Int :=
  match nested event ["@timestamp"] with
  | .str text => asUtcText python text
  | _ => do
      let identifier ← eventId event
      .error (.contract ("event " ++ identifier ++ " is missing @timestamp"))

/-- An event that repeats an id must repeat its content. -/
def requireAgreement (selected : Table String Json) (identifier : String) (event : Json) : Except FeatureError Unit :=
  match selected.find? identifier with
  | some previous =>
      Check.guard (previous.canonical = event.canonical)
        (.contract ("event.id " ++ python.repr identifier ++ " resolves to conflicting normalized telemetry"))
  | none => .ok ()

/-- One turn of the loop of `_validate_and_select`. -/
def selectEvent (start stop : Int) (selected : Table String Json) (event : Json) :
    Except FeatureError (Table String Json) :=
  match event with
  | .obj _ => do
      Check.guard (isText (nested event ["cxyz", "schema_version"]) "soc-event-v1" = true)
        (.contract "feature input must be normalized soc-event-v1 telemetry")
      let timestamp ← eventTimestamp python event
      if start ≤ timestamp ∧ timestamp < stop then do
        let identifier ← eventId event
        requireAgreement python selected identifier event
        return selected.upsert identifier event
      else return selected
  | _ => .error (.contract "feature input must contain JSON objects")

/-- `_validate_and_select` gives the events of a half-open window in the order of their ids. -/
def validateAndSelect (events : List Json) (start stop : Int) : Except FeatureError (List Json) := do
  let selected ← events.foldlM (selectEvent python start stop) []
  return (selected.insertionSort fun first second => first.1 ≤ second.1).map Prod.snd

end Events

section Fields

variable (python : Python) (values : PythonValues)

def lowerText : Json → String
  | .str text => python.lower text
  | _ => ""

/-- `str(value)`. -/
def pyStr : Json → String
  | .str text => text
  | value => values.repr value

def eventDataset (event : Json) : String := (nested event ["event", "dataset"]).text

/-- `_blocked` -/
def blocked (event : Json) : Bool :=
  lowerText python (nested event ["event", "action"]) ∈ ["block", "blocked", "deny", "denied", "drop", "reject"]

/-- `_suricata_type` -/
def suricataType (event : Json) : String := lowerText python (nested event ["event_type"])

/-- `_is_connection_record` -/
def isConnectionRecord (event : Json) : Bool :=
  eventDataset event = "firewall.syslog" ∨ (eventDataset event = "suricata.eve" ∧ suricataType python event = "flow")

/-- `_numeric` -/
def numeric (value : Json) : Except FeatureError Int :=
  let refused : FeatureError := .contract ("telemetry byte/count field is not numeric: " ++
    match value with
    | .str text => python.repr text
    | _ => values.repr value)
  match value with
  | .null => .ok 0
  | .bool _ => .ok 0
  | .int number => .ok (max 0 number)
  | .float (.finite number) => .ok (max 0 (number.num.tdiv number.den))
  | .float .negativeZero => .ok 0
  | .float (.infinity _) => .error (.overflow "cannot convert float infinity to integer")
  | .str text =>
      match values.parseInt text with
      | some number => .ok (max 0 number)
      | none => .error refused
  | _ => .error refused

/-- `_event_bytes` -/
def eventBytes (event : Json) : Except FeatureError (Int × Int) :=
  if eventDataset event = "suricata.eve" then
    if suricataType python event ≠ "flow" then .ok (0, 0)
    else do
      let outbound ← numeric python values (nested event ["flow", "bytes_toserver"])
      let inbound ← numeric python values (nested event ["flow", "bytes_toclient"])
      return (outbound, inbound)
  else do return (← numeric python values (nested event ["network", "bytes"]), 0)

/-- `str.rstrip(".")`. -/
def stripDots (text : String) : String := String.ofList (text.toList.reverse.dropWhile (· = '.')).reverse

/-- `_domain` -/
def domainOf (event : Json) : String :=
  match [["dns", "question", "name"], ["dns", "rrname"], ["dns", "query"]].find? fun path =>
      decide ((nested event path).text ≠ "") with
  | some path => stripDots (lowerText python (nested event path))
  | none => ""

/-- `_is_dns_query` -/
def isDnsQuery (event : Json) : Bool :=
  eventDataset event = "suricata.eve" && suricataType python event = "dns" &&
    match nested event ["dns", "type"] with
    | .null => true
    | .str text => python.lower text ∈ ["query", "request"]
    | _ => false

/-- `name in _categories(event)`. Only a text has the text of a category. -/
def hasCategory (name : String) (event : Json) : Bool :=
  match nested event ["event", "category"] with
  | .str text => text = name
  | .arr items => items.any fun item => isText item name
  | _ => false

/-- An authentication that failed. -/
def isFailedLogin (event : Json) : Bool :=
  hasCategory "authentication" event && lowerText python (nested event ["event", "outcome"]) = "failure"

/-- The destination port of a connection. Some digits are no decimal digits, and `int` refuses them. -/
def portOf (event : Json) : Except FeatureError (Option Int) :=
  match nested event ["destination", "port"] with
  | .int number => .ok (if 0 ≤ number then some number else none)
  | .str text =>
      if values.isDigit text then
        match values.parseInt text with
        | some number => .ok (some number)
        | none => .error (.value ("invalid literal for int() with base 10: " ++ python.repr text))
      else .ok none
  | _ => .ok none

/-- The size of the set of the items of a list. -/
def distinctCount {α : Type} [DecidableEq α] (items : List α) : Nat := items.dedup.length

/-- The quotient of two counts as a float. -/
def ratio (part whole : Nat) : Double :=
  if whole = 0 ∨ part = 0 then .finite 0 else .finite (FloatText.nearestDouble (mkRat part whole))

/-- `_network_features` -/
def networkFeatures (events : List Json) : Except FeatureError (List (String × Json)) := do
  let connections := events.filter (isConnectionRecord python)
  let queries := events.filter (isDnsQuery python)
  let suricata := fun event => decide (eventDataset event = "suricata.eve")
  let ports ← connections.mapM (portOf python values)
  let bytes ← connections.mapM (eventBytes python values)
  let count := fun number : Nat => Json.int number
  return [("connection_count", count connections.length),
    ("unique_dst_ip", count (distinctCount ((connections.map fun event => (nested event ["destination", "ip"]).text)
      |>.filter (· ≠ "")))),
    ("unique_dst_port", count (distinctCount ports.reduceOption)),
    ("bytes_out", .int (bytes.map Prod.fst).sum), ("bytes_in", .int (bytes.map Prod.snd).sum),
    ("blocked_ratio", .float (ratio (connections.countP (blocked python)) connections.length)),
    ("dns_query_count", count queries.length),
    ("unique_domain_count", count (distinctCount ((queries.map (domainOf python)).filter (· ≠ "")))),
    ("tls_count", count (events.countP fun event => suricata event && suricataType python event = "tls")),
    ("suricata_alert_count", count (events.countP fun event => suricata event &&
      (decide (suricataType python event = "alert") ||
        match nested event ["alert"] with
        | .obj _ => true
        | _ => false))),
    ("failed_auth_count", count (events.countP (isFailedLogin python)))]

/-- `_event_action_text` -/
def eventActionText (event : Json) : String :=
  String.intercalate " " (([["event", "action"], ["process", "name"], ["process", "command_line"],
    ["rule", "description"]].map (nested event)).filterMap fun value =>
      match value with
      | .null => none
      | value => some (python.lower (pyStr values value)))

/-- `token in text`. -/
def contains (token text : String) : Bool := text.toList.tails.any fun rest => token.toList.isPrefixOf rest

def mentions (tokens : List String) (event : Json) : Bool :=
  tokens.any fun token => contains token (eventActionText python values event)

/-- A process that is not in the baseline is rare. -/
def isRare (baseline : Option (List String)) (event : Json) : Bool :=
  let name := lowerText python (nested event ["process", "name"])
  name ≠ "" && baseline.any fun known => name ∉ known

/-- `_endpoint_features`, of which the worker names no rare processes. -/
def endpointFeatures (baseline : Option (List String)) (events : List Json) : List (String × Json) :=
  let processes := events.filter (hasCategory "process")
  let count := fun number : Nat => Json.int number
  [("process_count", count processes.length), ("rare_process_count", count (processes.countP (isRare python baseline))),
    ("powershell_count", count (processes.countP (mentions python values ["powershell", "pwsh"]))),
    ("failed_login_count", count (events.countP (isFailedLogin python))),
    ("fim_change_count", count (events.countP (hasCategory "file"))),
    ("account_change_count", count (events.countP
      (mentions python values ["account", "useradd", "usermod", "userdel"]))),
    ("privilege_change_count", count (events.countP
      (mentions python values ["privilege", "sudo", "setuid", "capability"])))]

end Fields

section Groups

variable (python : Python)

/-- The entity of an event, which must be an address in the network schema. -/
def entityOf (schema : FeatureSchema) (event : Json) : Except FeatureError (Option String) :=
  match schema with
  | .networkWindow =>
      match (nested event ["source", "ip"]).text with
      | "" => .ok none
      | entity =>
          match IPAddress.parse entity with
          | some _ => .ok (some entity)
          | none => .error (.contract ("source.ip is not an IP address: " ++ python.repr entity))
  | .endpointWindow =>
      match (nested event ["host", "name"]).text with
      | "" => .ok none
      | entity => .ok (some entity)

/-- One turn of the loop that groups the selected events. -/
def groupEvent (schema : FeatureSchema) (grouped : Table String (List Json)) (event : Json) :
    Except FeatureError (Table String (List Json)) := do
  match ← entityOf python schema event with
  | none => return grouped
  | some entity => return grouped.upsert entity ((grouped.find? entity).getD [] ++ [event])

/-- Addresses are ordered by their versions first. -/
def entityBefore (schema : FeatureSchema) (first second : String) : Prop :=
  match schema with
  | .networkWindow =>
      let version := fun entity : String => if ':' ∈ entity.toList then 6 else 4
      version first < version second ∨ (version first = version second ∧ first ≤ second)
  | .endpointWindow => first ≤ second

instance (schema : FeatureSchema) : DecidableRel (entityBefore schema) := fun _ _ =>
  match schema with
  | .networkWindow => inferInstanceAs (Decidable (_ ∨ _))
  | .endpointWindow => inferInstanceAs (Decidable (_ ≤ _))

variable (values : PythonValues)

/-- The features of an entity. -/
def featuresOf (baseline : Option (List String)) (schema : FeatureSchema) (events : List Json) :
    Except FeatureError (List (String × Json)) :=
  match schema with
  | .networkWindow => networkFeatures python values events
  | .endpointWindow => .ok (endpointFeatures python values baseline events)

def groupOf (baseline : Option (List String)) (schema : FeatureSchema) (entity : String) (events : List Json) :
    Except FeatureError Group := do
  let eventIds ← events.mapM eventId
  let features ← featuresOf python values baseline schema events
  return ⟨entity, eventIds, features⟩

/-- The groups of `build_network_vectors` and of `build_endpoint_vectors`. -/
def groupsOf (baseline : Option (List String)) (schema : FeatureSchema) (events : List Json) (start : Int) :
    Except FeatureError (List Group) := do
  let selected ← validateAndSelect python events start (start + fiveMinutes)
  let grouped ← selected.foldlM (groupEvent python schema) []
  (grouped.insertionSort fun first second => entityBefore schema first.1 second.1).mapM fun group =>
    groupOf python values baseline schema group.1 group.2

/-- The feature engine. The names of the baseline are in lower case. -/
def featureEngine (baseline : Option (List String)) : FeatureEngine where
  groups := groupsOf python values (baseline.map fun names => (names.filter (· ≠ "")).map python.lower)

end Groups

end ClosedLoop.Workers
