import ClosedLoop.Construction.Response.Policy
import ClosedLoop.Library.Check
import Mathlib.Data.List.Sort

namespace ClosedLoop.Response

open ClosedLoop.Library

section Readers

def requireMapping (value : Json) (label : String) : Except PyError (List (String × Json)) :=
  match value with
  | .obj fields => .ok fields
  | _ => .error (.policyError s!"{label} must be a mapping")

/-- A required text is read without the blanks around it. -/
def requireString (value : Json) (label : String) : Except PyError String :=
  match value with
  | .str text =>
      if strip text = "" then .error (.policyError s!"{label} must be a non-empty string") else .ok (strip text)
  | _ => .error (.policyError s!"{label} must be a non-empty string")

/-- A boolean is no integer here. -/
def requirePositiveInt (value : Json) (label : String) (minimum : Nat) : Except PyError Nat :=
  match value with
  | .int number =>
      if number < minimum then .error (.policyError s!"{label} must be an integer >= {minimum}")
      else .ok number.toNat
  | _ => .error (.policyError s!"{label} must be an integer >= {minimum}")

/-- An integer between two bounds, with a message of its own for the upper one. -/
def requireBetween (value : Json) (label : String) (minimum maximum : Nat) (excess : String) :
    Except PyError { number : Nat // minimum ≤ number ∧ number ≤ maximum } := do
  let number ← requirePositiveInt value label minimum
  if bounds : minimum ≤ number ∧ number ≤ maximum then .ok ⟨number, bounds⟩ else .error (.policyError excess)

/-- A list of distinct texts. A missing list is empty. -/
def stringList (value : Json) (label : String) : Except PyError (List String) :=
  match value with
  | .null => .ok []
  | .arr items => do
      let values ← items.mapM fun item => requireString item s!"{label} item"
      Check.guard values.Nodup (.policyError s!"{label} must not contain duplicate values")
      return values
  | _ => .error (.policyError s!"{label} must be a list of strings")

/-- `sorted(set(mapping) - allowed)`. -/
def unknownFields (fields : List (String × Json)) (known : List String) : List String :=
  ((fields.map Prod.fst).filter (· ∉ known)).dedup.insertionSort (· ≤ ·)

def rejectUnknown (python : Python) (fields : List (String × Json)) (known : List String) (label : String)
    (reject : String → PyError) : Except PyError Unit :=
  Check.guard (unknownFields fields known = [])
    (reject (label ++ " has unsupported fields: " ++ python.reprList (unknownFields fields known)))

end Readers

def Action.ofText (text : String) : Option Action :=
  [Action.blockIp, Action.isolateHost].find? fun action => action.text = text

section Requirements

/-- A bound that may be missing. -/
def optionalBound (value : Json) (label : String) (minimum : Nat) : Except PyError (Option Nat) :=
  match value with
  | .null => .ok none
  | _ => do return some (← requirePositiveInt value label minimum)

variable (python : Python)

/-- `SignalRequirement.from_mapping` -/
def SignalRequirement.fromMapping (value : Json) (label : String) : Except PyError SignalRequirement := do
  let data ← requireMapping value label
  rejectUnknown python data ["type", "min_severity", "min_count"] label .policyError
  let text ← requireString (Json.get data "type") (label ++ ".type")
  match SignalType.ofText text with
  | none => .error (.policyError (label ++ ".type must be an independent signal type"))
  | some kind => do
      let minSeverity ← optionalBound (Json.get data "min_severity") (label ++ ".min_severity") 0
      let minCount ← optionalBound (Json.get data "min_count") (label ++ ".min_count") 1
      return ⟨kind, minSeverity, minCount⟩

/-- A bound in the normalized policy. A missing one leaves no field. -/
def boundField (name : String) (bound : Option Nat) : List (String × Json) :=
  bound.toList.map fun number : Nat => (name, .int number)

def SignalRequirement.toJson (requirement : SignalRequirement) : Json :=
  .obj (("type", .str requirement.kind.text) :: boundField "min_severity" requirement.minSeverity ++
    boundField "min_count" requirement.minCount)

/-- The double that the source writes as 0.9. -/
def hybridThreshold : Rat := mkRat 8106479329266893 9007199254740992

/-- `float(score)` of a number that is no boolean. -/
def floatOf : Json → Option Rat
  | .int number => some number
  | .float number => number.number?
  | _ => none

def requireScore (value : Json) (label : String) : Except PyError Rat :=
  let refused : PyError := .policyError (label ++ ".when.ai_score_gte must be between 0.90 and 1; " ++
    "automatic response may not be authorized below the global hybrid threshold")
  match floatOf value with
  | some score => if hybridThreshold ≤ score ∧ score ≤ 1 then .ok score else .error refused
  | none => .error refused

def requireAnyItems (value : Json) (label : String) : Except PyError (List Json) :=
  match value with
  | .arr (item :: rest) => .ok (item :: rest)
  | _ => .error (.policyError (label ++ ".when.require_any must contain an independent signal"))

/-- The normalized rule that is hashed. -/
def ruleMaterial (identifier version : String) (action : Action) (ttl : Nat) (score : Rat)
    (requirements : List SignalRequirement) : Json :=
  .obj [("id", .str identifier), ("version", .str version), ("enabled", .bool true), ("action", .str action.text),
    ("ttl_seconds", .int ttl),
    ("when", .obj [("ai_score_gte", .float (.finite score)),
      ("require_any", .arr (requirements.map SignalRequirement.toJson))])]

/-- `ResponsePolicy.from_mapping` hashes the parsed rule. -/
def ResponsePolicy.fromMapping (value : Json) (index : Nat) : Except PyError ResponsePolicy := do
  let label := s!"policies[{index}]"
  let data ← requireMapping value label
  rejectUnknown python data ["id", "version", "enabled", "action", "ttl_seconds", "when"] label .policyError
  match Json.get data "enabled" with
  | .bool true => do
      let identifier ← requireString (Json.get data "id") (label ++ ".id")
      let version ← requireString (Json.get data "version") (label ++ ".version")
      let actionText ← requireString (Json.get data "action") (label ++ ".action")
      match Action.ofText actionText with
      | none => .error (.policyError (label ++ ".action is unsupported"))
      | some action => do
          let ttl ← requireBetween (Json.get data "ttl_seconds") (label ++ ".ttl_seconds") 60 86400
            (label ++ ".ttl_seconds exceeds one day")
          let condition ← requireMapping (Json.get data "when") (label ++ ".when")
          Check.guard (Json.hasExactly condition ["ai_score_gte", "require_any"])
            (.policyError (label ++ ".when must contain ai_score_gte and require_any"))
          let score ← requireScore (Json.get condition "ai_score_gte") label
          let items ← requireAnyItems (Json.get condition "require_any") label
          let requirements ← items.zipIdx.mapM fun item =>
            SignalRequirement.fromMapping python item.1 (label ++ s!".when.require_any[{item.2}]")
          return { id := identifier, version, action, ttlSeconds := ttl.val, minAiScore := score
                   requireAny := requirements, ttlBounds := ttl.property
                   sha256 := sha256Hex python (ruleMaterial identifier version action ttl.val score requirements) }
  | _ => .error (.policyError (label ++ " must set enabled: true"))

end Requirements

section Catalogs

variable (python : Python)

/-- Every error in a list of addresses or networks is reported as one about the list. -/
def parseEach {α : Type} (parse : String → Option α) (value : Json) (name kind : String) : Except PyError (List α) :=
  let invalid : PyError := .policyError (name ++ " contains an invalid " ++ kind)
  match stringList value name with
  | .error _ => .error invalid
  | .ok items => items.mapM fun item => match parse item with
    | some parsed => .ok parsed
    | none => .error invalid

/-- A set of hosts in lower case. -/
def hostSet (value : Json) (name : String) : Except PyError (List String) := do
  let hosts ← stringList value name
  return (hosts.map python.lower).dedup

def protectionFields : List String :=
  ["allowlisted_ips", "allowlisted_networks", "protected_ips", "protected_networks", "protected_hosts",
    "allowed_isolation_hosts", "block_private_ip_targets"]

/-- `data.get(name, False)` must be a boolean. -/
def booleanField (fields : List (String × Json)) (name : String) : Except PyError Bool :=
  match fields.lookup name with
  | none => .ok false
  | some (.bool value) => .ok value
  | some _ => .error (.policyError (name ++ " must be boolean"))

/-- `ProtectionPolicy.from_mapping` -/
def ProtectionPolicy.fromMapping (value : Json) : Except PyError ProtectionPolicy := do
  let data ← requireMapping value "defaults.protections"
  rejectUnknown python data protectionFields "defaults.protections" .policyError
  let blockPrivateIpTargets ← booleanField data "block_private_ip_targets"
  let allowlistedIps ← parseEach IPAddress.parse (Json.get data "allowlisted_ips") "allowlisted_ips" "IP address"
  let allowlistedNetworks ← parseEach IPNetwork.parse (Json.get data "allowlisted_networks") "allowlisted_networks"
    "CIDR"
  let protectedIps ← parseEach IPAddress.parse (Json.get data "protected_ips") "protected_ips" "IP address"
  let protectedNetworks ← parseEach IPNetwork.parse (Json.get data "protected_networks") "protected_networks" "CIDR"
  let protectedHosts ← hostSet python (Json.get data "protected_hosts") "protected_hosts"
  let allowedIsolationHosts ← hostSet python (Json.get data "allowed_isolation_hosts") "allowed_isolation_hosts"
  return { allowlistedIps, allowlistedNetworks, protectedIps, protectedNetworks, protectedHosts
           allowedIsolationHosts, blockPrivateIpTargets }

/-- `RateLimit.from_mapping` -/
def RateLimit.fromMapping (value : Json) : Except PyError RateLimit := do
  let data ← requireMapping value "defaults.rate_limit"
  Check.guard (Json.hasExactly data ["max_actions", "window_seconds"])
    (.policyError "defaults.rate_limit must contain only max_actions and window_seconds")
  let maxActions ← requirePositiveInt (Json.get data "max_actions") "defaults.rate_limit.max_actions" 1
  let windowSeconds ← requirePositiveInt (Json.get data "window_seconds") "defaults.rate_limit.window_seconds" 1
  return ⟨maxActions, windowSeconds⟩

/-- `sorted(str(item) for item in items)` -/
def sortedTexts (texts : List String) : Json := .arr ((texts.insertionSort (· ≤ ·)).map .str)

def ProtectionPolicy.toJson (protections : ProtectionPolicy) : Json :=
  .obj [("allowlisted_ips", sortedTexts (protections.allowlistedIps.map IPAddress.print)),
    ("allowlisted_networks", sortedTexts (protections.allowlistedNetworks.map IPNetwork.print)),
    ("protected_ips", sortedTexts (protections.protectedIps.map IPAddress.print)),
    ("protected_networks", sortedTexts (protections.protectedNetworks.map IPNetwork.print)),
    ("protected_hosts", sortedTexts protections.protectedHosts),
    ("allowed_isolation_hosts", sortedTexts protections.allowedIsolationHosts)]

/-- Every command binds the safeguards that were used to authorize it. -/
def safeguardMaterial (protections : ProtectionPolicy) (rateLimit : RateLimit)
    (dedupSeconds commandValid evidenceMaxAge : Nat) : Json :=
  .obj [("protections", protections.toJson), ("block_private_ip_targets", .bool protections.blockPrivateIpTargets),
    ("rate_limit", .obj [("max_actions", .int rateLimit.maxActions), ("window_seconds", .int rateLimit.windowSeconds)]),
    ("dedup_seconds", .int dedupSeconds), ("command_valid_for_seconds", .int commandValid),
    ("evidence_max_age_seconds", .int evidenceMaxAge)]

/-- The policy whose hash covers its rule and the safeguards. -/
def ResponsePolicy.bind (rule : ResponsePolicy) (safeguards : Json) : ResponsePolicy :=
  { rule with sha256 := sha256Hex python (.obj [("rule_sha256", .str rule.sha256), ("safeguards", safeguards)]) }

def policyItems (value : Json) : Except PyError (List Json) :=
  match value with
  | .arr (item :: rest) => .ok (item :: rest)
  | _ => .error (.policyError "policies must be a non-empty list")

/-- The defaults of a policy document. -/
structure Defaults where
  protections : ProtectionPolicy
  rateLimit : RateLimit
  dedupSeconds : Nat
  commandValid : { number : Nat // 30 ≤ number ∧ number ≤ 900 }
  evidenceMaxAge : { number : Nat // 30 ≤ number ∧ number ≤ 86400 }

def Defaults.material (defaults : Defaults) : Json :=
  safeguardMaterial defaults.protections defaults.rateLimit defaults.dedupSeconds defaults.commandValid
    defaults.evidenceMaxAge

def Defaults.fromMapping (value : Json) : Except PyError Defaults := do
  let data ← requireMapping value "defaults"
  Check.guard (Json.hasExactly data ["protections", "rate_limit", "dedup_seconds", "command_valid_for_seconds",
      "evidence_max_age_seconds"]) (.policyError "defaults has unsupported or missing fields")
  let dedupSeconds ← requirePositiveInt (Json.get data "dedup_seconds") "defaults.dedup_seconds" 60
  let commandValid ← requireBetween (Json.get data "command_valid_for_seconds") "defaults.command_valid_for_seconds"
    30 900 "defaults.command_valid_for_seconds must be <= 900"
  let evidenceMaxAge ← requireBetween (Json.get data "evidence_max_age_seconds") "defaults.evidence_max_age_seconds"
    30 86400 "defaults.evidence_max_age_seconds must be <= 86400"
  let protections ← ProtectionPolicy.fromMapping python (Json.get data "protections")
  let rateLimit ← RateLimit.fromMapping (Json.get data "rate_limit")
  return ⟨protections, rateLimit, dedupSeconds, commandValid, evidenceMaxAge⟩

/-- `PolicyCatalog.from_mapping` -/
def PolicyCatalog.fromMapping (document : Json) : Except PyError PolicyCatalog := do
  let data ← requireMapping document "policy document"
  Check.guard (Json.hasExactly data ["schema_version", "defaults", "policies"])
    (.policyError "policy document must contain only schema_version, defaults, and policies")
  match Json.get data "schema_version" with
  | .str "response-policy-set-v1" => do
      let defaults ← Defaults.fromMapping python (Json.get data "defaults")
      let items ← policyItems (Json.get data "policies")
      let rules ← items.zipIdx.mapM fun item => ResponsePolicy.fromMapping python item.1 item.2
      let policies := rules.map fun rule => rule.bind python defaults.material
      Check.guard (policies.map (·.id)).Nodup (.policyError "policy identifiers must be unique")
      return { protections := defaults.protections, rateLimit := defaults.rateLimit
               dedupSeconds := defaults.dedupSeconds, commandValidForSeconds := defaults.commandValid
               evidenceMaxAgeSeconds := defaults.evidenceMaxAge
               policies := policies.map fun policy => (policy.id, policy)
               commandValidBounds := defaults.commandValid.property
               keyed := by simp }
  | _ => .error (.policyError "unsupported response policy schema version")

end Catalogs

end ClosedLoop.Response
