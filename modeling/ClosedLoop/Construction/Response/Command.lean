import ClosedLoop.Construction.Response.Policy
import ClosedLoop.Library.Check

namespace ClosedLoop.Response

open ClosedLoop.Library

/-- A JSON number that equals an integer, in one of its two spellings. -/
structure WholeNumber where
  value : Int
  float : Bool
  deriving DecidableEq, Repr

def WholeNumber.toJson (number : WholeNumber) : Json :=
  if number.float then .float (.finite number.value) else .int number.value

structure PolicyReference where
  id : String
  version : String
  sha256 : String
  deriving DecidableEq, Repr

structure Authorization where
  keyId : String
  signature : String
  issuedAt : String
  expiresAt : String
  deriving DecidableEq, Repr

/-- The target suits the action, and the target of a block is an IP address. -/
def Suited (action : Action) (target : Target) : Prop :=
  target.type = action.targetType ∧ (action = .blockIp → (IPAddress.parse target.value).isSome)

instance (action : Action) (target : Target) : Decidable (Suited action target) :=
  inferInstanceAs (Decidable (_ ∧ _))

/-- A response command whose shape has been checked. The constant fields are implicit. -/
structure Command where
  requestId : String
  decisionEventId : String
  correlationId : String
  policy : PolicyReference
  target : Target
  action : Action
  ttlSeconds : WholeNumber
  idempotencyKey : String
  authorization : Authorization
  suited : Suited action target
  deriving DecidableEq, Repr

namespace Command

/-- The fields that the signature covers. -/
def unsigned (authorization : Authorization) : List (String × Json) :=
  [("issuer", .str "decision_engine"), ("key_id", .str authorization.keyId),
    ("issued_at", .str authorization.issuedAt), ("expires_at", .str authorization.expiresAt)]

/-- A command mapping with a given authorization. -/
def fields (command : Command) (authorization : List (String × Json)) : List (String × Json) :=
  [("schema_version", .str "response-command-v1"), ("request_id", .str command.requestId),
    ("decision_event_id", .str command.decisionEventId), ("correlation_id", .str command.correlationId),
    ("policy", .obj [("id", .str command.policy.id), ("version", .str command.policy.version),
      ("sha256", .str command.policy.sha256)]),
    ("target", .obj [("type", .str command.target.type.text), ("value", .str command.target.value)]),
    ("action", .str command.action.text), ("ttl_seconds", command.ttlSeconds.toJson),
    ("allowlist_checked", .bool true), ("rollback_required", .bool true),
    ("idempotency_key", .str command.idempotencyKey), ("authorization", .obj authorization)]

def toJson (command : Command) : Json :=
  .obj (command.fields (unsigned command.authorization ++ [("signature", .str command.authorization.signature)]))

/-- `_signature_payload` covers every field but the signature itself. -/
def signaturePayload (command : Command) : Json := .obj (command.fields (unsigned command.authorization))

end Command

/-- A key ring decides which signatures it accepts. -/
structure CommandAuthenticator where
  ring : List String
  signatureShape : String → Bool
  signatureValid : (keyId signature : String) → (payload : Json) → Bool

section Authentication

variable (python : Python)

/-- A time in an authorization is a text with a timezone. -/
def parseRfc3339 (reject : String → PyError) (label invalid : String) (value : Json) : Except PyError Int :=
  match value with
  | .str text =>
      if text = "" then .error (reject s!"{label} must be an RFC3339 timestamp")
      else match python.fromIsoformat text with
        | none => .error (reject s!"{label} {invalid}")
        | some .naive => .error (reject s!"{label} must include a timezone")
        | some (.aware time) => .ok time
        | some (.beyond _) => .error .overflowError
  | _ => .error (reject s!"{label} must be an RFC3339 timestamp")

namespace CommandAuthenticator

variable (authenticator : CommandAuthenticator)

/-- The key must be in the ring and the signature must have the right shape. -/
def credentials (keyId signature : Json) : Except PyError (String × String) :=
  match keyId with
  | .str key =>
      if key ∉ authenticator.ring then
        .error (.correlationRejected "response command uses an unknown authorization key")
      else match signature with
        | .str text =>
            if authenticator.signatureShape text then .ok (key, text)
            else .error (.correlationRejected "response command has an invalid authorization signature")
        | _ => .error (.correlationRejected "response command has an invalid authorization signature")
  | _ => .error (.correlationRejected "response command uses an unknown authorization key")

/-- `verify` raises on an invalid, untrusted, or expired command. -/
def verify (command : Command) (now : Int) : Except PyError Unit := do
  let (keyId, signature) ← authenticator.credentials (.str command.authorization.keyId)
    (.str command.authorization.signature)
  Check.guard (authenticator.signatureValid keyId signature command.signaturePayload)
    (.correlationRejected "response command signature verification failed")
  let issuedAt ← parseRfc3339 python .correlationRejected "authorization.issued_at" "is not a valid timestamp"
    (.str command.authorization.issuedAt)
  let expiresAt ← parseRfc3339 python .correlationRejected "authorization.expires_at" "is not a valid timestamp"
    (.str command.authorization.expiresAt)
  Check.guard (issuedAt < expiresAt ∧ now < expiresAt)
    (.correlationRejected "response command authorization is expired")

end CommandAuthenticator

end Authentication

section Validation

variable (python : Python) (catalog : PolicyCatalog) (authenticator : CommandAuthenticator)

def requiredFields : List String :=
  ["schema_version", "request_id", "decision_event_id", "correlation_id", "policy", "target", "action",
    "ttl_seconds", "allowlist_checked", "rollback_required", "idempotency_key", "authorization"]

/-- A command is a mapping with exactly the required fields and the known schema. -/
def commandFields (command : Json) : Except PyError (List (String × Json)) :=
  match command with
  | .obj fields =>
      if !Json.hasExactly fields requiredFields then
        .error (.commandRejected "response command has missing or unsupported fields")
      else match Json.get fields "schema_version" with
        | .str "response-command-v1" => .ok fields
        | _ => .error (.commandRejected "unsupported response command schema")
  | _ => .error (.commandRejected "response command must be an object")

def nonEmptyField (fields : List (String × Json)) (field : String) : Except PyError String :=
  match Json.get fields field with
  | .str text =>
      if text = "" then .error (.commandRejected s!"response command {field} must be non-empty") else .ok text
  | _ => .error (.commandRejected s!"response command {field} must be non-empty")

def requireSafeguards (fields : List (String × Json)) : Except PyError Unit :=
  match Json.get fields "allowlist_checked", Json.get fields "rollback_required" with
  | .bool true, .bool true => .ok ()
  | _, _ => .error (.commandRejected "response command must require allowlist checking and rollback")

/-- The referenced policy must be the active one, in its version and with its hash. -/
def activePolicy (policyData : Json) : Except PyError ResponsePolicy :=
  match policyData with
  | .obj fields =>
      if !Json.hasExactly fields ["id", "version", "sha256"] then
        .error (.commandRejected "response command policy is malformed")
      else match Json.get fields "id" with
        | .str identifier =>
            match catalog.policy identifier with
            | .error _ => .error (.commandRejected "response command policy is unknown")
            | .ok policy =>
                match Json.get fields "version", Json.get fields "sha256" with
                | .str version, .str sha256 =>
                    if identifier = policy.id ∧ version = policy.version ∧ sha256 = policy.sha256 then .ok policy
                    else .error (.commandRejected
                      "response command policy version or hash does not match active policy")
                | _, _ => .error (.commandRejected
                    "response command policy version or hash does not match active policy")
        | _ => .error (.commandRejected "response command policy is unknown")
  | _ => .error (.commandRejected "response command policy is malformed")

def requireAction (policy : ResponsePolicy) (action : Json) : Except PyError Unit :=
  match action with
  | .str text =>
      if text = policy.action.text then .ok ()
      else .error (.commandRejected "response command action differs from active policy")
  | _ => .error (.commandRejected "response command action differs from active policy")

/-- The command's lifetime equals the policy's, as an integer or as a float. -/
def matchingTtl (policy : ResponsePolicy) (ttlSeconds : Json) : Except PyError WholeNumber :=
  if ttlSeconds.equalsInt policy.ttlSeconds then
    .ok ⟨policy.ttlSeconds, match ttlSeconds with | .float _ => true | _ => false⟩
  else .error (.commandRejected "response command TTL differs from active policy")

def targetFields (target : Json) : Except PyError Target :=
  match target with
  | .obj fields =>
      if !Json.hasExactly fields ["type", "value"] then
        .error (.commandRejected "response command target is malformed")
      else match Json.get fields "type", Json.get fields "value" with
        | .str type, .str value =>
            if value = "" ∨ 255 < value.toList.length then
              .error (.commandRejected "response command target has an unsupported type or value")
            else if type = "ip" then .ok ⟨.ip, value⟩
            else if type = "host" then .ok ⟨.host, value⟩
            else .error (.commandRejected "response command target has an unsupported type or value")
        | _, _ => .error (.commandRejected "response command target has an unsupported type or value")
  | _ => .error (.commandRejected "response command target is malformed")

/-- The check names the first reason why a target does not suit its action. -/
def suitedTarget (action : Action) (target : Target) : Except PyError (PLift (Suited action target)) :=
  if suits : Suited action target then .ok ⟨suits⟩
  else .error (.commandRejected (match action, target.type with
    | .blockIp, .host => "block_ip command must target an IP address"
    | .blockIp, .ip => "block_ip command target is not a valid IP address"
    | .isolateHost, _ => "isolate_host command must target a host"))

def authorizationFields (authorization : Json) : Except PyError (List (String × Json)) :=
  match authorization with
  | .obj fields =>
      if !Json.hasExactly fields ["issuer", "key_id", "signature", "issued_at", "expires_at"] then
        .error (.commandRejected "response command authorization is malformed")
      else match Json.get fields "issuer" with
        | .str "decision_engine" => .ok fields
        | _ => .error (.commandRejected "response command issuer is not trusted")
  | _ => .error (.commandRejected "response command authorization is malformed")

/-- An authorization is short, ends after it begins, and does not begin in the future. -/
def authorizationWindow (issuedText expiresText : Json) (now : Int) : Except PyError Unit := do
  let issuedAt ← parseRfc3339 python .commandRejected "authorization.issued_at" "is invalid" issuedText
  let expiresAt ← parseRfc3339 python .commandRejected "authorization.expires_at" "is invalid" expiresText
  Check.guard (issuedAt < expiresAt)
    (.commandRejected "response command authorization expiry must follow issuance")
  Check.guard (issuedAt ≤ now + seconds 60)
    (.commandRejected "response command authorization is issued too far in the future")
  Check.guard (expiresAt - issuedAt ≤ seconds catalog.commandValidForSeconds)
    (.commandRejected "response command authorization lifetime exceeds active policy")

/-- The orchestrator reports a rejected signature as a rejected command. -/
def asCommandRejected {α : Type} : Except PyError α → Except PyError α
  | .error (.correlationRejected message) => .error (.commandRejected message)
  | checked => checked

/-- `_validate_command` checks a mapping against the active policy and the key ring. -/
def validateCommand (command : Json) (now : Int) : Except PyError Command := do
  let fields ← commandFields command
  let requestId ← nonEmptyField fields "request_id"
  let decisionEventId ← nonEmptyField fields "decision_event_id"
  let correlationId ← nonEmptyField fields "correlation_id"
  let idempotencyKey ← nonEmptyField fields "idempotency_key"
  requireSafeguards fields
  let policy ← activePolicy catalog (Json.get fields "policy")
  requireAction policy (Json.get fields "action")
  let ttlSeconds ← matchingTtl policy (Json.get fields "ttl_seconds")
  let target ← targetFields (Json.get fields "target")
  let suited ← suitedTarget policy.action target
  let authorization ← authorizationFields (Json.get fields "authorization")
  authorizationWindow python catalog (Json.get authorization "issued_at") (Json.get authorization "expires_at") now
  let (keyId, signature) ← asCommandRejected
    (authenticator.credentials (Json.get authorization "key_id") (Json.get authorization "signature"))
  let normalized : Command :=
    { requestId, decisionEventId, correlationId, idempotencyKey
      policy := ⟨policy.id, policy.version, policy.sha256⟩
      target, action := policy.action, ttlSeconds
      authorization := ⟨keyId, signature, (Json.get authorization "issued_at").text,
        (Json.get authorization "expires_at").text⟩
      suited := suited.down }
  asCommandRejected (authenticator.verify python normalized now)
  return normalized

end Validation

end ClosedLoop.Response
