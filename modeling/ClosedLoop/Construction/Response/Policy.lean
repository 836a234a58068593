import ClosedLoop.Construction.Response.Value
import ClosedLoop.Library.IpNetwork
import ClosedLoop.Library.Table

namespace ClosedLoop.Response

open ClosedLoop.Library

/-- The two supported containment actions. -/
inductive Action where
  | blockIp
  | isolateHost
  deriving DecidableEq, Repr

def Action.text : Action → String
  | .blockIp => "block_ip"
  | .isolateHost => "isolate_host"

theorem Action.text_injective {first second : Action} (same : first.text = second.text) : first = second := by
  revert same
  cases first <;> cases second <;> decide

inductive TargetType where
  | ip
  | host
  deriving DecidableEq, Repr

def TargetType.text : TargetType → String
  | .ip => "ip"
  | .host => "host"

theorem TargetType.text_injective {first second : TargetType} (same : first.text = second.text) : first = second := by
  revert same
  cases first <;> cases second <;> decide

/-- Each action affects one type of target. -/
def Action.targetType : Action → TargetType
  | .blockIp => .ip
  | .isolateHost => .host

structure Target where
  type : TargetType
  value : String
  deriving DecidableEq, Repr

/-- Targets that automatic containment is never allowed to affect. -/
structure ProtectionPolicy where
  allowlistedIps : List IPAddress
  allowlistedNetworks : List IPNetwork
  protectedIps : List IPAddress
  protectedNetworks : List IPNetwork
  protectedHosts : List String
  allowedIsolationHosts : List String
  blockPrivateIpTargets : Bool

structure RateLimit where
  maxActions : Nat
  windowSeconds : Nat
  deriving DecidableEq

/-- The signals that are independent of the model. -/
inductive SignalType where
  | suricata
  | wazuh
  | authentication
  | threatIntel
  | protectedAsset
  | honeypot
  deriving DecidableEq, Repr

def SignalType.text : SignalType → String
  | .suricata => "suricata"
  | .wazuh => "wazuh"
  | .authentication => "authentication"
  | .threatIntel => "threat_intel"
  | .protectedAsset => "protected_asset"
  | .honeypot => "honeypot"

theorem SignalType.text_injective {first second : SignalType} (same : first.text = second.text) : first = second := by
  revert same
  cases first <;> cases second <;> decide

def SignalType.all : List SignalType :=
  [.suricata, .wazuh, .authentication, .threatIntel, .protectedAsset, .honeypot]

def SignalType.ofText (text : String) : Option SignalType := SignalType.all.find? fun type => type.text = text

/-- One independently observed condition that can corroborate an anomaly. -/
structure SignalRequirement where
  kind : SignalType
  minSeverity : Option Nat
  minCount : Option Nat
  deriving DecidableEq, Repr

/-- A policy can only nominate an action after corroboration that is not from the model. -/
structure ResponsePolicy where
  id : String
  version : String
  sha256 : String
  action : Action
  ttlSeconds : Nat
  minAiScore : Rat
  requireAny : List SignalRequirement
  ttlBounds : 60 ≤ ttlSeconds ∧ ttlSeconds ≤ 86400

/-- All policy and protection state that both sides of the handoff need. -/
structure PolicyCatalog where
  protections : ProtectionPolicy
  rateLimit : RateLimit
  dedupSeconds : Nat
  commandValidForSeconds : Nat
  evidenceMaxAgeSeconds : Nat
  policies : Table String ResponsePolicy
  commandValidBounds : 30 ≤ commandValidForSeconds ∧ commandValidForSeconds ≤ 900
  keyed : ∀ row ∈ policies, row.2.id = row.1

/-- The active policy with this identifier. -/
def PolicyCatalog.policy (catalog : PolicyCatalog) (policyId : String) : Except PyError ResponsePolicy :=
  match catalog.policies.find? policyId with
  | some policy => .ok policy
  | none => .error (.policyError s!"unknown response policy: {policyId}")

section Protections

variable (python : Python) (protections : ProtectionPolicy)

def assertAddressAllowed (value : String) : Except String Unit :=
  match IPAddress.parse value with
  | none => .error "block_ip target is not a valid IP address"
  | some address =>
      if address.isUnspecified || address.isLoopback || address.isLinkLocal || address.isMulticast then
        .error "automatic containment cannot target special-use IP addresses"
      else if address.isReserved then
        .error "automatic containment cannot target reserved IP addresses"
      else if protections.blockPrivateIpTargets && address.isPrivate then
        .error "automatic containment of private IP addresses is disabled"
      else if address ∈ protections.allowlistedIps ∨ address.inAny protections.allowlistedNetworks then
        .error "target is explicitly allowlisted"
      else if address ∈ protections.protectedIps then
        .error "target is protected DNS, NTP, RADIUS, SOC, or management infrastructure"
      else if address.inAny protections.protectedNetworks then
        .error "target is in a protected management or SOC network"
      else .ok ()

def assertHostAllowed (value : String) : Except String Unit :=
  let host := python.lower (strip value)
  if strip value = "" then .error "host target must be a non-empty string"
  else if host ∈ protections.protectedHosts then
    .error "target is a protected management or SOC host"
  else if host ∉ protections.allowedIsolationHosts then
    .error "host is not explicitly eligible for controlled isolation"
  else .ok ()

/-- `assert_target_allowed` rejects a protected or ambiguous target with the message of a PolicyError. -/
def assertTargetAllowed (action : Action) (target : Target) : Except String Unit :=
  match action, target.type with
  | .blockIp, .ip => assertAddressAllowed protections target.value
  | .blockIp, .host => .error "block_ip requires an IP target"
  | .isolateHost, .host => assertHostAllowed python protections target.value
  | .isolateHost, .ip => .error "isolate_host requires a host target"

/-- `assert_target_allowed` as its callers reach it, with texts for the action and the type of target. -/
def verdict (action targetType targetValue : String) : Except String Unit :=
  if action = "block_ip" then
    if targetType ≠ "ip" then .error "block_ip requires an IP target" else assertAddressAllowed protections targetValue
  else if action = "isolate_host" then
    if targetType ≠ "host" then .error "isolate_host requires a host target"
    else assertHostAllowed python protections targetValue
  else .error ("unsupported response action: " ++ action)

theorem verdict_text (action : Action) (target : Target) :
    verdict python protections action.text target.type.text target.value =
      assertTargetAllowed python protections action target := by
  obtain ⟨type, value⟩ := target
  cases action <;> cases type <;> rfl

end Protections

end ClosedLoop.Response
