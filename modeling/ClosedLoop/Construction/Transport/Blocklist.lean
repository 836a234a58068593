import ClosedLoop.Construction.Response.Session
import ClosedLoop.Construction.Transport.Ownership
import Mathlib.Logic.Function.Basic

namespace ClosedLoop.Transport

open ClosedLoop.Library ClosedLoop.Response Program

def socBlocklistAlias : String := "SOC_BLOCKLIST"

/-- The lifetime on the firewall is a backstop that outlives the TTL. -/
def backstopGraceSeconds : Int := 300

/-- The constructor accepts at least two peers with distinct names that are not empty. -/
structure BlocklistAdapter where
  name : String
  peers : List String
  enough : 2 ≤ peers.length
  named : "" ∉ peers
  distinct : peers.Nodup

def BlocklistAdapter.construct (name : String) (peers : List String) : Except PyError BlocklistAdapter :=
  if checked : 2 ≤ peers.length ∧ "" ∉ peers ∧ peers.Nodup then
    .ok ⟨name, peers, checked.1, checked.2.1, checked.2.2⟩
  else .error (.valueError "at least two uniquely named firewall peers are required")

/-- Every peer has its own raw set and its own ledger. -/
abbrev Fleet := String → Peer

abbrev AdapterOp := Program Fleet PyError

/-- A call of the client of one peer. -/
def onPeer {α : Type} (peer : String) (body : ClientOp α) : AdapterOp α :=
  focus (· peer) (fun after fleet => Function.update fleet peer after) body

/-- `except Exception` catches every error but an interrupt. -/
def caught {σ α : Type} (body : Program σ PyError α) : Program σ PyError (Option α) :=
  rescue (do return some (← body)) fun error => if error = .interrupt then raise error else pure none

section Command

def commandAddress (command : List (String × Json)) : Except PyError String :=
  match Json.get command "action", Json.get command "target" with
  | .str "block_ip", .obj target =>
      match Json.get target "type" with
      | .str "ip" =>
          match Json.get target "value" with
          | .str value =>
              match IPAddress.canonical value with
              | some address => .ok address
              | none => .error (.valueError s!"'{value}' does not appear to be an IPv4 or IPv6 address")
          | _ => .error (.valueError "firewall target must be a string IP address")
      | _ => .error (.valueError "firewall adapters accept only block_ip commands for IP targets")
  | _, _ => .error (.valueError "firewall adapters accept only block_ip commands for IP targets")

def idempotencyKey (command : List (String × Json)) : Except PyError String :=
  match Json.get command "idempotency_key" with
  | .str key => if key = "" then .error (.valueError "firewall command has no idempotency key") else .ok key
  | _ => .error (.valueError "firewall command has no idempotency key")

/-- A lifetime needs a positive integer TTL. A Boolean is no integer here. -/
def lifetime (command : List (String × Json)) : Option Int :=
  match Json.get command "ttl_seconds" with
  | .int ttl => if 0 < ttl then some (ttl + backstopGraceSeconds) else none
  | _ => none

end Command

/-- Another owner or a foreign entry can keep the address after a release. -/
def releasedWithoutRemoval (reference : String) : Bool :=
  "shared:".toList.isPrefixOf reference.toList || "preexisting:".toList.isPrefixOf reference.toList

namespace BlocklistAdapter

variable (python : Python) (adapter : BlocklistAdapter)

def recoveryReference (command : List (String × Json)) : Except PyError String := do
  let _ ← commandAddress command
  let key ← idempotencyKey command
  return s!"{adapter.name}-ha:{socBlocklistAlias}:{key}"

def evidenceRef (peer operation reference : String) : String :=
  s!"{adapter.name}:{peer}:{socBlocklistAlias}:{operation}:{reference}"

def failure (code message : String) (evidenceRefs : List String) : AdapterOutcome :=
  { ok := false, evidenceRefs, code := some s!"{python.upper adapter.name}_HA_{code}", message := some message }

def success (adapterReference : String) (evidenceRefs : List String) : AdapterOutcome :=
  { ok := true, adapterReference := some adapterReference, evidenceRefs }

section Apply

variable (address key : String)

/-- The turn of one peer gives its evidence and whether the peer was added and read back. -/
def applyPeer (maxLifetimeSeconds : Option Int) (peer : String) : AdapterOp (List String × Bool) := do
  match ← caught (onPeer peer (addSocBlocklistAddress address key maxLifetimeSeconds)) with
  | none => return ([], false)
  | some reference =>
      let added := adapter.evidenceRef peer "add" reference
      match ← caught (onPeer peer (socBlocklistContains address)) with
      | some true => return ([added, adapter.evidenceRef peer "membership" socBlocklistAlias], true)
      | _ => return ([added], false)

/-- The loop stops at the first failed peer. That peer is among the applied ones. -/
def applyPeers (maxLifetimeSeconds : Option Int) : List String → AdapterOp (List String × List String × Bool)
  | [] => return ([], [], true)
  | peer :: rest => do
      let (refs, added) ← adapter.applyPeer address key maxLifetimeSeconds peer
      if added then do
        let (applied, more, complete) ← applyPeers maxLifetimeSeconds rest
        return (peer :: applied, refs ++ more, complete)
      else return ([peer], refs, false)

def rollbackPeers (peers : List String) : AdapterOp (List String) :=
  collect (fun peer => do
    let reference ← caught (onPeer peer (removeSocBlocklistAddress address key))
    return some (adapter.evidenceRef peer "compensate" (reference.getD "failed"))) peers.reverse

end Apply

def apply (command : List (String × Json)) : AdapterOp AdapterOutcome := do
  let address ← ofExcept (commandAddress command)
  let key ← ofExcept (idempotencyKey command)
  let (applied, refs, complete) ← adapter.applyPeers address key (lifetime command) adapter.peers
  if complete then do
    let reference ← ofExcept (adapter.recoveryReference command)
    return success reference refs
  else do
    let rollbackRefs ← adapter.rollbackPeers address key applied
    let message := "SOC_BLOCKLIST apply failed; applied peers were reverted where possible"
    return adapter.failure python "APPLY_FAILED" message (refs ++ rollbackRefs)

/-- The loop reads every peer and stops at a peer that cannot be read. -/
def verifyPeers (address adapterReference : String) (refs missing : List String) : List String → AdapterOp AdapterOutcome
  | [] =>
      let message := "SOC_BLOCKLIST is absent on peer(s): " ++ String.intercalate ", " missing
      return if missing = [] then success adapterReference refs else adapter.failure python "VERIFY_FAILED" message refs
  | peer :: rest => do
      match ← caught (onPeer peer (socBlocklistContains address)) with
      | none => return adapter.failure python "VERIFY_ERROR" s!"cannot verify {peer} fixed-set membership" refs
      | some present =>
          verifyPeers address adapterReference (refs ++ [adapter.evidenceRef peer "verify" socBlocklistAlias])
            (if present then missing else missing ++ [peer]) rest

def verify (command : List (String × Json)) (adapterReference : String) : AdapterOp AdapterOutcome := do
  let address ← ofExcept (commandAddress command)
  adapter.verifyPeers python address adapterReference [] [] adapter.peers

section Revert

variable (address key : String)

/-- The turn of one peer gives its evidence and whether the removal failed there. -/
def revertPeer (peer : String) : AdapterOp (List String × Bool) := do
  match ← caught (onPeer peer (removeSocBlocklistAddress address key)) with
  | none => return ([], true)
  | some reference =>
      let removed := adapter.evidenceRef peer "remove" reference
      match ← caught (onPeer peer (socBlocklistContains address)) with
      | none => return ([removed], true)
      | some false => return ([removed, adapter.evidenceRef peer "absence" socBlocklistAlias], false)
      | some true =>
          if releasedWithoutRemoval reference then
            return ([removed, adapter.evidenceRef peer "released" socBlocklistAlias], false)
          else return ([removed], true)

/-- The loop visits every peer and collects the evidence and the failed peers. -/
def revertPeers : List String → AdapterOp (List String × List String)
  | [] => return ([], [])
  | peer :: rest => do
      let (refs, failed) ← adapter.revertPeer address key peer
      let (more, failures) ← revertPeers rest
      return (refs ++ more, if failed then peer :: failures else failures)

end Revert

def revert (command : List (String × Json)) (adapterReference : String) : AdapterOp AdapterOutcome := do
  let address ← ofExcept (commandAddress command)
  let key ← ofExcept (idempotencyKey command)
  let (refs, failures) ← adapter.revertPeers address key adapter.peers
  let message := "SOC_BLOCKLIST removal could not be verified on peer(s): " ++ String.intercalate ", " failures
  return if failures = [] then success adapterReference refs else adapter.failure python "REVERT_FAILED" message refs

end BlocklistAdapter

/-- The calls of the adapter. -/
inductive AdapterCall where
  | apply (command : List (String × Json))
  | verify (command : List (String × Json)) (adapterReference : String)
  | revert (command : List (String × Json)) (adapterReference : String)

/-- A call meets one environment at each peer. After a crash the next call is made by a new process. -/
structure AdapterStep where
  call : AdapterCall
  tapes : String → List Turn

section History

variable (python : Python) (adapter : BlocklistAdapter)

def AdapterCall.perform : AdapterCall → AdapterOp AdapterOutcome
  | .apply command => adapter.apply python command
  | .verify command adapterReference => adapter.verify python command adapterReference
  | .revert command adapterReference => adapter.revert python command adapterReference

/-- The peers with new environments. -/
def Fleet.facing (fleet : Fleet) (tapes : String → List Turn) : Fleet :=
  fun peer => { fleet peer with tape := tapes peer }

def Fleet.step (fleet : Fleet) (step : AdapterStep) : Fleet :=
  (step.call.perform python adapter (fleet.facing step.tapes)).2

/-- The peers after a list of calls from empty ledgers over raw sets. -/
def Fleet.run (members : String → List String) (steps : List AdapterStep) : Fleet :=
  steps.foldl (Fleet.step python adapter) fun peer => { members := members peer }

end History

end ClosedLoop.Transport
