import ClosedLoop.Construction.Response.Value
import ClosedLoop.Library.IpAddress
import ClosedLoop.Library.Program
import ClosedLoop.Library.Table

namespace ClosedLoop.Transport

open ClosedLoop.Library ClosedLoop.Response

/-- A claim is an intent first and a fact after the side effect. -/
inductive ClaimMode where
  | adding
  | owned
  deriving DecidableEq, Repr

/-- The two tables of the ownership ledger of one peer. -/
structure OwnershipLedger where
  ownersTable : Table (String × String) ClaimMode := []
  foreignEntries : List String := []
  deriving DecidableEq, Repr

namespace OwnershipLedger

/-- The owners of an address with their modes. -/
def owners (ledger : OwnershipLedger) (address : String) : Table String ClaimMode :=
  ledger.ownersTable.filterMap fun row => if row.1.1 = address then some (row.1.2, row.2) else none

def isForeign (ledger : OwnershipLedger) (address : String) : Bool := decide (address ∈ ledger.foreignEntries)

/-- A claim inserts or replaces its own row, and it can mark the address. -/
def claim (ledger : OwnershipLedger) (address owner : String) (mode : ClaimMode) (foreign : Bool) : OwnershipLedger :=
  { ownersTable := ledger.ownersTable.upsert (address, owner) mode
    foreignEntries := if foreign then ledger.foreignEntries.insert address else ledger.foreignEntries }

/-- A release deletes its own row, and the last release of an address also deletes the mark. -/
def release (ledger : OwnershipLedger) (address owner : String) : OwnershipLedger :=
  let rows := ledger.ownersTable.filter fun row => row.1 ≠ (address, owner)
  { ownersTable := rows
    foreignEntries :=
      if rows.any (fun row => row.1.1 = address) then ledger.foreignEntries
      else ledger.foreignEntries.filter (· ≠ address) }

end OwnershipLedger

/-- What a call on the peer or on the ledger can do. An effect is complete or absent. -/
inductive Fate where
  | done
  | raisedBefore (error : PyError)
  | raisedAfter (error : PyError)
  | crashedBefore
  | crashedAfter
  deriving DecidableEq, Repr

/-- Others, such as an administrator or an element timeout, change the set before a call of the client. -/
structure Turn where
  outside : List (String × Bool) := []
  fate : Fate := .done
  deriving DecidableEq, Repr

/-- What an observer of the peer and of the ledger can see. -/
inductive Occurrence where
  | contained (address : String) (answer : Bool)
  | adding (address : String) (maxLifetimeSeconds : Option Int)
  | removing (address key : String)
  | claimed (address owner : String) (mode : ClaimMode) (foreign : Bool)
  | released (address owner : String)
  deriving DecidableEq, Repr

/-- A log entry also shows the ledger after its occurrence. -/
structure Entry where
  occurrence : Occurrence
  ledger : OwnershipLedger
  deriving DecidableEq, Repr

/-- One peer: its raw set, its ledger, its environment, and its log. An observer also knows which members are there
because the client has added them. -/
structure Peer where
  members : List String := []
  own : List String := []
  ledger : OwnershipLedger := {}
  tape : List Turn := []
  log : List Entry := []
  deriving DecidableEq, Repr

abbrev ClientOp := Program Peer PyError

open Program

def note (occurrence : Occurrence) : ClientOp Unit :=
  update fun peer => { peer with log := peer.log ++ [⟨occurrence, peer.ledger⟩] }

/-- A change of the set by someone else. -/
def change (members : List String) (edit : String × Bool) : List String :=
  if edit.2 then members.insert edit.1 else members.filter (· ≠ edit.1)

/-- The next turn of the environment, or a good one after the end of the tape. An address that others add or remove is
no longer there because of the client. -/
def nextTurn : ClientOp Fate := fun peer =>
  match peer.tape with
  | [] => (.returned .done, peer)
  | turn :: rest => (.returned turn.fate, { peer with
      members := turn.outside.foldl change peer.members
      own := peer.own.filter (· ∉ turn.outside.map Prod.fst)
      tape := rest })

/-- A call has its effect, fails, or ends the process. -/
def attempt (effect : ClientOp Unit) : ClientOp Unit := do
  match ← nextTurn with
  | .done => effect
  | .raisedBefore error => raise error
  | .raisedAfter error => do
      effect
      raise error
  | .crashedBefore => crash
  | .crashedAfter => do
      effect
      crash

section RawSet

def rawContains (address : String) : ClientOp Bool := do
  attempt (pure ())
  let answer ← gets fun peer => decide (address ∈ peer.members)
  note (.contained address answer)
  return answer

def rawAdd (address : String) (maxLifetimeSeconds : Option Int) : ClientOp Unit := do
  note (.adding address maxLifetimeSeconds)
  attempt (update fun peer => { peer with
    members := peer.members.insert address
    own := if address ∈ peer.members then peer.own else peer.own.insert address })

/-- A removal is called on behalf of a key. -/
def rawRemove (address key : String) : ClientOp Unit := do
  note (.removing address key)
  attempt (update fun peer => { peer with
    members := peer.members.filter (· ≠ address)
    own := peer.own.filter (· ≠ address) })

end RawSet

section Ledger

def readOwners (address : String) : ClientOp (Table String ClaimMode) := do
  attempt (pure ())
  gets fun peer => peer.ledger.owners address

def readForeign (address : String) : ClientOp Bool := do
  attempt (pure ())
  gets fun peer => peer.ledger.isForeign address

/-- A transaction of the ledger is visible once it is committed. -/
def transact (occurrence : Occurrence) (write : OwnershipLedger → OwnershipLedger) : ClientOp Unit :=
  attempt (do
    update fun peer => { peer with ledger := write peer.ledger }
    note occurrence)

def claim (address owner : String) (mode : ClaimMode) (foreign : Bool) : ClientOp Unit :=
  transact (.claimed address owner mode foreign) (·.claim address owner mode foreign)

def release (address owner : String) : ClientOp Unit :=
  transact (.released address owner) (·.release address owner)

end Ledger

/-- The first part of a peer reference. -/
inductive TagKind where
  | owned
  | preexisting
  | added
  | shared
  | absent
  | removed
  deriving DecidableEq, Repr

def TagKind.text : TagKind → String
  | .owned => "owned"
  | .preexisting => "preexisting"
  | .added => "added"
  | .shared => "shared"
  | .absent => "absent"
  | .removed => "removed"

/-- `_tag` keeps the last twelve characters of the key. -/
def tag (kind : TagKind) (key : String) : String :=
  kind.text ++ ":" ++ String.ofList (key.toList.drop (key.toList.length - 12))

/-- `_norm` is the canonical spelling of an address. -/
def norm (address : String) : ClientOp String :=
  match IPAddress.canonical address with
  | some spelling => pure spelling
  | none => raise (.valueError s!"'{address}' does not appear to be an IPv4 or IPv6 address")

/-- An address that is missing on the peer is added. -/
def addMissing (address : String) (maxLifetimeSeconds : Option Int) : ClientOp Unit := do
  let present ← rawContains address
  if present then pure () else rawAdd address maxLifetimeSeconds

/-- The first claim of an address observes the peer. -/
def claimFirst (address key : String) (maxLifetimeSeconds : Option Int) : ClientOp String := do
  let present ← rawContains address
  if present then do
    claim address key .owned true
    return tag .preexisting key
  else do
    -- The intent is durable before the effect.
    claim address key .adding false
    rawAdd address maxLifetimeSeconds
    claim address key .owned false
    return tag .added key

def addSocBlocklistAddress (address key : String) (maxLifetimeSeconds : Option Int) : ClientOp String := do
  let address ← norm address
  let owners ← readOwners address
  let foreign ← readForeign address
  if key ∈ owners.keys then do
    addMissing address maxLifetimeSeconds
    claim address key .owned false
    return tag .owned key
  else if owners = [] ∧ foreign = false then
    claimFirst address key maxLifetimeSeconds
  else do
    claim address key .owned false
    addMissing address maxLifetimeSeconds
    return tag .shared key

/-- The last owner of an entry that the plane created removes it first and forgets it second. -/
def removeLast (address key : String) : ClientOp String := do
  rawRemove address key
  release address key
  return tag .removed key

/-- `others or is_foreign(address)` reads the mark only when there is no other owner. -/
def keptFor (others : List String) (address : String) : ClientOp Bool :=
  if others = [] then readForeign address else pure true

def removeSocBlocklistAddress (address key : String) : ClientOp String := do
  let address ← norm address
  let owners ← readOwners address
  if key ∈ owners.keys then do
    let others := owners.keys.filter (· ≠ key)
    let kept ← keptFor others address
    if kept then do
      release address key
      return tag (if others = [] then .preexisting else .shared) key
    else removeLast address key
  else return tag .absent key

def socBlocklistContains (address : String) : ClientOp Bool := do
  let address ← norm address
  rawContains address

/-- The calls of one client. -/
inductive ClientCall where
  | add (address key : String) (maxLifetimeSeconds : Option Int)
  | remove (address key : String)
  | contains (address : String)

def ClientCall.perform : ClientCall → ClientOp Unit
  | .add address key maxLifetimeSeconds => do let _ ← addSocBlocklistAddress address key maxLifetimeSeconds
  | .remove address key => do let _ ← removeSocBlocklistAddress address key
  | .contains address => do let _ ← socBlocklistContains address

/-- One step of the life of a ledger. -/
inductive ClientStep where
  | reopen
  | call (call : ClientCall) (tape : List Turn)
  | stop

/-- The ledger and the peer outlive the process, which keeps nothing else. -/
structure ClientWorld where
  running : Bool := false
  peer : Peer := {}

def ClientWorld.step (world : ClientWorld) : ClientStep → ClientWorld
  | .reopen => { world with running := true }
  | .stop => { world with running := false }
  | .call call tape =>
      if world.running then
        let ended := call.perform { world.peer with tape }
        { running := decide (ended.1 ≠ .crashed), peer := ended.2 }
      else world

/-- The world after a list of steps from an empty ledger over a raw set. -/
def ClientWorld.run (members : List String) (steps : List ClientStep) : ClientWorld :=
  steps.foldl ClientWorld.step { peer := { members } }

end ClosedLoop.Transport
