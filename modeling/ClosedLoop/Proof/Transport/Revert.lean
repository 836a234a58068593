import ClosedLoop.Construction.Transport.Blocklist
import ClosedLoop.Library.IpRoundTrip
import ClosedLoop.Proof.Transport.Ledger

namespace ClosedLoop.Transport

open ClosedLoop.Library ClosedLoop.Response Program

/-- A program that cannot fail returns inside this postcondition. -/
def surely {σ α : Type} (returned : α → σ → Prop) : Post σ PyError α :=
  ⟨returned, fun _ _ => False, fun _ => False⟩

/-- A program that surely ends returns one value in one state. -/
theorem ends_surely {σ α : Type} {body : Program σ PyError α} {state : σ} {returned : α → σ → Prop} :
    Ends body state (surely returned) ↔
      ∃ value after, body state = (.returned value, after) ∧ returned value after := by
  unfold Ends surely
  rcases body state with ⟨outcome, after⟩
  cases outcome <;> simp

/-- A caught program that cannot fail returns its value. -/
theorem caught_surely {σ α : Type} {body : Program σ PyError α} {state : σ} {returned : α → σ → Prop}
    (ended : Ends body state (surely returned)) :
    Ends (caught body) state (surely fun result after => ∃ value, result = some value ∧ returned value after) := by
  unfold caught
  rw [ends_rescue, ends_bind]
  exact ended.weaken (fun value _ held => ⟨value, rfl, held⟩) (fun _ _ impossible => impossible.elim)
    (fun _ impossible => impossible)

/-- A call of the client changes its own peer only. -/
theorem onPeer_surely {α : Type} {peer : String} {body : ClientOp α} {fleet : Fleet} {returned : α → Peer → Prop}
    (ended : Ends body (fleet peer) (surely returned)) :
    Ends (onPeer peer body) fleet (surely fun value after =>
      returned value (after peer) ∧ ∀ other, other ≠ peer → after other = fleet other) := by
  unfold onPeer
  rw [ends_focus]
  refine ended.weaken (fun value after held => ⟨?_, fun other different => ?_⟩) (fun _ _ impossible => impossible)
    (fun _ impossible => impossible)
  · rw [Function.update_self]
    exact held
  · exact Function.update_of_ne different _ _

section Client

variable {peer : Peer} {address key : String}

/-- With an empty tape a call has its effect. -/
theorem attempt_calm {effect : ClientOp Unit} {post : Post Peer PyError Unit} (calm : peer.tape = [])
    (acts : Ends effect peer post) : Ends (attempt effect) peer post := by
  unfold attempt
  rw [ends_bind]
  have turned : nextTurn peer = (.returned .done, peer) := by simp [nextTurn, calm]
  simpa only [Ends, turned] using acts

/-- The key is the only owner of an address without a mark. -/
def Peer.Sole (peer : Peer) (address key : String) : Prop :=
  (∀ owner, peer.ledger.Owns address owner ↔ owner = key) ∧ peer.ledger.isForeign address = false

/-- The key is released. The address leaves the set only with its sole owner. -/
structure Reverted (address key : String) (peer after : Peer) : Prop where
  calm : after.tape = []
  released : ¬ after.ledger.Owns address key
  present : address ∈ after.members ↔ address ∈ peer.members ∧ ¬ peer.Sole address key

/-- A canonical address is its own spelling. -/
theorem norm_calm (spelled : IPAddress.canonical address = some address) :
    Ends (norm address) peer (surely fun spelling after => address = spelling ∧ peer = after) := by
  unfold norm
  rw [spelled]
  exact ⟨rfl, rfl⟩

theorem readOwners_calm (calm : peer.tape = []) :
    Ends (readOwners address) peer (surely fun owners after => owners = peer.ledger.owners address ∧ peer = after) := by
  unfold readOwners
  rw [ends_bind]
  exact attempt_calm calm ⟨rfl, rfl⟩

/-- Without faults the device answers whether it holds the address. -/
theorem rawContains_calm (calm : peer.tape = []) :
    Ends (rawContains address) peer (surely fun answer after => (answer = true ↔ address ∈ peer.members) ∧
      after.members = peer.members ∧ after.ledger = peer.ledger ∧ after.tape = []) := by
  unfold rawContains
  rw [ends_bind]
  exact attempt_calm calm ⟨decide_eq_true_iff, rfl, rfl, calm⟩

theorem release_calm (calm : peer.tape = []) :
    Ends (release address key) peer (surely fun _ after => after.members = peer.members ∧
      after.ledger = peer.ledger.release address key ∧ after.tape = []) := by
  unfold release transact
  exact attempt_calm calm ⟨rfl, rfl, calm⟩

/-- Without faults an entry is kept for other owners or for its mark. -/
theorem keptFor_calm {others : List String} (calm : peer.tape = []) :
    Ends (keptFor others address) peer (surely fun kept after =>
      (kept = true ↔ others ≠ [] ∨ peer.ledger.isForeign address = true) ∧ peer = after) := by
  unfold keptFor
  split
  · rename_i alone
    unfold readForeign
    rw [ends_bind]
    exact attempt_calm calm ⟨by simp [alone], rfl⟩
  · rename_i others
    exact ⟨by simp [others], rfl⟩

/-- Without faults the device removes the address. -/
theorem rawRemove_calm (calm : peer.tape = []) :
    Ends (rawRemove address key) peer (surely fun _ after =>
      address ∉ after.members ∧ after.ledger = peer.ledger ∧ after.tape = []) := by
  unfold rawRemove
  rw [ends_bind]
  exact attempt_calm calm ⟨by simp, rfl, calm⟩

/-- Without faults the last release removes the address and its owner. -/
theorem removeLast_calm (calm : peer.tape = []) :
    Ends (removeLast address key) peer (surely fun reference after => reference = tag .removed key ∧
      address ∉ after.members ∧ after.ledger = peer.ledger.release address key ∧ after.tape = []) := by
  unfold removeLast
  rw [ends_bind]
  refine (rawRemove_calm calm).returning fun _ middle ⟨absent, ledger, calm⟩ => ?_
  rw [ends_bind]
  refine (release_calm calm).returning fun _ after ended => ?_
  exact ⟨rfl, ended.1 ▸ absent, ledger ▸ ended.2.1, ended.2.2⟩

/-- The filtered owners are empty exactly when the listed key is the only owner. -/
theorem others_eq_nil (mine : peer.ledger.Owns address key) :
    (peer.ledger.owners address).keys.filter (· ≠ key) = [] ↔
      ∀ owner, peer.ledger.Owns address owner ↔ owner = key := by
  rw [List.filter_eq_nil_iff]
  constructor
  · intro none owner
    exact ⟨fun owns => by simpa using none owner owns, fun same => same ▸ mine⟩
  · intro sole owner owns
    simpa using (sole owner).mp owns

/-- The first part of a reference says whether the address was kept. -/
theorem releasedWithoutRemoval_tag {kind : TagKind} :
    releasedWithoutRemoval (tag kind key) = true ↔ kind = .shared ∨ kind = .preexisting := by
  unfold releasedWithoutRemoval tag
  cases kind <;> simp [TagKind.text]

/-- A removal in a calm environment says what it did. -/
theorem remove_calm (calm : peer.tape = []) (spelled : IPAddress.canonical address = some address) :
    Ends (removeSocBlocklistAddress address key) peer (surely fun reference after =>
      Reverted address key peer after ∧ (address ∈ after.members →
        (releasedWithoutRemoval reference = true ↔ peer.ledger.Owns address key))) := by
  unfold removeSocBlocklistAddress
  rw [ends_bind]
  refine (norm_calm spelled).returning fun spelling start same => ?_
  obtain ⟨rfl, rfl⟩ := same
  rw [ends_bind]
  refine (readOwners_calm calm).returning fun owners listed read => ?_
  obtain ⟨rfl, rfl⟩ := read
  dsimp only
  have gone : ¬ (peer.ledger.release address key).Owns address key := fun owns =>
    (OwnershipLedger.owns_release.mp owns).2 ⟨rfl, rfl⟩
  by_cases mine : peer.ledger.Owns address key
  · rw [if_pos (show key ∈ (peer.ledger.owners address).keys from mine), ends_bind]
    refine (keptFor_calm calm).returning fun kept middle decided => ?_
    obtain ⟨decided, rfl⟩ := decided
    rw [← not_iff_not, not_or, not_not, others_eq_nil mine] at decided
    cases kept with
    | true =>
        have shared : ¬ peer.Sole address key := fun sole => by simp [sole.1, sole.2] at decided
        simp only [if_true]
        rw [ends_bind]
        refine (release_calm calm).returning fun _ after ended => ⟨⟨ended.2.2, ended.2.1 ▸ gone, ?_⟩, fun _ => ?_⟩
        · simp [ended.1, shared]
        · rw [releasedWithoutRemoval_tag]
          split <;> simp [mine]
    | false =>
        have sole : peer.Sole address key := by simpa [Peer.Sole] using decided
        refine (removeLast_calm calm).returning fun reference after ended => ?_
        obtain ⟨rfl, absent, ledger, calm⟩ := ended
        exact ⟨⟨calm, ledger ▸ gone, by simp [absent, sole]⟩, fun present => absurd present absent⟩
  · have unsole : ¬ peer.Sole address key := fun sole => mine ((sole.1 key).mpr rfl)
    rw [if_neg (show key ∉ (peer.ledger.owners address).keys from mine)]
    refine ⟨⟨calm, mine, by simp [unsole]⟩, fun _ => ?_⟩
    rw [releasedWithoutRemoval_tag]
    simp [mine]

theorem contains_calm (calm : peer.tape = []) (spelled : IPAddress.canonical address = some address) :
    Ends (socBlocklistContains address) peer (surely fun answer after => (answer = true ↔ address ∈ peer.members) ∧
      after.members = peer.members ∧ after.ledger = peer.ledger ∧ after.tape = []) := by
  unfold socBlocklistContains
  rw [ends_bind]
  refine (norm_calm spelled).returning fun spelling start same => ?_
  obtain ⟨rfl, rfl⟩ := same
  exact rawContains_calm calm

end Client

section Adapter

variable {adapter : BlocklistAdapter} {fleet : Fleet} {address key : String}
  (spelled : IPAddress.canonical address = some address)

include spelled

/-- The turn of one peer fails exactly when the address is present and the key does not own it. -/
theorem revertPeer_calm {peer : String} (calm : (fleet peer).tape = []) :
    Ends (adapter.revertPeer address key peer) fleet (surely fun result after =>
      (result.2 = true ↔ address ∈ (fleet peer).members ∧ ¬ (fleet peer).ledger.Owns address key) ∧
        Reverted address key (fleet peer) (after peer) ∧ ∀ other, other ≠ peer → after other = fleet other) := by
  unfold BlocklistAdapter.revertPeer
  rw [ends_bind]
  refine (caught_surely (onPeer_surely (remove_calm calm spelled))).returning fun removed middle ended => ?_
  obtain ⟨reference, rfl, ⟨reverted, told⟩, others⟩ := ended
  dsimp only
  rw [ends_bind]
  refine (caught_surely (onPeer_surely (contains_calm reverted.calm spelled))).returning fun read after ended => ?_
  obtain ⟨present, rfl, ⟨answer, members, ledger, calm⟩, same⟩ := ended
  have last : Reverted address key (fleet peer) (after peer) :=
    ⟨calm, ledger ▸ reverted.released, members ▸ reverted.present⟩
  have unchanged : ∀ other, other ≠ peer → after other = fleet other := fun other different =>
    (same other different).trans (others other different)
  -- A sole owner owns, so a present address after the release was present before it.
  have owned : (fleet peer).Sole address key → (fleet peer).ledger.Owns address key := fun sole => (sole.1 key).mpr rfl
  cases present with
  | false =>
      have absent : address ∉ (middle peer).members := fun member => nomatch answer.mpr member
      rw [reverted.present] at absent
      exact ⟨⟨nofun, fun failed => absurd ⟨failed.1, fun sole => failed.2 (owned sole)⟩ absent⟩, last, unchanged⟩
  | true =>
      have member := answer.mp rfl
      have before := (reverted.present.mp member).1
      dsimp only
      split
      · rename_i kept
        exact ⟨⟨nofun, fun failed => absurd ((told member).mp kept) failed.2⟩, last, unchanged⟩
      · rename_i removed
        exact ⟨⟨fun _ => ⟨before, fun owns => removed ((told member).mpr owns)⟩, fun _ => rfl⟩, last, unchanged⟩

/-- The loop fails at the peers that hold the address without the key. -/
theorem revertPeers_calm {peers : List String} (distinct : peers.Nodup)
    (calm : ∀ peer ∈ peers, (fleet peer).tape = []) :
    Ends (adapter.revertPeers address key peers) fleet (surely fun result after =>
      (result.2 = [] ↔ ∀ peer ∈ peers, address ∈ (fleet peer).members → (fleet peer).ledger.Owns address key) ∧
        (∀ peer ∈ peers, Reverted address key (fleet peer) (after peer)) ∧
        ∀ other, other ∉ peers → after other = fleet other) := by
  induction peers generalizing fleet with
  | nil => exact ⟨by simp, by simp, by simp⟩
  | cons peer rest ih =>
      obtain ⟨fresh, distinct⟩ := List.nodup_cons.mp distinct
      unfold BlocklistAdapter.revertPeers
      rw [ends_bind]
      refine (revertPeer_calm spelled (calm peer List.mem_cons_self)).returning fun first middle ended => ?_
      obtain ⟨failed, reverted, others⟩ := ended
      have later : ∀ other ∈ rest, middle other = fleet other := fun other member =>
        others other fun same => fresh (same ▸ member)
      dsimp only
      rw [ends_bind]
      refine (ih distinct fun other member => ?_).returning fun second after ended => ?_
      · rw [later other member]
        exact calm other (List.mem_cons_of_mem peer member)
      · obtain ⟨failures, others', unchanged⟩ := ended
        refine ⟨?_, ?_, fun other outside => ?_⟩
        · rw [List.forall_mem_cons]
          have rest' : second.2 = [] ↔
              ∀ other ∈ rest, address ∈ (fleet other).members → (fleet other).ledger.Owns address key := by
            rw [failures]
            exact forall₂_congr fun other member => by rw [later other member]
          have own : first.2 = false ↔
              (address ∈ (fleet peer).members → (fleet peer).ledger.Owns address key) := by
            rw [← Bool.not_eq_true, failed, not_and, not_not]
          rw [← rest', ← own]
          cases first.2 <;> simp
        · rw [List.forall_mem_cons]
          refine ⟨?_, fun other member => later other member ▸ others' other member⟩
          rw [unchanged peer fresh]
          exact reverted
        · obtain ⟨different, absent⟩ := not_or.mp (mt List.mem_cons.mpr outside)
          exact (unchanged other absent).trans (others other different)

end Adapter

section Revert

variable {python : Python} {adapter : BlocklistAdapter} {fleet : Fleet}
  {command : List (String × Json)} {adapterReference address key : String}

/-- The address of a command is spelled canonically. -/
theorem commandAddress_canonical (named : commandAddress command = .ok address) :
    IPAddress.canonical address = some address := by
  unfold commandAddress at named
  repeat' split at named
  all_goals cases named
  rename_i spelled
  exact IPAddress.canonical_idempotent spelled

/-- A revert in a calm environment is decided by the peers that hold the address without the key. -/
theorem revert_calm (python : Python) (adapterReference : String) (named : commandAddress command = .ok address) (keyed : idempotencyKey command = .ok key)
    (calm : ∀ peer ∈ adapter.peers, (fleet peer).tape = []) :
    Ends (adapter.revert python command adapterReference) fleet (surely fun outcome after =>
      (outcome.ok = true ↔
        ∀ peer ∈ adapter.peers, address ∈ (fleet peer).members → (fleet peer).ledger.Owns address key) ∧
        ∀ peer ∈ adapter.peers, Reverted address key (fleet peer) (after peer)) := by
  unfold BlocklistAdapter.revert
  rw [named, keyed]
  change Ends (adapter.revertPeers address key adapter.peers >>= _) fleet _
  rw [ends_bind]
  refine (revertPeers_calm (commandAddress_canonical named) adapter.distinct calm).returning
    fun result after ended => ⟨?_, ended.2.1⟩
  rw [← ended.1]
  split <;> simp_all [BlocklistAdapter.success, BlocklistAdapter.failure]

/-- The peers after some further reverts of a command. -/
def Fleet.reverted (python : Python) (adapter : BlocklistAdapter) (command : List (String × Json))
    (adapterReference : String) (fleet : Fleet) (count : Nat) : Fleet :=
  (fun fleet => (adapter.revert python command adapterReference fleet).2)^[count] fleet

/-- Every revert of a command returns ok, and the first one releases its key on every peer. -/
structure Converges (python : Python) (adapter : BlocklistAdapter) (command : List (String × Json))
    (adapterReference : String) (fleet : Fleet) : Prop where
  ok : ∀ count, ∃ outcome, (adapter.revert python command adapterReference
    (fleet.reverted python adapter command adapterReference count)).1 = .returned outcome ∧ outcome.ok = true
  released : ∀ address key, commandAddress command = .ok address → idempotencyKey command = .ok key →
    ∀ peer ∈ adapter.peers,
      ¬ (fleet.reverted python adapter command adapterReference 1 peer).ledger.Owns address key

/-- The command names a block of an address, and its key is the only owner on every peer that holds it. -/
def Exclusive (adapter : BlocklistAdapter) (command : List (String × Json)) (fleet : Fleet) : Prop :=
  ∃ address key, commandAddress command = .ok address ∧ idempotencyKey command = .ok key ∧
    ∀ peer ∈ adapter.peers, address ∈ (fleet peer).members → (fleet peer).Sole address key

/-- A command that is not for this adapter is not reverted. -/
theorem revert_named {outcome : AdapterOutcome}
    (returned : (adapter.revert python command adapterReference fleet).1 = .returned outcome) :
    ∃ address key, commandAddress command = .ok address ∧ idempotencyKey command = .ok key := by
  unfold BlocklistAdapter.revert at returned
  cases named : commandAddress command with
  | error error => simp [named, Program.ofExcept, raise, bind, andThen] at returned
  | ok address =>
      cases keyed : idempotencyKey command with
      | error error => simp [named, keyed, Program.ofExcept, raise, bind, andThen, pure] at returned
      | ok key => exact ⟨address, key, rfl, rfl⟩

/-- Once the address is absent everywhere, it stays absent and every revert is ok. -/
theorem reverted_absent (python : Python) (adapterReference : String)
    (named : commandAddress command = .ok address) (keyed : idempotencyKey command = .ok key)
    (count : Nat) (calm : ∀ peer ∈ adapter.peers, (fleet peer).tape = [])
    (absent : ∀ peer ∈ adapter.peers, address ∉ (fleet peer).members) :
    ∃ outcome, (adapter.revert python command adapterReference
      (fleet.reverted python adapter command adapterReference count)).1 = .returned outcome ∧ outcome.ok = true := by
  obtain ⟨outcome, after, ended, ok, reverted⟩ := ends_surely.mp (revert_calm python adapterReference named keyed calm)
  induction count generalizing fleet outcome after with
  | zero =>
      refine ⟨outcome, congrArg Prod.fst ended, ok.mpr fun peer member present => ?_⟩
      exact absurd present (absent peer member)
  | succ count ih =>
      have calm' : ∀ peer ∈ adapter.peers, (after peer).tape = [] := fun peer member => (reverted peer member).calm
      have absent' : ∀ peer ∈ adapter.peers, address ∉ (after peer).members := fun peer member present =>
        absent peer member ((reverted peer member).present.mp present).1
      obtain ⟨_, _, next⟩ := ends_surely.mp (revert_calm python adapterReference named keyed calm')
      have later := ih calm' absent' _ _ next.1 next.2.1 next.2.2
      simpa only [Fleet.reverted, Function.iterate_succ_apply, ended] using later

/-- Reverts in a calm environment converge exactly from the peers where the key is exclusive. -/
theorem converges_iff (calm : ∀ peer ∈ adapter.peers, (fleet peer).tape = []) :
    Converges python adapter command adapterReference fleet ↔ Exclusive adapter command fleet := by
  constructor
  · intro converges
    obtain ⟨_, returned, _⟩ := converges.ok 0
    obtain ⟨address, key, named, keyed⟩ := revert_named returned
    obtain ⟨first, middle, ended, _, reverted⟩ := ends_surely.mp (revert_calm python adapterReference named keyed calm)
    have calm' : ∀ peer ∈ adapter.peers, (middle peer).tape = [] := fun peer member => (reverted peer member).calm
    obtain ⟨second, after, again, ok, _⟩ := ends_surely.mp (revert_calm python adapterReference named keyed calm')
    obtain ⟨outcome, found, fine⟩ := converges.ok 1
    simp only [Fleet.reverted, Function.iterate_one, ended] at found
    have same : second = outcome := Outcome.returned.inj ((congrArg Prod.fst again).symm.trans found)
    have held := ok.mp (same ▸ fine)
    refine ⟨address, key, named, keyed, fun peer member present => ?_⟩
    -- A present address without the sole owner stays present after the key is gone.
    by_contra shared
    have kept := (reverted peer member).present.mpr ⟨present, shared⟩
    exact (reverted peer member).released (held peer member kept)
  · rintro ⟨address, key, named, keyed, sole⟩
    obtain ⟨outcome, middle, ended, ok, reverted⟩ := ends_surely.mp (revert_calm python adapterReference named keyed calm)
    have calm' : ∀ peer ∈ adapter.peers, (middle peer).tape = [] := fun peer member => (reverted peer member).calm
    have absent : ∀ peer ∈ adapter.peers, address ∉ (middle peer).members := fun peer member present =>
      have before := (reverted peer member).present.mp present
      before.2 (sole peer member before.1)
    refine ⟨fun count => ?_, fun address' key' named' keyed' peer member => ?_⟩
    · cases count with
      | zero =>
          refine ⟨outcome, congrArg Prod.fst ended, ok.mpr fun peer member present => ?_⟩
          exact ((sole peer member present).1 key).mpr rfl
      | succ count =>
          have later := reverted_absent python adapterReference named keyed count calm' absent
          simpa only [Fleet.reverted, Function.iterate_succ_apply, ended] using later
    · cases named.symm.trans named'
      cases keyed.symm.trans keyed'
      simpa only [Fleet.reverted, Function.iterate_one, ended] using (reverted peer member).released

end Revert

/-- After every history, once the peers answer, reverts converge exactly when the key of the command is the only
owner of the address on every peer that holds it, and the address has no mark there. -/
theorem revert_converges_iff (python : Python) (adapter : BlocklistAdapter) (members : String → List String)
    (history : List AdapterStep) (command : List (String × Json)) (adapterReference : String) :
    Converges python adapter command adapterReference
        ((Fleet.run python adapter members history).facing fun _ => []) ↔
      Exclusive adapter command (Fleet.run python adapter members history) :=
  converges_iff fun _ _ => rfl

section Lab

/-- Two firewalls, as the configuration names them. -/
def labAdapter : BlocklistAdapter := ⟨"nftables", ["fw-core", "fw-dmz"], by decide, by decide, by decide⟩

def labBlock : List (String × Json) :=
  [("action", .str "block_ip"), ("target", .obj [("type", .str "ip"), ("value", .str "203.0.113.20")]),
    ("idempotency_key", .str "idemp-1111111111111111"), ("ttl_seconds", .int 900)]

/-- One firewall already blocks the address by hand. -/
def labMembers (peer : String) : List String := if peer = "fw-dmz" then ["203.0.113.20"] else []

/-- The adapter calls `str.upper` only. -/
def labUpper : Python where
  sha256Hex := id
  fromIsoformat _ := none
  lower := String.toLower
  upper := String.toUpper
  repr text := "'" ++ text ++ "'"

/-- The peers after an apply that met no error. -/
def labApplied (members : String → List String) : Fleet :=
  (Fleet.run labUpper labAdapter members [⟨.apply labBlock, fun _ => []⟩]).facing fun _ => []

/-- The first revert releases the entry that was there before, and the second one fails on it. -/
theorem repeated_revert_fails :
    ¬ Converges labUpper labAdapter labBlock "nftables-ha:SOC_BLOCKLIST:idemp-1111111111111111"
      (labApplied labMembers) := by
  intro converges
  obtain ⟨outcome, returned, ok⟩ := converges.ok 1
  have failed : (labAdapter.revert labUpper labBlock "nftables-ha:SOC_BLOCKLIST:idemp-1111111111111111"
      (Fleet.reverted labUpper labAdapter labBlock "nftables-ha:SOC_BLOCKLIST:idemp-1111111111111111"
        (labApplied labMembers) 1)).1 = .returned
          { ok := false
            evidenceRefs := ["nftables:fw-core:SOC_BLOCKLIST:remove:absent:111111111111",
              "nftables:fw-core:SOC_BLOCKLIST:absence:SOC_BLOCKLIST",
              "nftables:fw-dmz:SOC_BLOCKLIST:remove:absent:111111111111"]
            code := some "NFTABLES_HA_REVERT_FAILED"
            message := some "SOC_BLOCKLIST removal could not be verified on peer(s): fw-dmz" } := by
    decide +kernel
  cases failed.symm.trans returned
  cases ok

end Lab

end ClosedLoop.Transport
