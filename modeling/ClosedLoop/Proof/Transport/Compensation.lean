import ClosedLoop.Proof.Transport.Foreign
import ClosedLoop.Proof.Transport.Provenance
import ClosedLoop.Proof.Transport.Revert

namespace ClosedLoop.Transport

open ClosedLoop.Library ClosedLoop.Response Program

/-- A key other than the given one owns the address. -/
def OtherOwner (key : String) (ledger : OwnershipLedger) (address : String) : Prop :=
  ∃ owner, ledger.Owns address owner ∧ owner ≠ key

/-- The given key can undo what it has added: another key owns the address, or the key itself does and the address has
no mark. -/
def Undoable (target key : String) (ledger : OwnershipLedger) (address : String) : Prop :=
  address = target ∧
    (OtherOwner key ledger address ∨ (ledger.Owns address key ∧ ledger.isForeign address = false))

/-- What holds of a program that has returned. -/
def partly {σ α : Type} (returned : α → σ → Prop) : Post σ PyError α := ⟨returned, fun _ _ => True, fun _ => True⟩

section Client

variable {peer : Peer} {address key : String} {lifetime : Option Int}

/-- An undoable claim stays so behind a claim of the same key. -/
theorem Undoable.claim {ledger : OwnershipLedger} {mode : ClaimMode} {other : String}
    (undoable : Undoable address key ledger other) : Undoable address key (ledger.claim address key mode false) other := by
  obtain ⟨rfl, ⟨owner, owns, different⟩ | ⟨mine, plain⟩⟩ := undoable
  · exact ⟨rfl, Or.inl ⟨owner, OwnershipLedger.owns_claim.mpr (Or.inr owns), different⟩⟩
  · refine ⟨rfl, Or.inr ⟨OwnershipLedger.owns_claim.mpr (Or.inr mine), Bool.eq_false_iff.mpr fun marked => ?_⟩⟩
    obtain ⟨impossible, _⟩ | before := OwnershipLedger.isForeign_claim.mp marked
    · cases impossible
    · rw [plain] at before
      cases before

/-- A claim is undoable when it marks an address that the key has not added. -/
theorem claim_undoable {mode : ClaimMode} {foreign : Bool} (explained : Explained (Undoable address key) peer)
    (marks : foreign = true → peer.own = []) :
    Ends (claim address key mode foreign) peer (explainedly (Undoable address key) fun _ after =>
      after.ledger = peer.ledger.claim address key mode foreign ∧ after.ledger.Owns address key) := by
  refine (transact_explained explained fun other member => ?_).returning fun _ after ⟨still, ledger, _⟩ =>
    ⟨still, ledger, ledger ▸ OwnershipLedger.owns_claim.mpr (Or.inl ⟨rfl, rfl⟩)⟩
  cases foreign with
  | true =>
      rw [marks rfl] at member
      cases member
  | false => exact (explained other member).claim

/-- Adding a missing address is undoable. -/
theorem addMissing_undoable (explained : Explained (Undoable address key) peer)
    (undoable : Undoable address key peer.ledger address) :
    Ends (addMissing address lifetime) peer
      (explainedly (Undoable address key) fun _ after => after.ledger = peer.ledger) := by
  unfold addMissing
  rw [ends_bind]
  refine (rawContains_explained explained).returning fun answer middle ⟨still, _, ledger, _⟩ => ?_
  cases answer with
  | true => exact ⟨still, ledger⟩
  | false => exact (rawAdd_explained still (ledger ▸ undoable)).returning fun _ after ⟨still, same⟩ =>
      ⟨still, same.trans ledger⟩

/-- The peer before an apply whose key owns nothing. -/
structure Fresh (peer : Peer) (address key : String) : Prop where
  nothing : peer.own = []
  unowned : ¬ peer.ledger.Owns address key
  marked : peer.ledger.isForeign address = true → peer.ledger.Owned address

/-- So is a first claim. -/
theorem claimFirst_undoable (nothing : peer.own = []) (plain : peer.ledger.isForeign address = false) :
    Ends (claimFirst address key lifetime) peer
      (explainedly (Undoable address key) fun _ after => after.ledger.Owns address key) := by
  have explained : Explained (Undoable address key) peer := by
    intro other member
    rw [nothing] at member
    cases member
  unfold claimFirst
  rw [ends_bind]
  refine (rawContains_explained explained).returning fun answer middle ⟨still, _, ledger, own, _⟩ => ?_
  have nothing : middle.own = [] := List.subset_nil.mp (nothing ▸ own)
  cases answer with
  | true =>
      simp only [if_true]
      rw [ends_bind]
      exact (claim_undoable still fun _ => nothing).returning fun _ after ⟨still, _, mine⟩ => ⟨still, mine⟩
  | false =>
      simp only [Bool.false_eq_true, if_false]
      rw [ends_bind]
      refine (claim_undoable still fun _ => nothing).returning fun _ intended ⟨still, written, mine⟩ => ?_
      rw [ends_bind]
      have undoable : Undoable address key intended.ledger address := by
        refine ⟨rfl, Or.inr ⟨mine, Bool.eq_false_iff.mpr fun marked => ?_⟩⟩
        rw [written] at marked
        obtain ⟨impossible, _⟩ | before := OwnershipLedger.isForeign_claim.mp marked
        · cases impossible
        · rw [ledger, plain] at before
          cases before
      refine (rawAdd_explained still undoable).returning fun _ added ⟨still, _⟩ => ?_
      rw [ends_bind]
      exact (claim_undoable still (by simp)).returning fun _ after ⟨still, _, mine⟩ => ⟨still, mine⟩

/-- However an add call ends, its key can undo it. The key is an owner when the call has returned. -/
theorem add_undoable (fresh : Fresh peer address key) (spelled : IPAddress.canonical address = some address) :
    Ends (addSocBlocklistAddress address key lifetime) peer
      (explainedly (Undoable address key) fun _ after => after.ledger.Owns address key) := by
  have explained : Explained (Undoable address key) peer := by
    intro other member
    rw [fresh.nothing] at member
    cases member
  unfold addSocBlocklistAddress
  rw [ends_bind]
  refine (norm_explained explained).returning fun spelling same ⟨_, spelled', equal⟩ => ?_
  subst equal
  cases spelled.symm.trans spelled'
  rw [ends_bind]
  refine (readOwners_explained explained).returning fun owners listed ⟨still, read, turns⟩ => ?_
  subst read
  rw [ends_bind]
  refine (readForeign_explained still).returning fun foreign middle ⟨still, read, turns'⟩ => ?_
  subst read
  have ledger : middle.ledger = same.ledger := turns'.ledger.trans turns.ledger
  have nothing : middle.own = [] :=
    List.subset_nil.mp (fresh.nothing ▸ fun _ member => turns.own (turns'.own member))
  rw [turns.ledger, if_neg (show key ∉ (same.ledger.owners address).keys from fresh.unowned)]
  split
  · rename_i first
    exact claimFirst_undoable nothing (ledger ▸ first.2)
  · rename_i other
    -- A mark has an owner, so another key owns the address.
    have owned : same.ledger.Owned address := by
      by_contra unowned
      exact other ⟨OwnershipLedger.owners_eq_nil.mpr unowned, Bool.eq_false_iff.mpr fun mark => unowned (fresh.marked mark)⟩
    obtain ⟨owner, owns⟩ := owned
    have different : owner ≠ key := fun equal => fresh.unowned (equal ▸ owns)
    rw [ends_bind]
    refine (claim_undoable still (by simp)).returning fun _ claimed ⟨still, written, mine⟩ => ?_
    have undoable : Undoable address key claimed.ledger address := by
      refine ⟨rfl, Or.inl ⟨owner, ?_, different⟩⟩
      rw [written, ledger]
      exact OwnershipLedger.owns_claim.mpr (Or.inr owns)
    rw [ends_bind]
    refine (addMissing_undoable still undoable).returning fun _ after ⟨still, same⟩ => ⟨still, ?_⟩
    change after.ledger.Owns address key
    rw [show after.ledger = claimed.ledger from same]
    exact mine

/-- The query changes nothing that has to be undone. -/
theorem contains_undoable (explained : Explained (Undoable address key) peer)
    (spelled : IPAddress.canonical address = some address) :
    Ends (socBlocklistContains address) peer (explainedly (Undoable address key) fun answer after =>
      after.ledger = peer.ledger ∧ after.log = peer.log ++ [⟨.contained address answer, peer.ledger⟩]) := by
  unfold socBlocklistContains
  rw [ends_bind]
  refine (norm_explained explained).returning fun spelling same ⟨_, spelled', equal⟩ => ?_
  subst equal
  cases spelled.symm.trans spelled'
  exact (rawContains_explained explained).returning fun _ after ⟨still, _, ledger, _, _, log⟩ => ⟨still, ledger, log⟩

/-- The key is gone, and what it has added is left only to other owners. -/
structure Undone (peer : Peer) (address key : String) : Prop where
  released : ¬ peer.ledger.Owns address key
  left : Explained (OtherOwner key) peer

/-- Only the returned part of a postcondition is left. -/
theorem ends_partly {σ α : Type} {body : Program σ PyError α} {state : σ} {post : Post σ PyError α}
    {returned : α → σ → Prop} (ended : Ends body state post)
    (implies : ∀ value after, post.returned value after → returned value after) : Ends body state (partly returned) :=
  ended.weaken implies (fun _ _ _ => trivial) fun _ _ => trivial

/-- A program ends somehow. -/
theorem ends_anyhow {σ α : Type} {body : Program σ PyError α} {state : σ} : Ends body state (partly fun _ _ => True) := by
  unfold Ends
  split <;> trivial

/-- A release takes the owner and the entry back. -/
theorem release_undone (explained : Explained (OtherOwner key) peer) :
    Ends (release address key) peer (partly fun _ after => Undone after address key) := by
  have keeps : ∀ other ∈ peer.own, OtherOwner key (peer.ledger.release address key) other := by
    intro other member
    obtain ⟨owner, owns, different⟩ := explained other member
    exact ⟨owner, OwnershipLedger.owns_release.mpr ⟨owns, fun equal => different equal.2⟩, different⟩
  refine ends_partly (transact_explained explained keeps) fun _ after ⟨still, ledger, _⟩ => ⟨?_, still⟩
  rw [ledger]
  exact fun owns => (OwnershipLedger.owns_release.mp owns).2 ⟨rfl, rfl⟩

/-- A release that returns undoes what its key has added. -/
theorem remove_undone (explained : Explained (Undoable address key) peer)
    (spelled : IPAddress.canonical address = some address) :
    Ends (removeSocBlocklistAddress address key) peer (partly fun _ after => Undone after address key) := by
  unfold removeSocBlocklistAddress
  rw [ends_bind]
  refine ends_partly (norm_explained explained) fun spelling same ⟨_, spelled', equal⟩ => ?_
  subst equal
  cases spelled.symm.trans spelled'
  rw [ends_bind]
  refine ends_partly (readOwners_explained explained) fun owners listed ⟨still, read, turns⟩ => ?_
  subst read
  dsimp only
  split
  · rename_i mine
    rw [ends_bind]
    refine ends_partly (keptFor_explained still) fun kept middle ⟨still, decided, ledger, _⟩ => ?_
    rw [turns.ledger] at decided ledger
    cases kept with
    | true =>
        simp only [if_true]
        rw [ends_bind]
        refine ends_partly (release_undone fun other member => ?_) fun _ after undone => undone
        obtain ⟨rfl, others | ⟨_, plain⟩⟩ := still other member
        · exact others
        · -- The address has no mark, so it is kept for another owner.
          rcases decided.mp rfl with others | marked
          · obtain ⟨owner, found⟩ := List.exists_mem_of_ne_nil _ others
            obtain ⟨owns, different⟩ := List.mem_filter.mp found
            exact ⟨owner, by rw [ledger]; exact owns, by simpa using different⟩
          · rw [ledger, marked] at plain
            cases plain
    | false =>
        simp only [Bool.false_eq_true, if_false]
        unfold removeLast
        rw [ends_bind]
        refine ends_partly (rawRemove_explained still) fun _ removed ⟨still, _, _, _, gone, _⟩ => ?_
        rw [ends_bind]
        refine ends_partly (release_undone fun other member => ?_) fun _ after undone => undone
        obtain ⟨rfl, _⟩ := still other member
        exact absurd member gone
  · rename_i absent
    have released : ¬ listed.ledger.Owns address key := by
      rw [turns.ledger]
      exact absent
    refine ⟨released, fun other member => ?_⟩
    obtain ⟨rfl, others | ⟨mine, _⟩⟩ := still other member
    · exact others
    · exact absurd mine released

end Client

section Adapter

variable {adapter : BlocklistAdapter} {fleet : Fleet} {address key : String} {lifetime : Option Int}

/-- The handler of the adapter sees whether a call of a client has returned. -/
theorem caught_onPeer {α : Type} {peer : String} {body : ClientOp α} {returned : α → Peer → Prop}
    {failed crashed : Peer → Prop} (ended : Ends body (fleet peer) ⟨returned, fun _ => failed, crashed⟩) :
    Ends (caught (onPeer peer body)) fleet (partly fun result after =>
      (∀ value, result = some value → returned value (after peer)) ∧ (result = none → failed (after peer)) ∧
      ∀ other, other ≠ peer → after other = fleet other) := by
  unfold caught
  rw [ends_rescue, ends_bind]
  unfold onPeer
  rw [ends_focus]
  have same : ∀ (after : Peer) (other : String), other ≠ peer → Function.update fleet peer after other = fleet other :=
    fun after other different => Function.update_of_ne different _ _
  refine ended.weaken (fun value after held => ⟨?_, nofun, same after⟩) (fun error after held => ?_) fun _ _ => trivial
  · rintro _ ⟨⟩
    rw [Function.update_self]
    exact held
  · dsimp only
    split
    · trivial
    · refine ⟨nofun, fun _ => ?_, same after⟩
      rw [Function.update_self]
      exact held

/-- The peer lists the key, and its last answer reports the address. -/
structure Blocked (peer : Peer) (address key : String) : Prop where
  owned : peer.ledger.Owns address key
  reported : peer.log.getLast? = some ⟨.contained address true, peer.ledger⟩

/-- The turn of one peer can be undone however it ends. -/
theorem applyPeer_undoable {peer : String} (fresh : Fresh (fleet peer) address key)
    (spelled : IPAddress.canonical address = some address) :
    Ends (adapter.applyPeer address key lifetime peer) fleet (partly fun result after =>
      Explained (Undoable address key) (after peer) ∧ (result.2 = true → Blocked (after peer) address key) ∧
        ∀ other, other ≠ peer → after other = fleet other) := by
  unfold BlocklistAdapter.applyPeer
  rw [ends_bind]
  refine ends_partly (caught_onPeer (add_undoable fresh spelled)) fun added middle ⟨adds, failed, others⟩ => ?_
  cases added with
  | none => exact ⟨failed rfl, nofun, others⟩
  | some reference =>
      obtain ⟨still, owns⟩ := adds reference rfl
      dsimp only
      rw [ends_bind]
      refine ends_partly (caught_onPeer (contains_undoable still spelled)) fun answer after ⟨reads, failed, same⟩ => ?_
      have unchanged : ∀ other, other ≠ peer → after other = fleet other := fun other different =>
        (same other different).trans (others other different)
      cases answer with
      | none => exact ⟨failed rfl, nofun, unchanged⟩
      | some present =>
          obtain ⟨still, ledger, log⟩ := reads present rfl
          cases present with
          | false => exact ⟨still, nofun, unchanged⟩
          | true =>
              refine ⟨still, fun _ => ⟨ledger ▸ owns, ?_⟩, unchanged⟩
              rw [log, List.getLast?_concat, ledger]

/-- The loop blocks the address on all peers, or it stops at a peer in flight. -/
inductive Visited (fleet after : Fleet) (address key : String) (peers : List String) : List String → Bool → Prop
  | all (blocked : ∀ peer ∈ peers, Blocked (after peer) address key) : Visited fleet after address key peers peers true
  | inFlight (earlier : List String) (peer : String) (later : List String) (split : peers = earlier ++ peer :: later)
      (undoable : ∀ visited ∈ earlier ++ [peer], Explained (Undoable address key) (after visited))
      (untouched : ∀ other ∈ later, after other = fleet other) :
      Visited fleet after address key peers (earlier ++ [peer]) false

/-- An application visits its peers in order and no other device. -/
theorem applyPeers_visits {peers : List String} (distinct : peers.Nodup)
    (fresh : ∀ peer ∈ peers, Fresh (fleet peer) address key) (spelled : IPAddress.canonical address = some address) :
    Ends (adapter.applyPeers address key lifetime peers) fleet (partly fun result after =>
      Visited fleet after address key peers result.1 result.2.2 ∧ ∀ other, other ∉ peers → after other = fleet other) := by
  induction peers generalizing fleet with
  | nil => exact ⟨.all (by simp), by simp⟩
  | cons peer rest ih =>
      obtain ⟨new, distinct⟩ := List.nodup_cons.mp distinct
      unfold BlocklistAdapter.applyPeers
      rw [ends_bind]
      refine ends_partly (applyPeer_undoable (fresh peer List.mem_cons_self) spelled) fun turn middle ended => ?_
      obtain ⟨undoable, blocked, others⟩ := ended
      have same : ∀ other ∈ rest, middle other = fleet other := fun other member =>
        others other fun equal => new (equal ▸ member)
      obtain ⟨refs, added⟩ := turn
      cases added with
      | false =>
          refine ⟨.inFlight [] peer rest rfl (by simpa using undoable) same, fun other outside => ?_⟩
          exact others other fun equal => outside (equal ▸ List.mem_cons_self)
      | true =>
          simp only [if_true]
          rw [ends_bind]
          have later : ∀ other ∈ rest, Fresh (middle other) address key := fun other member =>
            same other member ▸ fresh other (List.mem_cons_of_mem _ member)
          refine ends_partly (ih distinct later) fun loop after ⟨visits, kept⟩ => ?_
          have own : after peer = middle peer := kept peer new
          obtain ⟨applied, more, complete⟩ := loop
          refine ⟨?_, fun other outside => ?_⟩
          · cases visits with
            | all every =>
                refine .all fun other member => ?_
                rcases List.mem_cons.mp member with rfl | member
                · exact own ▸ blocked rfl
                · exact every other member
            | inFlight earlier last left split covered untouched =>
                refine .inFlight (peer :: earlier) last left (by rw [split]; rfl) (fun other member => ?_) fun other member => ?_
                · rcases List.mem_cons.mp member with rfl | member
                  · exact own ▸ undoable
                  · exact covered other member
                · exact (untouched other member).trans (same other (by rw [split]; simp [member]))
          · obtain ⟨different, absent⟩ := not_or.mp (mt List.mem_cons.mpr outside)
            exact (kept other absent).trans (others other different)

/-- Calls of `remove_soc_blocklist_address` at some peers, one after the other. A call without a reference has raised. -/
inductive Releases (address key : String) : List (String × Option String) → Fleet → Fleet → Prop
  | nil (fleet : Fleet) : Releases address key [] fleet fleet
  | cons {peer : String} {reference : Option String} {rest : List (String × Option String)} {fleet middle after : Fleet}
      (call : caught (onPeer peer (removeSocBlocklistAddress address key)) fleet = (.returned reference, middle))
      (next : Releases address key rest middle after) : Releases address key ((peer, reference) :: rest) fleet after

/-- The loop of the compensation makes one release at each peer. -/
theorem collect_releases {peers : List String} {describe : String → Option String → String} :
    Ends (collect (fun peer => do
      let reference ← caught (onPeer peer (removeSocBlocklistAddress address key))
      return some (describe peer reference)) peers) fleet (partly fun refs after =>
        ∃ released, released.map Prod.fst = peers ∧ Releases address key released fleet after ∧
          refs = released.map fun call => describe call.1 call.2) := by
  induction peers generalizing fleet with
  | nil => exact ⟨[], rfl, .nil fleet, rfl⟩
  | cons peer rest ih =>
      unfold collect
      rw [ends_bind, ends_bind]
      have anyhow : Ends (caught (onPeer peer (removeSocBlocklistAddress address key))) fleet (partly fun _ _ => True) :=
        ends_anyhow
      refine ends_partly anyhow.tracked fun reference middle ended => ?_
      obtain ⟨call, -⟩ := ended
      rw [ends_pure]
      dsimp only
      rw [ends_bind]
      refine ends_partly ih fun refs after visit => ?_
      obtain ⟨released, visited, releases, described⟩ := visit
      exact ⟨(peer, reference) :: released, by simp [visited], .cons call releases, by simp [described]⟩

/-- A release changes its own peer only. -/
theorem Releases.others {released : List (String × Option String)} {after : Fleet}
    (releases : Releases address key released fleet after) (other : String) (outside : other ∉ released.map Prod.fst) :
    after other = fleet other := by
  induction releases with
  | nil fleet => rfl
  | @cons peer reference rest fleet middle after call next ih =>
      obtain ⟨different, absent⟩ := not_or.mp (mt List.mem_cons.mpr outside)
      have anyhow : Ends (removeSocBlocklistAddress address key) (fleet peer) (partly fun _ _ => True) := ends_anyhow
      have ended := caught_onPeer anyhow
      simp only [Ends, call, partly] at ended
      exact (ih absent).trans (ended.2.2 other different)

/-- Releases that all return undo what their key has added. -/
theorem Releases.undone {released : List (String × Option String)} {after : Fleet}
    (releases : Releases address key released fleet after) (distinct : (released.map Prod.fst).Nodup)
    (undoable : ∀ peer ∈ released.map Prod.fst, Explained (Undoable address key) (fleet peer))
    (spelled : IPAddress.canonical address = some address) (succeeded : ∀ call ∈ released, call.2 ≠ none) :
    ∀ peer ∈ released.map Prod.fst, Undone (after peer) address key := by
  induction releases with
  | nil fleet => exact fun peer member => nomatch member
  | @cons peer reference rest fleet middle after call next ih =>
      obtain ⟨new, single⟩ := List.nodup_cons.mp distinct
      have ended := caught_onPeer (remove_undone (undoable peer List.mem_cons_self) spelled)
      simp only [Ends, call, partly] at ended
      obtain ⟨undone, _, others⟩ := ended
      obtain ⟨value, rfl⟩ := Option.ne_none_iff_exists'.mp (succeeded _ List.mem_cons_self)
      intro other member
      rcases List.mem_cons.mp member with rfl | member
      · rw [next.others other new]
        exact undone value rfl
      · refine ih single (fun other member => ?_) (fun call member => succeeded call (List.mem_cons_of_mem _ member))
          other member
        rw [others other fun equal => new (equal ▸ member)]
        exact undoable other (List.mem_cons_of_mem _ member)

end Adapter

section Apply

/-- A client has brought each of the peers to its state. -/
def Fleet.Reached (fleet : Fleet) (peers : List String) : Prop :=
  ∀ peer ∈ peers, ∃ members steps, fleet peer = (ClientWorld.run members steps).peer

/-- The peers before a call, in new environments. From here on the observer knows which members the call has added. -/
def Fleet.watched (fleet : Fleet) (tapes : String → List Turn) : Fleet :=
  fun peer => { fleet peer with own := [], tape := tapes peer }

/-- The outcome of an apply. -/
structure AllOrCompensated (adapter : BlocklistAdapter) (command : List (String × Json)) (address key : String)
    (fleet after : Fleet) (outcome : AdapterOutcome) : Prop where
  /-- Every peer lists the key and has reported the address after its add. -/
  all : outcome.ok = true → ∀ peer ∈ adapter.peers, Blocked (after peer) address key
  /-- The peers up to the one in flight are released in reverse order. If all releases return, the key owns nothing, and
  an address that is left has another owner. -/
  compensated : outcome.ok = false → ∃ earlier inFlight later refs middle released,
    adapter.peers = earlier ++ inFlight :: later ∧
    adapter.applyPeers address key (lifetime command) adapter.peers fleet =
      (.returned (earlier ++ [inFlight], refs, false), middle) ∧
    released.map Prod.fst = (earlier ++ [inFlight]).reverse ∧ Releases address key released middle after ∧
    (∀ peer ∈ later, after peer = fleet peer) ∧
    ((∀ call ∈ released, call.2 ≠ none) → ∀ peer ∈ adapter.peers, Undone (after peer) address key)

variable (python : Python) (adapter : BlocklistAdapter)

/-- An apply blocks the address everywhere, or it is compensated. -/
theorem apply_all_or_compensated (fleet : Fleet) (tapes : String → List Turn) (command : List (String × Json))
    (address key : String) (outcome : AdapterOutcome) (after : Fleet) (reached : fleet.Reached adapter.peers)
    (named : commandAddress command = .ok address) (keyed : idempotencyKey command = .ok key)
    (unowned : ∀ peer ∈ adapter.peers, ¬ (fleet peer).ledger.Owns address key)
    (returned : adapter.apply python command (fleet.watched tapes) = (.returned outcome, after)) :
    AllOrCompensated adapter command address key (fleet.watched tapes) after outcome := by
  have spelled := commandAddress_canonical named
  have fresh : ∀ peer ∈ adapter.peers, Fresh (fleet.watched tapes peer) address key := by
    intro peer member
    obtain ⟨members, steps, same⟩ := reached peer member
    refine ⟨rfl, unowned peer member, ?_⟩
    have sound := ClientWorld.run_sound members steps
    rw [← same] at sound
    exact sound.marked address
  have ended : Ends (adapter.apply python command) (fleet.watched tapes)
      (partly fun outcome after => AllOrCompensated adapter command address key (fleet.watched tapes) after outcome) := by
    unfold BlocklistAdapter.apply
    simp only [named, keyed]
    change Ends (adapter.applyPeers address key (lifetime command) adapter.peers >>= _) (fleet.watched tapes) _
    rw [ends_bind]
    refine ends_partly (applyPeers_visits adapter.distinct fresh spelled).tracked fun turn middle ⟨ran, visits, _⟩ => ?_
    obtain ⟨applied, refs, complete⟩ := turn
    cases visits with
    | all blocked =>
        simp only [if_true, BlocklistAdapter.recoveryReference, named, keyed]
        exact ⟨fun _ => blocked, nofun⟩
    | inFlight earlier peer later split undoable untouched =>
        simp only [Bool.false_eq_true, if_false]
        rw [ends_bind]
        refine ends_partly collect_releases fun _ last ⟨released, visited, releases, _⟩ => ⟨nofun, fun _ => ?_⟩
        have visited : released.map Prod.fst = (earlier ++ [peer]).reverse := visited
        have whole := adapter.distinct
        rw [split, List.append_cons, List.nodup_append] at whole
        obtain ⟨single, _, apart⟩ := whole
        have kept : ∀ other ∈ later, last other = fleet.watched tapes other := by
          intro other member
          refine (releases.others other fun among => ?_).trans (untouched other member)
          rw [visited, List.mem_reverse] at among
          exact apart other among other member rfl
        refine ⟨earlier, peer, later, refs, middle, released, split, ran, visited, releases, kept, fun succeeded => ?_⟩
        intro other member
        rw [split, List.append_cons, List.mem_append] at member
        rcases member with visit | left
        · refine releases.undone ?_ (fun other among => ?_) spelled succeeded other ?_
          · rw [visited, List.nodup_reverse]
            exact single
          · rw [visited, List.mem_reverse] at among
            exact undoable other among
          · rw [visited, List.mem_reverse]
            exact visit
        · rw [kept other left]
          refine ⟨unowned other (by rw [split]; simp [left]), ?_⟩
          intro entry added
          cases added
  simpa only [Ends, returned, partly] using ended

/-- The peers of the lab before their first call. -/
def labFleet : Fleet := fun _ => {}

/-- The add of the second firewall times out after it has taken effect. -/
def labTimeout (peer : String) : List Turn :=
  if peer = "fw-dmz" then [{}, {}, {}, {}, { fate := .raisedAfter (.runtimeError "timed out") }] else []

/-- Both firewalls are released, the one in flight first. -/
theorem timeout_compensated : ∃ outcome after,
    labAdapter.apply labUpper labBlock (labFleet.watched labTimeout) = (.returned outcome, after) ∧
    outcome.ok = false ∧
    outcome.evidenceRefs = ["nftables:fw-core:SOC_BLOCKLIST:add:added:111111111111",
      "nftables:fw-core:SOC_BLOCKLIST:membership:SOC_BLOCKLIST",
      "nftables:fw-dmz:SOC_BLOCKLIST:compensate:removed:111111111111",
      "nftables:fw-core:SOC_BLOCKLIST:compensate:removed:111111111111"] ∧
    AllOrCompensated labAdapter labBlock "203.0.113.20" "idemp-1111111111111111" (labFleet.watched labTimeout) after
      outcome := by
  have returned : labAdapter.apply labUpper labBlock (labFleet.watched labTimeout) = (.returned
      { ok := false
        evidenceRefs := ["nftables:fw-core:SOC_BLOCKLIST:add:added:111111111111",
          "nftables:fw-core:SOC_BLOCKLIST:membership:SOC_BLOCKLIST",
          "nftables:fw-dmz:SOC_BLOCKLIST:compensate:removed:111111111111",
          "nftables:fw-core:SOC_BLOCKLIST:compensate:removed:111111111111"]
        code := some "NFTABLES_HA_APPLY_FAILED"
        message := some "SOC_BLOCKLIST apply failed; applied peers were reverted where possible" },
      (labAdapter.apply labUpper labBlock (labFleet.watched labTimeout)).2) := Prod.ext (by decide +kernel) rfl
  have unowned : ∀ peer ∈ labAdapter.peers, ¬ (labFleet peer).ledger.Owns "203.0.113.20" "idemp-1111111111111111" :=
    fun _ _ owns => nomatch owns
  exact ⟨_, _, returned, rfl, rfl, apply_all_or_compensated labUpper labAdapter labFleet labTimeout labBlock "203.0.113.20"
    "idemp-1111111111111111" _ _ (fun _ _ => ⟨[], [], rfl⟩) (by decide +kernel) (by decide +kernel) unowned returned⟩

end Apply

end ClosedLoop.Transport
