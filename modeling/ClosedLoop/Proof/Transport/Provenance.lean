import ClosedLoop.Proof.Transport.Ledger

namespace ClosedLoop.Transport

open ClosedLoop.Library ClosedLoop.Response Program

/-- What the ledger says about each entry that the client has added is good. -/
def Explained (good : OwnershipLedger → String → Prop) (peer : Peer) : Prop :=
  ∀ address ∈ peer.own, good peer.ledger address

/-- However the call ends, the entries of its client are explained. -/
def explainedly {α : Type} (good : OwnershipLedger → String → Prop) (returned : α → Peer → Prop) :
    Post Peer PyError α :=
  ⟨fun value after => Explained good after ∧ returned value after, fun _ => Explained good, Explained good⟩

/-- The peer has met some number of good turns since the start. -/
structure Met (start : Peer) (count : Nat) (peer : Peer) : Prop where
  members : peer.members = ((start.tape.take count).flatMap (·.outside)).foldl change start.members
  tape : peer.tape = start.tape.drop count
  done : ∀ turn ∈ start.tape.take count, turn.fate = .done

section Primitives

variable {good : OwnershipLedger → String → Prop} {start peer middle : Peer} {count : Nat} {address key : String}

/-- Before the first turn a peer has met none. -/
theorem Met.refl : Met peer 0 peer := ⟨by simp, by simp, by simp⟩

/-- One turn more is met. -/
theorem Met.next (met : Met start count peer) (turns : Turns peer .done middle) : Met start (count + 1) middle := by
  have split : start.tape.take (count + 1) = start.tape.take count ++ peer.tape.take 1 := by
    rw [met.tape, List.take_add]
  refine ⟨?_, ?_, ?_⟩
  · rw [turns.members, met.members, split, List.flatMap_append, List.foldl_append]
  · rw [turns.tape, met.tape, List.drop_drop]
  · rw [split]
    intro turn member
    rcases List.mem_append.mp member with earlier | last
    · exact met.done turn earlier
    · exact turns.fate turn last

/-- What the peer looks like after a change of its log decides nothing about its turns. -/
theorem Met.alike {other : Peer} (met : Met start count peer) (members : other.members = peer.members)
    (tape : other.tape = peer.tape) : Met start count other :=
  ⟨members.trans met.members, tape.trans met.tape, met.done⟩

/-- A turn leaves every entry explained. -/
theorem Explained.turn {fate : Fate} (explained : Explained good peer) (turns : Turns peer fate middle) : Explained good middle := by
  intro address member
  rw [turns.ledger]
  exact explained address (turns.own member)

/-- A call that only reads. -/
theorem idle_explained (explained : Explained good peer) :
    Ends (attempt (pure ())) peer (explainedly good fun _ after => Turns peer .done after) :=
  attempt_ends fun _ _ turns =>
    ⟨explained.turn turns, explained.turn turns, fun good => ⟨explained.turn turns, good ▸ turns⟩⟩

/-- The owners are read in one turn. -/
theorem readOwners_explained (explained : Explained good peer) :
    Ends (readOwners address) peer
      (explainedly good fun owners after => owners = peer.ledger.owners address ∧ Turns peer .done after) := by
  unfold readOwners
  rw [ends_bind]
  refine (idle_explained explained).returning fun _ after ⟨still, turns⟩ => ?_
  exact ⟨still, congrArg (·.owners address) turns.ledger, turns⟩

theorem readForeign_explained (explained : Explained good peer) :
    Ends (readForeign address) peer
      (explainedly good fun foreign after => foreign = peer.ledger.isForeign address ∧ Turns peer .done after) := by
  unfold readForeign
  rw [ends_bind]
  refine (idle_explained explained).returning fun _ after ⟨still, turns⟩ => ?_
  exact ⟨still, congrArg (·.isForeign address) turns.ledger, turns⟩

/-- The peer answers for the moment of its turn. -/
theorem rawContains_explained (explained : Explained good peer) :
    Ends (rawContains address) peer (explainedly good fun answer after => (answer = true ↔ address ∈ after.members) ∧
      after.ledger = peer.ledger ∧ after.own ⊆ peer.own ∧
      (∀ start count, Met start count peer → Met start (count + 1) after) ∧
      after.log = peer.log ++ [⟨.contained address answer, peer.ledger⟩]) := by
  unfold rawContains
  rw [ends_bind]
  refine (idle_explained explained).returning fun _ middle ⟨still, turns⟩ => ?_
  refine ⟨still, decide_eq_true_iff, turns.ledger, turns.own, fun start count met => ?_, ?_⟩
  · exact (met.next turns).alike rfl rfl
  · simp only [turns.log, turns.ledger]

/-- An addition is explained when what the ledger says about its address is good. -/
theorem rawAdd_explained {lifetime : Option Int} (explained : Explained good peer)
    (added : good peer.ledger address) :
    Ends (rawAdd address lifetime) peer (explainedly good fun _ after => after.ledger = peer.ledger) := by
  unfold rawAdd
  rw [ends_bind]
  refine attempt_ends fun fate middle turns => ?_
  have still : Explained good middle := fun other member => turns.ledger ▸ explained other (turns.own member)
  refine ⟨still, ?_⟩
  have explains : Explained good { middle with
      members := middle.members.insert address
      own := if address ∈ middle.members then middle.own else middle.own.insert address } := by
    intro other member
    have known : other = address ∨ other ∈ middle.own := by
      dsimp only at member
      split at member
      · exact Or.inr member
      · exact List.mem_insert_iff.mp member
    rcases known with rfl | before
    · exact turns.ledger ▸ added
    · exact still other before
  exact ⟨explains, fun _ => ⟨explains, turns.ledger⟩⟩

/-- A removal takes the address away in one turn. -/
theorem rawRemove_explained (explained : Explained good peer) :
    Ends (rawRemove address key) peer (explainedly good fun _ after => after.ledger = peer.ledger ∧ after.own ⊆ peer.own ∧
      address ∉ after.members ∧ address ∉ after.own ∧
      after.log = peer.log ++ [⟨.removing address key, peer.ledger⟩] ∧ after.tape = peer.tape.drop 1) := by
  unfold rawRemove
  rw [ends_bind]
  refine attempt_ends fun fate middle turns => ?_
  have still : Explained good middle := fun other member => turns.ledger ▸ explained other (turns.own member)
  refine ⟨still, ?_⟩
  have removed : Explained good { middle with
      members := middle.members.filter (· ≠ address), own := middle.own.filter (· ≠ address) } :=
    fun other member => still other (List.mem_of_mem_filter member)
  refine ⟨removed, fun _ => ⟨removed, turns.ledger, ?_, by simp, by simp, turns.log, turns.tape⟩⟩
  exact fun other member => turns.own (List.mem_of_mem_filter member)

/-- A transaction is explained when what it writes about the entries of the client is good. -/
theorem transact_explained {occurrence : Occurrence} {write : OwnershipLedger → OwnershipLedger} (explained : Explained good peer)
    (keeps : ∀ other ∈ peer.own, good (write peer.ledger) other) :
    Ends (transact occurrence write) peer (explainedly good fun _ after => after.ledger = write peer.ledger ∧
      after.own ⊆ peer.own ∧ (∃ middle, Turns peer .done middle ∧ after.members = middle.members ∧ after.tape = middle.tape) ∧
      after.log = peer.log ++ [⟨occurrence, write peer.ledger⟩]) := by
  unfold transact
  refine attempt_ends fun fate middle turns => ⟨explained.turn turns, ?_⟩
  have written : Explained good { middle with
      ledger := write middle.ledger, log := middle.log ++ [⟨occurrence, write middle.ledger⟩] } := by
    intro other member
    rw [turns.ledger]
    exact keeps other (turns.own member)
  rw [ends_bind, ends_update]
  refine ⟨written, fun good => ⟨written, congrArg write turns.ledger, turns.own, ⟨middle, good ▸ turns, rfl, rfl⟩, ?_⟩⟩
  simp only [turns.log, turns.ledger]

/-- Normalising takes no turn. -/
theorem norm_explained (explained : Explained good peer) :
    Ends (norm address) peer (explainedly good fun spelling after =>
      IPAddress.canonical address = some spelling ∧ after = peer) := by
  unfold norm
  split
  · rename_i spelled
    exact ⟨explained, spelled, rfl⟩
  · exact explained

/-- An address is kept for other owners, or for its mark. -/
theorem keptFor_explained {others : List String} (explained : Explained good peer) :
    Ends (keptFor others address) peer (explainedly good fun kept after =>
      (kept = true ↔ others ≠ [] ∨ peer.ledger.isForeign address = true) ∧ after.ledger = peer.ledger ∧
        after.log = peer.log ∧ after.own ⊆ peer.own ∧ after.tape ⊆ peer.tape) := by
  unfold keptFor
  split
  · rename_i alone
    refine (readForeign_explained explained).returning fun foreign after ⟨still, read, turns⟩ => ?_
    refine ⟨still, by rw [read]; simp [alone], turns.ledger, turns.log, turns.own, ?_⟩
    rw [turns.tape]
    exact List.drop_subset 1 peer.tape
  · rename_i others
    exact ⟨explained, by simp [others], rfl, rfl, fun _ member => member, fun _ member => member⟩

end Primitives

end ClosedLoop.Transport
