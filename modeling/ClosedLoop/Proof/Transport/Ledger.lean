import ClosedLoop.Construction.Transport.Ownership

namespace ClosedLoop.Transport

open ClosedLoop.Library ClosedLoop.Response Program

namespace OwnershipLedger

variable {ledger : OwnershipLedger} {address other key owner : String} {mode : ClaimMode} {foreign : Bool}

/-- The ledger lists the key as an owner of the address. -/
def Owns (ledger : OwnershipLedger) (address key : String) : Prop := key ∈ (ledger.owners address).keys

/-- The ledger lists some owner of the address. -/
def Owned (ledger : OwnershipLedger) (address : String) : Prop := ∃ key, ledger.Owns address key

/-- A key owns an address when the table has both. -/
theorem owns_iff : ledger.Owns address key ↔ (address, key) ∈ ledger.ownersTable.keys := by
  unfold Owns owners Table.keys
  constructor
  · intro member
    obtain ⟨⟨_, mode⟩, found, rfl⟩ := List.mem_map.mp member
    obtain ⟨row, inside, kept⟩ := List.mem_filterMap.mp found
    split at kept
    · rename_i same
      cases kept
      exact List.mem_map.mpr ⟨row, inside, by rw [← same]⟩
    · cases kept
  · intro member
    obtain ⟨row, inside, same⟩ := List.mem_map.mp member
    refine List.mem_map.mpr ⟨(key, row.2), List.mem_filterMap.mpr ⟨row, inside, ?_⟩, rfl⟩
    simp [same]

/-- An address without owners is not owned. -/
theorem owners_eq_nil : ledger.owners address = [] ↔ ¬ ledger.Owned address := by
  unfold Owned Owns Table.keys
  constructor
  · intro empty ⟨key, member⟩
    simp [empty] at member
  · intro unowned
    refine List.eq_nil_iff_forall_not_mem.mpr fun row member => unowned ⟨row.1, ?_⟩
    exact List.mem_map_of_mem member

/-- A claim adds its own key. -/
theorem owns_claim :
    (ledger.claim other owner mode foreign).Owns address key ↔
      (address = other ∧ key = owner) ∨ ledger.Owns address key := by
  rw [owns_iff, owns_iff]
  unfold claim
  rw [Table.mem_keys_upsert, Prod.mk.injEq]

/-- A release takes its own key away. -/
theorem owns_release :
    (ledger.release other owner).Owns address key ↔
      ledger.Owns address key ∧ ¬ (address = other ∧ key = owner) := by
  rw [owns_iff, owns_iff]
  unfold release Table.keys
  simp only [List.mem_map, List.mem_filter, decide_eq_true_eq]
  constructor
  · rintro ⟨row, ⟨member, kept⟩, same⟩
    exact ⟨⟨row, member, same⟩, fun equal => kept (by rw [same, equal.1, equal.2])⟩
  · rintro ⟨⟨row, member, same⟩, kept⟩
    exact ⟨row, ⟨member, fun equal => kept (by simpa [same] using equal)⟩, same⟩

/-- A claim marks its address when it was there before. -/
theorem isForeign_claim :
    (ledger.claim other owner mode foreign).isForeign address = true ↔
      (foreign = true ∧ address = other) ∨ ledger.isForeign address = true := by
  unfold isForeign claim
  cases foreign <;> simp

/-- A release of the last owner takes the mark away. -/
theorem isForeign_release :
    (ledger.release other owner).isForeign address = true ↔
      ledger.isForeign address = true ∧ (address = other → (ledger.release other owner).Owned other) := by
  have listed : (ledger.release other owner).Owned other ↔
      (ledger.release other owner).ownersTable.any (fun row => row.1.1 = other) = true := by
    simp only [Owned, owns_iff, Table.keys, List.mem_map, List.any_eq_true, decide_eq_true_eq]
    constructor
    · rintro ⟨key, row, member, same⟩
      exact ⟨row, member, by rw [same]⟩
    · rintro ⟨row, member, same⟩
      exact ⟨row.1.2, row, member, by rw [← same]⟩
  rw [listed]
  unfold isForeign release
  simp only [decide_eq_true_eq]
  split
  · rename_i left
    exact ⟨fun member => ⟨member, fun _ => left⟩, And.left⟩
  · rename_i gone
    rw [List.mem_filter, decide_eq_true_eq]
    exact and_congr_right fun _ => ⟨fun different same => absurd same different, fun left same => gone (left same)⟩

end OwnershipLedger

section Turns

variable {peer middle : Peer} {fate : Fate}

/-- A turn of the environment consumes the tape. It adds nothing for the client. -/
structure Turns (peer : Peer) (fate : Fate) (middle : Peer) : Prop where
  log : middle.log = peer.log
  ledger : middle.ledger = peer.ledger
  own : middle.own ⊆ peer.own
  members : middle.members = ((peer.tape.take 1).flatMap (·.outside)).foldl change peer.members
  tape : middle.tape = peer.tape.drop 1
  fate : ∀ turn ∈ peer.tape.take 1, turn.fate = fate

/-- The next turn is the head of the tape. -/
theorem nextTurn_turns (peer : Peer) : ∃ fate middle, nextTurn peer = (.returned fate, middle) ∧ Turns peer fate middle := by
  unfold nextTurn
  cases tape : peer.tape with
  | nil => exact ⟨.done, peer, rfl, rfl, rfl, fun _ member => member, by simp [tape], by simp [tape], by simp [tape]⟩
  | cons turn rest =>
      refine ⟨turn.fate, _, rfl, rfl, rfl, ?_, by simp [tape], by simp [tape], by simp [tape]⟩
      exact List.filter_subset_self _

/-- A call is good when its effect is good after each turn of the environment. -/
theorem attempt_ends {effect : ClientOp Unit} {invariant : Peer → Prop} {returned : Unit → Peer → Prop}
    (acts : ∀ fate middle, Turns peer fate middle → invariant middle ∧ Ends effect middle
      ⟨fun _ after => invariant after ∧ (fate = .done → returned () after), fun _ => invariant, invariant⟩) :
    Ends (attempt effect) peer ⟨returned, fun _ => invariant, invariant⟩ := by
  obtain ⟨fate, middle, answered, turns⟩ := nextTurn_turns peer
  obtain ⟨still, acted⟩ := acts fate middle turns
  unfold attempt
  refine Ends.after answered ?_
  cases fate with
  | done => exact acted.returning fun _ after ended => ended.2 rfl
  | raisedBefore error => exact still
  | raisedAfter error =>
      rw [ends_bind]
      exact acted.returning fun _ after ended => ended.1
  | crashedBefore => exact still
  | crashedAfter =>
      rw [ends_bind]
      exact acted.returning fun _ after ended => ended.1

end Turns

end ClosedLoop.Transport
