import ClosedLoop.Library.Trace
import ClosedLoop.Proof.Transport.Provenance

namespace ClosedLoop.Transport

open ClosedLoop.Library ClosedLoop.Response Program

/-- The address has an owner and no mark. -/
def Unmarked (ledger : OwnershipLedger) (address : String) : Prop :=
  ledger.Owned address ∧ ledger.isForeign address = false

section Calls

variable {start peer : Peer} {address key : String} {lifetime : Option Int}

/-- A claim marks an address only when the client has not added it. -/
theorem claim_guarded {mode : ClaimMode} {foreign : Bool} (guarded : Explained Unmarked peer)
    (others : foreign = true → address ∉ peer.own) :
    Ends (claim address key mode foreign) peer (explainedly Unmarked fun _ after =>
      after.ledger = peer.ledger.claim address key mode foreign ∧ after.own ⊆ peer.own ∧
      ∀ start count, Met start count peer → Met start (count + 1) after) := by
  refine (transact_explained guarded fun other member => ?_).returning fun _ after ⟨still, ledger, own, turned, _⟩ =>
    ⟨still, ledger, own, fun start count met => ?_⟩
  · obtain ⟨⟨owner, owns⟩, plain⟩ := guarded other member
    refine ⟨⟨owner, OwnershipLedger.owns_claim.mpr (Or.inr owns)⟩, Bool.eq_false_iff.mpr fun marked => ?_⟩
    obtain ⟨mark, rfl⟩ | before := OwnershipLedger.isForeign_claim.mp marked
    · exact others mark member
    · rw [plain] at before
      cases before
  · obtain ⟨middle, turns, members, tape⟩ := turned
    exact (met.next turns).alike members tape

/-- A release leaves an owner of what the client has added. -/
theorem release_guarded (guarded : Explained Unmarked peer)
    (left : address ∈ peer.own → ∃ owner, peer.ledger.Owns address owner ∧ owner ≠ key) :
    Ends (release address key) peer (explainedly Unmarked fun _ after =>
      after.own ⊆ peer.own ∧ (∃ middle, Turns peer .done middle ∧ after.members = middle.members) ∧
      after.log = peer.log ++ [⟨.released address key, peer.ledger.release address key⟩]) := by
  refine (transact_explained guarded fun other member => ?_).returning fun _ after ⟨still, _, own, turned, log⟩ =>
    ⟨still, own, ?_, log⟩
  · obtain ⟨⟨owner, owns⟩, plain⟩ := guarded other member
    constructor
    · by_cases same : other = address
      · subst same
        obtain ⟨owner, owns, different⟩ := left member
        exact ⟨owner, OwnershipLedger.owns_release.mpr ⟨owns, fun equal => different equal.2⟩⟩
      · exact ⟨owner, OwnershipLedger.owns_release.mpr ⟨owns, fun equal => same equal.1⟩⟩
    · refine Bool.eq_false_iff.mpr fun marked => ?_
      rw [(OwnershipLedger.isForeign_release.mp marked).1] at plain
      cases plain
  · obtain ⟨middle, turns, members, _⟩ := turned
    exact ⟨middle, turns, members⟩

/-- The turns of an add call up to its reading of the membership, when the address has an owner or a mark. -/
def readingTurn (ledger : OwnershipLedger) (address key : String) : Nat :=
  if key ∈ (ledger.owners address).keys then 3 else 4

/-- An address with a mark is in the set when an add call comes to read its membership. -/
def MarkedPresent (peer : Peer) (address key : String) : Prop :=
  peer.ledger.isForeign address = true →
    (∀ turn ∈ peer.tape.take (readingTurn peer.ledger address key), turn.fate = .done) →
      address ∈ ((peer.tape.take (readingTurn peer.ledger address key)).flatMap (·.outside)).foldl change peer.members

/-- A missing address is added only when it has no mark. -/
theorem addMissing_guarded (guarded : Explained Unmarked peer) (owned : peer.ledger.Owned address) {count : Nat}
    (met : Met start count peer) (present : peer.ledger.isForeign address = true →
      (∀ turn ∈ start.tape.take (count + 1), turn.fate = .done) →
        address ∈ ((start.tape.take (count + 1)).flatMap (·.outside)).foldl change start.members) :
    Ends (addMissing address lifetime) peer (explainedly Unmarked fun _ after => after.ledger = peer.ledger) := by
  unfold addMissing
  rw [ends_bind]
  refine (rawContains_explained guarded).returning fun answer middle ⟨still, answered, ledger, _, turned, _⟩ => ?_
  cases answer with
  | true => exact ⟨still, ledger⟩
  | false =>
      have met := turned start count met
      have plain : middle.ledger.isForeign address = false := by
        rw [ledger]
        refine Bool.eq_false_iff.mpr fun marked => ?_
        have there := present marked met.done
        rw [← met.members] at there
        cases answered.mpr there
      exact (rawAdd_explained still ⟨ledger ▸ owned, plain⟩).returning fun _ after ⟨still, same⟩ =>
        ⟨still, same.trans ledger⟩

/-- The first claim marks an address that others have added, and adds an address without a mark. -/
theorem claimFirst_guarded (guarded : Explained Unmarked peer) (unowned : ¬ peer.ledger.Owned address)
    (plain : peer.ledger.isForeign address = false) :
    Ends (claimFirst address key lifetime) peer (explainedly Unmarked fun _ _ => True) := by
  unfold claimFirst
  rw [ends_bind]
  have others : address ∉ peer.own := fun member => unowned (guarded address member).1
  refine (rawContains_explained guarded).returning fun answer middle ⟨still, _, ledger, own, _⟩ => ?_
  cases answer with
  | true =>
      simp only [if_true]
      rw [ends_bind]
      refine (claim_guarded still fun _ member => others (own member)).returning fun _ after ⟨still, _⟩ => ?_
      exact ⟨still, trivial⟩
  | false =>
      simp only [Bool.false_eq_true, if_false]
      rw [ends_bind]
      refine (claim_guarded still (by simp)).returning fun _ intended ⟨still, claimed, _⟩ => ?_
      rw [ends_bind]
      have owned : intended.ledger.Owned address :=
        ⟨key, by rw [claimed]; exact OwnershipLedger.owns_claim.mpr (Or.inl ⟨rfl, rfl⟩)⟩
      have unmarked : intended.ledger.isForeign address = false := by
        rw [claimed, Bool.eq_false_iff]
        intro marked
        obtain ⟨impossible, _⟩ | before := OwnershipLedger.isForeign_claim.mp marked
        · cases impossible
        · rw [ledger, plain] at before
          cases before
      refine (rawAdd_explained still ⟨owned, unmarked⟩).returning fun _ added ⟨still, _⟩ => ?_
      rw [ends_bind]
      exact (claim_guarded still (by simp)).returning fun _ after ⟨still, _⟩ => ⟨still, trivial⟩

/-- An add call is guarded when it finds a marked address in the set. -/
theorem addSocBlocklistAddress_guarded (guarded : Explained Unmarked peer)
    (present : ∀ spelling, IPAddress.canonical address = some spelling → MarkedPresent peer spelling key) :
    Ends (addSocBlocklistAddress address key lifetime) peer (explainedly Unmarked fun _ _ => True) := by
  unfold addSocBlocklistAddress
  rw [ends_bind]
  refine (norm_explained guarded).returning fun spelling same ⟨_, spelled, equal⟩ => ?_
  subst equal
  have present := present spelling spelled
  unfold MarkedPresent readingTurn at present
  rw [ends_bind]
  refine (readOwners_explained guarded).returning fun owners listed ⟨still, read, turned⟩ => ?_
  subst read
  have met : Met same 1 listed := Met.refl.next turned
  rw [ends_bind]
  refine (readForeign_explained still).returning fun foreign middle ⟨still, read, turned'⟩ => ?_
  subst read
  have met : Met same 2 middle := met.next turned'
  have ledger : middle.ledger = same.ledger := turned'.ledger.trans turned.ledger
  rw [turned.ledger]
  split
  · -- The key repeats its own claim.
    rename_i mine
    rw [if_pos mine] at present
    rw [ends_bind]
    have owned : middle.ledger.Owned spelling := ⟨key, by rw [ledger]; exact mine⟩
    refine (addMissing_guarded still owned met (by rw [ledger]; exact present)).returning fun _ added ⟨still, _⟩ => ?_
    rw [ends_bind]
    exact (claim_guarded still (by simp)).returning fun _ after ⟨still, _⟩ => ⟨still, trivial⟩
  · rename_i other
    rw [if_neg other] at present
    split
    · rename_i first
      refine claimFirst_guarded still ?_ (by rw [ledger]; exact first.2)
      rw [ledger]
      exact OwnershipLedger.owners_eq_nil.mp first.1
    · rw [ends_bind]
      refine (claim_guarded still (by simp)).returning fun _ claimed ⟨still, written, _, turned⟩ => ?_
      rw [ends_bind]
      have owned : claimed.ledger.Owned spelling :=
        ⟨key, by rw [written]; exact OwnershipLedger.owns_claim.mpr (Or.inl ⟨rfl, rfl⟩)⟩
      refine (addMissing_guarded still owned (turned same 2 met) fun marked => present ?_).returning
        fun _ after ⟨still, _⟩ => ⟨still, trivial⟩
      rw [written] at marked
      obtain ⟨impossible, _⟩ | before := OwnershipLedger.isForeign_claim.mp marked
      · cases impossible
      · exact ledger ▸ before

/-- The last owner of an address without a mark removes it. -/
structure Removed (address key : String) (peer after : Peer) : Prop where
  called : ∃ later, after.log = peer.log ++ later ∧ ⟨.removing address key, peer.ledger⟩ ∈ later
  disowned : address ∉ after.own
  absent : address ∈ after.members → ∃ turn ∈ peer.tape, (address, true) ∈ turn.outside

theorem mem_foldl_change {members : List String} {edits : List (String × Bool)}
    (member : address ∈ edits.foldl change members) : address ∈ members ∨ (address, true) ∈ edits := by
  induction edits generalizing members with
  | nil => exact Or.inl member
  | cons edit rest ih =>
      rcases ih member with before | later
      · unfold change at before
        split at before
        · rename_i adds
          rcases List.mem_insert_iff.mp before with rfl | before
          · exact Or.inr (by rw [show (edit.1, true) = edit by rw [← adds]]; exact List.mem_cons_self)
          · exact Or.inl before
        · exact Or.inl (List.mem_of_mem_filter before)
      · exact Or.inr (List.mem_cons_of_mem _ later)

theorem removeLast_guarded (guarded : Explained Unmarked peer) :
    Ends (removeLast address key) peer (explainedly Unmarked fun _ after => Removed address key peer after) := by
  unfold removeLast
  rw [ends_bind]
  refine (rawRemove_explained guarded).returning fun _ removed ⟨still, ledger, own, absent, gone, log, tape⟩ => ?_
  rw [ends_bind]
  refine (release_guarded still fun member => absurd member gone).returning fun _ after ⟨still, kept, turned, log'⟩ => ?_
  obtain ⟨middle, turns, members⟩ := turned
  refine ⟨still, ⟨[⟨.removing address key, peer.ledger⟩, ⟨.released address key, removed.ledger.release address key⟩], ?_,
    List.mem_cons_self⟩, fun member => gone (kept member), fun member => ?_⟩
  · rw [log', log, List.append_assoc]
    rfl
  · rw [members, turns.members] at member
    rcases mem_foldl_change member with before | edited
    · exact absurd before absent
    · obtain ⟨turn, listed, inside⟩ := List.mem_flatMap.mp edited
      rw [tape] at listed
      exact ⟨turn, List.mem_of_mem_drop (List.mem_of_mem_take listed), inside⟩

/-- A release by the last owner of an entry that the client has added removes the entry. -/
theorem removeSocBlocklistAddress_guarded (guarded : Explained Unmarked peer) :
    Ends (removeSocBlocklistAddress address key) peer (explainedly Unmarked fun _ after =>
      ∀ spelling, IPAddress.canonical address = some spelling → spelling ∈ peer.own →
        (∀ owner, peer.ledger.Owns spelling owner ↔ owner = key) → Removed spelling key peer after) := by
  unfold removeSocBlocklistAddress
  rw [ends_bind]
  refine (norm_explained guarded).returning fun spelling same ⟨_, spelled, equal⟩ => ?_
  subst equal
  rw [ends_bind]
  refine (readOwners_explained guarded).returning fun owners listed ⟨still, read, turns⟩ => ?_
  subst read
  dsimp only
  split
  · rename_i mine
    rw [ends_bind]
    refine (keptFor_explained still).returning fun kept middle ⟨still, decided, ledger, log, own, tape⟩ => ?_
    rw [turns.ledger] at decided ledger
    rw [turns.log] at log
    -- An entry of the client has no mark, so it is kept for other owners only.
    have shared : spelling ∈ same.own → kept = true →
        (same.ledger.owners spelling).keys.filter (· ≠ key) ≠ [] := by
      intro member held
      rcases decided.mp held with others | marked
      · exact others
      · rw [(guarded spelling member).2] at marked
        cases marked
    cases kept with
    | true =>
        simp only [if_true]
        rw [ends_bind]
        refine (release_guarded still fun member => ?_).returning fun _ after ⟨still, _⟩ => ⟨still, ?_⟩
        · obtain ⟨owner, found⟩ := List.exists_mem_of_ne_nil _ (shared (turns.own (own member)) rfl)
          obtain ⟨owns, different⟩ := List.mem_filter.mp found
          exact ⟨owner, by rw [ledger]; exact owns, by simpa using different⟩
        · intro spelling' spelled' member last
          cases spelled.symm.trans spelled'
          obtain ⟨owner, found⟩ := List.exists_mem_of_ne_nil _ (shared member rfl)
          obtain ⟨owns, different⟩ := List.mem_filter.mp found
          exact absurd ((last owner).mp owns) (by simpa using different)
    | false =>
        refine (removeLast_guarded still).returning fun _ after ⟨still, removed⟩ => ⟨still, ?_⟩
        intro spelling' spelled' _ _
        cases spelled.symm.trans spelled'
        refine ⟨?_, removed.disowned, fun member => ?_⟩
        · obtain ⟨later, logged, called⟩ := removed.called
          exact ⟨later, by rw [logged, log], by rw [← ledger]; exact called⟩
        · obtain ⟨turn, inside, adds⟩ := removed.absent member
          have earlier := tape inside
          rw [turns.tape] at earlier
          exact ⟨turn, List.mem_of_mem_drop earlier, adds⟩
  · rename_i absent
    refine ⟨still, fun spelling' spelled' member last => ?_⟩
    cases spelled.symm.trans spelled'
    exact absurd ((last key).mpr rfl) absent

theorem perform_guarded {call : ClientCall} (guarded : Explained Unmarked peer) (present : ∀ address key lifetime spelling,
    call = .add address key lifetime → IPAddress.canonical address = some spelling → MarkedPresent peer spelling key) :
    Explained Unmarked (call.perform peer).2 := by
  have ended : Ends call.perform peer (explainedly Unmarked fun _ _ => True) := by
    unfold ClientCall.perform
    cases call with
    | add address key lifetime =>
        rw [ends_bind]
        refine (addSocBlocklistAddress_guarded guarded fun spelling spelled => ?_).returning fun _ after ended => ended
        exact present address key lifetime spelling rfl spelled
    | remove address key =>
        rw [ends_bind]
        exact (removeSocBlocklistAddress_guarded guarded).returning fun _ after ended => ⟨ended.1, trivial⟩
    | contains address =>
        rw [ends_bind]
        unfold socBlocklistContains
        rw [ends_bind]
        refine (norm_explained guarded).returning fun spelling same ⟨_, _, equal⟩ => ?_
        subst equal
        exact (rawContains_explained guarded).returning fun _ after ended => ⟨ended.1, trivial⟩
  unfold Ends explainedly at ended
  generalize call.perform peer = result at ended ⊢
  obtain ⟨outcome, after⟩ := result
  cases outcome with
  | returned => exact ended.1
  | raised => exact ended
  | crashed => exact ended

end Calls

section Runs

/-- A step finds each marked address in the set. -/
def ClientWorld.FindsMarked (world : ClientWorld) : ClientStep → Prop
  | .call (.add address key _) tape => world.running = true → ∀ spelling, IPAddress.canonical address = some spelling →
      MarkedPresent { world.peer with tape } spelling key
  | _ => True

theorem ClientWorld.step_guarded (world : ClientWorld) (step : ClientStep) (guarded : Explained Unmarked world.peer)
    (finds : world.FindsMarked step) : Explained Unmarked (world.step step).peer := by
  cases step with
  | reopen => exact guarded
  | stop => exact guarded
  | call call tape =>
      simp only [ClientWorld.step]
      split
      · rename_i running
        have still : Explained Unmarked { world.peer with tape } := guarded
        refine perform_guarded still ?_
        rintro address key lifetime spelling rfl spelled
        exact finds running spelling spelled
      · exact guarded

/-- In a run whose add calls find each marked address in the set, the last owner of an entry that the client has added
removes it. -/
theorem last_release_removes_own_entry (members : List String) (steps : List ClientStep)
    (finds : Always (fun earlier step => (ClientWorld.run members earlier).FindsMarked step) steps)
    (address key spelling reference : String) (tape : List Turn) (after : Peer)
    (spelled : IPAddress.canonical address = some spelling)
    (own : spelling ∈ (ClientWorld.run members steps).peer.own)
    (last : ∀ owner, (ClientWorld.run members steps).peer.ledger.Owns spelling owner ↔ owner = key)
    (released : removeSocBlocklistAddress address key { (ClientWorld.run members steps).peer with tape } =
      (.returned reference, after)) :
    Removed spelling key { (ClientWorld.run members steps).peer with tape } after := by
  have guarded : Explained Unmarked (ClientWorld.run members steps).peer :=
    Always.foldl ClientWorld.FindsMarked (fun world => Explained Unmarked world.peer) finds nofun fun world step =>
      world.step_guarded step
  have still : Explained Unmarked { (ClientWorld.run members steps).peer with tape } := guarded
  have ended : Ends (removeSocBlocklistAddress address key) { (ClientWorld.run members steps).peer with tape } _ :=
    removeSocBlocklistAddress_guarded still
  simp only [Ends, released, explainedly] at ended
  exact ended.2 spelling spelled own last

end Runs

section Lab

theorem owns_iff_of_keys {ledger : OwnershipLedger} {address key : String}
    (keys : (ledger.owners address).keys = [key]) (owner : String) : ledger.Owns address owner ↔ owner = key := by
  rw [OwnershipLedger.Owns, keys, List.mem_singleton]

/-- A block by hand is claimed by one response. It is lifted by hand before a second response shares it, and the client
adds it again. The second response is released first. -/
def liftedBlock : List ClientStep :=
  [.reopen, .call (.add "203.0.113.20" "idemp-1" none) [],
    .call (.add "203.0.113.20" "idemp-2" none) [{ outside := [("203.0.113.20", false)] }],
    .call (.remove "203.0.113.20" "idemp-2") []]

/-- The last release leaves the entry that the client has added. -/
theorem lifted_block_leaks : ∃ steps after,
    "203.0.113.20" ∈ (ClientWorld.run ["203.0.113.20"] steps).peer.own ∧
    (∀ owner, (ClientWorld.run ["203.0.113.20"] steps).peer.ledger.Owns "203.0.113.20" owner ↔ owner = "idemp-1") ∧
    removeSocBlocklistAddress "203.0.113.20" "idemp-1" { (ClientWorld.run ["203.0.113.20"] steps).peer with tape := [] } =
      (.returned "preexisting:idemp-1", after) ∧
    (∀ entry ∈ after.log, entry.occurrence ≠ .removing "203.0.113.20" "idemp-1") ∧
    "203.0.113.20" ∈ after.members ∧ "203.0.113.20" ∈ after.own ∧ ¬ after.ledger.Owned "203.0.113.20" := by
  refine ⟨liftedBlock, (removeSocBlocklistAddress "203.0.113.20" "idemp-1"
    { (ClientWorld.run ["203.0.113.20"] liftedBlock).peer with tape := [] }).2, by decide +kernel, ?_, ?_, by decide +kernel,
    by decide +kernel, by decide +kernel, ?_⟩
  · exact owns_iff_of_keys (by decide +kernel)
  · exact Prod.ext (by decide +kernel) rfl
  · exact OwnershipLedger.owners_eq_nil.mp (by decide +kernel)

/-- Two responses block an address that the set does not have, and the first one is released. -/
def sharedBlock : List ClientStep :=
  [.reopen, .call (.add "203.0.113.20" "idemp-1" none) [], .call (.add "203.0.113.20" "idemp-2" none) [],
    .call (.remove "203.0.113.20" "idemp-1") []]

/-- The release of the second one removes the address. -/
theorem shared_block_removed : ∃ after,
    removeSocBlocklistAddress "203.0.113.20" "idemp-2" { (ClientWorld.run [] sharedBlock).peer with tape := [] } =
      (.returned "removed:idemp-2", after) ∧
    Removed "203.0.113.20" "idemp-2" { (ClientWorld.run [] sharedBlock).peer with tape := [] } after := by
  have finds : Always (fun earlier step => (ClientWorld.run [] earlier).FindsMarked step) sharedBlock := by
    have unmarked : ∀ count < 4, (ClientWorld.run [] (sharedBlock.take count)).peer.ledger.foreignEntries = [] := by
      decide +kernel
    refine Always.of_getElem fun index inside => ?_
    have plain := unmarked index inside
    unfold ClientWorld.FindsMarked
    split
    · intro _ spelling _ marked
      simp [OwnershipLedger.isForeign, plain] at marked
    · trivial
  have released : removeSocBlocklistAddress "203.0.113.20" "idemp-2"
      { (ClientWorld.run [] sharedBlock).peer with tape := [] } = (.returned "removed:idemp-2",
        (removeSocBlocklistAddress "203.0.113.20" "idemp-2" { (ClientWorld.run [] sharedBlock).peer with tape := [] }).2) :=
    Prod.ext (by decide +kernel) rfl
  exact ⟨_, released, last_release_removes_own_entry [] sharedBlock finds "203.0.113.20" "idemp-2" "203.0.113.20"
    "removed:idemp-2" [] _ (by decide +kernel) (by decide +kernel) (owns_iff_of_keys (by decide +kernel)) released⟩

end Lab

end ClosedLoop.Transport
