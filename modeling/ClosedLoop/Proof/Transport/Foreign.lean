import ClosedLoop.Library.Trace
import ClosedLoop.Proof.Transport.Ledger

namespace ClosedLoop.Transport

open ClosedLoop.Library ClosedLoop.Response Program

/-- The committed ledger after the entries of a log. -/
def ledgerAfter (log : List Entry) : OwnershipLedger := (log.getLast?.map (·.ledger)).getD {}

/-- The answer that an entry gives about an address. -/
def Entry.answer (entry : Entry) (address : String) : Option Bool :=
  match entry.occurrence with
  | .contained other answer => if other = address then some answer else none
  | _ => none

/-- The last answer of the peer about an address. -/
def lastAnswer (log : List Entry) (address : String) : Option Bool := log.reverse.findSome? (·.answer address)

/-- The ledger after a log is that of its last entry. -/
@[simp] theorem ledgerAfter_snoc {log : List Entry} {entry : Entry} : ledgerAfter (log ++ [entry]) = entry.ledger := by
  simp [ledgerAfter]

/-- The last answer on an address is the last entry's, or else the one before it. -/
theorem lastAnswer_snoc {log : List Entry} {entry : Entry} {address : String} :
    lastAnswer (log ++ [entry]) address = (entry.answer address).or (lastAnswer log address) := by
  unfold lastAnswer
  rw [List.reverse_append, List.findSome?_append]
  cases found : entry.answer address <;> simp [found]

/-- What an entry of the log may do to the ledger before it. -/
structure Lawful (earlier : List Entry) (entry : Entry) : Prop where
  /-- The first claim of an address records the last answer of the peer. -/
  opens : ∀ address, ¬ (ledgerAfter earlier).Owned address → entry.ledger.Owned address →
    ∃ owner mode foreign, entry.occurrence = .claimed address owner mode foreign ∧
      lastAnswer earlier address = some foreign ∧ entry.ledger.isForeign address = foreign
  /-- A mark lasts as long as the address has an owner. -/
  lasts : ∀ address, (ledgerAfter earlier).isForeign address = true → entry.ledger.Owned address →
    entry.ledger.isForeign address = true
  /-- A removal is for the only owner of an address without a mark. -/
  removes : ∀ address key, entry.occurrence = .removing address key →
    (∀ owner, entry.ledger.Owns address owner ↔ owner = key) ∧ entry.ledger.isForeign address = false
  /-- A marked address has an owner. -/
  marked : ∀ address, entry.ledger.isForeign address = true → entry.ledger.Owned address

/-- The log is lawful and ends in the present ledger. -/
structure Sound (peer : Peer) : Prop where
  lawful : Always Lawful peer.log
  current : ledgerAfter peer.log = peer.ledger
  marked : ∀ address, peer.ledger.isForeign address = true → peer.ledger.Owned address

/-- However the call ends, its peer is sound. -/
def soundly {α : Type} (returned : α → Peer → Prop) : Post Peer PyError α := ⟨returned, fun _ => Sound, Sound⟩

section Primitives

variable {peer : Peer} {address key : String}

/-- The log and the ledger decide whether a peer is sound. -/
theorem Sound.alike {other : Peer} (sound : Sound peer) (log : other.log = peer.log)
    (ledger : other.ledger = peer.ledger) : Sound other :=
  ⟨log ▸ sound.lawful, by rw [log, ledger, sound.current], ledger ▸ sound.marked⟩

/-- A lawful entry keeps the peer sound. -/
theorem Sound.enter {other : Peer} {entry : Entry} (sound : Sound peer) (lawful : Lawful peer.log entry)
    (log : other.log = peer.log ++ [entry]) (ledger : other.ledger = entry.ledger) : Sound other where
  lawful := log ▸ sound.lawful.snoc lawful
  current := by rw [log, ledger, ledgerAfter_snoc]
  marked := ledger ▸ lawful.marked

/-- An entry that leaves the ledger as it is has only its removals to justify. -/
theorem Sound.unchanged {occurrence : Occurrence} (sound : Sound peer)
    (removes : ∀ address key, occurrence = .removing address key →
      (∀ owner, peer.ledger.Owns address owner ↔ owner = key) ∧ peer.ledger.isForeign address = false) :
    Lawful peer.log ⟨occurrence, peer.ledger⟩ where
  opens _ unowned owned := absurd owned (sound.current ▸ unowned)
  lasts _ marked _ := sound.current ▸ marked
  removes := removes
  marked := sound.marked

/-- A claim is lawful when the first one carries the last answer of the peer. -/
theorem Sound.claims {mode : ClaimMode} {foreign : Bool} (sound : Sound peer)
    (first : ¬ peer.ledger.Owned address → lastAnswer peer.log address = some foreign) :
    Lawful peer.log ⟨.claimed address key mode foreign, peer.ledger.claim address key mode foreign⟩ where
  opens other unowned owned := by
    rw [sound.current] at unowned
    obtain ⟨owner, owns⟩ := owned
    obtain ⟨rfl, rfl⟩ | before := OwnershipLedger.owns_claim.mp owns
    · have plain : peer.ledger.isForeign other ≠ true := fun marked => unowned (sound.marked other marked)
      refine ⟨owner, mode, foreign, rfl, first unowned, ?_⟩
      rw [Bool.eq_iff_iff, OwnershipLedger.isForeign_claim]
      simp [plain]
    · exact absurd ⟨owner, before⟩ unowned
  lasts other marked _ := OwnershipLedger.isForeign_claim.mpr (Or.inr (sound.current ▸ marked))
  removes _ _ impossible := nomatch impossible
  marked other marked := by
    obtain ⟨-, rfl⟩ | before := OwnershipLedger.isForeign_claim.mp marked
    · exact ⟨key, OwnershipLedger.owns_claim.mpr (Or.inl ⟨rfl, rfl⟩)⟩
    · obtain ⟨owner, owns⟩ := sound.marked other before
      exact ⟨owner, OwnershipLedger.owns_claim.mpr (Or.inr owns)⟩

/-- A release of one's own claim is lawful. -/
theorem Sound.releases (sound : Sound peer) :
    Lawful peer.log ⟨.released address key, peer.ledger.release address key⟩ where
  opens other unowned owned := by
    obtain ⟨owner, owns⟩ := owned
    exact absurd ⟨owner, (OwnershipLedger.owns_release.mp owns).1⟩ (sound.current ▸ unowned)
  lasts other marked owned := OwnershipLedger.isForeign_release.mpr ⟨sound.current ▸ marked, fun same => same ▸ owned⟩
  removes _ _ impossible := nomatch impossible
  marked other marked := by
    obtain ⟨before, left⟩ := OwnershipLedger.isForeign_release.mp marked
    by_cases same : other = address
    · exact same ▸ left same
    · obtain ⟨owner, owns⟩ := sound.marked other before
      exact ⟨owner, OwnershipLedger.owns_release.mpr ⟨owns, fun equal => same equal.1⟩⟩

/-- The environment of a call changes neither the log nor the ledger. -/
theorem attempt_sound {effect : ClientOp Unit} {returned : Unit → Peer → Prop} (sound : Sound peer)
    (acts : ∀ middle, middle.log = peer.log → middle.ledger = peer.ledger →
      Ends effect middle (soundly fun _ after => Sound after ∧ returned () after)) :
    Ends (attempt effect) peer (soundly returned) := by
  refine attempt_ends fun fate middle turns => ⟨sound.alike turns.log turns.ledger, ?_⟩
  exact (acts middle turns.log turns.ledger).returning fun _ after ended => ⟨ended.1, fun _ => ended.2⟩

/-- Noting an occurrence is sound when a removal has one owner and no foreign mark. -/
theorem note_sound {occurrence : Occurrence} (sound : Sound peer)
    (removes : ∀ address key, occurrence = .removing address key →
      (∀ owner, peer.ledger.Owns address owner ↔ owner = key) ∧ peer.ledger.isForeign address = false) :
    Ends (note occurrence) peer (soundly fun _ after => Sound after ∧ after.ledger = peer.ledger ∧
      after.log = peer.log ++ [⟨occurrence, peer.ledger⟩]) :=
  ⟨sound.enter (sound.unchanged removes) rfl rfl, rfl, rfl⟩

/-- A call without effect on the ledger and the log. -/
theorem idle_sound (sound : Sound peer) :
    Ends (attempt (pure ())) peer
      (soundly fun _ after => Sound after ∧ after.ledger = peer.ledger ∧ after.log = peer.log) :=
  attempt_sound sound fun _ log ledger => ⟨sound.alike log ledger, sound.alike log ledger, ledger, log⟩

/-- Reading the owners is sound and answers what the ledger holds. -/
theorem readOwners_sound (sound : Sound peer) :
    Ends (readOwners address) peer
      (soundly fun owners after => owners = peer.ledger.owners address ∧ Sound after ∧ after.ledger = peer.ledger) := by
  unfold readOwners
  rw [ends_bind]
  refine (idle_sound sound).returning fun _ after ended => ?_
  exact ⟨congrArg (·.owners address) ended.2.1, ended.1, ended.2.1⟩

theorem readForeign_sound (sound : Sound peer) :
    Ends (readForeign address) peer (soundly fun foreign after =>
      foreign = peer.ledger.isForeign address ∧ Sound after ∧ after.ledger = peer.ledger) := by
  unfold readForeign
  rw [ends_bind]
  refine (idle_sound sound).returning fun _ after ended => ?_
  exact ⟨congrArg (·.isForeign address) ended.2.1, ended.1, ended.2.1⟩

/-- Asking the device is sound and notes the answer. -/
theorem rawContains_sound (sound : Sound peer) :
    Ends (rawContains address) peer (soundly fun answer after =>
      Sound after ∧ after.ledger = peer.ledger ∧ lastAnswer after.log address = some answer) := by
  unfold rawContains
  rw [ends_bind]
  refine (idle_sound sound).returning fun _ middle ended => ?_
  rw [ends_bind, ends_gets]
  dsimp only
  rw [ends_bind]
  refine (note_sound ended.1 (by rintro _ _ ⟨⟩)).returning fun _ after noted => ?_
  refine ⟨noted.1, noted.2.1.trans ended.2.1, ?_⟩
  rw [noted.2.2, lastAnswer_snoc]
  simp [Entry.answer]

theorem rawAdd_sound {lifetime : Option Int} (sound : Sound peer) :
    Ends (rawAdd address lifetime) peer (soundly fun _ after => Sound after ∧ after.ledger = peer.ledger) := by
  unfold rawAdd
  rw [ends_bind]
  refine (note_sound sound (by rintro _ _ ⟨⟩)).returning fun _ middle noted => ?_
  exact attempt_sound noted.1 fun last log ledger =>
    ⟨noted.1.alike log ledger, noted.1.alike log ledger, ledger.trans noted.2.1⟩

/-- A removal is sound for the only owner of an address without a mark. -/
theorem rawRemove_sound (sound : Sound peer) (sole : ∀ owner, peer.ledger.Owns address owner ↔ owner = key)
    (plain : peer.ledger.isForeign address = false) :
    Ends (rawRemove address key) peer (soundly fun _ after => Sound after ∧ after.ledger = peer.ledger) := by
  unfold rawRemove
  rw [ends_bind]
  refine (note_sound sound (fun _ _ same => ?_)).returning fun _ middle noted => ?_
  · cases same
    exact ⟨sole, plain⟩
  · exact attempt_sound noted.1 fun last log ledger =>
      ⟨noted.1.alike log ledger, noted.1.alike log ledger, ledger.trans noted.2.1⟩

/-- A lawful transaction keeps the peer sound in each of its fates. -/
theorem transact_sound {occurrence : Occurrence} {write : OwnershipLedger → OwnershipLedger} (sound : Sound peer)
    (lawful : Lawful peer.log ⟨occurrence, write peer.ledger⟩) :
    Ends (transact occurrence write) peer
      (soundly fun _ after => Sound after ∧ after.ledger = write peer.ledger) := by
  unfold transact
  refine attempt_sound sound fun middle log ledger => ?_
  rw [ends_bind, ends_update]
  have entered : Sound { middle with
      ledger := write middle.ledger, log := middle.log ++ [⟨occurrence, write middle.ledger⟩] } :=
    (sound.alike log ledger).enter (log ▸ ledger ▸ lawful) rfl rfl
  exact ⟨entered, entered, congrArg write ledger⟩

/-- A claim is sound when a first claim marks what the device answered. -/
theorem claim_sound {mode : ClaimMode} {foreign : Bool} (sound : Sound peer)
    (first : ¬ peer.ledger.Owned address → lastAnswer peer.log address = some foreign) :
    Ends (claim address key mode foreign) peer
      (soundly fun _ after => Sound after ∧ after.ledger.Owned address) :=
  (transact_sound sound (sound.claims first)).returning fun _ _ ended =>
    ⟨ended.1, key, ended.2 ▸ OwnershipLedger.owns_claim.mpr (Or.inl ⟨rfl, rfl⟩)⟩

theorem release_sound (sound : Sound peer) :
    Ends (release address key) peer (soundly fun _ after => Sound after) :=
  (transact_sound sound sound.releases).returning fun _ _ ended => ended.1

end Primitives

section Calls

variable {peer : Peer} {address key : String} {lifetime : Option Int}

/-- Normalising an address changes nothing. -/
theorem norm_sound (sound : Sound peer) : Ends (norm address) peer (soundly fun _ after => after = peer) := by
  unfold norm
  split
  · exact rfl
  · exact sound

/-- Adding a missing address is sound. -/
theorem addMissing_sound (sound : Sound peer) :
    Ends (addMissing address lifetime) peer (soundly fun _ after => Sound after ∧ after.ledger = peer.ledger) := by
  unfold addMissing
  rw [ends_bind]
  refine (rawContains_sound sound).returning fun present middle read => ?_
  cases present with
  | true => exact ⟨read.1, read.2.1⟩
  | false => exact (rawAdd_sound read.1).returning fun _ after added => ⟨added.1, added.2.trans read.2.1⟩

/-- The first claim follows the answer that it records. -/
theorem claimFirst_sound (sound : Sound peer) :
    Ends (claimFirst address key lifetime) peer (soundly fun _ after => Sound after) := by
  unfold claimFirst
  rw [ends_bind]
  refine (rawContains_sound sound).returning fun present middle read => ?_
  cases present with
  | true =>
      simp only [if_true]
      rw [ends_bind]
      exact (claim_sound read.1 fun _ => read.2.2).returning fun _ after claimed => claimed.1
  | false =>
      simp only [Bool.false_eq_true, if_false]
      rw [ends_bind]
      refine (claim_sound read.1 fun _ => read.2.2).returning fun _ intended claimed => ?_
      rw [ends_bind]
      refine (rawAdd_sound claimed.1).returning fun _ added effect => ?_
      rw [ends_bind]
      have owned : added.ledger.Owned address := effect.2 ▸ claimed.2
      exact (claim_sound effect.1 fun unowned => absurd owned unowned).returning fun _ after ended => ended.1

/-- The whole add operation is sound. -/
theorem addSocBlocklistAddress_sound (sound : Sound peer) :
    Ends (addSocBlocklistAddress address key lifetime) peer (soundly fun _ after => Sound after) := by
  unfold addSocBlocklistAddress
  rw [ends_bind]
  refine (norm_sound sound).returning fun spelling start same => ?_
  subst same
  rw [ends_bind]
  refine (readOwners_sound sound).returning fun owners listed read => ?_
  obtain ⟨rfl, listedSound, listedLedger⟩ := read
  rw [ends_bind]
  refine (readForeign_sound listedSound).returning fun foreign middle marked => ?_
  obtain ⟨rfl, middleSound, middleLedger⟩ := marked
  rw [listedLedger] at middleLedger ⊢
  split
  · -- The key repeats its own claim.
    rename_i mine
    rw [ends_bind]
    refine (addMissing_sound middleSound).returning fun _ added effect => ?_
    rw [ends_bind]
    have owned : added.ledger.Owned spelling := ⟨key, by rw [effect.2, middleLedger]; exact mine⟩
    exact (claim_sound effect.1 fun unowned => absurd owned unowned).returning fun _ after ended => ended.1
  · split
    · exact claimFirst_sound middleSound
    · -- A mark without an owner is impossible, so another key owns the address.
      rename_i other
      have owned : middle.ledger.Owned spelling := by
        rw [middleLedger]
        by_contra unowned
        refine other ⟨OwnershipLedger.owners_eq_nil.mpr unowned, ?_⟩
        exact Bool.eq_false_iff.mpr fun mark => unowned (sound.marked spelling mark)
      rw [ends_bind]
      refine (claim_sound middleSound fun unowned => absurd owned unowned).returning fun _ claimed ended => ?_
      rw [ends_bind]
      exact (addMissing_sound ended.1).returning fun _ after last => last.1

/-- Removing the entry of the last owner is sound. -/
theorem removeLast_sound (sound : Sound peer) (sole : ∀ owner, peer.ledger.Owns address owner ↔ owner = key)
    (plain : peer.ledger.isForeign address = false) :
    Ends (removeLast address key) peer (soundly fun _ after => Sound after) := by
  unfold removeLast
  rw [ends_bind]
  refine (rawRemove_sound sound sole plain).returning fun _ removed effect => ?_
  rw [ends_bind]
  exact (release_sound effect.1).returning fun _ after ended => ended

/-- An entry that is kept for nobody has no other owner and no mark. -/
theorem keptFor_sound {others : List String} (sound : Sound peer) :
    Ends (keptFor others address) peer (soundly fun kept after => Sound after ∧ after.ledger = peer.ledger ∧
      (kept = false → others = [] ∧ peer.ledger.isForeign address = false)) := by
  unfold keptFor
  split
  · rename_i alone
    refine (readForeign_sound sound).returning fun foreign after marked => ?_
    exact ⟨marked.2.1, marked.2.2, fun plain => ⟨alone, marked.1 ▸ plain⟩⟩
  · exact ⟨sound, rfl, fun impossible => nomatch impossible⟩

/-- The whole remove operation is sound. -/
theorem removeSocBlocklistAddress_sound (sound : Sound peer) :
    Ends (removeSocBlocklistAddress address key) peer (soundly fun _ after => Sound after) := by
  unfold removeSocBlocklistAddress
  rw [ends_bind]
  refine (norm_sound sound).returning fun spelling start same => ?_
  subst same
  rw [ends_bind]
  refine (readOwners_sound sound).returning fun owners listed read => ?_
  obtain ⟨rfl, listedSound, listedLedger⟩ := read
  dsimp only
  split
  · rename_i mine
    rw [ends_bind]
    refine (keptFor_sound listedSound).returning fun kept middle decided => ?_
    obtain ⟨middleSound, middleLedger, alone⟩ := decided
    rw [listedLedger] at middleLedger alone
    cases kept with
    | true =>
        simp only [if_true]
        rw [ends_bind]
        exact (release_sound middleSound).returning fun _ after ended => ended
    | false =>
        obtain ⟨others, plain⟩ := alone rfl
        refine removeLast_sound middleSound (fun owner => ?_) (middleLedger ▸ plain)
        rw [middleLedger]
        refine ⟨fun owns => ?_, fun same => same ▸ mine⟩
        by_contra different
        have other : owner ∈ (start.ledger.owners spelling).keys.filter (· ≠ key) := by
          rw [List.mem_filter]
          exact ⟨owns, by simpa using different⟩
        rw [others] at other
        cases other
  · exact listedSound

theorem socBlocklistContains_sound (sound : Sound peer) :
    Ends (socBlocklistContains address) peer (soundly fun _ after => Sound after) := by
  unfold socBlocklistContains
  rw [ends_bind]
  refine (norm_sound sound).returning fun spelling start same => ?_
  subst same
  exact (rawContains_sound sound).returning fun _ after ended => ended.1

/-- Every call of the client is sound. -/
theorem perform_sound (call : ClientCall) (sound : Sound peer) : Sound (call.perform peer).2 := by
  have ended : Ends call.perform peer (soundly fun _ after => Sound after) := by
    cases call with
    | add address key lifetime =>
        unfold ClientCall.perform
        rw [ends_bind]
        exact (addSocBlocklistAddress_sound sound).returning fun _ after ended => ended
    | remove address key =>
        unfold ClientCall.perform
        rw [ends_bind]
        exact (removeSocBlocklistAddress_sound sound).returning fun _ after ended => ended
    | contains address =>
        unfold ClientCall.perform
        rw [ends_bind]
        exact (socBlocklistContains_sound sound).returning fun _ after ended => ended
  unfold Ends soundly at ended
  generalize call.perform peer = result at ended ⊢
  obtain ⟨outcome, after⟩ := result
  cases outcome <;> exact ended

end Calls

section Epochs

/-- A step of the client keeps the peer sound. -/
theorem ClientWorld.step_sound {world : ClientWorld} (step : ClientStep) (sound : Sound world.peer) :
    Sound (world.step step).peer := by
  cases step with
  | reopen => exact sound
  | stop => exact sound
  | call call tape =>
      simp only [ClientWorld.step]
      split
      · exact perform_sound call (sound.alike rfl rfl)
      · exact sound

/-- Every run of the client is sound. -/
theorem ClientWorld.run_sound (members : List String) (steps : List ClientStep) :
    Sound (ClientWorld.run members steps).peer := by
  unfold ClientWorld.run
  have start : Sound ({ peer := { members } } : ClientWorld).peer :=
    ⟨Always.nil Lawful, rfl, fun _ marked => by simp [OwnershipLedger.isForeign] at marked⟩
  generalize ({ peer := { members } } : ClientWorld) = world at start ⊢
  induction steps generalizing world with
  | nil => exact start
  | cons step rest ih => exact ih (world.step step) (ClientWorld.step_sound step start)

/-- An ownership epoch is a maximal run of states in which the ledger lists an owner of the address. -/
structure Epoch (address : String) (log before inside after : List Entry) : Prop where
  split : log = before ++ inside ++ after
  owned : ∀ entry ∈ inside, entry.ledger.Owned address
  opens : ¬ (ledgerAfter before).Owned address
  closes : ∀ entry ∈ after.head?, ¬ entry.ledger.Owned address

variable {address : String} {log before inside after : List Entry}

/-- The first state of an epoch is made by a claim that records the last answer of the peer. -/
theorem Epoch.first {entry : Entry} {rest : List Entry} (epoch : Epoch address log before (entry :: rest) after)
    (lawful : Always Lawful log) :
    ∃ owner mode foreign, entry.occurrence = .claimed address owner mode foreign ∧
      lastAnswer before address = some foreign ∧ entry.ledger.isForeign address = foreign :=
  (lawful before entry (rest ++ after) (by simp [epoch.split])).opens address epoch.opens
    (epoch.owned entry List.mem_cons_self)

/-- A mark on the ledger before a run of owned states lasts through the run. -/
theorem marked_run (lawful : Always Lawful (before ++ inside ++ after))
    (owned : ∀ entry ∈ inside, entry.ledger.Owned address)
    (marked : (ledgerAfter before).isForeign address = true) :
    ∀ entry ∈ inside, entry.ledger.isForeign address = true := by
  induction inside generalizing before with
  | nil => simp
  | cons entry rest ih =>
      have here : entry.ledger.isForeign address = true :=
        (lawful before entry (rest ++ after) (by simp)).lasts address marked (owned entry List.mem_cons_self)
      have shifted : Always Lawful (before ++ [entry] ++ rest ++ after) := by simpa using lawful
      have later : ∀ found ∈ rest, found.ledger.isForeign address = true :=
        ih shifted (fun found member => owned found (List.mem_cons_of_mem entry member)) (by simpa using here)
      intro found member
      obtain rfl | further := List.mem_cons.mp member
      · exact here
      · exact later found further

/-- An epoch that began on a present entry is marked throughout. -/
theorem Epoch.marked (epoch : Epoch address log before inside after) (lawful : Always Lawful log)
    (present : lastAnswer before address = some true) :
    ∀ entry ∈ inside, entry.ledger.isForeign address = true := by
  cases inside with
  | nil => simp
  | cons entry rest =>
      obtain ⟨owner, mode, foreign, claimed, answered, mark⟩ := epoch.first lawful
      rw [present] at answered
      cases answered
      have shifted : Always Lawful (before ++ [entry] ++ rest ++ after) := by simpa [epoch.split] using lawful
      have later := marked_run shifted
        (fun found member => epoch.owned found (List.mem_cons_of_mem entry member)) (by simpa using mark)
      intro found member
      obtain rfl | further := List.mem_cons.mp member
      · exact mark
      · exact later found further

end Epochs

/-- Foreign entries are never removed, a removal is always for the only owner, and every mark has an owner. -/
theorem foreign_entries_never_removed (members : List String) (steps : List ClientStep) :
    (∀ address before inside after,
      Epoch address (ClientWorld.run members steps).peer.log before inside after →
        (inside ≠ [] → ∃ entry ∈ inside.head?, ∃ owner mode foreign,
          entry.occurrence = .claimed address owner mode foreign) ∧
        (lastAnswer before address = some true →
          ∀ entry ∈ inside, ∀ key, entry.occurrence ≠ .removing address key)) ∧
    (∀ entry ∈ (ClientWorld.run members steps).peer.log, ∀ address key,
      entry.occurrence = .removing address key → ∀ owner, entry.ledger.Owns address owner ↔ owner = key) ∧
    (∀ entry ∈ (ClientWorld.run members steps).peer.log, ∀ address,
      entry.ledger.isForeign address = true → entry.ledger.Owned address) ∧
    (∀ address, (ClientWorld.run members steps).peer.ledger.isForeign address = true →
      (ClientWorld.run members steps).peer.ledger.Owned address) := by
  have sound := ClientWorld.run_sound members steps
  refine ⟨fun address before inside after epoch => ⟨fun some => ?_, fun present entry member key removes => ?_⟩,
    fun entry member address key removes => ?_, fun entry member => ?_, sound.marked⟩
  · cases inside with
    | nil => exact absurd rfl some
    | cons entry rest =>
        obtain ⟨owner, mode, foreign, claimed, -⟩ := epoch.first sound.lawful
        exact ⟨entry, rfl, owner, mode, foreign, claimed⟩
  · have logged : entry ∈ (ClientWorld.run members steps).peer.log := by
      rw [epoch.split]
      simp [member]
    obtain ⟨earlier, later, same, lawful⟩ := sound.lawful.of_mem logged
    have marked := epoch.marked sound.lawful present entry member
    rw [(lawful.removes address key removes).2] at marked
    cases marked
  · obtain ⟨earlier, later, same, lawful⟩ := sound.lawful.of_mem member
    exact (lawful.removes address key removes).1
  · obtain ⟨earlier, later, same, lawful⟩ := sound.lawful.of_mem member
    exact lawful.marked

end ClosedLoop.Transport
