import ClosedLoop.Library.Check
import ClosedLoop.Library.Table

namespace ClosedLoop.Library.Owners

variable {κ ω ε : Type} [DecidableEq κ] [DecidableEq ω] {conflict : ε} {owner : ω} {owners next : Table κ ω}

/-- A key without an owner gets one. A key of another owner is refused. -/
def claim (conflict : ε) (owner : ω) (owners : Table κ ω) (key : κ) : Except ε (Table κ ω) :=
  match owners.find? key with
  | none => .ok (owners.upsert key owner)
  | some other => if other = owner then .ok owners else .error conflict

def claimAll (conflict : ε) (owner : ω) (owners : Table κ ω) (keys : List κ) : Except ε (Table κ ω) :=
  keys.foldlM (claim conflict owner) owners

/-- A claim that passes gives the key to its owner and nothing else to anybody. -/
theorem claim_find? {key : κ} (ok : claim conflict owner owners key = .ok next) (other : κ) :
    next.find? other = if other = key then some owner else owners.find? other := by
  unfold claim at ok
  split at ok
  · cases ok
    rw [Table.find?_upsert]
  · rename_i holder known
    split at ok
    · rename_i same
      cases ok
      by_cases here : other = key
      · rw [if_pos here, here, known, same]
      · rw [if_neg here]
    · cases ok

/-- A key can be claimed when no other owner has it. -/
theorem claim_ok {key : κ} : (∃ next, claim conflict owner owners key = .ok next) ↔
    ∀ other, owners.find? key = some other → other = owner := by
  unfold claim
  split
  · rename_i free
    simp [free]
  · rename_i holder known
    split
    · rename_i same
      simp [known, same]
    · rename_i different
      simp [known, different]

/-- The claims pass exactly when no key has another owner. -/
theorem claimAll_ok {keys : List κ} : (∃ next, claimAll conflict owner owners keys = .ok next) ↔
    ∀ key ∈ keys, ∀ other, owners.find? key = some other → other = owner := by
  unfold claimAll
  induction keys generalizing owners with
  | nil => exact ⟨fun _ => by simp, fun _ => ⟨owners, rfl⟩⟩
  | cons key rest ih =>
      rw [List.forall_mem_cons]
      constructor
      · rintro ⟨last, ok⟩
        rw [List.foldlM_cons, Check.bind_ok] at ok
        obtain ⟨next, one, more⟩ := ok
        have free := claim_ok.mp ⟨next, one⟩
        refine ⟨free, fun other member holder known => ?_⟩
        by_cases same : other = key
        · exact free holder (same ▸ known)
        · refine ih.mp ⟨last, more⟩ other member holder ?_
          rw [claim_find? one, if_neg same, known]
      · rintro ⟨free, others⟩
        obtain ⟨next, one⟩ := claim_ok.mpr free
        have later : ∀ other ∈ rest, ∀ holder, next.find? other = some holder → holder = owner := by
          intro other member holder known
          rw [claim_find? one] at known
          split at known
          · exact (Option.some.inj known).symm
          · exact others other member holder known
        obtain ⟨last, more⟩ := ih.mpr later
        exact ⟨last, by rw [List.foldlM_cons, one]; exact more⟩

/-- After the claims each key has its new owner or the one that it had. -/
theorem claimAll_find? {keys : List κ} (ok : claimAll conflict owner owners keys = .ok next) {key : κ} {holder : ω}
    (known : next.find? key = some holder) : (key ∈ keys ∧ holder = owner) ∨ owners.find? key = some holder := by
  unfold claimAll at ok
  induction keys generalizing owners with
  | nil =>
      cases ok
      exact Or.inr known
  | cons first rest ih =>
      rw [List.foldlM_cons, Check.bind_ok] at ok
      obtain ⟨middle, one, more⟩ := ok
      rcases ih more with ⟨member, same⟩ | earlier
      · exact Or.inl ⟨List.mem_cons_of_mem _ member, same⟩
      · rw [claim_find? one] at earlier
        split at earlier
        · rename_i here
          exact Or.inl ⟨here ▸ List.mem_cons_self, (Option.some.inj earlier).symm⟩
        · exact Or.inr earlier

/-- After the claims every claimed key has its owner, and the other keys have the ones that they had. -/
theorem claimAll_find?_eq {keys : List κ} (ok : claimAll conflict owner owners keys = .ok next) (key : κ) :
    next.find? key = if key ∈ keys then some owner else owners.find? key := by
  unfold claimAll at ok
  induction keys generalizing owners with
  | nil =>
      cases ok
      rfl
  | cons first rest ih =>
      rw [List.foldlM_cons, Check.bind_ok] at ok
      obtain ⟨middle, one, more⟩ := ok
      rw [ih more, claim_find? one]
      by_cases later : key ∈ rest
      · rw [if_pos later, if_pos (List.mem_cons_of_mem _ later)]
      · rw [if_neg later]
        by_cases here : key = first
        · rw [if_pos here, if_pos (here ▸ List.mem_cons_self)]
        · rw [if_neg here, if_neg]
          exact fun member => (List.mem_cons.mp member).elim here later

/-- The error of a conflict does not matter for the claims that pass. -/
theorem claimAll_ok_iff {ε' : Type} (other : ε') {keys : List κ} :
    claimAll conflict owner owners keys = .ok next ↔ claimAll other owner owners keys = .ok next := by
  refine Check.foldlM_ok_congr fun key _ before after => ?_
  unfold claim
  cases before.find? key with
  | none => simp
  | some holder => by_cases same : holder = owner <;> simp [same]

/-- Claims take nothing away. -/
theorem claimAll_keeps {keys : List κ} (ok : claimAll conflict owner owners keys = .ok next) {key : κ} {holder : ω}
    (known : owners.find? key = some holder) : next.find? key = some holder := by
  rw [claimAll_find?_eq ok]
  by_cases claimed : key ∈ keys
  · rw [if_pos claimed, claimAll_ok.mp ⟨next, ok⟩ key claimed holder known]
  · rw [if_neg claimed, known]

end ClosedLoop.Library.Owners
