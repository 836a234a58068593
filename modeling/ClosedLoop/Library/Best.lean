import Mathlib.Order.Defs.LinearOrder
import Mathlib.Data.List.Induction
import Mathlib.Order.Lattice

namespace ClosedLoop.Library

variable {α β : Type} [LinearOrder β] (accepts : α → Bool) (value : α → β)

/-- One turn of a loop that keeps the greatest value of the accepted items. -/
def keepBest (best : Option β) (item : α) : Option β :=
  if accepts item then
    match best with
    | none => some (value item)
    | some old => if old ≤ value item then some (value item) else some old
  else best

/-- The value that is kept is one of an accepted item, and it is the greatest. -/
structure IsBest (items : List α) (best : β) : Prop where
  attained : ∃ item ∈ items, accepts item = true ∧ value item = best
  greatest : ∀ item ∈ items, accepts item = true → value item ≤ best

variable {accepts value}

/-- Nothing is kept exactly when nothing is accepted. -/
def Kept (accepts : α → Bool) (value : α → β) (items : List α) : Option β → Prop
  | none => ∀ item ∈ items, accepts item = false
  | some best => IsBest accepts value items best

/-- One more item keeps the best of the accepted ones. -/
theorem kept_keepBest {items : List α} {best : Option β} (kept : Kept accepts value items best) (item : α) :
    Kept accepts value (items ++ [item]) (keepBest accepts value best item) := by
  unfold keepBest
  split
  · rename_i accepted
    cases best with
    | none =>
        refine ⟨⟨item, by simp, accepted, rfl⟩, fun other member accepted => ?_⟩
        rcases List.mem_append.mp member with earlier | last
        · rw [kept other earlier] at accepted
          cases accepted
        · rw [List.mem_singleton.mp last]
    | some old =>
        obtain ⟨⟨holder, listed, holds, same⟩, greatest⟩ := kept
        dsimp only
        split
        · rename_i better
          refine ⟨⟨item, by simp, accepted, rfl⟩, fun other member accepted => ?_⟩
          rcases List.mem_append.mp member with earlier | last
          · exact le_trans (greatest other earlier accepted) better
          · rw [List.mem_singleton.mp last]
        · rename_i worse
          refine ⟨⟨holder, List.mem_append_left _ listed, holds, same⟩, fun other member accepted => ?_⟩
          rcases List.mem_append.mp member with earlier | last
          · exact greatest other earlier accepted
          · rw [List.mem_singleton.mp last]
            exact le_of_not_ge worse
  · rename_i refused
    cases best with
    | none =>
        intro other member
        rcases List.mem_append.mp member with earlier | last
        · exact kept other earlier
        · rw [List.mem_singleton.mp last]
          exact Bool.eq_false_iff.mpr refused
    | some old =>
        obtain ⟨⟨holder, listed, holds, same⟩, greatest⟩ := kept
        refine ⟨⟨holder, List.mem_append_left _ listed, holds, same⟩, fun other member accepted => ?_⟩
        rcases List.mem_append.mp member with earlier | last
        · exact greatest other earlier accepted
        · rw [List.mem_singleton.mp last] at accepted
          exact absurd accepted refused

/-- The loop keeps the greatest value of the accepted items. -/
theorem kept_foldl (items : List α) : Kept accepts value items (items.foldl (keepBest accepts value) none) := by
  induction items using List.reverseRecOn with
  | nil =>
      intro item member
      cases member
  | append_singleton items item ih =>
      rw [List.foldl_append]
      exact kept_keepBest ih item

end ClosedLoop.Library
