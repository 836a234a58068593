import Mathlib.Data.Int.Order.Basic
import Mathlib.Tactic.Ring

namespace ClosedLoop.Library

/-- The first of equal items stay, in their order. -/
def firsts {α : Type} [DecidableEq α] : List α → List α
  | [] => []
  | item :: rest => item :: (firsts rest).filter (· ≠ item)

/-- No value is lost with the repetitions. -/
theorem mem_firsts {α : Type} [DecidableEq α] {values : List α} {value : α} : value ∈ firsts values ↔ value ∈ values := by
  induction values with
  | nil => simp [firsts]
  | cons first rest ih =>
      simp only [firsts, List.mem_cons, List.mem_filter, ih, decide_eq_true_eq]
      by_cases same : value = first <;> simp [same]

/-- No value is left twice. -/
theorem nodup_firsts {α : Type} [DecidableEq α] (values : List α) : (firsts values).Nodup := by
  induction values with
  | nil => exact List.nodup_nil
  | cons first rest ih => exact List.nodup_cons.mpr ⟨by simp, ih.filter _⟩

theorem length_firsts_le {α : Type} [DecidableEq α] (values : List α) : (firsts values).length ≤ values.length := by
  induction values with
  | nil => exact le_rfl
  | cons first rest ih => exact Nat.succ_le_succ ((List.length_filter_le _ _).trans ih)

/-- The first members of an ordered list are those with few members below them. -/
theorem mem_take_iff {α : Type} [LinearOrder α] {values : List α} (ordered : values.Pairwise (· < ·)) (room : Nat)
    (value : α) :
    value ∈ values.take room ↔ value ∈ values ∧ values.countP (· < value) < room := by
  induction values generalizing room with
  | nil => simp
  | cons least rest ih =>
      obtain ⟨below, later⟩ := List.pairwise_cons.mp ordered
      cases room with
      | zero => simp
      | succ room =>
          rw [List.take_succ_cons, List.mem_cons, List.mem_cons, List.countP_cons, ih later]
          constructor
          · rintro (rfl | ⟨member, few⟩)
            · have none : rest.countP (· < value) = 0 := by
                rw [List.countP_eq_zero]
                intro other member
                simpa using (below other member).le
              simp [none]
            · have before := below value member
              simp only [before, decide_true, if_true]
              exact ⟨Or.inr member, by omega⟩
          · rintro ⟨rfl | member, few⟩
            · exact Or.inl rfl
            · have before := below value member
              simp only [before, decide_true, if_true] at few
              exact Or.inr ⟨member, by omega⟩

namespace Progression

variable {width first : Int} {count : Nat} {values : List Int}

/-- A value is one of the first members of an arithmetic progression. -/
def Within (width first : Int) (count : Nat) (value : Int) : Prop := ∃ index < count, value = first + index * width

/-- A value stays within a longer progression. -/
theorem Within.grow {value : Int} (within : Within width first count value) {more : Nat} (larger : count ≤ more) :
    Within width first more value := by
  obtain ⟨index, below, same⟩ := within
  exact ⟨index, lt_of_lt_of_le below larger, same⟩

/-- One more member. -/
theorem within_succ {value : Int} :
    Within width first (count + 1) value ↔ Within width first count value ∨ value = first + count * width := by
  constructor
  · rintro ⟨index, below, same⟩
    rcases Nat.lt_succ_iff_lt_or_eq.mp below with earlier | rfl
    · exact Or.inl ⟨index, earlier, same⟩
    · exact Or.inr same
  · rintro (within | same)
    · exact within.grow (Nat.le_succ count)
    · exact ⟨count, Nat.lt_succ_self count, same⟩

/-- Each value of the list is a member that is there already, or the next one. -/
inductive Extends (width first : Int) : Nat → List Int → Prop where
  | nil (count : Nat) : Extends width first count []
  | old {count : Nat} {value : Int} {rest : List Int} (known : Within width first count value)
      (tail : Extends width first count rest) : Extends width first count (value :: rest)
  | next {count : Nat} {value : Int} {rest : List Int} (place : value = first + count * width)
      (tail : Extends width first (count + 1) rest) : Extends width first count (value :: rest)

/-- Values that are there already can come first. -/
theorem Extends.append {front : List Int} (known : ∀ value ∈ front, Within width first count value)
    (grows : Extends width first count values) : Extends width first count (front ++ values) := by
  induction front with
  | nil => exact grows
  | cons value rest ih =>
      refine .old (known value List.mem_cons_self) (ih fun other member => ?_)
      exact known other (List.mem_cons_of_mem value member)

/-- The next member is not there already. -/
theorem not_within_next (positive : 0 < width) : ¬ Within width first count (first + count * width) := by
  rintro ⟨index, below, same⟩
  have equal : (count : Int) * width = index * width := by omega
  have places := mul_right_cancel₀ positive.ne' equal
  omega

/-- Values that are there already can be left out. -/
theorem Extends.filter (positive : 0 < width) {keep : Int → Bool} (grows : Extends width first count values)
    (known : ∀ value, keep value = false → Within width first count value) :
    Extends width first count (values.filter keep) := by
  induction grows with
  | nil count => exact .nil count
  | old within _ ih =>
      rw [List.filter_cons]
      split
      · exact .old within (ih known)
      · exact ih known
  | @next count value rest place _ ih =>
      rw [List.filter_cons]
      split
      · exact .next place (ih fun other dropped => (known other dropped).grow (Nat.le_succ count))
      · rename_i dropped
        have there := known value (Bool.eq_false_iff.mpr dropped)
        rw [place] at there
        exact absurd there (not_within_next positive)

/-- Without repetitions a progression grows as before. -/
theorem Extends.firsts (positive : 0 < width) (grows : Extends width first count values) :
    Extends width first count (firsts values) := by
  induction grows with
  | nil count => exact .nil count
  | old within _ ih =>
      refine .old within (ih.filter positive fun value dropped => ?_)
      rw [decide_eq_false_iff_not, not_not] at dropped
      exact dropped ▸ within
  | @next count value rest place _ ih =>
      refine .next place (ih.filter positive fun other dropped => ?_)
      rw [decide_eq_false_iff_not, not_not] at dropped
      rw [dropped, place]
      exact within_succ.mpr (Or.inr rfl)

end Progression

end ClosedLoop.Library
