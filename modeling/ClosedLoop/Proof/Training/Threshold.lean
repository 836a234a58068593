import ClosedLoop.Construction.Training.Threshold
import ClosedLoop.Library.Check
import Mathlib.Data.Finset.Max
import Mathlib.Tactic.NormNum
import Mathlib.Tactic.Positivity

namespace ClosedLoop.Training

open ClosedLoop.Library

section Counts

variable {rows : Scored} {threshold other : Rat} {attackTotal : Nat}

/-- The same rows fire at two thresholds. -/
def SameFiring (rows : Scored) (threshold other : Rat) : Prop := ∀ row ∈ rows, threshold ≤ row.2 ↔ other ≤ row.2

/-- Thresholds that fire alike count alike. -/
theorem SameFiring.firing (same : SameFiring rows threshold other) (attack : Bool) :
    firing attack rows threshold = firing attack rows other := by
  unfold Training.firing
  apply List.countP_congr
  intro row member
  simp only [Bool.and_eq_true, decide_eq_true_eq, same row member]

/-- They have the same score. -/
theorem SameFiring.f1At (same : SameFiring rows threshold other) :
    f1At rows attackTotal threshold = f1At rows attackTotal other := by
  unfold Training.f1At truePositives falsePositives
  rw [same.firing true, same.firing false]

/-- They meet the same budget. -/
theorem SameFiring.withinBudget {hours budget : Rat} (same : SameFiring rows threshold other) :
    withinBudget rows hours budget threshold = withinBudget rows hours budget other := by
  unfold Training.withinBudget falsePositives
  rw [same.firing false]

/-- Nothing fires above all scores. -/
theorem firing_above (above : ∀ row ∈ rows, row.2 < threshold) (attack : Bool) : firing attack rows threshold = 0 := by
  unfold firing
  rw [List.countP_eq_zero]
  intro row member fires
  simp only [Bool.and_eq_true, decide_eq_true_eq] at fires
  exact absurd fires.2 (not_le.mpr (above row member))

/-- A score is not negative. -/
theorem f1_nonneg (tp fp fn : Nat) : 0 ≤ f1 tp fp fn := by
  unfold f1
  dsimp only
  split
  · positivity
  · exact le_refl 0

/-- A threshold above every score scores nothing. -/
theorem f1At_above (above : ∀ row ∈ rows, row.2 < threshold) : f1At rows attackTotal threshold = 0 := by
  unfold f1At truePositives falsePositives
  rw [firing_above above true, firing_above above false]
  simp [f1]

/-- Between two neighbouring scores the counts do not change. Above all of them nothing fires. -/
theorem next_score (rows : Scored) (threshold : Rat) :
    (∃ row ∈ rows, threshold ≤ row.2 ∧ SameFiring rows threshold row.2) ∨ ∀ row ∈ rows, row.2 < threshold := by
  by_cases fires : ∃ row ∈ rows, threshold ≤ row.2
  · left
    obtain ⟨first, member, reaches⟩ := fires
    have filled : ((rows.filter fun row => threshold ≤ row.2).toFinset).Nonempty :=
      ⟨first, by simp [member, reaches]⟩
    obtain ⟨least, listed, lowest⟩ := Finset.exists_min_image _ Prod.snd filled
    simp only [List.mem_toFinset, List.mem_filter, decide_eq_true_eq] at listed lowest
    refine ⟨least, listed.1, listed.2, fun row inside => ⟨fun here => ?_, fun here => ?_⟩⟩
    · exact lowest row ⟨inside, here⟩
    · exact listed.2.trans here
  · right
    intro row member
    by_contra reaches
    exact fires ⟨row, member, not_lt.mp reaches⟩

end Counts

section Selection

variable {labels : List Int} {scores : List Rat} {observationSeconds budget : Rat}

/-- The F1 of a threshold for some labels and scores. -/
def f1Of (labels : List Int) (scores : List Rat) (threshold : Rat) : Rat :=
  f1At (labels.zip scores) (labels.countP fun label => label ≠ 0) threshold

/-- The false positives per hour are within the budget. -/
def Affordable (labels : List Int) (scores : List Rat) (observationSeconds budget threshold : Rat) : Prop :=
  withinBudget (labels.zip scores) (observationSeconds / 3600) budget threshold = true

/-- The labels and the scores belong together, and both classes are present. -/
structure Suitable (labels : List Int) (scores : List Rat) (observationSeconds budget : Rat) : Prop where
  filled : labels ≠ []
  equal : labels.length = scores.length
  attack : ∃ label ∈ labels, label ≠ 0
  benign : ∃ label ∈ labels, label = 0
  bounded : ∀ score ∈ scores, 0 ≤ score ∧ score ≤ 1
  positive : 0 < observationSeconds
  budgeted : 0 ≤ budget

/-- The scores are those of the rows. -/
theorem Suitable.mem_scores (suitable : Suitable labels scores observationSeconds budget) {score : Rat} :
    score ∈ scores ↔ ∃ row ∈ labels.zip scores, row.2 = score := by
  have columns : (labels.zip scores).map Prod.snd = scores := List.map_snd_zip suitable.equal.ge
  rw [← List.mem_map (f := Prod.snd), columns]

/-- A threshold above all benign scores has no false positives. -/
theorem Suitable.affordable_of_zero (suitable : Suitable labels scores observationSeconds budget) {threshold : Rat}
    (zero : falsePositives (labels.zip scores) threshold = 0) :
    Affordable labels scores observationSeconds budget threshold := by
  unfold Affordable withinBudget
  rw [zero, decide_eq_true_eq, Nat.cast_zero, zero_div]
  exact suitable.budgeted

/-- The outcome of the search over the observed scores. -/
theorem Suitable.search (suitable : Suitable labels scores observationSeconds budget) :
    (∃ threshold, selectThreshold labels scores observationSeconds budget = .ok threshold ∧ threshold ∈ scores ∧
      Affordable labels scores observationSeconds budget threshold ∧
      ∀ score ∈ scores, Affordable labels scores observationSeconds budget score →
        toLex (f1Of labels scores score, score) ≤ toLex (f1Of labels scores threshold, threshold)) ∨
    (∀ score ∈ scores, ¬ Affordable labels scores observationSeconds budget score) ∧
      selectThreshold labels scores observationSeconds budget =
        match highestBenign (labels.zip scores) with
        | none => .error "max() iterable argument is empty"
        | some highest =>
            if 1 ≤ highest then .error "no threshold satisfies the false-positive budget on validation"
            else .ok (min 1 (highest + mkRat 1 1000000000)) := by
  have mixed : ¬ (labels.all (fun label => label = 0) = true ∨ labels.all (fun label => label ≠ 0) = true) := by
    simp only [List.all_eq_true, decide_eq_true_eq, not_or, not_forall]
    obtain ⟨attack, listed, nonzero⟩ := suitable.attack
    obtain ⟨benign, alsoListed, zero⟩ := suitable.benign
    exact ⟨⟨attack, listed, nonzero⟩, benign, alsoListed, fun different => different zero⟩
  have lengths : ¬ (labels.length ≠ scores.length ∨ labels = []) := by
    rw [not_or, not_not]
    exact ⟨suitable.equal, suitable.filled⟩
  have positive : ¬ (observationSeconds ≤ 0 ∨ budget < 0) := by
    rw [not_or, not_le, not_lt]
    exact ⟨suitable.positive, suitable.budgeted⟩
  have member : ∀ score, score ∈ scores.dedup.insertionSort (· ≤ ·) ↔ score ∈ scores := by
    intro score
    rw [List.mem_insertionSort, List.mem_dedup]
  have kept : Kept (withinBudget (labels.zip scores) (observationSeconds / 3600) budget)
      (fun threshold => toLex (f1Of labels scores threshold, threshold)) _ _ :=
    kept_foldl (scores.dedup.insertionSort (· ≤ ·))
  unfold selectThreshold
  rw [if_neg lengths, if_neg positive, if_neg mixed]
  dsimp only
  change Kept _ _ _ (List.foldl (keepBest _ fun threshold => toLex (f1At _ _ threshold, threshold)) none _) at kept
  split
  · rename_i best found
    rw [found] at kept
    obtain ⟨⟨threshold, listed, accepted, rfl⟩, greatest⟩ := kept
    refine Or.inl ⟨threshold, rfl, (member threshold).mp listed, accepted, fun score observed affordable => ?_⟩
    exact greatest score ((member score).mpr observed) affordable
  · rename_i found
    rw [found] at kept
    refine Or.inr ⟨fun score observed affordable => ?_, rfl⟩
    rw [Affordable, kept score ((member score).mpr observed)] at affordable
    cases affordable

/-- No observed score is affordable only when the highest score is benign. -/
theorem Suitable.highest (suitable : Suitable labels scores observationSeconds budget)
    (none : ∀ score ∈ scores, ¬ Affordable labels scores observationSeconds budget score) :
    ∃ highest, highestBenign (labels.zip scores) = some highest ∧ highest ∈ scores ∧ ∀ score ∈ scores, score ≤ highest := by
  obtain ⟨top, listed, greatest⟩ : ∃ top ∈ scores, ∀ score ∈ scores, score ≤ top := by
    have filled : scores.toFinset.Nonempty := by
      have longer := suitable.equal ▸ List.length_pos_iff.mpr suitable.filled
      obtain ⟨score, member⟩ := List.exists_mem_of_length_pos longer
      exact ⟨score, List.mem_toFinset.mpr member⟩
    obtain ⟨top, member, highest⟩ := Finset.exists_max_image scores.toFinset id filled
    exact ⟨top, List.mem_toFinset.mp member, fun score inside => highest score (List.mem_toFinset.mpr inside)⟩
  -- The highest score has a false positive, so that it is the score of a benign vector.
  have positive : falsePositives (labels.zip scores) top ≠ 0 := fun zero => none top listed (suitable.affordable_of_zero zero)
  obtain ⟨row, inside, fires⟩ := List.countP_pos_iff.mp (Nat.pos_of_ne_zero positive)
  simp only [beq_false, Bool.and_eq_true, Bool.not_eq_true', decide_eq_false_iff_not, not_not, decide_eq_true_eq] at fires
  have reached : row.2 = top := le_antisymm (greatest row.2 (suitable.mem_scores.mpr ⟨row, inside, rfl⟩)) fires.2
  refine ⟨top, ?_, listed, greatest⟩
  rw [highestBenign, List.max?_eq_some_iff]
  simp only [List.mem_map, List.mem_filter, decide_eq_true_eq]
  refine ⟨⟨row, ⟨inside, fires.1⟩, reached⟩, ?_⟩
  rintro score ⟨other, ⟨within, _⟩, rfl⟩
  exact greatest other.2 (suitable.mem_scores.mpr ⟨other, within, rfl⟩)

/-- A threshold that is affordable fires like an affordable score or lies above all scores. -/
theorem Suitable.affordable_cases (suitable : Suitable labels scores observationSeconds budget) {threshold : Rat}
    (affordable : Affordable labels scores observationSeconds budget threshold) :
    (∃ score ∈ scores, Affordable labels scores observationSeconds budget score ∧
      f1Of labels scores threshold = f1Of labels scores score) ∨
    (∀ score ∈ scores, score < threshold) ∧ f1Of labels scores threshold = 0 := by
  rcases next_score (labels.zip scores) threshold with ⟨row, member, _, same⟩ | above
  · left
    refine ⟨row.2, suitable.mem_scores.mpr ⟨row, member, rfl⟩, ?_, same.f1At⟩
    rw [Affordable, ← same.withinBudget]
    exact affordable
  · right
    refine ⟨fun score observed => ?_, f1At_above above⟩
    obtain ⟨row, member, rfl⟩ := suitable.mem_scores.mp observed
    exact above row member

/-- Thresholds above all scores are affordable. -/
theorem Suitable.affordable_above (suitable : Suitable labels scores observationSeconds budget) {threshold : Rat}
    (above : ∀ score ∈ scores, score < threshold) : Affordable labels scores observationSeconds budget threshold := by
  apply suitable.affordable_of_zero
  exact firing_above (fun row member => above row.2 (suitable.mem_scores.mpr ⟨row, member, rfl⟩)) false

/-- The threshold is the best one within the budget, and none is returned exactly when none is within the budget. -/
theorem threshold_optimal (suitable : Suitable labels scores observationSeconds budget) :
    (∀ threshold, selectThreshold labels scores observationSeconds budget = .ok threshold →
      (0 ≤ threshold ∧ threshold ≤ 1) ∧ Affordable labels scores observationSeconds budget threshold ∧
      (∀ other, 0 ≤ other → other ≤ 1 → Affordable labels scores observationSeconds budget other →
        f1Of labels scores other ≤ f1Of labels scores threshold) ∧
      ((∃ score ∈ scores, Affordable labels scores observationSeconds budget score) → threshold ∈ scores ∧
        ∀ score ∈ scores, Affordable labels scores observationSeconds budget score →
          f1Of labels scores score = f1Of labels scores threshold → score ≤ threshold)) ∧
    ((∃ message, selectThreshold labels scores observationSeconds budget = .error message) ↔
      ¬ ∃ other, 0 ≤ other ∧ other ≤ 1 ∧ Affordable labels scores observationSeconds budget other) := by
  rcases suitable.search with ⟨best, selected, observed, affordable, greatest⟩ | ⟨none, selected⟩
  · constructor
    · intro threshold returned
      cases returned.symm.trans selected
      refine ⟨suitable.bounded best observed, affordable, fun other _ _ within => ?_, fun _ => ⟨observed, ?_⟩⟩
      · rcases suitable.affordable_cases within with ⟨score, listed, also, same⟩ | ⟨_, zero⟩
        · rw [same]
          exact Prod.Lex.monotone_fst _ _ (greatest score listed also)
        · rw [zero]
          exact f1_nonneg _ _ _
      · intro score listed also same
        have order := greatest score listed also
        rw [same, Prod.Lex.toLex_le_toLex] at order
        rcases order with less | ⟨_, ordered⟩
        · exact absurd less (lt_irrefl _)
        · exact ordered
    · rw [selected]
      simp only [reduceCtorEq, exists_false, false_iff, not_not]
      exact ⟨best, (suitable.bounded best observed).1, (suitable.bounded best observed).2, affordable⟩
  · obtain ⟨highest, found, listed, greatest⟩ := suitable.highest none
    rw [found] at selected
    dsimp only at selected
    have above : ∀ other, Affordable labels scores observationSeconds budget other → highest < other := by
      intro other within
      rcases suitable.affordable_cases within with ⟨score, observed, also, _⟩ | ⟨above, _⟩
      · exact absurd also (none score observed)
      · exact above highest listed
    by_cases full : 1 ≤ highest
    · rw [if_pos full] at selected
      rw [selected]
      refine ⟨fun threshold returned => absurd returned (by simp), ?_⟩
      simp only [Except.error.injEq, exists_eq', true_iff, not_exists, not_and]
      intro other _ small within
      exact absurd (above other within) (not_lt.mpr (small.trans full))
    · rw [if_neg full] at selected
      have low := (suitable.bounded highest listed).1
      have step : (0 : Rat) < mkRat 1 1000000000 := by decide +kernel
      have higher : highest < min 1 (highest + mkRat 1 1000000000) := lt_min (not_le.mp full) (lt_add_of_pos_right _ step)
      have within := suitable.affordable_above fun score observed => lt_of_le_of_lt (greatest score observed) higher
      rw [selected]
      constructor
      · rintro threshold ⟨⟩
        refine ⟨⟨low.trans higher.le, min_le_left _ _⟩, within, fun other _ _ also => ?_, fun ⟨score, observed, also⟩ => ?_⟩
        · rcases suitable.affordable_cases also with ⟨score, observed, contradiction, _⟩ | ⟨_, zero⟩
          · exact absurd contradiction (none score observed)
          · rw [zero]
            exact f1_nonneg _ _ _
        · exact absurd also (none score observed)
      · simp only [reduceCtorEq, exists_false, false_iff, not_not]
        exact ⟨_, low.trans higher.le, min_le_left _ _, within⟩

/-- One attack above one benign vector. -/
theorem threshold_optimal_pair : selectThreshold [0, 1] [1 / 4, 3 / 4] 3600 0 = .ok (3 / 4) ∧
    f1Of [0, 1] [1 / 4, 3 / 4] (1 / 2) ≤ f1Of [0, 1] [1 / 4, 3 / 4] (3 / 4) := by
  have suitable : Suitable [0, 1] [1 / 4, 3 / 4] 3600 0 := by
    refine ⟨by simp, rfl, ⟨1, by simp⟩, ⟨0, by simp⟩, ?_, by norm_num, le_refl 0⟩
    intro score member
    simp only [List.mem_cons, List.not_mem_nil, or_false] at member
    rcases member with rfl | rfl <;> norm_num
  have selected : selectThreshold [0, 1] [1 / 4, 3 / 4] 3600 0 = .ok (3 / 4) := Check.ok_of_toOption (by decide +kernel)
  have within : Affordable [0, 1] [1 / 4, 3 / 4] 3600 0 (1 / 2) := by
    unfold Affordable
    decide +kernel
  exact ⟨selected, ((threshold_optimal suitable).1 _ selected).2.2.1 (1 / 2) (by norm_num) (by norm_num) within⟩

end Selection

end ClosedLoop.Training
