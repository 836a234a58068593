import ClosedLoop.Library.Best
import Mathlib.Algebra.Order.Field.Rat
import Mathlib.Data.List.Dedup
import Mathlib.Data.List.Sort
import Mathlib.Data.Prod.Lex

/-! `select_threshold` over exact arithmetic. -/

namespace ClosedLoop.Training

open ClosedLoop.Library

section Counts

/-- `zip(labels, scores)` -/
abbrev Scored := List (Int × Rat)

/-- The vectors of one class that fire. An attack has a label that is not zero. -/
def firing (attack : Bool) (rows : Scored) (threshold : Rat) : Nat :=
  rows.countP fun row => decide (row.1 ≠ 0) == attack && decide (threshold ≤ row.2)

/-- `tp` -/
def truePositives (rows : Scored) (threshold : Rat) : Nat := firing true rows threshold

/-- `fp` -/
def falsePositives (rows : Scored) (threshold : Rat) : Nat := firing false rows threshold

/-- `_f1` -/
def f1 (tp fp fn : Nat) : Rat :=
  let denominator := 2 * tp + fp + fn
  if denominator ≠ 0 then (2 * tp : Rat) / denominator else 0

/-- The F1 of a threshold, for some number of attacks. -/
def f1At (rows : Scored) (attackTotal : Nat) (threshold : Rat) : Rat :=
  let tp := truePositives rows threshold
  f1 tp (falsePositives rows threshold) (attackTotal - tp)

/-- `fp / hours <= max_false_positives_per_hour` -/
def withinBudget (rows : Scored) (hours maxFalsePositivesPerHour threshold : Rat) : Bool :=
  decide ((falsePositives rows threshold : Rat) / hours ≤ maxFalsePositivesPerHour)

end Counts

/-- The highest score of a benign vector, from one such score on. -/
def highestBenign (rows : Scored) : Option Rat :=
  ((rows.filter fun row => row.1 = 0).map Prod.snd).max?

/-- `select_threshold`. The error is the message of an `EvaluationError`. -/
def selectThreshold (labels : List Int) (scores : List Rat) (observationSeconds maxFalsePositivesPerHour : Rat) :
    Except String Rat :=
  if labels.length ≠ scores.length ∨ labels = [] then .error "labels and scores must be non-empty and equal length"
  else if observationSeconds ≤ 0 ∨ maxFalsePositivesPerHour < 0 then
    .error "observation duration must be positive and the budget non-negative"
  else if labels.all (fun label => label = 0) ∨ labels.all (fun label => label ≠ 0) then
    .error "threshold selection needs both attack and benign vectors"
  else
    let hours := observationSeconds / 3600
    let attackTotal := labels.countP fun label => label ≠ 0
    let rows := labels.zip scores
    let thresholds := scores.dedup.insertionSort (· ≤ ·)
    let best := thresholds.foldl (keepBest (withinBudget rows hours maxFalsePositivesPerHour)
      fun threshold => toLex (f1At rows attackTotal threshold, threshold)) none
    match best with
    | some best => .ok (ofLex best).2
    | none =>
        match highestBenign rows with
        -- The labels have a benign vector.
        | none => .error "max() iterable argument is empty"
        | some highest =>
            if 1 ≤ highest then .error "no threshold satisfies the false-positive budget on validation"
            else .ok (min 1 (highest + mkRat 1 1000000000))

end ClosedLoop.Training
