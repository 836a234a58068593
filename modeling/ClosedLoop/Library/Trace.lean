import Mathlib.Data.List.Basic
import Mathlib.Data.List.Induction

namespace ClosedLoop.Library

variable {β : Type}

/-- Every entry of the trace is good after the entries before it. -/
def Always (good : List β → β → Prop) (entries : List β) : Prop :=
  ∀ earlier entry later, entries = earlier ++ entry :: later → good earlier entry

theorem Always.nil (good : List β → β → Prop) : Always good [] := by
  intro earlier entry later same
  simp at same

/-- A trace grows at its end, so only the new entry needs a proof. -/
theorem Always.snoc {good : List β → β → Prop} {entries : List β} {last : β}
    (before : Always good entries) (new : good entries last) : Always good (entries ++ [last]) := by
  intro earlier entry later same
  rcases List.eq_nil_or_concat later with empty | ⟨rest, final, split⟩
  · subst empty
    have parts := List.append_inj_left same.symm.symm (by
      have lengths := congrArg List.length same
      simp only [List.length_append, List.length_cons, List.length_nil] at lengths
      omega)
    have single := List.append_cancel_left (parts ▸ same)
    cases single
    exact parts ▸ new
  · rw [split, List.concat_eq_append, ← List.cons_append, ← List.append_assoc] at same
    exact before earlier entry rest (List.append_inj_left' same rfl)

/-- What always holds, holds in weaker form. -/
theorem Always.weaken {good weaker : List β → β → Prop} {entries : List β} (always : Always good entries)
    (implies : ∀ earlier entry, good earlier entry → weaker earlier entry) : Always weaker entries :=
  fun earlier entry later same => implies _ _ (always earlier entry later same)

/-- Each member of the trace has a place in it. -/
theorem Always.of_mem {good : List β → β → Prop} {entries : List β} (always : Always good entries)
    {entry : β} (member : entry ∈ entries) :
    ∃ earlier later, entries = earlier ++ entry :: later ∧ good earlier entry := by
  obtain ⟨earlier, later, same⟩ := List.append_of_mem member
  exact ⟨earlier, later, same, always earlier entry later same⟩

/-- The earlier part of a good trace is good. -/
theorem Always.earlier {good : List β → β → Prop} {entries more : List β}
    (always : Always good (entries ++ more)) : Always good entries := by
  intro earlier entry later same
  exact always earlier entry (later ++ more) (by simp [same])

/-- What the first state has and every good step keeps holds after all steps. -/
theorem Always.foldl {σ : Type} (good : σ → β → Prop) (invariant : σ → Prop) {step : σ → β → σ} {first : σ}
    {entries : List β} (always : Always (fun earlier entry => good (earlier.foldl step first) entry) entries)
    (start : invariant first)
    (keeps : ∀ state entry, invariant state → good state entry → invariant (step state entry)) :
    invariant (entries.foldl step first) := by
  induction entries using List.reverseRecOn with
  | nil => exact start
  | append_singleton front last ih =>
      rw [List.foldl_append]
      exact keeps _ last (ih always.earlier) (always front last [] rfl)

/-- An entry is good after the entries with a smaller index. -/
theorem Always.getElem {good : List β → β → Prop} {entries : List β} (always : Always good entries) {index : Nat}
    (inside : index < entries.length) : good (entries.take index) entries[index] :=
  always (entries.take index) entries[index] (entries.drop (index + 1)) (by simp)

/-- It is enough to look at each index. -/
theorem Always.of_getElem {good : List β → β → Prop} {entries : List β}
    (each : ∀ index (inside : index < entries.length), good (entries.take index) entries[index]) :
    Always good entries := by
  intro earlier entry later same
  subst same
  simpa using each earlier.length (by simp)

/-- An entry that only stands where no such entry stood before occurs at most once. -/
theorem Always.countP_le_one {kind : β → Prop} [DecidablePred kind] {entries : List β}
    (always : Always (fun earlier entry => kind entry → ∀ other ∈ earlier, ¬ kind other) entries) :
    entries.countP (fun entry => decide (kind entry)) ≤ 1 := by
  induction entries using List.reverseRecOn with
  | nil => simp
  | append_singleton front last ih =>
      rw [List.countP_append, List.countP_singleton]
      by_cases here : kind last
      · have alone : front.countP (fun entry => decide (kind entry)) = 0 := by
          rw [List.countP_eq_zero]
          intro other member
          simpa using always front last [] rfl here other member
        simp [alone, here]
      · simpa [here] using ih always.earlier

/-- A trace splits in one way at an entry that occurs at most once. -/
theorem Always.split_unique {kind : β → Prop} {entries before other after rest : List β} {entry found : β}
    (once : Always (fun earlier entry => kind entry → ∀ other ∈ earlier, ¬ kind other) entries)
    (first : entries = before ++ entry :: after) (second : entries = other ++ found :: rest) (here : kind entry)
    (there : kind found) : before = other ∧ entry = found ∧ after = rest := by
  rcases List.append_eq_append_iff.mp (first.symm.trans second) with ⟨gap, longer, same⟩ | ⟨gap, longer, same⟩
  · cases gap with
    | nil =>
        cases same
        exact ⟨by simpa using longer.symm, rfl, rfl⟩
    | cons head tail =>
        cases same
        exact absurd here (once other found rest second there entry (by simp [longer]))
  · cases gap with
    | nil =>
        cases same
        exact ⟨by simpa using longer, rfl, rfl⟩
    | cons head tail =>
        cases same
        exact absurd there (once before entry after first here found (by simp [longer]))

section Numbered

variable {number : β → Nat} {entries : List β}
  (counted : Always (fun earlier entry => number entry = earlier.length + 1) entries)

include counted

/-- Entries are numbered from one. -/
theorem Always.number_getElem {index : Nat} (inside : index < entries.length) : number entries[index] = index + 1 := by
  have here := counted.getElem inside
  rw [List.length_take_of_le (by omega)] at here
  exact here

/-- Numbers that count the earlier entries are in order. -/
theorem Always.number_sorted : entries.Pairwise fun first second => number first ≤ number second := by
  rw [List.pairwise_iff_getElem]
  intro first second insideFirst insideSecond before
  rw [Always.number_getElem counted insideFirst, Always.number_getElem counted insideSecond]
  omega

theorem Always.number_le {entry : β} (member : entry ∈ entries) : number entry ≤ entries.length := by
  obtain ⟨index, inside, same⟩ := List.mem_iff_getElem.mp member
  rw [← same, Always.number_getElem counted inside]
  omega

end Numbered

section Marks

variable {κ : Type} [DecidableEq κ] {key : β → κ} {log : List β}

/-- When the entries up to a place are marked by their keys, the others are the ones without a mark. -/
theorem filter_unmarked (nodup : (log.map key).Nodup) (count : Nat) :
    log.filter (fun entry => key entry ∉ (log.take count).map key) = log.drop count := by
  have apart : ∀ entry ∈ log.drop count, key entry ∉ (log.take count).map key := by
    rw [← List.take_append_drop count log, List.map_append, List.nodup_append] at nodup
    intro entry later earlier
    exact nodup.2.2 (key entry) earlier (key entry) (List.mem_map_of_mem later) rfl
  have marked : (log.take count).filter (fun entry => key entry ∉ (log.take count).map key) = [] := by
    rw [List.filter_eq_nil_iff]
    intro entry member unmarked
    exact of_decide_eq_true unmarked (List.mem_map_of_mem member)
  conv_lhs => rw [← List.take_append_drop count log, List.filter_append]
  rw [List.take_append_drop, marked, List.nil_append, List.filter_eq_self]
  intro entry member
  exact decide_eq_true (apart entry member)

end Marks

end ClosedLoop.Library
