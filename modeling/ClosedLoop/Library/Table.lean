import Mathlib.Data.List.Basic
import Mathlib.Data.List.Nodup
import Mathlib.Data.List.Perm.Subperm
import Mathlib.Data.List.Sort

namespace ClosedLoop.Library

/-- A table keeps its rows in the order of their first insertion. -/
abbrev Table (κ α : Type) := List (κ × α)

namespace Table

variable {κ α β : Type}

def keys (table : Table κ α) : List κ := table.map Prod.fst

/-- This map changes the values and keeps the keys. -/
def mapValues (change : α → β) (table : Table κ α) : Table κ β :=
  table.map fun row => (row.1, change row.2)

@[simp] theorem keys_mapValues (change : α → β) (table : Table κ α) :
    (table.mapValues change).keys = table.keys := by
  simp [keys, mapValues, Function.comp_def]

theorem mapValues_mapValues {γ : Type} (first : α → β) (second : β → γ) (table : Table κ α) :
    (table.mapValues first).mapValues second = table.mapValues (second ∘ first) := by
  simp [mapValues]

/-- The rows that pass a test are at least as many as the keys that have such a row. -/
theorem length_le_countP {wanted : List κ} {table : Table κ α} {test : κ × α → Bool} (distinct : wanted.Nodup)
    (present : ∀ key ∈ wanted, ∃ row ∈ table, row.1 = key ∧ test row = true) :
    wanted.length ≤ table.countP test := by
  have covered : wanted ⊆ (table.filter test).map Prod.fst := by
    intro key member
    obtain ⟨row, inside, same, passes⟩ := present key member
    exact List.mem_map.mpr ⟨row, List.mem_filter.mpr ⟨inside, passes⟩, same⟩
  calc wanted.length ≤ ((table.filter test).map Prod.fst).length := (List.subperm_of_subset distinct covered).length_le
    _ = table.countP test := by rw [List.length_map, List.countP_eq_length_filter]

section Sorting

variable {first second : Table κ α}

/-- The order of the rows does not matter for a table that is sorted by its keys. -/
theorem insertionSort_of_perm [LinearOrder κ] (distinct : first.keys.Nodup) (perm : first.Perm second) :
    first.insertionSort (fun row other => row.1 ≤ other.1) = second.insertionSort fun row other => row.1 ≤ other.1 := by
  have sorted := ((List.perm_insertionSort (fun row other : κ × α => row.1 ≤ other.1) first).trans perm).trans
    (List.perm_insertionSort (fun row other : κ × α => row.1 ≤ other.1) second).symm
  refine sorted.eq_of_pairwise (fun row other member also here there => ?_) (List.pairwise_insertionSort _ _)
    (List.pairwise_insertionSort _ _)
  have listed : row ∈ first := (List.mem_insertionSort _).mp member
  have listed' : other ∈ first := perm.mem_iff.mpr ((List.mem_insertionSort _).mp also)
  exact List.inj_on_of_nodup_map distinct listed listed' (le_antisymm here there)

/-- A table that is sorted by its keys may be sorted before or after its values change. -/
theorem insertionSort_mapValues (before : κ → κ → Prop) [DecidableRel before] (change : α → β) (table : Table κ α) :
    (table.mapValues change).insertionSort (fun row other => before row.1 other.1) =
      mapValues change (table.insertionSort fun row other => before row.1 other.1) := by
  have sorted := List.map_insertionSort (fun row other : κ × α => before row.1 other.1)
    (fun row other : κ × β => before row.1 other.1) (fun row => (row.1, change row.2)) table fun _ _ _ _ => Iff.rfl
  exact sorted.symm

end Sorting

variable [DecidableEq κ]

/-- A lookup reads the first row with the key. -/
def find? (table : Table κ α) (key : κ) : Option α :=
  match table with
  | [] => none
  | row :: rest => if row.1 = key then some row.2 else find? rest key

/-- An upsert replaces the row with the key in place, or appends a new row. -/
def upsert (table : Table κ α) (key : κ) (value : α) : Table κ α :=
  match table with
  | [] => [(key, value)]
  | row :: rest => if row.1 = key then (key, value) :: rest else row :: upsert rest key value

@[simp] theorem find?_upsert_self (table : Table κ α) (key : κ) (value : α) :
    (table.upsert key value).find? key = some value := by
  induction table with
  | nil => simp [upsert, find?]
  | cons row rest ih =>
      unfold upsert
      split
      · simp [find?]
      · rename_i different
        simpa [find?, different] using ih

/-- Other keys keep their values. -/
theorem find?_upsert_of_ne (table : Table κ α) {key other : κ} (value : α) (different : other ≠ key) :
    (table.upsert key value).find? other = table.find? other := by
  induction table with
  | nil => simp [upsert, find?, Ne.symm different]
  | cons row rest ih =>
      unfold upsert
      split
      · rename_i same
        have skipped : row.1 ≠ other := fun equal => different (equal.symm.trans same)
        simp [find?, skipped, Ne.symm different]
      · by_cases reached : row.1 = other
        · simp [find?, reached]
        · simpa [find?, reached] using ih

/-- A key that is set has its value. -/
theorem find?_upsert (table : Table κ α) (key other : κ) (value : α) :
    (table.upsert key value).find? other = if other = key then some value else table.find? other := by
  split
  · rename_i same
    rw [same, find?_upsert_self]
  · rename_i different
    exact find?_upsert_of_ne table value different

/-- The first table is searched first. -/
theorem find?_append (table more : Table κ α) (key : κ) :
    find? (table ++ more) key = (table.find? key).or (more.find? key) := by
  induction table with
  | nil => rfl
  | cons row rest ih =>
      rw [List.cons_append]
      by_cases same : row.1 = key
      · simp [find?, same]
      · simpa [find?, same] using ih

/-- A change of the rows with one key shows at that key only. -/
theorem find?_map_at (table : Table κ α) (key other : κ) (change : α → α) :
    find? (table.map fun row => if row.1 = key then (row.1, change row.2) else row) other =
      if other = key then (table.find? other).map change else table.find? other := by
  induction table with
  | nil => simp [find?]
  | cons row rest ih =>
      rw [List.map_cons]
      by_cases here : row.1 = key <;> by_cases reached : row.1 = other
      · simp [find?, here, ← reached]
      · rw [if_pos here, find?, if_neg reached, ih, find?, if_neg reached]
      · have different : other ≠ key := fun same => here (reached.trans same)
        simp [find?, reached, different]
      · rw [if_neg here, find?, if_neg reached, ih, find?, if_neg reached]

@[simp] theorem find?_mapValues (change : α → β) (table : Table κ α) (key : κ) :
    (table.mapValues change).find? key = (table.find? key).map change := by
  induction table with
  | nil => rfl
  | cons row rest ih =>
      by_cases same : row.1 = key
      · simp [mapValues, find?, same]
      · simpa [mapValues, find?, same] using ih

/-- A change of the values commutes with setting a key. -/
theorem mapValues_upsert (change : α → β) (table : Table κ α) (key : κ) (value : α) :
    (table.upsert key value).mapValues change = (table.mapValues change).upsert key (change value) := by
  induction table with
  | nil => rfl
  | cons row rest ih =>
      by_cases same : row.1 = key
      · simp [mapValues, upsert, same]
      · simpa [mapValues, upsert, same] using ih

/-- A value that is found is in the table. -/
theorem mem_of_find? {table : Table κ α} {key : κ} {value : α} (found : table.find? key = some value) :
    (key, value) ∈ table := by
  induction table with
  | nil => simp [find?] at found
  | cons row rest ih =>
      unfold find? at found
      split at found
      · rename_i same
        cases found
        simp [← same]
      · exact List.mem_cons_of_mem _ (ih found)

/-- A key is there when it has a value. -/
theorem mem_keys_iff {table : Table κ α} {key : κ} :
    key ∈ table.keys ↔ ∃ value, table.find? key = some value := by
  induction table with
  | nil => simp [keys, find?]
  | cons row rest ih =>
      by_cases same : row.1 = key
      · simp [keys, find?, same]
      · simpa [keys, find?, same, Ne.symm same] using ih

theorem find?_eq_none_iff {table : Table κ α} {key : κ} :
    table.find? key = none ↔ key ∉ table.keys := by
  rw [mem_keys_iff, Option.eq_none_iff_forall_ne_some]
  simp

/-- Distinct keys make every row reachable by its own key. -/
theorem find?_of_mem {table : Table κ α} (distinct : table.keys.Nodup) {key : κ} {value : α}
    (member : (key, value) ∈ table) : table.find? key = some value := by
  induction table with
  | nil => simp at member
  | cons row rest ih =>
      simp only [keys, List.map_cons, List.nodup_cons] at distinct
      rcases List.mem_cons.mp member with same | later
      · simp [find?, ← same]
      · have skipped : row.1 ≠ key := by
          intro same
          exact distinct.1 (same ▸ List.mem_map_of_mem later)
        simpa [find?, skipped] using ih distinct.2 later

/-- A key that is there keeps its place. -/
theorem keys_upsert_of_mem {table : Table κ α} {key : κ} (value : α) (member : key ∈ table.keys) :
    (table.upsert key value).keys = table.keys := by
  induction table with
  | nil => simp [keys] at member
  | cons row rest ih =>
      by_cases same : row.1 = key
      · simp [upsert, keys, same]
      · have later : key ∈ keys rest := by
          simpa [keys, Ne.symm same] using member
        have tail := ih later
        simp only [keys] at tail
        simp [upsert, keys, same, tail]

/-- A new key comes last. -/
theorem upsert_of_not_mem {table : Table κ α} {key : κ} (value : α) (fresh : key ∉ table.keys) :
    table.upsert key value = table ++ [(key, value)] := by
  induction table with
  | nil => rfl
  | cons row rest ih =>
      have different : row.1 ≠ key := fun same => fresh (by simp [keys, same])
      have later : key ∉ keys rest := fun member => fresh (by
        simp only [keys, List.map_cons, List.mem_cons]
        exact Or.inr member)
      simp [upsert, different, ih later]

theorem mem_keys_upsert {table : Table κ α} {key other : κ} {value : α} :
    other ∈ (table.upsert key value).keys ↔ other = key ∨ other ∈ table.keys := by
  rw [mem_keys_iff, mem_keys_iff, find?_upsert]
  by_cases same : other = key <;> simp [same]

/-- Setting a key keeps the keys distinct. -/
theorem nodup_keys_upsert {table : Table κ α} (distinct : table.keys.Nodup) (key : κ) (value : α) :
    (table.upsert key value).keys.Nodup := by
  by_cases member : key ∈ table.keys
  · rw [keys_upsert_of_mem value member]
    exact distinct
  · rw [upsert_of_not_mem value member]
    have fresh : ∀ other ∈ table.keys, other ≠ key := fun other inside same => member (same ▸ inside)
    simpa [keys, List.nodup_append] using ⟨distinct, by simpa [keys] using fresh⟩

/-- The update of a row by its key is the change of that row where the keys are distinct. -/
theorem upsert_eq_map {table : Table κ α} {key : κ} {value : α} (distinct : table.keys.Nodup) (member : key ∈ table.keys) :
    table.upsert key value = table.map fun row => if row.1 = key then (key, value) else row := by
  induction table with
  | nil => cases member
  | cons row rest ih =>
      obtain ⟨absent, others⟩ := List.nodup_cons.mp distinct
      unfold upsert
      split
      · rename_i same
        have kept : rest.map (fun row => if row.1 = key then (key, value) else row) = rest := by
          conv_rhs => rw [← List.map_id rest]
          refine List.map_congr_left fun other listed => if_neg fun equal => absent ?_
          exact List.mem_map.mpr ⟨other, listed, equal.trans same.symm⟩
        rw [List.map_cons, if_pos same, kept]
      · rename_i different
        have later : key ∈ keys rest := by
          rcases List.mem_cons.mp member with equal | listed
          · exact absurd equal.symm different
          · exact listed
        rw [List.map_cons, if_neg different, ih others later]

/-- A later upsert of the same key replaces an earlier one. -/
theorem upsert_upsert (table : Table κ α) (key : κ) (first second : α) :
    (table.upsert key first).upsert key second = table.upsert key second := by
  induction table with
  | nil => simp [upsert]
  | cons row rest ih =>
      by_cases same : row.1 = key
      · simp [upsert, same]
      · simpa [upsert, same] using ih

/-- An upsert leaves the rows of the other keys. -/
theorem filter_upsert (table : Table κ α) (key : κ) (value : α) :
    (table.upsert key value).filter (·.1 ≠ key) = table.filter (·.1 ≠ key) := by
  induction table with
  | nil => simp [upsert]
  | cons row rest ih =>
      unfold upsert
      split
      · rename_i same
        simp [same]
      · rw [List.filter_cons, List.filter_cons, ih]

/-- A table with distinct keys has the row of a key and the rows of the others. -/
theorem perm_split {table : Table κ α} (distinct : table.keys.Nodup) (key : κ) :
    table.Perm ((table.find? key).toList.map (key, ·) ++ table.filter (·.1 ≠ key)) := by
  induction table with
  | nil => exact .refl _
  | cons row rest ih =>
      obtain ⟨absent, others⟩ := List.nodup_cons.mp distinct
      unfold find?
      split
      · rename_i same
        have kept : rest.filter (·.1 ≠ key) = rest := List.filter_eq_self.mpr fun other member =>
          decide_eq_true fun equal => absent (List.mem_map.mpr ⟨other, member, equal.trans same.symm⟩)
        rw [List.filter_cons_of_neg (by simp [same]), kept]
        simp [← same]
      · rename_i different
        rw [List.filter_cons_of_pos (by simp [different])]
        exact ((ih others).cons row).trans List.perm_middle.symm

/-- The rows after an upsert are the new row and the rows with other keys. -/
theorem mem_upsert {table : Table κ α} (distinct : table.keys.Nodup) {key : κ} {value : α} {row : κ × α}
    (member : row ∈ table.upsert key value) : row = (key, value) ∨ (row ∈ table ∧ row.1 ≠ key) := by
  have found := find?_of_mem (nodup_keys_upsert distinct key value) (show (row.1, row.2) ∈ _ from member)
  rw [find?_upsert] at found
  split at found
  · rename_i same
    exact Or.inl (Prod.ext same (Option.some.inj found).symm)
  · rename_i different
    exact Or.inr ⟨mem_of_find? found, different⟩

/-- Rows with distinct keys are rebuilt by their upserts. -/
theorem foldl_upsert (rows table : Table κ α) (distinct : (table ++ rows).keys.Nodup) :
    rows.foldl (fun built row => built.upsert row.1 row.2) table = table ++ rows := by
  induction rows generalizing table with
  | nil => simp
  | cons row rest ih =>
      have fresh : row.1 ∉ table.keys := by
        simp only [keys, List.map_append, List.map_cons, List.nodup_append] at distinct
        exact fun member => distinct.2.2 row.1 member row.1 List.mem_cons_self rfl
      rw [List.foldl_cons, upsert_of_not_mem _ fresh, ih _ (by simpa using distinct)]
      simp

section Groups

/-- A value is put at the end of the list of its key. -/
def push (table : Table κ (List α)) (key : κ) (value : α) : Table κ (List α) :=
  table.upsert key ((table.find? key).getD [] ++ [value])

/-- After a loop over some items each key has the items that belong to it. -/
theorem find?_foldl_push (key : α → κ) (items : List α) (table : Table κ (List α)) (wanted : κ) :
    ((items.foldl (fun table item => table.push (key item) item) table).find? wanted).getD [] =
      (table.find? wanted).getD [] ++ items.filter fun item => decide (key item = wanted) := by
  induction items generalizing table with
  | nil => simp
  | cons item rest ih =>
      rw [List.foldl_cons, ih, push, find?_upsert]
      by_cases same : wanted = key item
      · subst same
        simp
      · rw [if_neg same, List.filter_cons_of_neg (by simpa using Ne.symm same)]

theorem nodup_keys_push {table : Table κ (List α)} (distinct : table.keys.Nodup) (key : κ) (value : α) :
    (table.push key value).keys.Nodup :=
  nodup_keys_upsert distinct key _

end Groups

end Table

end ClosedLoop.Library
