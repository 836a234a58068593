import ClosedLoop.Library.Json
import ClosedLoop.Library.Table
import Mathlib.Data.List.Infix
import Mathlib.Data.List.Perm.Subperm

namespace ClosedLoop.Library.Json

/-- A path of names and the value at its end. -/
abbrev Leaf := List String × Json

/-- The leaf of a value, seen from an object that has the value at a path. -/
def Leaf.under (path : List String) (leaf : Leaf) : Leaf := (path ++ leaf.1, leaf.2)

mutual

/-- The leaves of a value, with each name of a path replaced by its parts. An empty object is a leaf. -/
def leavesBy (parts : String → List String) : Json → List Leaf
  | .obj [] => [([], .obj [])]
  | .obj (field :: rest) => entriesBy parts (field :: rest)
  | .null => [([], .null)]
  | .bool value => [([], .bool value)]
  | .int value => [([], .int value)]
  | .float value => [([], .float value)]
  | .str value => [([], .str value)]
  | .arr items => [([], .arr items)]

/-- The leaves of the fields of an object. -/
def entriesBy (parts : String → List String) : List (String × Json) → List Leaf
  | [] => []
  | (name, value) :: rest => (leavesBy parts value).map (Leaf.under (parts name)) ++ entriesBy parts rest

end

/-- The leaves of a value by the names of the fields. -/
abbrev leaves : Json → List Leaf := leavesBy fun name => [name]

/-- The leaves of an object by the names of its fields. -/
abbrev entries : List (String × Json) → List Leaf := entriesBy fun name => [name]

mutual

/-- No object in the value has a name twice. -/
def Unique : Json → Prop
  | .obj fields => UniqueFields fields
  | _ => True

def UniqueFields : List (String × Json) → Prop
  | [] => True
  | (name, value) :: rest => name ∉ rest.map Prod.fst ∧ Unique value ∧ UniqueFields rest

end

/-- The fields of an object, or of an object inside it, come in another order. -/
inductive Reordered : List (String × Json) → List (String × Json) → Prop where
  | nil : Reordered [] []
  | skip {first second : List (String × Json)} (field : String × Json) (rest : Reordered first second) :
      Reordered (field :: first) (field :: second)
  | inside {first second : List (String × Json)} (name : String) (rest : List (String × Json))
      (inner : Reordered first second) : Reordered ((name, .obj first) :: rest) ((name, .obj second) :: rest)
  | swap (first second : String × Json) (rest : List (String × Json)) :
      Reordered (second :: first :: rest) (first :: second :: rest)
  | trans {first second third : List (String × Json)} (left : Reordered first second)
      (right : Reordered second third) : Reordered first third

section Leaves

variable {parts : String → List String}

/-- Two steps down are one. -/
theorem under_under (first second : List String) (leaf : Leaf) :
    (leaf.under second).under first = leaf.under (first ++ second) := by
  simp [Leaf.under, List.append_assoc]

/-- Leaves under one path differ as before. -/
theorem under_injective (path : List String) : Function.Injective (Leaf.under path) := by
  intro first second same
  obtain ⟨paths, values⟩ := Prod.mk.inj same
  exact Prod.ext (List.append_cancel_left paths) values

theorem map_under_under (first second : List String) (found : List Leaf) :
    (found.map (Leaf.under second)).map (Leaf.under first) = found.map (Leaf.under (first ++ second)) := by
  rw [List.map_map]
  exact List.map_congr_left fun leaf _ => under_under first second leaf

/-- The entries are the leaves of each field under its parts. -/
theorem entriesBy_eq (fields : List (String × Json)) :
    entriesBy parts fields = fields.flatMap fun field => (leavesBy parts field.2).map (Leaf.under (parts field.1)) := by
  induction fields with
  | nil => rfl
  | cons field rest ih => rw [entriesBy, ih, List.flatMap_cons]

/-- The entries of two lists of fields follow each other. -/
theorem entriesBy_append (first second : List (String × Json)) :
    entriesBy parts (first ++ second) = entriesBy parts first ++ entriesBy parts second := by
  rw [entriesBy_eq, entriesBy_eq, entriesBy_eq, List.flatMap_append]

/-- Fields in another order have the same entries in another order. -/
theorem entriesBy_perm {first second : List (String × Json)} (same : first.Perm second) :
    (entriesBy parts first).Perm (entriesBy parts second) := by
  rw [entriesBy_eq, entriesBy_eq]
  exact same.flatMap_right _

theorem leavesBy_obj {fields : List (String × Json)} (some : fields ≠ []) :
    leavesBy parts (.obj fields) = entriesBy parts fields := by
  cases fields with
  | nil => exact absurd rfl some
  | cons field rest => rfl

theorem leaves_obj {fields : List (String × Json)} (some : fields ≠ []) : leaves (.obj fields) = entries fields :=
  leavesBy_obj some

/-- Every value has a leaf. -/
theorem leavesBy_ne_nil (parts : String → List String) (value : Json) : leavesBy parts value ≠ [] := by
  induction value using Json.induct with
  | obj fields ih =>
      cases fields with
      | nil => simp [leavesBy]
      | cons field rest =>
          have head := ih field List.mem_cons_self
          simp [leavesBy, entriesBy, head]
  | _ => simp [leavesBy]

/-- A value is an object with fields when all its leaves are below it. -/
theorem object_of_deep {value : Json} (deep : ∀ leaf ∈ leavesBy parts value, leaf.1 ≠ []) :
    ∃ fields, value = .obj fields ∧ fields ≠ [] := by
  cases value with
  | obj fields =>
      refine ⟨fields, rfl, ?_⟩
      rintro rfl
      exact deep ([], .obj []) (by simp [leavesBy]) rfl
  | null => exact absurd rfl (deep ([], .null) (by simp [leavesBy]))
  | bool value => exact absurd rfl (deep ([], .bool value) (by simp [leavesBy]))
  | int value => exact absurd rfl (deep ([], .int value) (by simp [leavesBy]))
  | float value => exact absurd rfl (deep ([], .float value) (by simp [leavesBy]))
  | str value => exact absurd rfl (deep ([], .str value) (by simp [leavesBy]))
  | arr items => exact absurd rfl (deep ([], .arr items) (by simp [leavesBy]))

/-- An entry is a leaf of some field. -/
theorem mem_entriesBy {fields : List (String × Json)} {leaf : Leaf} :
    leaf ∈ entriesBy parts fields ↔
      ∃ field ∈ fields, ∃ inner ∈ leavesBy parts field.2, inner.under (parts field.1) = leaf := by
  rw [entriesBy_eq, List.mem_flatMap]
  simp only [List.mem_map]

/-- A leaf that is not the value itself is below a field. -/
theorem mem_leavesBy_obj {fields : List (String × Json)} {leaf : Leaf} (member : leaf ∈ leavesBy parts (.obj fields))
    (deep : leaf.1 ≠ []) : leaf ∈ entriesBy parts fields := by
  cases fields with
  | nil =>
      rw [leavesBy, List.mem_singleton] at member
      exact absurd (congrArg Prod.fst member) deep
  | cons field rest => exact member

/-- The number of leaves does not depend on how the names are split. -/
theorem length_leavesBy (first second : String → List String) (value : Json) :
    (leavesBy first value).length = (leavesBy second value).length := by
  induction value using Json.induct with
  | obj fields ih =>
      cases fields with
      | nil => rfl
      | cons field rest =>
          rw [leavesBy_obj (List.cons_ne_nil _ _), leavesBy_obj (List.cons_ne_nil _ _), entriesBy_eq, entriesBy_eq,
            List.length_flatMap, List.length_flatMap]
          refine congrArg List.sum (List.map_congr_left fun entry member => ?_)
          rw [List.length_map, List.length_map, ih entry member]
  | _ => rfl

/-- Names that are their own parts give the paths of the names. -/
theorem leavesBy_congr {first second : String → List String} {value : Json}
    (same : ∀ leaf ∈ leaves value, ∀ name ∈ leaf.1, first name = second name) :
    leavesBy first value = leavesBy second value := by
  induction value using Json.induct with
  | obj fields ih =>
      cases fields with
      | nil => rfl
      | cons field rest =>
          rw [leavesBy_obj (List.cons_ne_nil _ _), leavesBy_obj (List.cons_ne_nil _ _), entriesBy_eq, entriesBy_eq]
          refine List.flatMap_congr fun entry member => ?_
          have below : ∀ leaf ∈ leaves entry.2, leaf.under [entry.1] ∈ leaves (.obj (field :: rest)) := fun leaf inner =>
            mem_entriesBy.mpr ⟨entry, member, leaf, inner, rfl⟩
          obtain ⟨leaf, inner⟩ := List.exists_mem_of_ne_nil _ (leavesBy_ne_nil _ entry.2)
          have head : first entry.1 = second entry.1 := same _ (below leaf inner) entry.1 List.mem_cons_self
          rw [ih entry member fun leaf inner name listed => same _ (below leaf inner) name (List.mem_cons_of_mem _ listed),
            head]
  | _ => rfl

/-- Reordered fields have the same entries in another order. -/
theorem reordered_entriesBy {first second : List (String × Json)} (same : Reordered first second) :
    (entriesBy parts first).Perm (entriesBy parts second) ∧ (first = [] ↔ second = []) := by
  induction same with
  | nil => exact ⟨.refl _, Iff.rfl⟩
  | skip field _ ih => exact ⟨ih.1.append_left _, by simp⟩
  | @inside first second name rest _ ih =>
      refine ⟨List.Perm.append_right _ (List.Perm.map _ ?_), by simp⟩
      by_cases empty : first = []
      · rw [empty, ih.2.mp empty]
      · rw [leavesBy_obj empty, leavesBy_obj fun none => empty (ih.2.mpr none)]
        exact ih.1
  | swap first second rest => exact ⟨entriesBy_perm (.swap first second rest), by simp⟩
  | trans _ _ left right => exact ⟨left.1.trans right.1, left.2.trans right.2⟩

theorem Reordered.refl (fields : List (String × Json)) : Reordered fields fields := by
  induction fields with
  | nil => exact .nil
  | cons field rest ih => exact .skip field ih

theorem Reordered.of_perm {first second : List (String × Json)} (same : first.Perm second) :
    Reordered first second := by
  induction same with
  | nil => exact .nil
  | cons field _ ih => exact .skip field ih
  | swap first second rest => exact .swap first second rest
  | trans _ _ left right => exact .trans left right

end Leaves

section Names

/-- Names are unique on every level. -/
theorem uniqueFields_iff {fields : List (String × Json)} :
    UniqueFields fields ↔ (Table.keys fields).Nodup ∧ ∀ field ∈ fields, Unique field.2 := by
  induction fields with
  | nil => simp [UniqueFields, Table.keys]
  | cons field rest ih =>
      simp only [UniqueFields, ih, Table.keys, List.map_cons, List.nodup_cons, List.forall_mem_cons]
      tauto

/-- Reordered fields have the same names, which are unique in both or in neither. -/
theorem reordered_unique {first second : List (String × Json)} (same : Reordered first second) :
    (first.map Prod.fst).Perm (second.map Prod.fst) ∧ (UniqueFields first ↔ UniqueFields second) := by
  induction same with
  | nil => exact ⟨.refl _, Iff.rfl⟩
  | skip field _ ih =>
      refine ⟨ih.1.cons field.1, ?_⟩
      simp only [UniqueFields, ih.1.mem_iff, ih.2]
  | inside name rest _ ih => exact ⟨.refl _, by simp only [UniqueFields, Unique, ih.2]⟩
  | swap first second rest =>
      refine ⟨.swap first.1 second.1 _, ?_⟩
      simp only [UniqueFields, List.map_cons, List.mem_cons, not_or]
      constructor
      · rintro ⟨⟨apart, one⟩, two, three, four⟩
        exact ⟨⟨Ne.symm apart, three⟩, four.1, one, two, four.2⟩
      · rintro ⟨⟨apart, one⟩, two, three, four⟩
        exact ⟨⟨Ne.symm apart, three⟩, four.1, one, two, four.2⟩
  | trans _ _ left right => exact ⟨left.1.trans right.1, left.2.trans right.2⟩

end Names

end ClosedLoop.Library.Json
