import Mathlib.Data.Rat.Defs
import Mathlib.Data.List.Sort
import Mathlib.Data.String.Basic

namespace ClosedLoop.Library

/-- A float of double precision. Every number that occurs as `finite` is one that a double holds. -/
inductive Double where
  | finite (value : Rat)
  | negativeZero
  | infinity (negative : Bool)
  | nan
  deriving DecidableEq, Repr

/-- The number of a finite float. -/
def Double.number? : Double → Option Rat
  | .finite value => some value
  | .negativeZero => some 0
  | _ => none

/-- The number of a float that is known to be finite. -/
def Double.value (number : Double) : Rat := number.number?.getD 0

/-- A value decoded from JSON text. -/
inductive Json where
  | null
  | bool (value : Bool)
  | int (value : Int)
  | float (value : Double)
  | str (value : String)
  | arr (items : List Json)
  | obj (fields : List (String × Json))

namespace Json

/-- `mapping.get(name)` with a missing field read as null. -/
def get (fields : List (String × Json)) (name : String) : Json := (fields.lookup name).getD .null

/-- The text of a string value. -/
def text : Json → String
  | .str value => value
  | _ => ""

/-- `set(mapping) == names` compares the field names only. -/
def hasExactly (fields : List (String × Json)) (names : List String) : Bool :=
  fields.all (fun field => field.1 ∈ names) && names.all (fun name => name ∈ fields.map Prod.fst)

/-- A number equals an integer in each of its spellings. -/
def equalsInt : Json → Int → Bool
  | .bool value, number => number = if value then 1 else 0
  | .int value, number => value = number
  | .float value, number => value.number? = some (number : Rat)
  | _, _ => false

mutual

/-- The value with the fields of every object in the order of their names. -/
def sortKeys : Json → Json
  | .arr items => .arr (sortItems items)
  | .obj fields => .obj ((sortFields fields).insertionSort fun first second => first.1 ≤ second.1)
  | .null => .null
  | .bool value => .bool value
  | .int value => .int value
  | .float value => .float value
  | .str value => .str value

def sortItems : List Json → List Json
  | [] => []
  | item :: rest => sortKeys item :: sortItems rest

def sortFields : List (String × Json) → List (String × Json)
  | [] => []
  | (name, value) :: rest => (name, sortKeys value) :: sortFields rest

end

/-- A property of values holds when it passes from the items and the fields of a value to the value. -/
theorem induct {motive : Json → Prop} (null : motive .null) (bool : ∀ value, motive (.bool value))
    (int : ∀ value, motive (.int value)) (float : ∀ value, motive (.float value)) (str : ∀ value, motive (.str value))
    (arr : ∀ items, (∀ item ∈ items, motive item) → motive (.arr items))
    (obj : ∀ fields, (∀ field ∈ fields, motive field.2) → motive (.obj fields)) (value : Json) : motive value := by
  refine @Json.rec motive (fun items => ∀ item ∈ items, motive item) (fun fields => ∀ field ∈ fields, motive field.2)
    (fun field => motive field.2) null bool int float str arr obj ?_ ?_ ?_ ?_ (fun _ _ holds => holds) value
  · intro item member
    cases member
  · intro head tail headHolds tailHolds item member
    rcases List.mem_cons.mp member with same | later
    · exact same ▸ headHolds
    · exact tailHolds item later
  · intro field member
    cases member
  · intro head tail headHolds tailHolds field member
    rcases List.mem_cons.mp member with same | later
    · exact same ▸ headHolds
    · exact tailHolds field later

/-- Items are sorted one by one. -/
theorem sortItems_eq (items : List Json) : sortItems items = items.map sortKeys := by
  induction items with
  | nil => rfl
  | cons item rest ih => rw [sortItems, ih, List.map_cons]

/-- Fields are sorted inside one by one. -/
theorem sortFields_eq (fields : List (String × Json)) :
    sortFields fields = fields.map fun field => (field.1, sortKeys field.2) := by
  induction fields with
  | nil => rfl
  | cons field rest ih => rw [sortFields, ih, List.map_cons]

/-- A field that may be missing is found under its own name only. -/
theorem lookup_optional {α : Type} (name other : String) (write : α → Json) (value : Option α) :
    (value.toList.map fun found => (name, write found)).lookup other =
      if other = name then value.map write else none := by
  cases value with
  | none => simp
  | some found =>
      by_cases same : other = name
      · simp [same]
      · have skipped : (other == name) = false := by simpa using same
        simp [List.lookup_cons, skipped, same]

/-- A stable sort by the names keeps the first field of each name in front of the others. -/
theorem lookup_insertionSort (fields : List (String × Json)) (name : String) :
    (fields.insertionSort fun first second => first.1 ≤ second.1).lookup name = fields.lookup name := by
  have inserted : ∀ (field : String × Json) (sorted : List (String × Json)),
      (sorted.orderedInsert (fun first second => first.1 ≤ second.1) field).lookup name =
        (field :: sorted).lookup name := by
    intro field sorted
    induction sorted with
    | nil => rfl
    | cons head rest ih =>
        rw [List.orderedInsert]
        split
        · rfl
        · rename_i later
          have different : field.1 ≠ head.1 := fun same => later (same ▸ le_refl _)
          rw [List.lookup_cons, ih, List.lookup_cons, List.lookup_cons, List.lookup_cons]
          by_cases same : name = head.1
          · have skipped : (name == field.1) = false := by simpa [same] using Ne.symm different
            have found : (name == head.1) = true := by simpa using same
            rw [skipped, found]
          · have skipped : (name == head.1) = false := by simpa using same
            rw [skipped]
  induction fields with
  | nil => rfl
  | cons field rest ih =>
      rw [List.insertionSort_cons, inserted, List.lookup_cons, List.lookup_cons, ih]

/-- The fields of a value are sorted with it. -/
theorem lookup_sortFields (fields : List (String × Json)) (name : String) :
    ((sortFields fields).insertionSort fun first second => first.1 ≤ second.1).lookup name =
      (fields.lookup name).map sortKeys := by
  rw [lookup_insertionSort, sortFields_eq]
  induction fields with
  | nil => rfl
  | cons field rest ih =>
      rw [List.map_cons, List.lookup_cons, List.lookup_cons, ih]
      split <;> rfl

/-- Sorted fields stay as they are. -/
theorem sortKeys_sortKeys (value : Json) : value.sortKeys.sortKeys = value.sortKeys := by
  induction value using induct with
  | null | bool | int | float | str => rfl
  | arr items ih =>
      rw [sortKeys, sortItems_eq, sortKeys, sortItems_eq, List.map_map]
      exact congrArg Json.arr (List.map_congr_left ih)
  | obj fields ih =>
      rw [sortKeys, sortFields_eq, sortKeys, sortFields_eq]
      have sorted := (List.pairwise_insertionSort (fun first second : String × Json => first.1 ≤ second.1)
        (fields.map fun field => (field.1, sortKeys field.2)))
      have same : ((fields.map fun field => (field.1, sortKeys field.2)).insertionSort
          fun first second => first.1 ≤ second.1).map (fun field => (field.1, sortKeys field.2)) =
          (fields.map fun field => (field.1, sortKeys field.2)).insertionSort fun first second => first.1 ≤ second.1 := by
        refine (List.map_congr_left fun field member => ?_).trans (List.map_id _)
        obtain ⟨before, listed, rfl⟩ := List.mem_map.mp ((List.mem_insertionSort _).mp member)
        exact Prod.ext rfl (ih before listed)
      rw [same, sorted.insertionSort_eq]

/-- Objects that differ in the order of fields only have the same fields. -/
theorem lookup_of_sortKeys {fields others : List (String × Json)}
    (same : sortKeys (.obj fields) = sortKeys (.obj others)) (name : String) :
    (fields.lookup name).map sortKeys = (others.lookup name).map sortKeys := by
  rw [sortKeys, sortKeys, Json.obj.injEq] at same
  rw [← lookup_sortFields, ← lookup_sortFields, same]

end Json

end ClosedLoop.Library
