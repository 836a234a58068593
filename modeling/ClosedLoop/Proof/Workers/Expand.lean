import ClosedLoop.Construction.Workers.Expand
import ClosedLoop.Library.Check
import ClosedLoop.Library.JsonPaths

namespace ClosedLoop.Workers

open ClosedLoop.Library ClosedLoop.Library.Json

section Fields

variable {fields : List (String × Json)}

/-- The leaves below the field of a name. -/
def leavesAt (fields : List (String × Json)) (name : String) : List Leaf :=
  ((Table.find? fields name).toList.map (name, ·)).flatMap fun field => (leaves field.2).map (Leaf.under [field.1])

/-- The fields with other names. -/
def othersThan (fields : List (String × Json)) (name : String) : List (String × Json) := fields.filter (·.1 ≠ name)

/-- The leaves of an object are those of one field and those of the others. -/
theorem entries_split (unique : UniqueFields fields) (name : String) :
    (entries fields).Perm (leavesAt fields name ++ entries (othersThan fields name)) := by
  have split := Table.perm_split (uniqueFields_iff.mp unique).1 name
  refine (entriesBy_perm split).trans ?_
  rw [entriesBy_append, entriesBy_eq]
  exact .refl _

/-- A field that is set leaves the names unique. -/
theorem unique_upsert (unique : UniqueFields fields) {value : Json} (fits : Unique value) (name : String) :
    UniqueFields (Table.upsert fields name value) := by
  obtain ⟨distinct, each⟩ := uniqueFields_iff.mp unique
  refine uniqueFields_iff.mpr ⟨Table.nodup_keys_upsert distinct name value, fun field member => ?_⟩
  rcases Table.mem_upsert distinct member with rfl | ⟨old, _⟩
  · exact fits
  · exact each field old

/-- There is a leaf below each name. -/
theorem exists_leaf_of_key {name : String} (member : name ∈ Table.keys fields) :
    ∃ leaf : Leaf, leaf.under [name] ∈ leaves (.obj fields) := by
  obtain ⟨field, listed, rfl⟩ := List.mem_map.mp member
  obtain ⟨leaf, inside⟩ := List.exists_mem_of_ne_nil _ (leavesBy_ne_nil (fun name => [name]) field.2)
  refine ⟨leaf, ?_⟩
  rw [leaves_obj (List.ne_nil_of_mem listed)]
  exact mem_entriesBy.mpr ⟨field, listed, leaf, inside, rfl⟩

/-- A value that is found under a unique name has unique names itself. -/
theorem unique_find {name : String} {value : Json} (unique : UniqueFields fields)
    (found : Table.find? fields name = some value) : Unique value :=
  (uniqueFields_iff.mp unique).2 _ (Table.mem_of_find? found)

/-- The leaves after an assignment are those of the new value and those of the other fields. -/
theorem entries_upsert (unique : UniqueFields fields) {value : Json} (fits : Unique value) (name : String) :
    (entries (Table.upsert fields name value)).Perm
      ((leaves value).map (Leaf.under [name]) ++ entries (othersThan fields name)) := by
  have split := entries_split (unique_upsert unique fits name) name
  rw [othersThan, Table.filter_upsert] at split
  refine split.trans (List.Perm.append_right _ ?_)
  rw [leavesAt, Table.find?_upsert_self]
  simp

/-- The leaves of a field that is there are those of its value, one name deeper. -/
theorem leavesAt_some {name : String} {value : Json} (found : Table.find? fields name = some value) :
    leavesAt fields name = (leaves value).map (Leaf.under [name]) := by
  simp [leavesAt, found]

/-- A field that is missing has no leaves. -/
theorem leavesAt_none {name : String} (missing : Table.find? fields name = none) : leavesAt fields name = [] := by
  simp [leavesAt, missing]

/-- A leaf below a name belongs to the field of the name. -/
theorem mem_leavesAt (unique : UniqueFields fields) {name : String} {path : List String} {value : Json}
    (member : (name :: path, value) ∈ entries fields) : (name :: path, value) ∈ leavesAt fields name := by
  rcases List.mem_append.mp ((entries_split unique name).mem_iff.mp member) with here | other
  · exact here
  · obtain ⟨field, listed, inner, _, same⟩ := mem_entriesBy.mp other
    have different := of_decide_eq_true (List.mem_filter.mp listed).2
    have equal := congrArg Prod.fst same
    simp only [Leaf.under, List.cons_append, List.nil_append, List.cons.injEq] at equal
    exact absurd equal.1 different

/-- A leaf of a field's value is a leaf of the object. -/
theorem mem_entries_of_find {name : String} {child : Json} (found : Table.find? fields name = some child) {leaf : Leaf}
    (member : leaf ∈ leaves child) : leaf.under [name] ∈ entries fields :=
  mem_entriesBy.mpr ⟨(name, child), Table.mem_of_find? found, leaf, member, rfl⟩

end Fields

section Dotted

/-- An assignment at a path that no leaf meets adds the leaves of the value. -/
theorem assignPath_ok {node : List (String × Json)} (unique : UniqueFields node) {value : Json} (fits : Unique value)
    (parents : List String) (name : String)
    (apart : ∀ leaf ∈ entries node, ¬ parents ++ [name] <+: leaf.1 ∧ ¬ leaf.1 <+: parents ++ [name]) :
    ∃ result, assignPath node parents name value = .ok result ∧ UniqueFields result ∧
      (entries result).Perm (entries node ++ (leaves value).map (Leaf.under (parents ++ [name]))) := by
  induction parents generalizing node with
  | nil =>
      have missing : Table.find? node name = none := by
        cases found : Table.find? node name with
        | none => rfl
        | some child =>
            obtain ⟨leaf, member⟩ := List.exists_mem_of_ne_nil _ (leavesBy_ne_nil (fun name => [name]) child)
            exact absurd (List.prefix_append [name] leaf.1) (apart _ (mem_entries_of_find found member)).1
      have split := entries_split unique name
      rw [leavesAt_none missing, List.nil_append] at split
      refine ⟨_, rfl, unique_upsert unique fits name, (entries_upsert unique fits name).trans ?_⟩
      exact List.perm_append_comm.trans (split.symm.append_right _)
  | cons part parents ih =>
      unfold assignPath
      cases found : Table.find? node part with
      | none =>
          obtain ⟨inner, done, proper, same⟩ := ih (show UniqueFields [] from trivial) (by simp [entriesBy])
          have filled : inner ≠ [] := by
            rintro rfl
            simp [entriesBy, leavesBy_ne_nil] at same
          have split := entries_split unique part
          rw [leavesAt_none found, List.nil_append] at split
          refine ⟨_, by rw [done]; rfl, unique_upsert unique (show Json.Unique (.obj inner) from proper) part, ?_⟩
          refine (entries_upsert unique (show Json.Unique (.obj inner) from proper) part).trans ?_
          rw [leaves_obj filled]
          refine List.perm_append_comm.trans (split.symm.append ?_)
          refine (same.map _).trans ?_
          rw [show entries [] = [] from rfl, List.nil_append, map_under_under]
          exact .refl _
      | some child =>
          have below : ∀ leaf ∈ leaves child, ¬ parents ++ [name] <+: leaf.1 ∧ ¬ leaf.1 <+: parents ++ [name] := by
            intro leaf member
            have outside := apart _ (mem_entries_of_find found member)
            simpa [Leaf.under, List.cons_prefix_cons] using outside
          have deep : ∀ leaf ∈ leaves child, leaf.1 ≠ [] := by
            intro leaf member empty
            exact (below leaf member).2 (empty ▸ List.nil_prefix)
          obtain ⟨existing, rfl, filled⟩ := object_of_deep deep
          have proper : UniqueFields existing := unique_find unique found
          rw [leaves_obj filled] at below
          obtain ⟨inner, done, kept, same⟩ := ih proper below
          have more : inner ≠ [] := by
            rintro rfl
            simp [entriesBy, leavesBy_ne_nil] at same
          have split := entries_split unique part
          rw [leavesAt_some found, leaves_obj filled] at split
          refine ⟨_, by simp only [done]; rfl, unique_upsert unique (show Json.Unique (.obj inner) from kept) part, ?_⟩
          refine (entries_upsert unique (show Json.Unique (.obj inner) from kept) part).trans ?_
          rw [leaves_obj more]
          refine (((same.map _).append_right _).trans ?_).trans (split.symm.append_right _)
          rw [List.map_append, map_under_under, List.append_assoc, List.append_assoc]
          exact List.Perm.append_left _ List.perm_append_comm

/-- The leaves of a node after a change that adds a value at a path. A leaf may be lost, and one is lost when the
change `loses` one. -/
structure Kept (node result : List (String × Json)) (path : List String) (value : Json) (loses : Prop) : Prop where
  unique : UniqueFields result
  within : (entries result).Subperm (entries node ++ (leaves value).map (Leaf.under path))
  fewer : loses → (entries result).length < (entries node).length + (leaves value).length

/-- The change of one field changes the leaves below it. -/
theorem Kept.of_upsert {node : List (String × Json)} (unique : UniqueFields node) {name : String} {changed : Json}
    (fits : Unique changed) {path : List String} {value : Json} {loses : Prop}
    (within : ((leaves changed).map (Leaf.under [name])).Subperm
      (leavesAt node name ++ (leaves value).map (Leaf.under path)))
    (fewer : loses → (leaves changed).length < (leavesAt node name).length + (leaves value).length) :
    Kept node (Table.upsert node name changed) path value loses := by
  have after := entries_upsert unique fits name
  have split := entries_split unique name
  refine ⟨unique_upsert unique fits name, ?_, fun lost => ?_⟩
  · have moved : (leavesAt node name ++ (leaves value).map (Leaf.under path) ++ entries (othersThan node name)).Perm
        (leavesAt node name ++ entries (othersThan node name) ++ (leaves value).map (Leaf.under path)) := by
      rw [List.append_assoc, List.append_assoc]
      exact List.Perm.append_left _ List.perm_append_comm
    refine after.subperm.trans (((List.subperm_append_right _).mpr within).trans ?_)
    exact (moved.trans (split.symm.append_right _)).subperm
  · have before := split.length_eq
    have strict := fewer lost
    rw [after.length_eq, List.length_append, List.length_map]
    rw [List.length_append] at before
    omega

/-- An object with a field that is set is not empty. -/
theorem upsert_ne_nil (table : List (String × Json)) (key : String) (value : Json) :
    Table.upsert table key value ≠ [] := by
  intro empty
  have self := Table.find?_upsert_self table key value
  rw [empty] at self
  cases self

/-- The entries are leaves of the object, in its order. -/
theorem entries_sublist (fields : List (String × Json)) : (entries fields).Sublist (leaves (.obj fields)) := by
  cases fields with
  | nil => exact List.nil_sublist _
  | cons field rest => exact List.Sublist.refl _

/-- A leaf with a name in front is below the field of the name. -/
theorem exists_below {node : List (String × Json)} (unique : UniqueFields node) {name : String} {path : List String}
    {leaf : Leaf} (member : leaf ∈ entries node) (first : name :: path <+: leaf.1) :
    ∃ inside : Leaf, path <+: inside.1 ∧ inside.under [name] ∈ leavesAt node name := by
  obtain ⟨rest, same⟩ := first
  have whole : (name :: (path ++ rest), leaf.2) ∈ entries node := by
    rw [show name :: (path ++ rest) = leaf.1 from same]
    exact member
  exact ⟨(path ++ rest, leaf.2), List.prefix_append path rest, mem_leavesAt unique whole⟩

/-- A path that is assigned holds its value, and the leaves that stay are the ones beside it. -/
theorem assignPath_kept {node : List (String × Json)} (unique : UniqueFields node) {value : Json} (fits : Unique value)
    (parents : List String) (name : String) {result : List (String × Json)}
    (done : assignPath node parents name value = .ok result) :
    result ≠ [] ∧ Kept node result (parents ++ [name]) value (∃ leaf ∈ entries node, parents ++ [name] <+: leaf.1) := by
  induction parents generalizing node result with
  | nil =>
      obtain rfl : Table.upsert node name value = result := by simpa [assignPath] using done
      refine ⟨upsert_ne_nil _ _ _, .of_upsert unique fits (List.sublist_append_right _ _).subperm ?_⟩
      rintro ⟨leaf, member, first⟩
      obtain ⟨inside, _, here⟩ := exists_below unique member first
      have positive := List.length_pos_of_mem here
      omega
  | cons part parents ih =>
      unfold assignPath at done
      cases found : Table.find? node part with
      | none =>
          rw [found] at done
          obtain ⟨inner, assigned, rfl⟩ : ∃ inner, assignPath [] parents name value = .ok inner ∧
              Table.upsert node part (.obj inner) = result := by
            simpa only [Check.bind_ok, Check.pure_ok] using done
          obtain ⟨more, kept⟩ := ih (show UniqueFields [] from trivial) assigned
          refine ⟨upsert_ne_nil _ _ _, .of_upsert unique (show Json.Unique (.obj inner) from kept.unique) ?_ ?_⟩
          · have inside := kept.within.map (under_injective [part])
            rw [show entries [] = [] from rfl, List.nil_append, map_under_under] at inside
            rw [leaves_obj more]
            exact inside.trans (List.sublist_append_right _ _).subperm
          · rintro ⟨leaf, member, first⟩
            obtain ⟨_, _, here⟩ := exists_below unique member first
            rw [leavesAt_none found] at here
            cases here
      | some child =>
          rw [found] at done
          cases child with
          | obj existing =>
              obtain ⟨inner, assigned, rfl⟩ : ∃ inner, assignPath existing parents name value = .ok inner ∧
                  Table.upsert node part (.obj inner) = result := by
                simpa only [Check.bind_ok, Check.pure_ok] using done
              obtain ⟨more, kept⟩ := ih (unique_find unique found) assigned
              refine ⟨upsert_ne_nil _ _ _, .of_upsert unique (show Json.Unique (.obj inner) from kept.unique) ?_ ?_⟩
              · have inside := kept.within.map (under_injective [part])
                rw [List.map_append, map_under_under] at inside
                rw [leaves_obj more, leavesAt_some found]
                exact inside.trans ((List.subperm_append_right _).mpr ((entries_sublist existing).map _).subperm)
              · rintro ⟨leaf, member, first⟩
                obtain ⟨inside, start, here⟩ := exists_below unique member first
                rw [leavesAt_some found, List.mem_map_of_injective (under_injective [part])] at here
                have deep : inside.1 ≠ [] := by
                  intro empty
                  simp [empty] at start
                have strict := kept.fewer ⟨inside, mem_leavesBy_obj here deep, start⟩
                have narrow := (entries_sublist existing).length_le
                rw [leaves_obj more, leavesAt_some found, List.length_map]
                omega
          | _ => cases done

end Dotted

section Plain

/-- The leaves after `update`. One is lost for a name that both objects have. -/
theorem updateWith_kept {existing : List (String × Json)} (unique : UniqueFields existing)
    {fields : List (String × Json)} (fits : ∀ field ∈ fields, Unique field.2) :
    UniqueFields (updateWith existing fields) ∧
      (entries (updateWith existing fields)).Subperm (entries existing ++ entries fields) ∧
      ((∃ name, name ∈ Table.keys existing ∧ name ∈ Table.keys fields) →
        (entries (updateWith existing fields)).length < (entries existing).length + (entries fields).length) := by
  induction fields generalizing existing with
  | nil =>
      refine ⟨unique, (List.sublist_append_left _ _).subperm, ?_⟩
      rintro ⟨_, _, listed⟩
      cases listed
  | cons field rest ih =>
      have first : Kept existing (Table.upsert existing field.1 field.2) [field.1] field.2
          (field.1 ∈ Table.keys existing) := by
        refine .of_upsert unique (fits field List.mem_cons_self) (List.sublist_append_right _ _).subperm ?_
        intro taken
        obtain ⟨child, found⟩ := Table.mem_keys_iff.mp taken
        have positive : 0 < (leavesAt existing field.1).length := by
          rw [leavesAt_some found, List.length_map]
          exact List.length_pos_iff.mpr (leavesBy_ne_nil _ child)
        omega
      obtain ⟨proper, within, fewer⟩ := ih first.unique fun other member => fits other (List.mem_cons_of_mem _ member)
      have counted : (entries (field :: rest)).length = (leaves field.2).length + (entries rest).length := by
        rw [entries, entriesBy, List.length_append, List.length_map]
      refine ⟨proper, within.trans ?_, ?_⟩
      · have grown := (List.subperm_append_right (entries rest)).mpr first.within
        rw [List.append_assoc] at grown
        exact grown
      · rintro ⟨name, old, new⟩
        have smaller := within.length_le
        have kept := first.within.length_le
        rw [List.length_append] at smaller
        rw [List.length_append, List.length_map] at kept
        rcases List.mem_cons.mp new with rfl | later
        · have strict := first.fewer old
          simp only [updateWith, List.foldl_cons] at smaller ⊢
          omega
        · have strict := fewer ⟨name, Table.mem_keys_upsert.mpr (Or.inr old), later⟩
          simp only [updateWith, List.foldl_cons] at strict ⊢
          omega

/-- An update with a field gives an object with one. -/
theorem updateWith_ne_nil {existing fields : List (String × Json)} (some : existing ≠ [] ∨ fields ≠ []) :
    updateWith existing fields ≠ [] := by
  induction fields generalizing existing with
  | nil => exact some.resolve_right fun none => none rfl
  | cons field rest ih => exact ih (Or.inl (upsert_ne_nil existing field.1 field.2))

/-- A key without a dot loses a leaf when its field is there and both objects have a name. -/
theorem mergeKey_kept {expanded : List (String × Json)} (unique : UniqueFields expanded) (key : String) {value : Json}
    (fits : Unique value) :
    Kept expanded (mergeKey expanded key value) [key] value
      (∃ existing fields name, Table.find? expanded key = some (.obj existing) ∧ value = .obj fields ∧
        name ∈ Table.keys existing ∧ name ∈ Table.keys fields) := by
  unfold mergeKey
  split
  · rename_i existing fields found
    have each := (uniqueFields_iff.mp (show UniqueFields fields from fits)).2
    have known : UniqueFields existing := unique_find unique found
    obtain ⟨proper, within, fewer⟩ := updateWith_kept known each
    refine .of_upsert unique (show Json.Unique (.obj (updateWith existing fields)) from proper) ?_ ?_
    · rw [leavesAt_some found, ← List.map_append]
      refine List.Subperm.map (under_injective [key]) ?_
      cases fields with
      | nil => exact (List.sublist_append_left _ _).subperm
      | cons field rest =>
          rw [leaves_obj (updateWith_ne_nil (Or.inr (List.cons_ne_nil field rest)))]
          exact within.trans ((entries_sublist existing).subperm.append (entries_sublist (field :: rest)).subperm)
    · rintro ⟨other, more, name, again, same, old, new⟩
      obtain rfl : existing = other := by simpa [found] using again
      obtain rfl : fields = more := by simpa using same
      have strict := fewer ⟨name, old, new⟩
      have shallow := (entries_sublist existing).length_le
      cases fields with
      | nil => cases new
      | cons field rest =>
          rw [leaves_obj (updateWith_ne_nil (Or.inr (List.cons_ne_nil field rest))), leavesAt_some found, List.length_map]
          exact strict.trans_le (Nat.add_le_add_right shallow _)
  · rename_i plain
    refine .of_upsert unique fits (List.sublist_append_right _ _).subperm ?_
    rintro ⟨existing, fields, _, found, same, _⟩
    exact absurd same (plain existing fields found)

/-- A key without a dot adds the leaves of its value where it meets no other field, or an object without its names. -/
theorem mergeKey_ok {expanded : List (String × Json)} (unique : UniqueFields expanded) (key : String) {value : Json}
    (fits : Unique value)
    (apart : ∀ child, Table.find? expanded key = some child → ∃ existing fields, child = .obj existing ∧ existing ≠ [] ∧
      value = .obj fields ∧ fields ≠ [] ∧ (Table.keys existing).Disjoint (Table.keys fields)) :
    (entries (mergeKey expanded key value)).Perm (entries expanded ++ (leaves value).map (Leaf.under [key])) := by
  have split := entries_split unique key
  unfold mergeKey
  split
  · rename_i existing fields found
    obtain ⟨_, _, same, some, equal, more, disjoint⟩ := apart _ found
    cases same
    cases equal
    have proper : UniqueFields existing := unique_find unique found
    have both : (Table.keys (existing ++ fields)).Nodup := by
      rw [Table.keys, List.map_append]
      exact List.Nodup.append (uniqueFields_iff.mp proper).1 (uniqueFields_iff.mp (show UniqueFields fields from fits)).1
        disjoint
    have merged : updateWith existing fields = existing ++ fields := Table.foldl_upsert fields existing both
    have whole : UniqueFields (existing ++ fields) := by
      refine uniqueFields_iff.mpr ⟨both, fun field member => ?_⟩
      rcases List.mem_append.mp member with old | new
      · exact (uniqueFields_iff.mp proper).2 field old
      · exact (uniqueFields_iff.mp (show UniqueFields fields from fits)).2 field new
    rw [merged]
    refine (entries_upsert unique (show Json.Unique (.obj (existing ++ fields)) from whole) key).trans ?_
    rw [leavesAt_some found, leaves_obj some] at split
    have added : entries (existing ++ fields) = entries existing ++ entries fields := entriesBy_append existing fields
    rw [leaves_obj (by simp [some]), leaves_obj more, added, List.map_append, List.append_assoc]
    refine (List.Perm.append_left _ List.perm_append_comm).trans ?_
    rw [← List.append_assoc]
    exact split.symm.append_right _
  · rename_i plain
    have missing : Table.find? expanded key = none := by
      cases found : Table.find? expanded key with
      | none => rfl
      | some child =>
          obtain ⟨existing, fields, same, _, equal, _⟩ := apart child found
          exact absurd equal (plain existing fields (same ▸ found))
    rw [leavesAt_none missing, List.nil_append] at split
    exact (entries_upsert unique fits key).trans (List.perm_append_comm.trans (split.symm.append_right _))

end Plain

section Keys

/-- The parts of a text that is split at dots hold no dot. -/
theorem splitOn_plain {text part : List Char} (member : part ∈ text.splitOn '.') : '.' ∉ part := by
  induction text generalizing part with
  | nil => simp_all
  | cons first rest ih =>
      rw [List.splitOn_cons_eq_if_modifyHead] at member
      split at member
      · rcases List.mem_cons.mp member with rfl | later
        · exact List.not_mem_nil
        · exact ih later
      · rename_i plain
        cases parts : rest.splitOn '.' with
        | nil => exact absurd parts (List.splitOn_ne_nil _ _)
        | cons head tail =>
            rw [parts] at member ih
            rcases List.mem_cons.mp member with rfl | later
            · have different : first ≠ '.' := by simpa using plain
              exact List.not_mem_cons_of_ne_of_not_mem (Ne.symm different) (ih List.mem_cons_self)
            · exact ih (List.mem_cons_of_mem _ later)

/-- A key without dots is one part. -/
theorem splitKey_plain {key : String} (plain : '.' ∉ key.toList) : splitKey key = [key] := by
  rw [splitKey, List.splitOn_eq_singleton plain, List.map_singleton, String.ofList_toList]

/-- No part of a key holds a dot. -/
theorem plain_of_mem_splitKey {key part : String} (member : part ∈ splitKey key) : '.' ∉ part.toList := by
  obtain ⟨chars, listed, rfl⟩ := List.mem_map.mp member
  rw [String.toList_ofList]
  exact splitOn_plain listed

/-- Two keys with the same parts are one key. -/
theorem splitKey_injective : Function.Injective splitKey := by
  intro first second same
  have written : Function.Injective String.ofList :=
    Function.LeftInverse.injective (g := String.toList) fun chars => String.toList_ofList
  have parts : first.toList.splitOn '.' = second.toList.splitOn '.' := List.map_injective_iff.mpr written same
  have texts := congrArg (List.intercalate ['.']) parts
  rw [List.intercalate_splitOn, List.intercalate_splitOn] at texts
  exact String.toList_injective texts

/-- A key has at least one part. -/
theorem splitKey_ne_nil (key : String) : splitKey key ≠ [] := by
  simp [splitKey, List.splitOn_ne_nil]

/-- A path is its parents and its last name. -/
theorem dropLast_getLastD {parts : List String} (some : parts ≠ []) : parts.dropLast ++ [parts.getLastD ""] = parts := by
  conv_rhs => rw [← List.dropLast_append_getLast some]
  rw [List.getLastD_eq_getLast?, List.getLast?_eq_some_getLast some, Option.getD_some]

end Keys

section Turns

/-- The leaves of an object with the keys of the first level split. -/
def halfSplit (source : List (String × Json)) : List Leaf :=
  source.flatMap fun field => (leaves field.2).map (Leaf.under (splitKey field.1))

/-- The first field's leaves come first. -/
theorem halfSplit_cons (field : String × Json) (rest : List (String × Json)) :
    halfSplit (field :: rest) = (leaves field.2).map (Leaf.under (splitKey field.1)) ++ halfSplit rest :=
  List.flatMap_cons

/-- When a turn loses a leaf. -/
def Loses (expanded : List (String × Json)) (field : String × Json) : Prop :=
  ('.' ∈ field.1.toList ∧ ∃ leaf ∈ entries expanded, splitKey field.1 <+: leaf.1) ∨
    ('.' ∉ field.1.toList ∧ ∃ existing fields name, Table.find? expanded field.1 = some (.obj existing) ∧
      field.2 = .obj fields ∧ name ∈ Table.keys existing ∧ name ∈ Table.keys fields)

/-- One field that is expanded adds its leaves and loses none, unless it replaces one. -/
theorem expandField_kept {expanded result : List (String × Json)} (unique : UniqueFields expanded)
    {field : String × Json} (fits : Unique field.2) (done : expandField expanded field = .ok result) :
    Kept expanded result (splitKey field.1) field.2 (Loses expanded field) := by
  unfold expandField at done
  split at done
  · rename_i dotted
    have kept := (assignPath_kept unique fits _ _ done).2
    rw [dropLast_getLastD (splitKey_ne_nil field.1)] at kept
    exact ⟨kept.unique, kept.within, fun loses => kept.fewer (loses.elim And.right fun plain => absurd dotted plain.1)⟩
  · rename_i plain
    cases done
    have kept := mergeKey_kept unique field.1 fits
    rw [splitKey_plain plain]
    exact ⟨kept.unique, kept.within, fun loses => kept.fewer (loses.elim (fun dotted => absurd dotted.1 plain) And.right)⟩

/-- The leaves of the expansion are among those of the source. -/
theorem foldlM_kept {source expanded result : List (String × Json)} (unique : UniqueFields expanded)
    (fits : ∀ field ∈ source, Unique field.2) (done : source.foldlM expandField expanded = .ok result) :
    UniqueFields result ∧ (entries result).Subperm (entries expanded ++ halfSplit source) := by
  induction source generalizing expanded with
  | nil =>
      obtain rfl : expanded = result := by simpa using done
      exact ⟨unique, (List.sublist_append_left _ _).subperm⟩
  | cons field rest ih =>
      rw [List.foldlM_cons, Check.bind_ok] at done
      obtain ⟨middle, first, later⟩ := done
      have kept := expandField_kept unique (fits field List.mem_cons_self) first
      obtain ⟨proper, within⟩ := ih kept.unique (fun other member => fits other (List.mem_cons_of_mem _ member)) later
      refine ⟨proper, within.trans ?_⟩
      rw [halfSplit_cons, ← List.append_assoc]
      exact (List.subperm_append_right _).mpr kept.within

end Turns

section Separation

/-- No path of a leaf starts with another. -/
def PrefixFree (found : List Leaf) : Prop := found.Pairwise fun first second => ¬ first.1 <+: second.1 ∧ ¬ second.1 <+: first.1

/-- A field does not hide the leaves of a field with a longer key. -/
def Yields (field other : String × Json) : Prop :=
  splitKey field.1 <+: splitKey other.1 →
    '.' ∉ field.1.toList ∧ ∀ leaf ∈ leaves field.2, leaf.1.head? ≠ (splitKey other.1)[1]?

/-- No key below the first level has a dot. When the parts of a key start with those of another key, the shorter key
has no dot, and its value does not have the next part of the longer key as a key. -/
structure Separable (source : List (String × Json)) : Prop where
  plain : ∀ field ∈ source, ∀ leaf ∈ leaves field.2, ∀ name ∈ leaf.1, '.' ∉ name.toList
  yields : ∀ field ∈ source, ∀ other ∈ source, field.1 ≠ other.1 → Yields field other

/-- Two fields whose leaves can be merged in each order. -/
structure Apart (field prior : String × Json) : Prop where
  distinct : field.1 ≠ prior.1
  shorter : Yields field prior
  longer : Yields prior field
  free : ∀ leaf ∈ leaves field.2, ∀ old ∈ leaves prior.2,
    ¬ splitKey field.1 ++ leaf.1 <+: splitKey prior.1 ++ old.1 ∧ ¬ splitKey prior.1 ++ old.1 <+: splitKey field.1 ++ leaf.1

variable {field prior : String × Json}

/-- The path of a dotted key meets no leaf of another field. -/
theorem Apart.dotted (apart : Apart field prior) (dotted : '.' ∈ field.1.toList) {old : Leaf}
    (member : old ∈ leaves prior.2) :
    ¬ splitKey field.1 <+: splitKey prior.1 ++ old.1 ∧ ¬ splitKey prior.1 ++ old.1 <+: splitKey field.1 := by
  have single : splitKey prior.1 <+: splitKey field.1 → splitKey prior.1 = [prior.1] ∧
      ∃ second rest, splitKey field.1 = prior.1 :: second :: rest ∧ old.1.head? ≠ some second := by
    intro longer
    obtain ⟨plain, hidden⟩ := apart.longer longer
    rw [splitKey_plain plain] at longer ⊢
    obtain ⟨rest, same⟩ := longer
    cases rest with
    | nil =>
        have alone : splitKey field.1 = [prior.1] := same.symm
        rw [← splitKey_plain plain] at alone
        exact absurd (splitKey_injective alone) apart.distinct
    | cons second rest =>
        have parts : splitKey field.1 = prior.1 :: second :: rest := same.symm
        have avoids := hidden old member
        rw [parts] at avoids
        exact ⟨rfl, second, rest, parts, avoids⟩
  refine ⟨fun first => ?_, fun first => ?_⟩
  · rcases List.prefix_or_prefix_of_prefix first (List.prefix_append _ old.1) with shorter | longer
    · exact absurd dotted (apart.shorter shorter).1
    · obtain ⟨alone, second, rest, parts, avoids⟩ := single longer
      rw [alone, parts, List.singleton_append, List.cons_prefix_cons] at first
      obtain ⟨more, same⟩ := first.2
      exact avoids (by rw [← same]; rfl)
  · obtain ⟨alone, second, rest, parts, avoids⟩ := single ((List.prefix_append _ old.1).trans first)
    obtain ⟨leaf, inside⟩ := List.exists_mem_of_ne_nil _ (leavesBy_ne_nil (fun name => [name]) field.2)
    cases path : old.1 with
    | nil => exact (apart.free leaf inside old member).2 (first.trans (List.prefix_append _ leaf.1))
    | cons name more =>
        rw [alone, parts, path, List.singleton_append, List.cons_prefix_cons, List.cons_prefix_cons] at first
        rw [path] at avoids
        exact avoids (congrArg some first.2.1)

/-- A leaf of another field below a key without a dot comes from a longer key. -/
theorem Apart.undotted (apart : Apart field prior) (plain : '.' ∉ field.1.toList) {old : Leaf} {path : List String}
    (member : old ∈ leaves prior.2) (below : splitKey prior.1 ++ old.1 = field.1 :: path) :
    ∃ second rest, path = second :: rest ∧ ∀ leaf ∈ leaves field.2, leaf.1 ≠ [] ∧ leaf.1.head? ≠ some second := by
  cases parts : splitKey prior.1 with
  | nil => exact absurd parts (splitKey_ne_nil prior.1)
  | cons first rest =>
      rw [parts, List.cons_append, List.cons.injEq] at below
      obtain ⟨rfl, tail⟩ := below
      have prefixed : splitKey field.1 <+: splitKey prior.1 := by
        rw [splitKey_plain plain, parts]
        exact ⟨rest, rfl⟩
      have hidden := (apart.shorter prefixed).2
      cases rest with
      | nil =>
          rw [← splitKey_plain plain] at parts
          exact absurd (splitKey_injective parts).symm apart.distinct
      | cons second rest =>
          refine ⟨second, rest ++ old.1, tail.symm, fun leaf inside => ⟨fun empty => ?_, ?_⟩⟩
          · refine (apart.free leaf inside old member).1 ?_
            rw [empty, List.append_nil]
            exact prefixed.trans (List.prefix_append _ old.1)
          · have avoids := hidden leaf inside
            rwa [parts] at avoids

/-- A turn adds the leaves of its field to those of fields that are apart from it. -/
theorem expandField_ok {expanded processed : List (String × Json)} (unique : UniqueFields expanded)
    (same : (entries expanded).Perm (halfSplit processed)) (fits : Unique field.2)
    (apart : ∀ prior ∈ processed, Apart field prior) :
    ∃ result, expandField expanded field = .ok result ∧ UniqueFields result ∧
      (entries result).Perm (entries expanded ++ (leaves field.2).map (Leaf.under (splitKey field.1))) := by
  have known : ∀ leaf ∈ entries expanded, ∃ prior ∈ processed, ∃ old ∈ leaves prior.2,
      old.under (splitKey prior.1) = leaf := by
    intro leaf member
    obtain ⟨prior, listed, inside⟩ := List.mem_flatMap.mp (same.mem_iff.mp member)
    obtain ⟨old, below, equal⟩ := List.mem_map.mp inside
    exact ⟨prior, listed, old, below, equal⟩
  unfold expandField
  split
  · rename_i dotted
    have parts := dropLast_getLastD (splitKey_ne_nil field.1)
    obtain ⟨result, done, proper, added⟩ := assignPath_ok unique fits (splitKey field.1).dropLast
        ((splitKey field.1).getLastD "") (by
      rw [parts]
      intro leaf member
      obtain ⟨prior, listed, old, below, rfl⟩ := known leaf member
      exact (apart prior listed).dotted dotted below)
    rw [parts] at added
    exact ⟨result, done, proper, added⟩
  · rename_i plain
    refine ⟨_, rfl, (mergeKey_kept unique field.1 fits).unique, ?_⟩
    rw [splitKey_plain plain]
    refine mergeKey_ok unique field.1 fits fun child found => ?_
    have longer : ∀ leaf ∈ leaves child, ∃ second rest, leaf.1 = second :: rest ∧
        ∀ leaf ∈ leaves field.2, leaf.1 ≠ [] ∧ leaf.1.head? ≠ some second := by
      intro leaf member
      obtain ⟨prior, listed, old, below, equal⟩ := known _ (mem_entries_of_find found member)
      exact (apart prior listed).undotted plain below (congrArg Prod.fst equal)
    have deep : ∀ leaf ∈ leaves child, leaf.1 ≠ [] := by
      intro leaf member empty
      obtain ⟨_, _, path, _⟩ := longer leaf member
      rw [empty] at path
      cases path
    obtain ⟨existing, rfl, some⟩ := object_of_deep deep
    obtain ⟨leaf, member⟩ := List.exists_mem_of_ne_nil _ (leavesBy_ne_nil (fun name => [name]) (.obj existing))
    obtain ⟨_, _, _, avoided⟩ := longer leaf member
    have below : ∀ leaf ∈ leaves field.2, leaf.1 ≠ [] := fun leaf inside => (avoided leaf inside).1
    obtain ⟨fields, object, more⟩ := object_of_deep below
    refine ⟨existing, fields, rfl, some, object, more, fun name old new => ?_⟩
    obtain ⟨above, here⟩ := exists_leaf_of_key old
    obtain ⟨inside, there⟩ := exists_leaf_of_key new
    obtain ⟨second, rest, path, avoids⟩ := longer _ here
    obtain ⟨rfl, _⟩ : name = second ∧ above.1 = rest := by simpa [Leaf.under] using path
    exact (avoids _ (object ▸ there)).2 rfl

/-- Paths in another order are prefix free as well. -/
theorem PrefixFree.perm {first second : List Leaf} (free : PrefixFree first) (same : first.Perm second) :
    PrefixFree second :=
  same.pairwise free fun apart => ⟨apart.2, apart.1⟩

/-- The loop collects the leaves of all fields. -/
theorem foldlM_separable {processed rest expanded : List (String × Json)} (unique : UniqueFields expanded)
    (same : (entries expanded).Perm (halfSplit processed)) (proper : UniqueFields (processed ++ rest))
    (separable : Separable (processed ++ rest)) (free : PrefixFree (halfSplit (processed ++ rest))) :
    ∃ result, rest.foldlM expandField expanded = .ok result ∧ UniqueFields result ∧
      (entries result).Perm (halfSplit (processed ++ rest)) := by
  induction rest generalizing processed expanded with
  | nil => exact ⟨expanded, rfl, unique, by rwa [List.append_nil]⟩
  | cons field rest ih =>
      obtain ⟨distinct, fits⟩ := uniqueFields_iff.mp proper
      have last : processed ++ field :: rest = processed ++ [field] ++ rest := by simp
      have apart : ∀ prior ∈ processed, Apart field prior := by
        intro prior member
        have here : field ∈ processed ++ field :: rest := by simp
        have there : prior ∈ processed ++ field :: rest := List.mem_append_left _ member
        have different : prior.1 ≠ field.1 := by
          rw [Table.keys, List.map_append, List.map_cons, List.nodup_append] at distinct
          exact distinct.2.2 _ (List.mem_map_of_mem member) _ List.mem_cons_self
        refine ⟨Ne.symm different, separable.yields field here prior there (Ne.symm different),
          separable.yields prior there field here different, fun leaf inside old listed => ?_⟩
        have pairs : PrefixFree (halfSplit processed ++ halfSplit (field :: rest)) := by
          rw [halfSplit, halfSplit, ← List.flatMap_append]
          exact free
        have first : old.under (splitKey prior.1) ∈ halfSplit processed :=
          List.mem_flatMap.mpr ⟨prior, member, List.mem_map_of_mem listed⟩
        have second : leaf.under (splitKey field.1) ∈ halfSplit (field :: rest) :=
          List.mem_flatMap.mpr ⟨field, List.mem_cons_self, List.mem_map_of_mem inside⟩
        obtain ⟨left, right⟩ := (List.pairwise_append.mp pairs).2.2 _ first _ second
        exact ⟨right, left⟩
      obtain ⟨middle, done, kept, added⟩ := expandField_ok unique same (fits field (by simp)) apart
      have next : (entries middle).Perm (halfSplit (processed ++ [field])) := by
        rw [halfSplit, List.flatMap_append, List.flatMap_singleton]
        exact added.trans (same.append_right _)
      rw [last] at proper separable free ⊢
      obtain ⟨result, finished, good, all⟩ := ih kept next proper separable free
      refine ⟨result, ?_, good, all⟩
      rw [List.foldlM_cons, Check.bind_ok]
      exact ⟨middle, done, finished⟩

/-- Values without dotted names are split in full. -/
theorem halfSplit_eq {source : List (String × Json)}
    (plain : ∀ field ∈ source, ∀ leaf ∈ leaves field.2, ∀ name ∈ leaf.1, '.' ∉ name.toList) :
    halfSplit source = entriesBy splitKey source := by
  rw [entriesBy_eq]
  refine List.flatMap_congr fun field member => ?_
  have parts : leaves field.2 = leavesBy splitKey field.2 := leavesBy_congr fun leaf inside name listed =>
    (splitKey_plain (plain field member leaf inside name listed)).symm
  rw [parts]

/-- The condition does not depend on the order of the fields. -/
theorem Separable.perm {first second : List (String × Json)} (separable : Separable first)
    (same : (entries first).Perm (entries second)) : Separable second := by
  have back : ∀ field ∈ second, ∀ leaf ∈ leaves field.2, ∃ twin ∈ first, twin.1 = field.1 ∧ leaf ∈ leaves twin.2 := by
    intro field member leaf inside
    have listed : leaf.under [field.1] ∈ entries second := mem_entriesBy.mpr ⟨field, member, leaf, inside, rfl⟩
    obtain ⟨twin, there, old, below, equal⟩ := mem_entriesBy.mp (same.mem_iff.mpr listed)
    simp only [Leaf.under, List.singleton_append, Prod.mk.injEq, List.cons.injEq] at equal
    obtain ⟨⟨name, path⟩, value⟩ := equal
    exact ⟨twin, there, name, (Prod.ext path value : old = leaf) ▸ below⟩
  refine ⟨fun field member leaf inside name listed => ?_, fun field member other listed different prefixed => ?_⟩
  · obtain ⟨twin, there, _, below⟩ := back field member leaf inside
    exact separable.plain twin there leaf below name listed
  · obtain ⟨old, held⟩ := List.exists_mem_of_ne_nil _ (leavesBy_ne_nil (fun name => [name]) other.2)
    obtain ⟨named, stands, label, _⟩ := back other listed old held
    have each : ∀ leaf ∈ leaves field.2, '.' ∉ field.1.toList ∧ leaf.1.head? ≠ (splitKey other.1)[1]? := by
      intro leaf inside
      obtain ⟨twin, there, name, below⟩ := back field member leaf inside
      have yields := separable.yields twin there named stands (by rw [name, label]; exact different)
      unfold Yields at yields
      rw [name, label] at yields
      exact ⟨(yields prefixed).1, (yields prefixed).2 leaf below⟩
    obtain ⟨leaf, inside⟩ := List.exists_mem_of_ne_nil _ (leavesBy_ne_nil (fun name => [name]) field.2)
    exact ⟨(each leaf inside).1, fun leaf inside => (each leaf inside).2⟩

end Separation

section Lossless

/-- The expansion of an object is the nested object with these leaves. -/
def ExpandsTo (source : List (String × Json)) (found : List Leaf) : Prop :=
  ∃ result, expand source = .ok result ∧ UniqueFields result ∧ (entries result).Perm found

variable {source : List (String × Json)}

/-- A separable object expands to all its leaves. -/
theorem expandsTo_of_separable (unique : UniqueFields source) (free : PrefixFree (entriesBy splitKey source))
    (separable : Separable source) : ExpandsTo source (entriesBy splitKey source) := by
  have split := halfSplit_eq separable.plain
  rw [← split] at free ⊢
  have start : (entries []).Perm (halfSplit []) := .refl _
  exact foldlM_separable (show UniqueFields [] from trivial) start unique separable free

/-- Splitting the names changes no number of leaves. -/
theorem length_halfSplit (source : List (String × Json)) :
    (halfSplit source).length = (entriesBy splitKey source).length := by
  rw [entriesBy_eq, halfSplit, List.length_flatMap, List.length_flatMap]
  refine congrArg List.sum (List.map_congr_left fun field _ => ?_)
  rw [List.length_map, List.length_map]
  exact length_leavesBy _ _ field.2

/-- All names in the paths of the dotted leaves are parts of keys. -/
theorem plain_of_mem_leavesBy {value : Json} :
    ∀ leaf ∈ leavesBy splitKey value, ∀ name ∈ leaf.1, '.' ∉ name.toList := by
  induction value using Json.induct with
  | obj fields ih =>
      intro leaf member name listed
      have deep : leaf.1 ≠ [] := List.ne_nil_of_mem listed
      obtain ⟨field, there, inside, below, rfl⟩ := mem_entriesBy.mp (mem_leavesBy_obj member deep)
      rcases List.mem_append.mp listed with key | later
      · exact plain_of_mem_splitKey key
      · exact ih field there inside below name later
  | _ => simp [leavesBy]

/-- A right expansion has lost no leaf. -/
theorem ExpandsTo.all {front : List (String × Json)} {last : String × Json} (unique : UniqueFields (front ++ [last]))
    (right : ExpandsTo (front ++ [last]) (entriesBy splitKey source))
    (size : (entriesBy splitKey source).length = (halfSplit (front ++ [last])).length) :
    (halfSplit (front ++ [last])).Perm (entriesBy splitKey source) ∧
      ∃ middle, UniqueFields middle ∧ (entries middle).Perm (halfSplit front) ∧ ¬ Loses middle last := by
  obtain ⟨result, done, _, same⟩ := right
  have fits := (uniqueFields_iff.mp unique).2
  obtain ⟨_, within⟩ := foldlM_kept (by simp [UniqueFields]) fits done
  rw [expand, List.foldlM_append, Check.bind_ok] at done
  obtain ⟨middle, earlier, final⟩ := done
  obtain ⟨proper, before⟩ := foldlM_kept (by simp [UniqueFields])
    (fun field member => fits field (List.mem_append_left _ member)) earlier
  have step : expandField middle last = .ok result := by simpa using final
  have kept := expandField_kept proper (fits last (by simp)) step
  have whole := same.length_eq
  have parts : (halfSplit (front ++ [last])).length = (halfSplit front).length + (leaves last.2).length := by
    rw [halfSplit, List.flatMap_append, List.length_append, List.flatMap_singleton, List.length_map]
    rfl
  have added := kept.within.length_le
  have first := before.length_le
  rw [List.length_append, List.length_map] at added
  rw [List.length_append] at first
  have empty : (entries []).length = 0 := rfl
  refine ⟨?_, middle, proper, ?_, fun loses => ?_⟩
  · exact ((within.perm_of_length_le (by rw [List.length_append]; omega)).symm.trans same)
  · exact before.perm_of_length_le (by rw [List.length_append]; omega)
  · have strict := kept.fewer loses
    omega

/-- The first name of a leaf's path is a field of the object. -/
theorem key_of_leaf {value : Json} {leaf : Leaf} {name : String} {rest : List String} (member : leaf ∈ leaves value)
    (path : leaf.1 = name :: rest) : ∃ fields, value = .obj fields ∧ name ∈ Table.keys fields := by
  cases value with
  | obj fields =>
      have deep : leaf.1 ≠ [] := by simp [path]
      obtain ⟨field, listed, inside, _, rfl⟩ := mem_entriesBy.mp (mem_leavesBy_obj member deep)
      obtain ⟨rfl, _⟩ : field.1 = name ∧ inside.1 = rest := by simpa [Leaf.under] using path
      exact ⟨fields, rfl, List.mem_map_of_mem listed⟩
  | _ =>
      simp only [leaves, leavesBy, List.mem_singleton] at member
      rw [member] at path
      cases path

/-- A field that yields to another loses none of its leaves when it comes last. -/
theorem yields_of_keeps {middle : List (String × Json)} (unique : UniqueFields middle) {field other : String × Json}
    (different : field.1 ≠ other.1) {old : Leaf} (there : old.under (splitKey other.1) ∈ entries middle)
    (keeps : ¬ Loses middle field) : Yields field other := by
  intro prefixed
  have plain : '.' ∉ field.1.toList := by
    intro dotted
    exact keeps (Or.inl ⟨dotted, _, there, prefixed.trans (List.prefix_append _ old.1)⟩)
  refine ⟨plain, fun leaf inside same => ?_⟩
  rw [splitKey_plain plain] at prefixed
  obtain ⟨rest, parts⟩ := prefixed
  cases rest with
  | nil =>
      rw [← splitKey_plain plain, List.append_nil] at parts
      exact different (splitKey_injective parts)
  | cons second rest =>
      have parts : splitKey other.1 = field.1 :: second :: rest := parts.symm
      rw [parts] at same
      cases path : leaf.1 with
      | nil =>
          rw [path] at same
          cases same
      | cons name tail =>
          rw [path] at same
          obtain rfl : name = second := Option.some.inj same
          obtain ⟨fields, object, new⟩ := key_of_leaf inside path
          rw [Leaf.under, parts] at there
          have here := mem_leavesAt unique there
          cases found : Table.find? middle field.1 with
          | none =>
              rw [leavesAt_none found] at here
              cases here
          | some child =>
              rw [leavesAt_some found] at here
              obtain ⟨below, listed, equal⟩ := List.mem_map.mp here
              have tail : below.1 = name :: (rest ++ old.1) := by
                have tails := congrArg Prod.fst equal
                simpa [Leaf.under] using tails
              obtain ⟨existing, rfl, held⟩ := key_of_leaf listed tail
              exact keeps (Or.inr ⟨plain, existing, fields, name, found, object, held, new⟩)

/-- An object that expands to all its leaves in every order of its fields is separable. -/
theorem separable_of_expands (unique : UniqueFields source)
    (right : ∀ other, Reordered source other → ExpandsTo other (entriesBy splitKey source)) : Separable source := by
  have ends : ∀ field ∈ source, ∃ front, (front ++ [field]).Perm source := by
    intro field member
    obtain ⟨before, after, rfl⟩ := List.append_of_mem member
    exact ⟨before ++ after, by rw [List.append_assoc]; exact List.Perm.append_left _ List.perm_append_comm⟩
  have moved : ∀ {front : List (String × Json)} {field : String × Json}, (front ++ [field]).Perm source →
      (halfSplit (front ++ [field])).Perm (entriesBy splitKey source) ∧
        ∃ middle, UniqueFields middle ∧ (entries middle).Perm (halfSplit front) ∧ ¬ Loses middle field := by
    intro front field same
    have order := Reordered.of_perm same.symm
    refine (right _ order).all ((reordered_unique order).2.mp unique) ?_
    rw [length_halfSplit]
    exact (entriesBy_perm same.symm).length_eq
  refine ⟨fun field member leaf inside name listed => ?_, fun field member other listed different => ?_⟩
  · obtain ⟨front, same⟩ := ends field member
    have below : leaf.under (splitKey field.1) ∈ halfSplit (front ++ [field]) :=
      List.mem_flatMap.mpr ⟨field, by simp, List.mem_map_of_mem inside⟩
    have dotted := (moved same).1.mem_iff.mp below
    rw [← leavesBy_obj (List.ne_nil_of_mem member)] at dotted
    exact plain_of_mem_leavesBy _ dotted name (List.mem_append_right _ listed)
  · obtain ⟨front, same⟩ := ends field member
    obtain ⟨middle, proper, all, keeps⟩ := (moved same).2
    have before : other ∈ front := by
      rcases List.mem_append.mp (same.mem_iff.mpr listed) with early | last
      · exact early
      · exact absurd (congrArg Prod.fst (List.mem_singleton.mp last)).symm different
    obtain ⟨old, held⟩ := List.exists_mem_of_ne_nil _ (leavesBy_ne_nil (fun name => [name]) other.2)
    have there : old.under (splitKey other.1) ∈ halfSplit front :=
      List.mem_flatMap.mpr ⟨other, before, List.mem_map_of_mem held⟩
    exact yields_of_keeps proper different (all.mem_iff.mpr there) keeps

/-- `_expand` is lossless in every order of the keys exactly for separable objects. -/
theorem expand_lossless_iff (source : List (String × Json)) (unique : UniqueFields source)
    (free : PrefixFree (entriesBy splitKey source)) :
    (∀ other, Reordered source other → ExpandsTo other (entriesBy splitKey source)) ↔ Separable source := by
  refine ⟨separable_of_expands unique, fun separable other order => ?_⟩
  have same : (entriesBy splitKey source).Perm (entriesBy splitKey other) := (reordered_entriesBy order).1
  obtain ⟨result, done, proper, all⟩ := expandsTo_of_separable ((reordered_unique order).2.mp unique) (free.perm same)
    (separable.perm (reordered_entriesBy order).1)
  exact ⟨result, done, proper, all.trans same.symm⟩

/-- A name in dotted form and the type of the same question in nested form. -/
def dnsEvent : List (String × Json) :=
  [("dns.question.name", .str "host.example"), ("dns", .obj [("question", .obj [("type", .str "A")])])]

/-- The name of the question is lost. -/
theorem dns_name_lost : UniqueFields dnsEvent ∧ PrefixFree (entriesBy splitKey dnsEvent) ∧
    ¬ ∀ other, Reordered dnsEvent other → ExpandsTo other (entriesBy splitKey dnsEvent) := by
  refine ⟨by simp [dnsEvent, UniqueFields, Json.Unique], ?_, fun right => ?_⟩
  · have parts : entriesBy splitKey dnsEvent = [(["dns", "question", "name"], .str "host.example"),
        (["dns", "question", "type"], .str "A")] := rfl
    rw [parts]
    simp [PrefixFree, List.cons_prefix_cons]
  · obtain ⟨result, done, _, same⟩ := right dnsEvent (.refl dnsEvent)
    have lost : expand dnsEvent = .ok [("dns", .obj [("question", .obj [("type", .str "A")])])] := rfl
    rw [lost] at done
    cases done
    exact absurd same.length_eq (by decide)

/-- A question in dotted form and a field of the answer in nested form. -/
def answerEvent : List (String × Json) :=
  [("dns.question.name", .str "host.example"), ("dns", .obj [("rcode", .str "NOERROR")])]

/-- The answers of a name query are kept in every order of the fields. -/
theorem dns_answer_kept : Separable answerEvent ∧
    ∀ other, Reordered answerEvent other → ExpandsTo other (entriesBy splitKey answerEvent) := by
  have parts : entriesBy splitKey answerEvent = [(["dns", "question", "name"], .str "host.example"),
      (["dns", "rcode"], .str "NOERROR")] := rfl
  have free : PrefixFree (entriesBy splitKey answerEvent) := by
    rw [parts]
    simp [PrefixFree, List.cons_prefix_cons]
  have dotted : splitKey "dns.question.name" = ["dns", "question", "name"] := rfl
  have alone : splitKey "dns" = ["dns"] := rfl
  have separable : Separable answerEvent := by
    refine ⟨by simp [answerEvent, leavesBy, entriesBy, Leaf.under], ?_⟩
    simp [answerEvent, leavesBy, entriesBy, Leaf.under, Yields, dotted, alone, List.cons_prefix_cons]
  exact ⟨separable, (expand_lossless_iff answerEvent (by simp [answerEvent, UniqueFields, Json.Unique]) free).mpr separable⟩

end Lossless

end ClosedLoop.Workers
