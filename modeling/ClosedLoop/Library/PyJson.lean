import ClosedLoop.Library.PyText
import ClosedLoop.Library.Table

namespace ClosedLoop.Library

/-- A value that `json.loads` returns. The fields of an object are in the order of the text. -/
inductive PyJson where
  | null
  | bool (value : Bool)
  | int (value : Int)
  | float (value : Double)
  | str (value : PyText)
  | arr (items : List PyJson)
  | obj (fields : List (PyText × PyJson))

namespace PyJson

section Definitions

open Json (commaJoin)

mutual

/-- The text of a value with the separators `,` and `:` and no blanks. -/
def render : PyJson → List Char
  | .null => Json.render .null
  | .bool value => Json.render (.bool value)
  | .int value => Json.render (.int value)
  | .float value => Json.render (.float value)
  | .str value => value.quote
  | .arr items => '[' :: commaJoin (renderItems items) ++ [']']
  | .obj fields => '{' :: commaJoin (renderFields fields) ++ ['}']

def renderItems : List PyJson → List (List Char)
  | [] => []
  | item :: rest => render item :: renderItems rest

def renderFields : List (PyText × PyJson) → List (List Char)
  | [] => []
  | (name, value) :: rest => (name.quote ++ ':' :: render value) :: renderFields rest

end

mutual

/-- The value with the fields of every object in the order of their names. -/
def sortKeys : PyJson → PyJson
  | .arr items => .arr (sortItems items)
  | .obj fields => .obj ((sortFields fields).insertionSort fun first second => first.1 ≤ second.1)
  | .null => .null
  | .bool value => .bool value
  | .int value => .int value
  | .float value => .float value
  | .str value => .str value

def sortItems : List PyJson → List PyJson
  | [] => []
  | item :: rest => sortKeys item :: sortItems rest

def sortFields : List (PyText × PyJson) → List (PyText × PyJson)
  | [] => []
  | (name, value) :: rest => (name, sortKeys value) :: sortFields rest

end

/-- `json.dumps(value, sort_keys=True, separators=(",", ":"), ensure_ascii=True)`. -/
def canonical (value : PyJson) : List Char := render (sortKeys value)

mutual

/-- No object of the value has two fields of one name. -/
def Decoded : PyJson → Prop
  | .arr items => DecodedItems items
  | .obj fields => (Table.keys fields).Nodup ∧ DecodedFields fields
  | _ => True

def DecodedItems : List PyJson → Prop
  | [] => True
  | item :: rest => Decoded item ∧ DecodedItems rest

def DecodedFields : List (PyText × PyJson) → Prop
  | [] => True
  | (_, value) :: rest => Decoded value ∧ DecodedFields rest

end

mutual

/-- Two values have the same types and contents. The order of the fields of an object does not count. -/
def Same : PyJson → PyJson → Prop
  | .null, .null => True
  | .bool value, .bool other => value = other
  | .int value, .int other => value = other
  | .float value, .float other => value = other
  | .str value, .str other => value = other
  | .arr items, .arr others => SameItems items others
  | .obj fields, .obj others => fields.length = others.length ∧ SameFields fields others
  | _, _ => False

def SameItems : List PyJson → List PyJson → Prop
  | [], [] => True
  | item :: items, other :: others => Same item other ∧ SameItems items others
  | _, _ => False

/-- Every field has its counterpart. -/
def SameFields : List (PyText × PyJson) → List (PyText × PyJson) → Prop
  | [], _ => True
  | (name, value) :: rest, others => (∃ other, (name, other) ∈ others ∧ Same value other) ∧ SameFields rest others

end

end Definitions

/-- A property of values holds when it passes from the items and the fields of a value to the value. -/
theorem induct {motive : PyJson → Prop} (null : motive .null) (bool : ∀ value, motive (.bool value))
    (int : ∀ value, motive (.int value)) (float : ∀ value, motive (.float value)) (str : ∀ value, motive (.str value))
    (arr : ∀ items, (∀ item ∈ items, motive item) → motive (.arr items))
    (obj : ∀ fields, (∀ field ∈ fields, motive field.2) → motive (.obj fields)) (value : PyJson) : motive value := by
  refine @PyJson.rec motive (fun items => ∀ item ∈ items, motive item) (fun fields => ∀ field ∈ fields, motive field.2)
    (fun field => motive field.2) null bool int float str arr obj ?_ ?_ ?_ ?_ (fun _ _ holds => holds) value
  · intro item member
    cases member
  · intro head tail headHolds tailHolds item member
    rcases List.mem_cons.mp member with same | later
    · exact same ▸ headHolds
    · exact tailHolds item later
  · intro field member
    cases member
  · intro head tail headHolds tailHolds field member
    rcases List.mem_cons.mp member with same | later
    · exact same ▸ headHolds
    · exact tailHolds field later

section Lists

theorem renderItems_eq (items : List PyJson) : renderItems items = items.map render := by
  induction items with
  | nil => rfl
  | cons item rest ih => rw [renderItems, ih, List.map_cons]

/-- A field is its quoted name, a colon, and its value. -/
def renderField (field : PyText × PyJson) : List Char := field.1.quote ++ ':' :: render field.2

theorem renderFields_eq (fields : List (PyText × PyJson)) : renderFields fields = fields.map renderField := by
  induction fields with
  | nil => rfl
  | cons field rest ih => rw [renderFields, ih, List.map_cons, renderField]

theorem sortItems_eq (items : List PyJson) : sortItems items = items.map sortKeys := by
  induction items with
  | nil => rfl
  | cons item rest ih => rw [sortItems, ih, List.map_cons]

/-- Fields are sorted inside one by one. -/
theorem sortFields_eq (fields : List (PyText × PyJson)) : sortFields fields = Table.mapValues sortKeys fields := by
  induction fields with
  | nil => rfl
  | cons field rest ih =>
      rw [sortFields, ih]
      rfl

/-- A list is decoded when its items are. -/
theorem decodedItems_iff (items : List PyJson) : DecodedItems items ↔ ∀ item ∈ items, item.Decoded := by
  induction items with
  | nil => simp [DecodedItems]
  | cons item rest ih => rw [DecodedItems, ih, List.forall_mem_cons]

/-- An object is decoded when its values are. -/
theorem decodedFields_iff (fields : List (PyText × PyJson)) : DecodedFields fields ↔ ∀ field ∈ fields, field.2.Decoded := by
  induction fields with
  | nil => simp [DecodedFields]
  | cons field rest ih => rw [DecodedFields, ih, List.forall_mem_cons]

theorem sameItems_iff (items others : List PyJson) : SameItems items others ↔ List.Forall₂ Same items others := by
  induction items generalizing others with
  | nil => cases others <;> simp [SameItems]
  | cons item items ih =>
      cases others with
      | nil => simp [SameItems]
      | cons other others => rw [SameItems, ih, List.forall₂_cons]

/-- Two objects are the same when each field has its counterpart. -/
theorem sameFields_iff (fields others : List (PyText × PyJson)) :
    SameFields fields others ↔ ∀ field ∈ fields, ∃ other, (field.1, other) ∈ others ∧ Same field.2 other := by
  induction fields with
  | nil => simp [SameFields]
  | cons field rest ih => rw [SameFields, ih, List.forall_mem_cons]

end Lists

section Texts

open Json (Readable Opens Stops charKind)

/-- The value without parts whose text is that of a JSON atom. -/
def atom? : PyJson → Option Json
  | .null => some .null
  | .bool value => some (.bool value)
  | .int value => some (.int value)
  | .float value => some (.float value)
  | _ => none

/-- An atom is rendered as the atom of plain texts is. -/
theorem atom?_spec {value : PyJson} {atom : Json} (found : value.atom? = some atom) :
    value.render = Json.render atom ∧ atom.isAtom = true ∧ atom.kind = 0 := by
  cases value <;> cases found <;> exact ⟨by rw [render], rfl, rfl⟩

/-- Atoms with the same plain form are equal. -/
theorem atom?_injective {first second : PyJson} {atom : Json} (found : first.atom? = some atom)
    (also : second.atom? = some atom) : first = second := by
  cases first <;> cases found <;> cases second <;> cases also <;> rfl

/-- The four kinds of values that their first character tells apart. -/
def kind : PyJson → Nat
  | .str _ => 1
  | .arr _ => 2
  | .obj _ => 3
  | _ => 0

theorem atom?_of_kind {value : PyJson} (zero : value.kind = 0) : ∃ atom, value.atom? = some atom := by
  cases value with
  | null | bool _ | int _ | float _ => exact ⟨_, rfl⟩
  | str _ | arr _ | obj _ => cases zero

/-- The first character tells the kind of a value. -/
theorem render_head (value : PyJson) :
    ∃ first rest, render value = first :: rest ∧ charKind first = value.kind ∧ first ∉ [',', ':', ']', '}'] := by
  have plain : value.kind = 0 →
      ∃ first rest, render value = first :: rest ∧ charKind first = value.kind ∧ first ∉ [',', ':', ']', '}'] := by
    intro zero
    obtain ⟨atom, found⟩ := atom?_of_kind zero
    obtain ⟨text, -, kinds⟩ := atom?_spec found
    obtain ⟨first, rest, shape, char, outside⟩ := Json.render_head atom
    exact ⟨first, rest, text.trans shape, char.trans (kinds.trans zero.symm), outside⟩
  cases value with
  | null | bool _ | int _ | float _ => exact plain rfl
  | str text => exact ⟨'"', _, by rw [render, PyText.quote]; rfl, rfl, by decide⟩
  | arr items => exact ⟨'[', _, by rw [render]; rfl, rfl, by decide⟩
  | obj fields => exact ⟨'\x7b', _, by rw [render]; rfl, rfl, by decide⟩

theorem render_opens : Opens render := fun value => by
  obtain ⟨first, rest, text, -, outside⟩ := render_head value
  exact ⟨first, rest, text, outside⟩

theorem renderField_opens : Opens renderField := fun field => ⟨'"', _, rfl, by decide⟩

/-- Equal texts belong to values of one kind. -/
theorem kind_of_same {first second : PyJson} {rest last : List Char}
    (same : render first ++ rest = render second ++ last) : first.kind = second.kind := by
  obtain ⟨head, tail, text, kind, -⟩ := render_head first
  obtain ⟨other, more, otherText, otherKind, -⟩ := render_head second
  rw [text, otherText] at same
  rw [← kind, ← otherKind, (List.cons.inj same).1]

theorem atom_readable {value : PyJson} (zero : value.kind = 0) : Readable render value := by
  intro other rest last stops alsoStops same
  obtain ⟨atom, found⟩ := atom?_of_kind zero
  obtain ⟨another, alsoFound⟩ := atom?_of_kind ((kind_of_same same).symm.trans zero)
  obtain ⟨text, isAtom, kinds⟩ := atom?_spec found
  rw [text, (atom?_spec alsoFound).1] at same
  obtain ⟨equal, ends⟩ := Json.atom_readable isAtom kinds another stops alsoStops same
  exact ⟨atom?_injective found (equal ▸ alsoFound), ends⟩

theorem renderField_readable {field : PyText × PyJson} (value : Readable render field.2) :
    Readable renderField field := by
  intro other rest last stops alsoStops same
  simp only [renderField, List.append_assoc, List.cons_append] at same
  obtain ⟨names, tails⟩ := PyText.quote_unique same
  obtain ⟨values, ends⟩ := value other.2 stops alsoStops (List.cons.inj tails).2
  exact ⟨Prod.ext names values, ends⟩

/-- The text of a value ends in one way and belongs to one value. -/
theorem render_readable (value : PyJson) : Readable render value := by
  induction value using PyJson.induct with
  | null => exact atom_readable rfl
  | bool value => exact atom_readable rfl
  | int value => exact atom_readable rfl
  | float value => exact atom_readable rfl
  | str text =>
      intro other rest last _ _ same
      have kinds := kind_of_same same
      cases other with
      | str others =>
          rw [render, render] at same
          obtain ⟨texts, ends⟩ := PyText.quote_unique same
          exact ⟨by rw [texts], ends⟩
      | _ => simp [kind] at kinds
  | arr items each =>
      intro other rest last _ _ same
      have kinds := kind_of_same same
      cases other with
      | arr others =>
          simp only [render, renderItems_eq, List.cons_append, List.append_assoc, List.nil_append,
            List.cons.injEq, true_and] at same
          obtain ⟨lists, ends⟩ := Json.commaJoin_unique (by decide) render_opens each same
          exact ⟨by rw [lists], ends⟩
      | _ => simp [kind] at kinds
  | obj fields each =>
      intro other rest last _ _ same
      have kinds := kind_of_same same
      cases other with
      | obj others =>
          simp only [render, renderFields_eq, List.cons_append, List.append_assoc, List.nil_append,
            List.cons.injEq, true_and] at same
          obtain ⟨lists, ends⟩ := Json.commaJoin_unique (by decide) renderField_opens
            (fun field member => renderField_readable (each field member)) same
          exact ⟨by rw [lists], ends⟩
      | _ => simp [kind] at kinds

/-- Two values have the same canonical text exactly when they are equal after the sort of their fields. -/
theorem canonical_eq_iff {first second : PyJson} : canonical first = canonical second ↔ sortKeys first = sortKeys second := by
  constructor
  · intro same
    have texts : render (sortKeys first) ++ [] = render (sortKeys second) ++ [] := by
      rw [List.append_nil, List.append_nil]
      exact same
    exact (render_readable _ _ (by simp [Stops]) (by simp [Stops]) texts).1
  · intro same
    rw [canonical, canonical, same]

end Texts

section Sameness

/-- Tables with distinct keys agree after a sort by their keys exactly when one is as long as the other and has all of
its rows. -/
theorem insertionSort_eq_iff {fields others : List (PyText × PyJson)} (distinct : (Table.keys fields).Nodup) :
    (fields.insertionSort fun first second => first.1 ≤ second.1) =
        (others.insertionSort fun first second => first.1 ≤ second.1) ↔
      fields.length = others.length ∧ ∀ field ∈ fields, field ∈ others := by
  constructor
  · intro same
    have perm : fields.Perm others :=
      ((List.perm_insertionSort _ fields).symm.trans (List.Perm.of_eq same)).trans (List.perm_insertionSort _ others)
    exact ⟨perm.length_eq, fun field member => perm.mem_iff.mp member⟩
  · rintro ⟨lengths, covered⟩
    have inside : fields.Subperm others := List.subperm_of_subset distinct.of_map covered
    exact Table.insertionSort_of_perm distinct (inside.perm_of_length_le lengths.ge)

/-- Two values are the same exactly when they are equal after the sort of their fields. -/
theorem same_iff_sortKeys {first second : PyJson} (decoded : first.Decoded) (alsoDecoded : second.Decoded) :
    Same first second ↔ sortKeys first = sortKeys second := by
  induction first using PyJson.induct generalizing second with
  | null => cases second <;> simp [Same, sortKeys]
  | bool value => cases second <;> simp [Same, sortKeys]
  | int value => cases second <;> simp [Same, sortKeys]
  | float value => cases second <;> simp [Same, sortKeys]
  | str value => cases second <;> simp [Same, sortKeys]
  | arr items each =>
      cases second with
      | arr others =>
          rw [Decoded, decodedItems_iff] at decoded alsoDecoded
          rw [Same, sameItems_iff, sortKeys, sortKeys, sortItems_eq, sortItems_eq, PyJson.arr.injEq]
          induction items generalizing others with
          | nil => cases others <;> simp
          | cons item items ih =>
              cases others with
              | nil => simp
              | cons other others =>
                  have tails := ih (fun item member => each item (List.mem_cons_of_mem _ member))
                    (fun item member => decoded item (List.mem_cons_of_mem _ member)) others
                    (fun item member => alsoDecoded item (List.mem_cons_of_mem _ member))
                  have heads := each item List.mem_cons_self (decoded item List.mem_cons_self)
                    (alsoDecoded other List.mem_cons_self)
                  rw [List.forall₂_cons, List.map_cons, List.map_cons, List.cons.injEq, heads, tails]
      | _ => simp [Same, sortKeys]
  | obj fields each =>
      cases second with
      | obj others =>
          rw [Decoded, decodedFields_iff] at decoded alsoDecoded
          have distinct : (Table.keys (Table.mapValues sortKeys fields)).Nodup := by
            rw [Table.keys_mapValues]
            exact decoded.1
          rw [Same, sameFields_iff, sortKeys, sortKeys, sortFields_eq, sortFields_eq, PyJson.obj.injEq,
            insertionSort_eq_iff distinct, Table.mapValues, Table.mapValues, List.length_map, List.length_map,
            List.forall_mem_map]
          refine and_congr_right fun _ => forall₂_congr fun field member => ?_
          rw [List.mem_map]
          constructor
          · rintro ⟨other, listed, same⟩
            have equal := (each field member (decoded.2 field member) (alsoDecoded.2 _ listed)).mp same
            exact ⟨(field.1, other), listed, by rw [equal]⟩
          · rintro ⟨⟨name, other⟩, listed, equal⟩
            obtain ⟨names, values⟩ := Prod.mk.inj equal
            subst names
            exact ⟨other, listed, (each field member (decoded.2 field member) (alsoDecoded.2 _ listed)).mpr values.symm⟩
      | _ => simp [Same, sortKeys]

/-- Canonical texts tell decoded values apart. -/
theorem canonical_eq_iff_same {first second : PyJson} (decoded : first.Decoded) (alsoDecoded : second.Decoded) :
    canonical first = canonical second ↔ Same first second := by
  rw [canonical_eq_iff, same_iff_sortKeys decoded alsoDecoded]

end Sameness

section Embedding

mutual

/-- A value whose texts have no surrogates. -/
def ofJson : Json → PyJson
  | .null => .null
  | .bool value => .bool value
  | .int value => .int value
  | .float value => .float value
  | .str value => .str (.ofString value)
  | .arr items => .arr (ofItems items)
  | .obj fields => .obj (ofFields fields)

def ofItems : List Json → List PyJson
  | [] => []
  | item :: rest => ofJson item :: ofItems rest

def ofFields : List (String × Json) → List (PyText × PyJson)
  | [] => []
  | (name, value) :: rest => (.ofString name, ofJson value) :: ofFields rest

end

/-- A field is found under its converted name. -/
theorem find?_ofFields (fields : List (String × Json)) (name : String) :
    Table.find? (ofFields fields) (.ofString name) = (fields.lookup name).map ofJson := by
  induction fields with
  | nil => rfl
  | cons field rest ih =>
      obtain ⟨other, value⟩ := field
      rw [ofFields, Table.find?, ih, List.lookup_cons]
      by_cases same : other = name
      · simp [same]
      · have skipped : (name == other) = false := by simpa using Ne.symm same
        simp [same, skipped]

end Embedding

end PyJson

end ClosedLoop.Library
