import ClosedLoop.Library.FloatText

namespace ClosedLoop.Library.Json

/-- The lower case digit of a value below sixteen. -/
def hexDigit (value : Nat) : Char := "0123456789abcdef".toList.getD value '0'

/-- A code unit as an escape with four digits. -/
def unicodeEscape (code : Nat) : List Char :=
  ['\\', 'u', hexDigit (code / 4096 % 16), hexDigit (code / 256 % 16), hexDigit (code / 16 % 16),
    hexDigit (code % 16)]

/-- The escapes that have a letter. -/
def shortEscapes : List (Char × Char) :=
  [('"', '"'), ('\\', '\\'), ('\n', 'n'), ('\r', 'r'), ('\t', 't'), ('\x0c', 'f'), ('\x08', 'b')]

/-- With `ensure_ascii` a character outside of printable ASCII is escaped, if need be as a surrogate pair. -/
def escapeChar (char : Char) : List Char :=
  match shortEscapes.lookup char with
  | some letter => ['\\', letter]
  | none =>
      if 0x20 ≤ char.toNat ∧ char.toNat ≤ 0x7e then [char]
      else if char.toNat < 0x10000 then unicodeEscape char.toNat
      else unicodeEscape (0xd800 + (char.toNat - 0x10000) / 1024) ++
        unicodeEscape (0xdc00 + (char.toNat - 0x10000) % 1024)

/-- A string between its quotes. -/
def quote (text : String) : List Char := '"' :: text.toList.flatMap escapeChar ++ ['"']

/-- The parts of a list or of an object are separated by commas. -/
def commaTail : List (List Char) → List Char
  | [] => []
  | part :: rest => ',' :: part ++ commaTail rest

def commaJoin : List (List Char) → List Char
  | [] => []
  | part :: rest => part ++ commaTail rest

mutual

/-- The text of a value with the separators `,` and `:` and no blanks. -/
def render : Json → List Char
  | .null => "null".toList
  | .bool value => (if value then "true" else "false").toList
  | .int value => intChars value
  | .float value => value.toChars
  | .str value => quote value
  | .arr items => '[' :: commaJoin (renderItems items) ++ [']']
  | .obj fields => '{' :: commaJoin (renderFields fields) ++ ['}']

def renderItems : List Json → List (List Char)
  | [] => []
  | item :: rest => render item :: renderItems rest

def renderFields : List (String × Json) → List (List Char)
  | [] => []
  | (name, value) :: rest => (quote name ++ ':' :: render value) :: renderFields rest

end

/-- `json.dumps(value, sort_keys=True, separators=(",", ":"), ensure_ascii=True)`. -/
def canonical (value : Json) : String := String.ofList (render (sortKeys value))

section Strings

/-- The value of a lower case digit. -/
def hexValue (digit : Char) : Nat := "0123456789abcdef".toList.idxOf digit

def hexCode (first second third fourth : Char) : Nat :=
  ((hexValue first * 16 + hexValue second) * 16 + hexValue third) * 16 + hexValue fourth

/-- What follows a backslash is a letter, a code unit, or a surrogate pair. -/
def unescapeTail : List Char → Option (Char × List Char)
  | 'u' :: first :: second :: third :: fourth :: rest =>
      let high := hexCode first second third fourth
      if 0xd800 ≤ high ∧ high < 0xdc00 then
        match rest with
        | '\\' :: 'u' :: fifth :: sixth :: seventh :: eighth :: last =>
            let low := hexCode fifth sixth seventh eighth
            some (Char.ofNat (0x10000 + (high - 0xd800) * 1024 + (low - 0xdc00)), last)
        | _ => none
      else some (Char.ofNat high, rest)
  | letter :: rest => ((shortEscapes.map Prod.swap).lookup letter).map fun char => (char, rest)
  | [] => none

/-- The first character of an escaped text and the text after it. -/
def unescape : List Char → Option (Char × List Char)
  | char :: rest => if char = '\\' then unescapeTail rest else some (char, rest)
  | [] => none

theorem hexValue_hexDigit {value : Nat} (small : value < 16) : hexValue (hexDigit value) = value := by
  have all : ∀ digit : Fin 16, hexValue (hexDigit digit.val) = digit.val := by decide
  exact all ⟨value, small⟩

/-- A code is read back from its four digits. -/
theorem hexCode_digits {code : Nat} (small : code < 65536) :
    hexCode (hexDigit (code / 4096 % 16)) (hexDigit (code / 256 % 16)) (hexDigit (code / 16 % 16))
      (hexDigit (code % 16)) = code := by
  unfold hexCode
  rw [hexValue_hexDigit (Nat.mod_lt _ (by decide)), hexValue_hexDigit (Nat.mod_lt _ (by decide)),
    hexValue_hexDigit (Nat.mod_lt _ (by decide)), hexValue_hexDigit (Nat.mod_lt _ (by decide))]
  omega

theorem mem_shortEscapes {char letter : Char} (found : shortEscapes.lookup char = some letter) :
    (char, letter) ∈ shortEscapes := by
  obtain ⟨before, after, split, -⟩ := List.lookup_eq_some_iff.mp found
  simp [split]

/-- An escaped character reads back as itself. -/
theorem unescape_escapeChar (char : Char) (rest : List Char) : unescape (escapeChar char ++ rest) = some (char, rest) := by
  have valid : char.toNat < 0xd800 ∨ (0xdfff < char.toNat ∧ char.toNat < 0x110000) := char.valid
  unfold escapeChar
  split
  · rename_i letter found
    have member := mem_shortEscapes found
    simp only [shortEscapes, List.mem_cons, Prod.mk.injEq, List.not_mem_nil, or_false] at member
    rcases member with ⟨rfl, rfl⟩ | ⟨rfl, rfl⟩ | ⟨rfl, rfl⟩ | ⟨rfl, rfl⟩ | ⟨rfl, rfl⟩ | ⟨rfl, rfl⟩ | ⟨rfl, rfl⟩ <;> rfl
  · rename_i plain
    split
    · have different : char ≠ '\\' := by
        rintro rfl
        exact absurd plain (by decide)
      simp [unescape, different]
    · split
      · rename_i small
        simp only [unicodeEscape, List.cons_append, List.nil_append, unescape, unescapeTail, if_true]
        rw [hexCode_digits (by omega), if_neg (by omega), Char.ofNat_toNat]
      · rename_i large
        simp only [unicodeEscape, List.cons_append, List.nil_append, unescape, unescapeTail, if_true]
        rw [hexCode_digits (by omega), hexCode_digits (by omega), if_pos (by omega)]
        have whole : 0x10000 + (0xd800 + (char.toNat - 0x10000) / 1024 - 0xd800) * 1024 +
            (0xdc00 + (char.toNat - 0x10000) % 1024 - 0xdc00) = char.toNat := by omega
        rw [whole, Char.ofNat_toNat]

/-- An escaped character does not begin with a quote. -/
theorem escapeChar_head (char : Char) : ∃ first rest, escapeChar char = first :: rest ∧ first ≠ '"' := by
  unfold escapeChar
  split
  · exact ⟨_, _, rfl, by decide⟩
  · rename_i plain
    split
    · refine ⟨char, [], rfl, ?_⟩
      rintro rfl
      exact absurd plain (by decide)
    · split
      · exact ⟨_, _, rfl, by decide⟩
      · exact ⟨_, _, rfl, by decide⟩

/-- The closing quote of an escaped text is found in one way. -/
theorem escaped_unique {first second rest other : List Char}
    (same : first.flatMap escapeChar ++ '"' :: rest = second.flatMap escapeChar ++ '"' :: other) :
    first = second ∧ rest = other := by
  induction first generalizing second with
  | nil =>
      cases second with
      | nil => exact ⟨rfl, (List.cons.inj same).2⟩
      | cons char chars =>
          obtain ⟨head, tail, text, different⟩ := escapeChar_head char
          simp only [List.flatMap_nil, List.flatMap_cons, text, List.nil_append, List.cons_append] at same
          exact absurd (List.cons.inj same).1.symm different
  | cons char chars ih =>
      cases second with
      | nil =>
          obtain ⟨head, tail, text, different⟩ := escapeChar_head char
          simp only [List.flatMap_nil, List.flatMap_cons, text, List.nil_append, List.cons_append] at same
          exact absurd (List.cons.inj same).1 different
      | cons next others =>
          simp only [List.flatMap_cons, List.append_assoc] at same
          have read := congrArg unescape same
          rw [unescape_escapeChar, unescape_escapeChar] at read
          obtain ⟨sameChar, sameRest⟩ := Prod.mk.inj (Option.some.inj read)
          obtain ⟨sameChars, sameEnd⟩ := ih sameRest
          exact ⟨by rw [sameChar, sameChars], sameEnd⟩

/-- A quoted text can be read off. -/
theorem quote_unique {first second : String} {rest other : List Char}
    (same : quote first ++ rest = quote second ++ other) : first = second ∧ rest = other := by
  simp only [quote, List.cons_append, List.append_assoc, List.nil_append, List.cons.injEq, true_and] at same
  obtain ⟨chars, ends⟩ := escaped_unique same
  exact ⟨String.toList_inj.mp chars, ends⟩

end Strings

section Atoms

/-- The characters that stand around values. -/
def isDelimiter (char : Char) : Bool := char ∈ [',', ':', '"', '[', ']', '{', '}']

/-- The value is neither a string nor a list nor an object. -/
def isAtom : Json → Bool
  | .null | .bool _ | .int _ | .float _ => true
  | _ => false

/-- What follows a value ends the text or begins with a delimiter. -/
def Stops (rest : List Char) : Prop := ∀ char ∈ rest.head?, isDelimiter char = true

theorem digit_not_delimiter {char : Char} (digit : char.isDigit = true) : isDelimiter char = false := by
  unfold isDelimiter
  simp only [List.mem_cons, List.not_mem_nil, or_false, decide_eq_false_iff_not]
  rintro (rfl | rfl | rfl | rfl | rfl | rfl | rfl) <;> exact absurd digit (by decide)

/-- A text that was checked as a whole holds no delimiter. -/
theorem plain_of_all {text : List Char} (checked : (text.all fun char => !isDelimiter char) = true) {char : Char}
    (member : char ∈ text) : isDelimiter char = false := by
  simpa using List.all_eq_true.mp checked char member

/-- A float holds no delimiter. -/
theorem Double.plain {value : Double} {char : Char} (member : char ∈ value.toChars) : isDelimiter char = false := by
  cases value with
  | finite value =>
      rcases FloatText.mem_finite member with literal | slash | digit
      · exact plain_of_all (by decide) literal
      · rw [slash]
        decide
      · exact digit_not_delimiter digit
  | negativeZero => exact plain_of_all (by decide) member
  | infinity negative =>
      cases negative
      · exact plain_of_all (by decide) member
      · exact plain_of_all (by decide) member
  | nan => exact plain_of_all (by decide) member

/-- The text of an atom holds no delimiter. -/
theorem render_plain {value : Json} (atom : value.isAtom = true) : ∀ char ∈ render value, isDelimiter char = false := by
  intro char member
  cases value with
  | null => exact plain_of_all (by decide) member
  | bool value =>
      cases value
      · exact plain_of_all (by decide) member
      · exact plain_of_all (by decide) member
  | int value =>
      rcases mem_intChars member with sign | digit
      · rw [sign]
        decide
      · exact digit_not_delimiter digit
  | float value => exact Double.plain member
  | str _ => cases atom
  | arr _ => cases atom
  | obj _ => cases atom

/-- The end of a text without delimiters is found in one way. -/
theorem plain_unique {first second rest other : List Char} (plain : ∀ char ∈ first, isDelimiter char = false)
    (alsoPlain : ∀ char ∈ second, isDelimiter char = false) (stops : Stops rest) (alsoStops : Stops other)
    (same : first ++ rest = second ++ other) : first = second ∧ rest = other := by
  have takes : ∀ {text end_ : List Char}, (∀ char ∈ text, isDelimiter char = false) → Stops end_ →
      (text ++ end_).takeWhile (fun char => !isDelimiter char) = text := by
    intro text end_ inside after
    rw [List.takeWhile_append_of_pos (by simpa using inside)]
    cases end_ with
    | nil => simp
    | cons char chars => simp [after char rfl]
  have heads : first = second := by
    rw [← takes plain stops, same, takes alsoPlain alsoStops]
  subst heads
  exact ⟨rfl, List.append_cancel_left same⟩

/-- Different atoms have different texts. -/
theorem atom_injective {first second : Json} (atom : first.isAtom = true) (alsoAtom : second.isAtom = true)
    (same : render first = render second) : first = second := by
  have marked : ∀ (number : Int) {text : List Char} {char : Char}, render (.int number) = text → char ∈ text →
      char = '-' ∨ char.isDigit = true := fun number _ _ equal member => mem_intChars (equal ▸ member)
  cases first with
  | null =>
      cases second with
      | null => rfl
      | bool value => cases value <;> exact absurd same (by decide)
      | int number => exact absurd (marked number same.symm (show 'n' ∈ _ by decide)) (by decide)
      | float value => exact absurd same.symm (value.ne_literal (by decide))
      | str _ | arr _ | obj _ => cases alsoAtom
  | bool value =>
      cases second with
      | null => cases value <;> exact absurd same (by decide)
      | bool other =>
          cases value <;> cases other
          all_goals first
            | rfl
            | exact absurd same (by decide)
      | int number => cases value <;> exact absurd (marked number same.symm (show 'e' ∈ _ by decide)) (by decide)
      | float other => cases value <;> exact absurd same.symm (other.ne_literal (by decide))
      | str _ | arr _ | obj _ => cases alsoAtom
  | int number =>
      cases second with
      | null => exact absurd (marked number same (show 'n' ∈ _ by decide)) (by decide)
      | bool value => cases value <;> exact absurd (marked number same (show 'e' ∈ _ by decide)) (by decide)
      | int other => rw [intChars_injective same]
      | float value =>
          obtain ⟨char, member, notSign, notDigit⟩ := value.marked
          rcases marked number same member with sign | digit
          · exact absurd sign notSign
          · rw [notDigit] at digit
            cases digit
      | str _ | arr _ | obj _ => cases alsoAtom
  | float value =>
      cases second with
      | null => exact absurd same (value.ne_literal (by decide))
      | bool other => cases other <;> exact absurd same (value.ne_literal (by decide))
      | int number =>
          obtain ⟨char, member, notSign, notDigit⟩ := value.marked
          rcases marked number same.symm member with sign | digit
          · exact absurd sign notSign
          · rw [notDigit] at digit
            cases digit
      | float other => rw [Double.toChars_injective same]
      | str _ | arr _ | obj _ => cases alsoAtom
  | str _ | arr _ | obj _ => cases atom

end Atoms

section Values

/-- Items are rendered one by one. -/
theorem renderItems_eq (items : List Json) : renderItems items = items.map render := by
  induction items with
  | nil => rfl
  | cons item rest ih => rw [renderItems, ih, List.map_cons]

/-- A field is its quoted name, a colon, and its value. -/
def renderField (field : String × Json) : List Char := quote field.1 ++ ':' :: render field.2

theorem renderFields_eq (fields : List (String × Json)) : renderFields fields = fields.map renderField := by
  induction fields with
  | nil => rfl
  | cons field rest ih => rw [renderFields, ih, List.map_cons, renderField]

/-- The end of the text of this item is found in one way. -/
def Readable {α : Type} (piece : α → List Char) (item : α) : Prop :=
  ∀ (other : α) {rest last : List Char}, Stops rest → Stops last → piece item ++ rest = piece other ++ last →
    item = other ∧ rest = last

/-- The text of an item begins with a character that neither separates nor closes. -/
def Opens {α : Type} (piece : α → List Char) : Prop :=
  ∀ item, ∃ first rest, piece item = first :: rest ∧ first ∉ [',', ':', ']', '}']

section Lists

variable {α : Type} {piece : α → List Char} {close : Char} {rest last : List Char}

theorem stops_commaTail (closes : close ∈ [']', '}']) (parts : List (List Char)) :
    Stops (commaTail parts ++ close :: rest) := by
  intro char member
  cases parts with
  | nil =>
      cases member
      have closing : ([']', '}'].all isDelimiter) = true := by decide
      exact List.all_eq_true.mp closing _ closes
  | cons part others =>
      cases member
      decide

/-- Readable pieces between commas can be read off. -/
theorem commaTail_unique (closes : close ∈ [']', '}']) {items others : List α}
    (readable : ∀ item ∈ items, Readable piece item)
    (same : commaTail (items.map piece) ++ close :: rest = commaTail (others.map piece) ++ close :: last) :
    items = others ∧ rest = last := by
  have different : close ≠ ',' := by
    rintro rfl
    exact absurd closes (by decide)
  induction items generalizing others with
  | nil =>
      cases others with
      | nil => exact ⟨rfl, (List.cons.inj same).2⟩
      | cons other more => exact absurd (List.cons.inj same).1 different
  | cons item items ih =>
      cases others with
      | nil => exact absurd (List.cons.inj same).1.symm different
      | cons other more =>
          simp only [List.map_cons, commaTail, List.cons_append, List.append_assoc, List.cons.injEq,
            true_and] at same
          obtain ⟨head, tail⟩ := readable item List.mem_cons_self other (stops_commaTail closes _)
            (stops_commaTail closes _) same
          obtain ⟨heads, tails⟩ := ih (fun item member => readable item (List.mem_cons_of_mem _ member)) tail
          exact ⟨by rw [head, heads], tails⟩

/-- A list between its brackets ends in one way. -/
theorem commaJoin_unique (closes : close ∈ [']', '}']) (opens : Opens piece) {items others : List α}
    (readable : ∀ item ∈ items, Readable piece item)
    (same : commaJoin (items.map piece) ++ close :: rest = commaJoin (others.map piece) ++ close :: last) :
    items = others ∧ rest = last := by
  have closed : close ∈ [',', ':', ']', '}'] := List.mem_cons_of_mem _ (List.mem_cons_of_mem _ closes)
  cases items with
  | nil =>
      cases others with
      | nil => exact ⟨rfl, (List.cons.inj same).2⟩
      | cons other more =>
          obtain ⟨first, text, shape, outside⟩ := opens other
          simp only [List.map_nil, List.map_cons, commaJoin, shape, List.nil_append, List.cons_append] at same
          exact absurd ((List.cons.inj same).1 ▸ closed) outside
  | cons item items =>
      cases others with
      | nil =>
          obtain ⟨first, text, shape, outside⟩ := opens item
          simp only [List.map_nil, List.map_cons, commaJoin, shape, List.nil_append, List.cons_append] at same
          exact absurd ((List.cons.inj same).1 ▸ closed) outside
      | cons other more =>
          simp only [List.map_cons, commaJoin, List.append_assoc] at same
          obtain ⟨head, tail⟩ := readable item List.mem_cons_self other (stops_commaTail closes _)
            (stops_commaTail closes _) same
          obtain ⟨heads, tails⟩ := commaTail_unique closes
            (fun item member => readable item (List.mem_cons_of_mem _ member)) tail
          exact ⟨by rw [head, heads], tails⟩

end Lists

/-- The four kinds of values that their first character tells apart. -/
def kind : Json → Nat
  | .str _ => 1
  | .arr _ => 2
  | .obj _ => 3
  | _ => 0

def charKind (char : Char) : Nat :=
  if char = '"' then 1 else if char = '[' then 2 else if char = '{' then 3 else 0

theorem charKind_plain {char : Char} (plain : isDelimiter char = false) :
    charKind char = 0 ∧ char ∉ [',', ':', ']', '}'] := by
  simp only [isDelimiter, List.mem_cons, List.not_mem_nil, or_false, decide_eq_false_iff_not, not_or] at plain
  simp [charKind, plain]

/-- The first character tells the kind of a value. -/
theorem render_head (value : Json) :
    ∃ first rest, render value = first :: rest ∧ charKind first = value.kind ∧ first ∉ [',', ':', ']', '}'] := by
  have atom : value.isAtom = true → value.kind = 0 → render value ≠ [] → ∃ first rest,
      render value = first :: rest ∧ charKind first = value.kind ∧ first ∉ [',', ':', ']', '}'] := by
    intro isAtom isZero filled
    obtain ⟨first, rest, text⟩ := List.exists_cons_of_ne_nil filled
    have plain := charKind_plain (render_plain isAtom first (by simp [text]))
    exact ⟨first, rest, text, plain.1.trans isZero.symm, plain.2⟩
  cases value with
  | null => exact atom rfl rfl (by decide)
  | bool value => exact atom rfl rfl (by cases value <;> decide)
  | int value => exact atom rfl rfl (intChars_ne_nil value)
  | float value =>
      obtain ⟨char, member, -⟩ := value.marked
      exact atom rfl rfl (List.ne_nil_of_mem member)
  | str text => exact ⟨'"', _, rfl, rfl, by decide⟩
  | arr items => exact ⟨'[', _, rfl, rfl, by decide⟩
  | obj fields => exact ⟨'{', _, rfl, rfl, by decide⟩

theorem render_opens : Opens render := fun value => by
  obtain ⟨first, rest, text, -, outside⟩ := render_head value
  exact ⟨first, rest, text, outside⟩

theorem renderField_opens : Opens renderField := fun field => ⟨'"', _, rfl, by decide⟩

/-- Equal texts belong to values of one kind. -/
theorem kind_of_same {first second : Json} {rest last : List Char}
    (same : render first ++ rest = render second ++ last) : first.kind = second.kind := by
  obtain ⟨head, tail, text, kind, -⟩ := render_head first
  obtain ⟨other, more, otherText, otherKind, -⟩ := render_head second
  rw [text, otherText] at same
  rw [← kind, ← otherKind, (List.cons.inj same).1]

/-- An atom can be read off. -/
theorem atom_readable {value : Json} (atom : value.isAtom = true) (zero : value.kind = 0) :
    Readable render value := by
  intro other rest last stops alsoStops same
  have alsoAtom : other.isAtom = true := by
    have kinds := (kind_of_same same).symm.trans zero
    cases other <;> simp_all [kind, isAtom]
  obtain ⟨texts, ends⟩ := plain_unique (render_plain atom) (render_plain alsoAtom) stops alsoStops same
  exact ⟨atom_injective atom alsoAtom texts, ends⟩

/-- A field can be read off when its value can. -/
theorem renderField_readable {field : String × Json} (value : Readable render field.2) :
    Readable renderField field := by
  intro other rest last stops alsoStops same
  simp only [renderField, List.append_assoc, List.cons_append] at same
  obtain ⟨names, tails⟩ := quote_unique same
  obtain ⟨values, ends⟩ := value other.2 stops alsoStops (List.cons.inj tails).2
  exact ⟨Prod.ext names values, ends⟩

/-- The text of a value ends in one way and belongs to one value. -/
theorem render_readable (value : Json) : Readable render value := by
  induction value using Json.induct with
  | null => exact atom_readable rfl rfl
  | bool value => exact atom_readable rfl rfl
  | int value => exact atom_readable rfl rfl
  | float value => exact atom_readable rfl rfl
  | str text =>
      intro other rest last _ _ same
      have kinds := kind_of_same same
      cases other with
      | str others =>
          obtain ⟨texts, ends⟩ := quote_unique same
          exact ⟨by rw [texts], ends⟩
      | _ => simp [kind] at kinds
  | arr items each =>
      intro other rest last _ _ same
      have kinds := kind_of_same same
      cases other with
      | arr others =>
          simp only [render, renderItems_eq, List.cons_append, List.append_assoc, List.nil_append,
            List.cons.injEq, true_and] at same
          obtain ⟨lists, ends⟩ := commaJoin_unique (by decide) render_opens each same
          exact ⟨by rw [lists], ends⟩
      | _ => simp [kind] at kinds
  | obj fields each =>
      intro other rest last _ _ same
      have kinds := kind_of_same same
      cases other with
      | obj others =>
          simp only [render, renderFields_eq, List.cons_append, List.append_assoc, List.nil_append,
            List.cons.injEq, true_and] at same
          obtain ⟨lists, ends⟩ := commaJoin_unique (by decide) renderField_opens
            (fun field member => renderField_readable (each field member)) same
          exact ⟨by rw [lists], ends⟩
      | _ => simp [kind] at kinds

/-- Two values have the same canonical text exactly when they differ in the order of fields only. -/
theorem canonical_eq_iff {first second : Json} : canonical first = canonical second ↔ sortKeys first = sortKeys second := by
  constructor
  · intro same
    have texts : render (sortKeys first) ++ [] = render (sortKeys second) ++ [] := by
      rw [List.append_nil, List.append_nil]
      exact String.ofList_injective same
    exact (render_readable _ _ (by simp [Stops]) (by simp [Stops]) texts).1
  · intro same
    rw [canonical, canonical, same]

end Values

section Parts

@[simp] theorem canonical_str {first second : String} : canonical (.str first) = canonical (.str second) ↔ first = second := by
  rw [canonical_eq_iff, sortKeys, sortKeys, Json.str.injEq]

@[simp] theorem canonical_int {first second : Int} : canonical (.int first) = canonical (.int second) ↔ first = second := by
  rw [canonical_eq_iff, sortKeys, sortKeys, Json.int.injEq]

@[simp] theorem canonical_bool {first second : Bool} : canonical (.bool first) = canonical (.bool second) ↔ first = second := by
  rw [canonical_eq_iff, sortKeys, sortKeys, Json.bool.injEq]

@[simp] theorem canonical_float {first second : Double} :
    canonical (.float first) = canonical (.float second) ↔ first = second := by
  rw [canonical_eq_iff, sortKeys, sortKeys, Json.float.injEq]

/-- Lists with the same canonical text have items with the same canonical texts. -/
theorem canonical_arr {items others : List Json} (same : canonical (.arr items) = canonical (.arr others)) :
    items.map canonical = others.map canonical := by
  rw [canonical_eq_iff, sortKeys, sortKeys, sortItems_eq, sortItems_eq, Json.arr.injEq] at same
  have rendered := congrArg (List.map fun item => String.ofList (render item)) same
  rwa [List.map_map, List.map_map] at rendered

/-- A list of rendered items determines the items when each rendering does. -/
theorem canonical_map_injective {α : Type} {write : α → Json} (injective : ∀ {first second : α},
      canonical (write first) = canonical (write second) → first = second) {items others : List α}
    (same : canonical (.arr (items.map write)) = canonical (.arr (others.map write))) : items = others := by
  have texts := canonical_arr same
  rw [List.map_map, List.map_map] at texts
  exact List.map_injective_iff.mpr (fun _ _ equal => injective equal) texts

/-- Objects with the same canonical text have fields with the same canonical texts. -/
theorem canonical_field {fields others : List (String × Json)}
    (same : canonical (.obj fields) = canonical (.obj others)) (name : String) :
    (fields.lookup name).map canonical = (others.lookup name).map canonical := by
  have sorted := lookup_of_sortKeys (canonical_eq_iff.mp same) name
  have rendered := congrArg (Option.map fun value => String.ofList (render value)) sorted
  rwa [Option.map_map, Option.map_map] at rendered

/-- A field that only one of two objects has tells them apart. -/
theorem canonical_ne {fields others : List (String × Json)} (name : String) (present : (fields.lookup name).isSome = true)
    (absent : others.lookup name = none) : canonical (.obj fields) ≠ canonical (.obj others) := by
  intro same
  have equal := canonical_field same name
  rw [absent, Option.map_none, Option.map_eq_none_iff] at equal
  rw [equal] at present
  cases present

end Parts

end ClosedLoop.Library.Json
