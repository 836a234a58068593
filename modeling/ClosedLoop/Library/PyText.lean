import ClosedLoop.Library.JsonText
import Mathlib.Data.List.Chain
import Mathlib.Data.List.Lex

/-! The texts of Python. A text may have surrogates that stand alone, but the two halves of a pair are one character, as the
JSON decoder leaves them. -/

namespace ClosedLoop.Library

def isHighSurrogate (code : Nat) : Prop := 0xd800 ≤ code ∧ code < 0xdc00

def isLowSurrogate (code : Nat) : Prop := 0xdc00 ≤ code ∧ code < 0xe000

instance (code : Nat) : Decidable (isHighSurrogate code) := inferInstanceAs (Decidable (_ ∧ _))

instance (code : Nat) : Decidable (isLowSurrogate code) := inferInstanceAs (Decidable (_ ∧ _))

/-- The code points of a text that was decoded from JSON. -/
structure PyText where
  codes : List Nat
  bounded : ∀ code ∈ codes, code < 0x110000
  merged : codes.IsChain fun high low => ¬ (isHighSurrogate high ∧ isLowSurrogate low)
  deriving DecidableEq

namespace PyText

/-- Texts with the same codes are equal. -/
theorem codes_injective : Function.Injective PyText.codes := by
  rintro ⟨codes, _, _⟩ ⟨others, _, _⟩ same
  cases same
  rfl

instance : LinearOrder PyText := LinearOrder.lift' PyText.codes codes_injective

/-- A character is no surrogate. -/
theorem toNat_not_surrogate (char : Char) : ¬ isHighSurrogate char.toNat ∧ ¬ isLowSurrogate char.toNat := by
  have valid : char.toNat < 0xd800 ∨ (0xdfff < char.toNat ∧ char.toNat < 0x110000) := char.valid
  unfold isHighSurrogate isLowSurrogate
  omega

/-- A text without surrogates. -/
def ofString (text : String) : PyText where
  codes := text.toList.map Char.toNat
  bounded := by
    intro code member
    obtain ⟨char, _, rfl⟩ := List.mem_map.mp member
    have valid : char.toNat < 0xd800 ∨ (0xdfff < char.toNat ∧ char.toNat < 0x110000) := char.valid
    omega
  merged := by
    rw [List.isChain_map]
    have apart : text.toList.Pairwise fun first second =>
        ¬ (isHighSurrogate first.toNat ∧ isLowSurrogate second.toNat) :=
      List.pairwise_of_forall fun first _ pair => (toNat_not_surrogate first).1 pair.1
    exact apart.isChain

/-- The same text as a string, if no surrogate stands alone in it. -/
def string? (text : PyText) : Option String :=
  if text.codes.all (fun code => decide (¬ (isHighSurrogate code ∨ isLowSurrogate code))) then
    some (String.ofList (text.codes.map Char.ofNat))
  else none

theorem toNat_ofNat {code : Nat} (bounded : code < 0x110000)
    (scalar : ¬ (isHighSurrogate code ∨ isLowSurrogate code)) : (Char.ofNat code).toNat = code := by
  unfold isHighSurrogate isLowSurrogate at scalar
  have valid : code.isValidChar := by
    unfold Nat.isValidChar
    omega
  rw [Char.ofNat, dif_pos valid]
  rfl

/-- A text is read back from its codes. -/
theorem map_ofNat (text : String) : (text.toList.map Char.toNat).map Char.ofNat = text.toList := by
  rw [List.map_map]
  exact (List.map_congr_left fun char _ => Char.ofNat_toNat char).trans (List.map_id _)

/-- A converted string is read back. -/
@[simp] theorem string?_ofString (text : String) : (ofString text).string? = some text := by
  have scalars : ((ofString text).codes.all fun code =>
      decide (¬ (isHighSurrogate code ∨ isLowSurrogate code))) = true := by
    refine List.all_eq_true.mpr fun code member => decide_eq_true ?_
    obtain ⟨char, -, rfl⟩ := List.mem_map.mp member
    exact not_or.mpr (toNat_not_surrogate char)
  rw [string?, if_pos scalars]
  change some (String.ofList ((text.toList.map Char.toNat).map Char.ofNat)) = _
  rw [map_ofNat, String.ofList_toList]

/-- A text that is read as a string is that string, converted. -/
theorem ofString_of_string? {text : PyText} {string : String} (same : text.string? = some string) :
    ofString string = text := by
  unfold string? at same
  split at same
  · rename_i scalars
    cases same
    refine codes_injective ?_
    change (String.ofList _).toList.map Char.toNat = _
    rw [String.toList_ofList, List.map_map]
    refine (List.map_congr_left fun code member => ?_).trans (List.map_id _)
    exact toNat_ofNat (text.bounded code member) (of_decide_eq_true (List.all_eq_true.mp scalars code member))
  · cases same

theorem ofString_injective : Function.Injective ofString := by
  intro text other same
  have strings := congrArg string? same
  rw [string?_ofString, string?_ofString] at strings
  exact Option.some.inj strings

@[simp] theorem ofString_inj {text other : String} : ofString text = ofString other ↔ text = other :=
  ofString_injective.eq_iff

section Quoting

open Json

/-- A code point with `ensure_ascii`. A surrogate that stands alone is escaped by itself. -/
def escapeCode (code : Nat) : List Char :=
  if isHighSurrogate code ∨ isLowSurrogate code then unicodeEscape code else escapeChar (Char.ofNat code)

/-- A text between its quotes. -/
def quote (text : PyText) : List Char := '"' :: text.codes.flatMap escapeCode ++ ['"']

/-- An escape of a low surrogate comes next. -/
def lowAhead : List Char → Bool
  | '\\' :: 'u' :: first :: second :: third :: fourth :: _ => decide (isLowSurrogate (hexCode first second third fourth))
  | _ => false

/-- What follows a backslash is a letter, a code unit, or a surrogate pair. -/
def readTail : List Char → Option (Nat × List Char)
  | 'u' :: first :: second :: third :: fourth :: rest =>
      let high := hexCode first second third fourth
      if isHighSurrogate high ∧ lowAhead rest = true then
        match rest with
        | '\\' :: 'u' :: fifth :: sixth :: seventh :: eighth :: last =>
            some (0x10000 + (high - 0xd800) * 1024 + (hexCode fifth sixth seventh eighth - 0xdc00), last)
        | _ => none
      else some (high, rest)
  | letter :: rest => ((shortEscapes.map Prod.swap).lookup letter).map fun char => (char.toNat, rest)
  | [] => none

/-- The first code point of an escaped text and the text after it. -/
def read : List Char → Option (Nat × List Char)
  | char :: rest => if char = '\\' then readTail rest else some (char.toNat, rest)
  | [] => none

/-- An escaped code point reads back as itself when it is not the first half of a pair. -/
theorem read_escapeCode {code : Nat} {rest : List Char} (bounded : code < 0x110000)
    (alone : isHighSurrogate code → lowAhead rest = false) : read (escapeCode code ++ rest) = some (code, rest) := by
  unfold escapeCode
  split
  · rename_i surrogate
    have small : code < 65536 := by
      unfold isHighSurrogate isLowSurrogate at surrogate
      omega
    simp only [unicodeEscape, List.cons_append, List.nil_append, read, readTail, if_true]
    rw [hexCode_digits small, if_neg]
    rintro ⟨high, low⟩
    rw [alone high] at low
    cases low
  · rename_i scalar
    have same := toNat_ofNat bounded scalar
    generalize Char.ofNat code = char at same
    subst same
    unfold escapeChar
    split
    · rename_i letter found
      have member := mem_shortEscapes found
      simp only [shortEscapes, List.mem_cons, Prod.mk.injEq, List.not_mem_nil, or_false] at member
      rcases member with ⟨rfl, rfl⟩ | ⟨rfl, rfl⟩ | ⟨rfl, rfl⟩ | ⟨rfl, rfl⟩ | ⟨rfl, rfl⟩ | ⟨rfl, rfl⟩ | ⟨rfl, rfl⟩ <;> rfl
    · rename_i plain
      split
      · have different : char ≠ '\\' := by
          rintro rfl
          exact absurd plain (by decide)
        simp [read, different]
      · split
        · rename_i small
          simp only [unicodeEscape, List.cons_append, List.nil_append, read, readTail, if_true]
          rw [hexCode_digits small, if_neg fun both => scalar (Or.inl both.1)]
        · rename_i large
          have low : lowAhead (unicodeEscape (0xdc00 + (char.toNat - 0x10000) % 1024) ++ rest) = true := by
            simp only [unicodeEscape, List.cons_append, lowAhead]
            rw [hexCode_digits (by omega)]
            exact decide_eq_true ⟨by omega, by omega⟩
          have pair : isHighSurrogate (0xd800 + (char.toNat - 0x10000) / 1024) := by
            unfold isHighSurrogate
            omega
          rw [List.append_assoc]
          simp only [unicodeEscape, List.cons_append, List.nil_append, read, readTail, if_true] at low ⊢
          rw [hexCode_digits (by omega), hexCode_digits (by omega), if_pos ⟨pair, low⟩]
          have whole : 0x10000 + (0xd800 + (char.toNat - 0x10000) / 1024 - 0xd800) * 1024 +
              (0xdc00 + (char.toNat - 0x10000) % 1024 - 0xdc00) = char.toNat := by omega
          rw [whole]

/-- An escaped code point does not begin with a quote. -/
theorem escapeCode_head (code : Nat) : ∃ first rest, escapeCode code = first :: rest ∧ first ≠ '"' := by
  unfold escapeCode
  split
  · exact ⟨_, _, rfl, by decide⟩
  · exact escapeChar_head _

/-- The escape of a low surrogate belongs to a low surrogate. -/
theorem low_of_lowAhead {code : Nat} {rest : List Char} (bounded : code < 0x110000)
    (ahead : lowAhead (escapeCode code ++ rest) = true) : isLowSurrogate code := by
  have digits : ∀ {value : Nat} {rest : List Char}, value < 65536 →
      lowAhead (unicodeEscape value ++ rest) = true → isLowSurrogate value := by
    intro value rest small found
    simp only [unicodeEscape, List.cons_append, lowAhead] at found
    rw [hexCode_digits small] at found
    exact of_decide_eq_true found
  unfold escapeCode at ahead
  split at ahead
  · rename_i surrogate
    have small : code < 65536 := by
      unfold isHighSurrogate isLowSurrogate at surrogate
      omega
    exact digits small ahead
  · rename_i scalar
    have same := toNat_ofNat bounded scalar
    generalize Char.ofNat code = char at same ahead
    subst same
    unfold escapeChar at ahead
    split at ahead
    · rename_i letter found
      have member := mem_shortEscapes found
      simp only [shortEscapes, List.mem_cons, Prod.mk.injEq, List.not_mem_nil, or_false] at member
      rcases member with ⟨rfl, rfl⟩ | ⟨rfl, rfl⟩ | ⟨rfl, rfl⟩ | ⟨rfl, rfl⟩ | ⟨rfl, rfl⟩ | ⟨rfl, rfl⟩ | ⟨rfl, rfl⟩ <;>
        simp [lowAhead] at ahead
    · rename_i plain
      split at ahead
      · have different : char ≠ '\\' := by
          rintro rfl
          exact absurd plain (by decide)
        simp [lowAhead, different] at ahead
      · split at ahead
        · rename_i small
          exact digits small ahead
        · rename_i large
          rw [List.append_assoc] at ahead
          have low := digits (by omega) ahead
          unfold isLowSurrogate at low
          omega

/-- Nothing but the second half of a pair can follow a first half, and no text has the two. -/
theorem lowAhead_chars {high : Nat} {codes : List Nat} {rest : List Char} (isHigh : isHighSurrogate high)
    (bounded : ∀ code ∈ codes, code < 0x110000)
    (merged : (high :: codes).IsChain fun high low => ¬ (isHighSurrogate high ∧ isLowSurrogate low)) :
    lowAhead (codes.flatMap escapeCode ++ '"' :: rest) = false := by
  rw [← Bool.not_eq_true]
  intro ahead
  cases codes with
  | nil => simp [lowAhead] at ahead
  | cons code codes =>
      rw [List.flatMap_cons, List.append_assoc] at ahead
      have low := low_of_lowAhead (bounded code List.mem_cons_self) ahead
      exact (List.isChain_cons_cons.mp merged).1 ⟨isHigh, low⟩

/-- The closing quote of an escaped text is found in one way. -/
theorem escapedCodes_unique {first second : List Nat} {rest other : List Char}
    (bounded : ∀ code ∈ first, code < 0x110000) (alsoBounded : ∀ code ∈ second, code < 0x110000)
    (merged : first.IsChain fun high low => ¬ (isHighSurrogate high ∧ isLowSurrogate low))
    (alsoMerged : second.IsChain fun high low => ¬ (isHighSurrogate high ∧ isLowSurrogate low))
    (same : first.flatMap escapeCode ++ '"' :: rest = second.flatMap escapeCode ++ '"' :: other) :
    first = second ∧ rest = other := by
  induction first generalizing second with
  | nil =>
      cases second with
      | nil => exact ⟨rfl, (List.cons.inj same).2⟩
      | cons code codes =>
          obtain ⟨head, tail, text, different⟩ := escapeCode_head code
          simp only [List.flatMap_nil, List.flatMap_cons, text, List.nil_append, List.cons_append] at same
          exact absurd (List.cons.inj same).1.symm different
  | cons code codes ih =>
      cases second with
      | nil =>
          obtain ⟨head, tail, text, different⟩ := escapeCode_head code
          simp only [List.flatMap_nil, List.flatMap_cons, text, List.nil_append, List.cons_append] at same
          exact absurd (List.cons.inj same).1 different
      | cons next others =>
          simp only [List.flatMap_cons, List.append_assoc] at same
          have later : ∀ {items : List Nat} {item : Nat}, (∀ code ∈ item :: items, code < 0x110000) →
              ∀ code ∈ items, code < 0x110000 := fun all code member => all code (List.mem_cons_of_mem _ member)
          have reads := congrArg read same
          rw [read_escapeCode (bounded code List.mem_cons_self) fun high => lowAhead_chars high (later bounded) merged,
            read_escapeCode (alsoBounded next List.mem_cons_self) fun high =>
              lowAhead_chars high (later alsoBounded) alsoMerged] at reads
          obtain ⟨sameCode, sameRest⟩ := Prod.mk.inj (Option.some.inj reads)
          obtain ⟨sameCodes, sameEnd⟩ := ih (later bounded) (later alsoBounded) merged.of_cons alsoMerged.of_cons sameRest
          exact ⟨by rw [sameCode, sameCodes], sameEnd⟩

/-- A quoted text can be read off. -/
theorem quote_unique {first second : PyText} {rest other : List Char}
    (same : quote first ++ rest = quote second ++ other) : first = second ∧ rest = other := by
  simp only [quote, List.cons_append, List.append_assoc, List.nil_append, List.cons.injEq, true_and] at same
  obtain ⟨codes, ends⟩ := escapedCodes_unique first.bounded second.bounded first.merged second.merged same
  exact ⟨codes_injective codes, ends⟩

end Quoting

end PyText

end ClosedLoop.Library
