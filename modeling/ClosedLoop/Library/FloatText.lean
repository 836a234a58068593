import ClosedLoop.Library.Json
import ClosedLoop.Library.IpAddress

namespace ClosedLoop.Library

/-- The decimal text of an integer. -/
def intChars (value : Int) : List Char :=
  if value < 0 then '-' :: Nat.toDigits 10 value.natAbs else Nat.toDigits 10 value.natAbs

namespace FloatText

/-- The nearest integer, and the even one of two that are equally near. -/
def roundHalfEven (value : Rat) : Int :=
  let low := value.floor
  let rest := value - low
  if rest < 1 / 2 then low else if 1 / 2 < rest then low + 1 else if low % 2 = 0 then low else low + 1

/-- A power of the base with an integer exponent. -/
def power (base : Nat) (exponent : Int) : Rat :=
  if 0 ≤ exponent then ((base ^ exponent.toNat : Nat) : Rat) else mkRat 1 (base ^ (-exponent).toNat)

/-- The greatest power of two that is not above a positive number has this exponent. -/
def binaryExponent (value : Rat) : Int :=
  let guess : Int := (value.num.natAbs.log2 : Int) - value.den.log2
  if power 2 guess ≤ value then guess else guess - 1

/-- The greatest power of ten that is not above a positive number has this exponent. -/
def decimalExponent (value : Rat) : Int :=
  let guess : Int := ((toString value.num.natAbs).length : Int) - (toString value.den).length
  if power 10 guess ≤ value then guess else guess - 1

/-- The double that is nearest to a positive number: 53 bits, or fewer next to zero. -/
def nearestDouble (value : Rat) : Rat :=
  let unit := power 2 (max (binaryExponent value - 52) (-1074))
  roundHalfEven (value / unit) * unit

/-- The digits and the exponent of a decimal literal. -/
def readMantissa (text : List Char) : Option (Nat × Nat) :=
  match text.splitOn '.' with
  | [whole] => do return (← IPAddress.readDigits 10 whole, 0)
  | [whole, fraction] => do return (← IPAddress.readDigits 10 (whole ++ fraction), fraction.length)
  | _ => none

def readExponent : List Char → Option Int
  | '-' :: digits => do return -(← IPAddress.readDigits 10 digits : Nat)
  | '+' :: digits => do return (← IPAddress.readDigits 10 digits : Nat)
  | _ => none

/-- The number of a literal without a sign before it is rounded to a double. -/
def readLiteral (text : List Char) : Option Rat :=
  match text.splitOn 'e' with
  | [mantissa] => do
      let (digits, places) ← readMantissa mantissa
      return digits * power 10 (-places)
  | [mantissa, exponent] => do
      let (digits, places) ← readMantissa mantissa
      return digits * power 10 ((← readExponent exponent) - places)
  | _ => none

/-- The characters of a decimal literal. -/
def literalChars : List Char := "0123456789.e+-".toList

/-- `float(text)` of a text that `repr` wrote. Such a text has a point or an exponent. -/
def readRepr (text : List Char) : Option Rat :=
  if (text.all fun char => char ∈ literalChars) = false ∨ ('.' ∉ text ∧ 'e' ∉ text) then none
  else match text with
    | '-' :: magnitude => (readLiteral magnitude).map fun value => -nearestDouble value
    | magnitude => (readLiteral magnitude).map nearestDouble

/-- An exponent is written with its sign and at least two digits. -/
def printExponent (exponent : Int) : List Char :=
  let digits := (toString exponent.natAbs).toList
  (if exponent < 0 then '-' else '+') :: (if digits.length < 2 then '0' :: digits else digits)

/-- The digits stand around a decimal point, or before an exponent when the point is far away. -/
def layout (digits : List Char) (point : Int) : List Char :=
  if point ≤ -4 ∨ 16 < point then
    digits.take 1 ++ (if digits.length = 1 then [] else '.' :: digits.drop 1) ++ 'e' :: printExponent (point - 1)
  else if point ≤ 0 then '0' :: '.' :: List.replicate (-point).toNat '0' ++ digits
  else if (digits.length : Int) ≤ point then
    digits ++ List.replicate (point.toNat - digits.length) '0' ++ ['.', '0']
  else digits.take point.toNat ++ '.' :: digits.drop point.toNat

/-- The text of a decimal number without the zeros at its end. -/
def printDecimal (number : Nat) (exponent : Int) : List Char :=
  let digits := (toString number).toList
  layout (digits.reverse.dropWhile (· = '0')).reverse (digits.length + exponent)

/-- The two decimal numbers with this many digits around a positive number, the nearer one first. -/
def neighbours (value : Rat) (count : Nat) : List (List Char) :=
  let exponent := decimalExponent value - count + 1
  let scaled := value / power 10 exponent
  let low := scaled.floor.toNat
  if roundHalfEven scaled = low then [printDecimal low exponent, printDecimal (low + 1) exponent]
  else [printDecimal (low + 1) exponent, printDecimal low exponent]

/-- The texts of one to seventeen digits for a number, the shorter ones first. -/
def candidates (value : Rat) : List (List Char) :=
  ((List.range 17).flatMap fun count => neighbours (if value < 0 then -value else value) (count + 1)).map fun text =>
    if value < 0 then '-' :: text else text

/-- The text of a number that no double holds. No float has such a text. -/
def fraction (value : Rat) : List Char := intChars value.num ++ '/' :: Nat.toDigits 10 value.den

/-- `repr` of a finite float is the shortest text that reads back as the float. -/
def finite (value : Rat) : List Char :=
  if value = 0 then "0.0".toList
  else ((candidates value).find? fun text => readRepr text = some value).getD (fraction value)

end FloatText

/-- The text that `json.dumps` writes for a float. -/
def Double.toChars : Double → List Char
  | .finite value => FloatText.finite value
  | .negativeZero => "-0.0".toList
  | .infinity negative => (if negative then "-Infinity" else "Infinity").toList
  | .nan => "NaN".toList

section Integers

/-- The characters of an integer. -/
theorem mem_intChars {value : Int} {char : Char} (member : char ∈ intChars value) :
    char = '-' ∨ char.isDigit = true := by
  unfold intChars at member
  split at member
  · rcases List.mem_cons.mp member with sign | digit
    · exact Or.inl sign
    · exact Or.inr (Nat.isDigit_of_mem_toDigits (by decide) (by decide) digit)
  · exact Or.inr (Nat.isDigit_of_mem_toDigits (by decide) (by decide) member)

/-- Numbers with the same digits are equal. -/
theorem toDigits_injective {first second : Nat} (same : Nat.toDigits 10 first = Nat.toDigits 10 second) :
    first = second := by
  rw [← Nat.ofDigitChars_ten_toDigits (n := first), same, Nat.ofDigitChars_ten_toDigits]

theorem minus_not_mem_toDigits (value : Nat) : '-' ∉ Nat.toDigits 10 value := fun member =>
  absurd (Nat.isDigit_of_mem_toDigits (by decide) (by decide) member) (by decide)

/-- Integers that are written alike are equal. -/
theorem intChars_injective {first second : Int} (same : intChars first = intChars second) : first = second := by
  unfold intChars at same
  split at same <;> split at same
  · have digits := toDigits_injective (List.cons.inj same).2
    omega
  · exact absurd (same ▸ List.mem_cons_self) (minus_not_mem_toDigits second.natAbs)
  · exact absurd (same ▸ List.mem_cons_self) (minus_not_mem_toDigits first.natAbs)
  · have digits := toDigits_injective same
    omega

theorem intChars_ne_nil (value : Int) : intChars value ≠ [] := by
  unfold intChars
  split
  · simp
  · exact Nat.toDigits_ne_nil

end Integers

section Floats

namespace FloatText

/-- A text that is read as a float looks like one. -/
theorem readRepr_chars {text : List Char} {value : Rat} (read : readRepr text = some value) :
    (∀ char ∈ text, char ∈ literalChars) ∧ ('.' ∈ text ∨ 'e' ∈ text) := by
  unfold readRepr at read
  split at read
  · cases read
  · rename_i plain
    obtain ⟨inside, marked⟩ := not_or.mp plain
    refine ⟨by simpa using inside, ?_⟩
    by_contra neither
    exact marked (not_or.mp neither)

/-- The text of a number reads back as the number, or it is the text of a fraction. -/
theorem finite_cases (value : Rat) :
    (value = 0 ∧ finite value = "0.0".toList) ∨ (value ≠ 0 ∧ readRepr (finite value) = some value) ∨
      (value ≠ 0 ∧ finite value = fraction value) := by
  unfold finite
  split
  · rename_i zero
    exact Or.inl ⟨zero, rfl⟩
  · rename_i nonzero
    cases found : (candidates value).find? fun text => readRepr text = some value with
    | none => exact Or.inr (Or.inr ⟨nonzero, rfl⟩)
    | some text => exact Or.inr (Or.inl ⟨nonzero, by simpa using List.find?_some found⟩)

theorem slash_not_mem_intChars (value : Int) : '/' ∉ intChars value := fun member =>
  (mem_intChars member).elim (by decide) (by decide)

/-- Fractions that are written alike are equal. -/
theorem fraction_injective {first second : Rat} (same : fraction first = fraction second) : first = second := by
  obtain ⟨numerators, -, denominators⟩ := (List.append_cons_inj_of_notMem (slash_not_mem_intChars _)
    (fun member => absurd (Nat.isDigit_of_mem_toDigits (by decide) (by decide) member) (by decide))).mp same
  exact Rat.ext (intChars_injective numerators) (toDigits_injective denominators)

theorem slash_mem_fraction (value : Rat) : '/' ∈ fraction value := by simp [fraction]

/-- A fraction is no text that `repr` wrote. -/
theorem readRepr_fraction (value : Rat) : readRepr (fraction value) = none := by
  rw [Option.eq_none_iff_forall_ne_some]
  intro number read
  exact absurd ((readRepr_chars read).1 '/' (slash_mem_fraction value)) (by decide)

/-- Different finite floats have different texts. -/
theorem finite_injective {first second : Rat} (same : finite first = finite second) : first = second := by
  rcases finite_cases first with ⟨zero, text⟩ | ⟨nonzero, read⟩ | ⟨nonzero, text⟩ <;>
    rcases finite_cases second with ⟨otherZero, otherText⟩ | ⟨otherNonzero, otherRead⟩ | ⟨otherNonzero, otherText⟩
  · rw [zero, otherZero]
  · rw [← same, text, show readRepr "0.0".toList = some 0 by decide +kernel] at otherRead
    exact absurd (Option.some.inj otherRead).symm otherNonzero
  · have clash := slash_mem_fraction second
    rw [← otherText, ← same, text] at clash
    exact absurd clash (by decide)
  · rw [same, otherText, show readRepr "0.0".toList = some 0 by decide +kernel] at read
    exact absurd (Option.some.inj read).symm nonzero
  · rw [same, otherRead] at read
    exact (Option.some.inj read).symm
  · rw [same, otherText, readRepr_fraction] at read
    cases read
  · have clash := slash_mem_fraction first
    rw [← text, same, otherText] at clash
    exact absurd clash (by decide)
  · rw [← same, text, readRepr_fraction] at otherRead
    cases otherRead
  · rw [text, otherText] at same
    exact fraction_injective same

/-- The characters of the text of a number. -/
theorem mem_finite {value : Rat} {char : Char} (member : char ∈ finite value) :
    char ∈ literalChars ∨ char = '/' ∨ char.isDigit = true := by
  rcases finite_cases value with ⟨-, text⟩ | ⟨-, read⟩ | ⟨-, text⟩
  · rw [text] at member
    have literal : ("0.0".toList.all fun char => char ∈ literalChars) = true := by decide
    exact Or.inl (by simpa using List.all_eq_true.mp literal char member)
  · exact Or.inl ((readRepr_chars read).1 char member)
  · rw [text, fraction, List.mem_append, List.mem_cons] at member
    rcases member with numerator | slash | denominator
    · rcases mem_intChars numerator with sign | digit
      · exact Or.inl (by rw [sign]; decide)
      · exact Or.inr (Or.inr digit)
    · exact Or.inr (Or.inl slash)
    · exact Or.inr (Or.inr (Nat.isDigit_of_mem_toDigits (by decide) (by decide) denominator))

/-- The text of a float is no text of an integer. -/
theorem finite_marked (value : Rat) : ∃ char ∈ finite value, char ≠ '-' ∧ char.isDigit = false := by
  rcases finite_cases value with ⟨-, text⟩ | ⟨-, read⟩ | ⟨-, text⟩
  · exact ⟨'.', by rw [text]; decide, by decide⟩
  · rcases (readRepr_chars read).2 with point | exponent
    · exact ⟨'.', point, by decide⟩
    · exact ⟨'e', exponent, by decide⟩
  · exact ⟨'/', text ▸ slash_mem_fraction value, by decide⟩

/-- A letter that no decimal literal holds is in no text of a number. -/
theorem not_mem_finite {value : Rat} {char : Char} (foreign : char ∉ literalChars ∧ char ≠ '/' ∧ char.isDigit = false) :
    char ∉ finite value := by
  intro member
  rcases mem_finite member with literal | slash | digit
  · exact foreign.1 literal
  · exact foreign.2.1 slash
  · rw [foreign.2.2] at digit
    cases digit

/-- A finite number is not written as the negative zero. -/
theorem finite_ne_negativeZero (value : Rat) : finite value ≠ "-0.0".toList := by
  intro same
  rcases finite_cases value with ⟨-, text⟩ | ⟨nonzero, read⟩ | ⟨-, text⟩
  · rw [text] at same
    exact absurd same (by decide)
  · rw [same, show readRepr "-0.0".toList = some 0 by decide +kernel] at read
    exact nonzero (Option.some.inj read).symm
  · have clash := slash_mem_fraction value
    rw [← text, same] at clash
    exact absurd clash (by decide)

end FloatText

/-- The texts of the floats that are not finite, and of the negative zero. -/
theorem Double.special_ne (value : Rat) (negative : Bool) :
    FloatText.finite value ≠ (Double.infinity negative).toChars ∧ FloatText.finite value ≠ Double.nan.toChars := by
  have infinite : 'I' ∉ FloatText.finite value := FloatText.not_mem_finite (by decide)
  have undefined : 'N' ∉ FloatText.finite value := FloatText.not_mem_finite (by decide)
  constructor
  · intro same
    rw [same] at infinite
    cases negative <;> exact infinite (by decide)
  · intro same
    rw [same] at undefined
    exact undefined (by decide)

/-- Different floats have different texts. -/
theorem Double.toChars_injective {first second : Double} (same : first.toChars = second.toChars) : first = second := by
  cases first with
  | finite value =>
      cases second with
      | finite other => rw [FloatText.finite_injective same]
      | negativeZero => exact absurd same (FloatText.finite_ne_negativeZero value)
      | infinity negative => exact absurd same (Double.special_ne value negative).1
      | nan => exact absurd same (Double.special_ne value false).2
  | negativeZero =>
      cases second with
      | finite other => exact absurd same.symm (FloatText.finite_ne_negativeZero other)
      | negativeZero => rfl
      | infinity negative => cases negative <;> exact absurd same (by decide)
      | nan => exact absurd same (by decide)
  | infinity negative =>
      cases second with
      | finite other => exact absurd same.symm (Double.special_ne other negative).1
      | negativeZero => cases negative <;> exact absurd same (by decide)
      | infinity other =>
          cases negative <;> cases other
          all_goals first
            | rfl
            | exact absurd same (by decide)
      | nan => cases negative <;> exact absurd same (by decide)
  | nan =>
      cases second with
      | finite other => exact absurd same.symm (Double.special_ne other false).2
      | negativeZero => exact absurd same (by decide)
      | infinity negative => cases negative <;> exact absurd same (by decide)
      | nan => rfl

/-- The text of a float is no text of an integer. -/
theorem Double.marked (value : Double) : ∃ char ∈ value.toChars, char ≠ '-' ∧ char.isDigit = false := by
  cases value with
  | finite value => exact FloatText.finite_marked value
  | negativeZero => exact ⟨'.', by decide, by decide⟩
  | infinity negative => exact ⟨'I', by cases negative <;> decide, by decide⟩
  | nan => exact ⟨'N', by decide, by decide⟩

/-- The text of a float is no other literal of JSON. -/
theorem Double.ne_literal (value : Double) {text : String} (literal : text ∈ ["null", "true", "false"]) :
    value.toChars ≠ text.toList := by
  intro same
  cases value with
  | finite value =>
      have absent : 'l' ∉ FloatText.finite value ∧ 't' ∉ FloatText.finite value :=
        ⟨FloatText.not_mem_finite (by decide), FloatText.not_mem_finite (by decide)⟩
      rw [show FloatText.finite value = text.toList from same] at absent
      clear same
      revert text
      decide
  | negativeZero =>
      revert text
      decide
  | infinity negative =>
      revert text
      cases negative <;> decide
  | nan =>
      revert text
      decide

end Floats

end ClosedLoop.Library
