import ClosedLoop.Library.Calendar
import ClosedLoop.Library.JsonText
import Mathlib.Data.Int.Basic

namespace ClosedLoop.Response

open ClosedLoop.Library

/-- The exceptions that this part of the service raises. -/
inductive PyError where
  | commandRejected (message : String)
  | policyError (message : String)
  | correlationRejected (message : String)
  | valueError (message : String)
  | runtimeError (message : String)
  | overflowError
  | assertionError
  | storageError
  | adapterError
  | interrupt
  deriving DecidableEq, Repr

/-- A UTC time is a number of microseconds. Its text keeps whole milliseconds. -/
structure Rfc3339 where
  milliseconds : Int
  deriving DecidableEq, Repr

/-- The text of a time, such as `2026-01-01T00:00:00.000Z`. -/
def Rfc3339.text (time : Rfc3339) : String := String.ofList (Calendar.isoformat time.milliseconds)

/-- Different times have different texts. -/
theorem Rfc3339.text_injective {first second : Rfc3339} (same : first.text = second.text) : first = second := by
  cases first
  cases second
  exact congrArg Rfc3339.mk (Calendar.isoformat_injective (String.ofList_injective same))

/-- `_rfc3339` drops the microseconds below a millisecond. -/
def rfc3339 (value : Int) : Rfc3339 := ⟨value / 1000⟩

/-- `_parse_rfc3339` of a text that `_rfc3339` wrote. -/
def Rfc3339.parse (text : Rfc3339) : Int := text.milliseconds * 1000

@[simp] theorem rfc3339_parse (text : Rfc3339) : rfc3339 text.parse = text := by
  simp [rfc3339, Rfc3339.parse]

/-- A written time is not later than the time itself. -/
theorem parse_rfc3339_le (value : Int) : (rfc3339 value).parse ≤ value := by
  simp only [rfc3339, Rfc3339.parse]
  omega

/-- `timedelta(seconds=...)`. -/
def seconds (count : Int) : Int := count * 1000000

/-- A datetime has a timezone or is naive. The UTC time of an aware one may lie beyond the years of a datetime. -/
inductive Moment where
  | naive
  | aware (value : Int)
  | beyond (value : Int)
  deriving DecidableEq, Repr

/-- `astimezone` raises for a time beyond the years of a datetime. -/
def asUtc : Moment → Except PyError Int
  | .naive => .error (.commandRejected "orchestrator timestamps must include a timezone")
  | .aware value => .ok value
  | .beyond _ => .error .overflowError

/-- The functions of the Python library that the model leaves open. -/
structure Python where
  /-- `sha256(text.encode()).hexdigest()` -/
  sha256Hex : String → String
  /-- `datetime.fromisoformat` after the replacement of `Z` -/
  fromIsoformat : String → Option Moment
  /-- `str.lower` -/
  lower : String → String
  /-- `str.upper` -/
  upper : String → String
  /-- `repr` of a string -/
  repr : String → String

/-- `sha256_hex` of a value hashes its canonical text. -/
def sha256Hex (python : Python) (value : Json) : String := python.sha256Hex value.canonical

/-- `repr` of a list of strings. -/
def Python.reprList (python : Python) (items : List String) : String :=
  "[" ++ String.intercalate ", " (items.map python.repr) ++ "]"

/-- The characters for which `str.isspace` holds. -/
def isSpace (char : Char) : Bool :=
  char.toNat ∈ [0x9, 0xa, 0xb, 0xc, 0xd, 0x1c, 0x1d, 0x1e, 0x1f, 0x20, 0x85, 0xa0, 0x1680, 0x2000, 0x2001,
    0x2002, 0x2003, 0x2004, 0x2005, 0x2006, 0x2007, 0x2008, 0x2009, 0x200a, 0x2028, 0x2029, 0x202f, 0x205f,
    0x3000]

/-- `str.strip` removes white space at both ends. -/
def strip (text : String) : String :=
  String.ofList ((text.toList.dropWhile isSpace).reverse.dropWhile isSpace).reverse

/-- `text[:count]`. -/
def truncate (count : Nat) (text : String) : String := String.ofList (text.toList.take count)

/-- `value or fallback` for an optional text. -/
def textOr (value : Option String) (fallback : String) : String :=
  match value with
  | none => fallback
  | some text => if text = "" then fallback else text

end ClosedLoop.Response
