import Mathlib.Data.List.Basic
import Mathlib.Data.Fin.Basic
import Mathlib.Algebra.Group.Nat.Defs
import Mathlib.Algebra.GroupWithZero.Nat

namespace ClosedLoop.Library

instance nibbleNeZero : NeZero 16 := ⟨by decide⟩

instance octetNeZero : NeZero 256 := ⟨by decide⟩

instance hextetNeZero : NeZero 65536 := ⟨by decide⟩

/-- An IPv4 address has four octets. -/
structure IPv4Address where
  first : Fin 256
  second : Fin 256
  third : Fin 256
  fourth : Fin 256
  deriving DecidableEq, Repr

/-- A zone identifier is not empty and holds no separator. -/
structure ScopeId where
  text : List Char
  present : text ≠ []
  plain : '%' ∉ text ∧ '/' ∉ text
  deriving DecidableEq, Repr

/-- An IPv6 address has eight hextets and an optional zone identifier. -/
structure IPv6Address where
  hextets : List (Fin 65536)
  complete : hextets.length = 8
  scopeId : Option ScopeId
  deriving DecidableEq, Repr

inductive IPAddress where
  | v4 (address : IPv4Address)
  | v6 (address : IPv6Address)
  deriving DecidableEq, Repr

namespace IPAddress

/-- A decimal or hexadecimal digit has a value below its base. -/
def digitValue (digit : Char) : Option (Fin 16) :=
  ("0123456789abcdef".toList.zip (List.finRange 16)).lookup digit <|>
    ("ABCDEF".toList.zip ((List.finRange 16).drop 10)).lookup digit

/-- The text of a digit is lower case. -/
def digitChar (digit : Fin 16) : Char := "0123456789abcdef".toList.getD digit.val '0'

/-- The parser folds the digits of a number from the left. -/
def readDigits (base : Nat) (text : List Char) : Option Nat :=
  text.foldlM (fun value digit => do
    let next ← digitValue digit
    if next.val < base then some (value * base + next.val) else none) 0

/-- An octet has one to three decimal digits, no leading zero, and a value below 256. -/
def parseOctet (text : List Char) : Option (Fin 256) := do
  if text = [] ∨ 3 < text.length ∨ (text ≠ ['0'] ∧ text.head? = some '0') then none
  let value ← readDigits 10 text
  if inside : value < 256 then some ⟨value, inside⟩ else none

/-- A hextet has one to four hexadecimal digits. -/
def parseHextet (text : List Char) : Option (Fin 65536) := do
  if text = [] ∨ 4 < text.length then none
  let value ← readDigits 16 text
  if inside : value < 65536 then some ⟨value, inside⟩ else none

/-- A number is printed without leading zeros. -/
def printDigits (digits : List (Fin 16)) : List Char :=
  match digits.dropWhile (· = 0) with
  | [] => ['0']
  | first :: rest => (first :: rest).map digitChar

def printOctet (octet : Fin 256) : List Char :=
  printDigits [Fin.ofNat 16 (octet.val / 100), Fin.ofNat 16 (octet.val / 10 % 10),
    Fin.ofNat 16 (octet.val % 10)]

def printHextet (hextet : Fin 65536) : List Char :=
  printDigits [Fin.ofNat 16 (hextet.val / 4096), Fin.ofNat 16 (hextet.val / 256),
    Fin.ofNat 16 (hextet.val / 16), Fin.ofNat 16 hextet.val]

def parseV4 (text : List Char) : Option IPv4Address :=
  match text.splitOn '.' with
  | [first, second, third, fourth] => do
      return ⟨← parseOctet first, ← parseOctet second, ← parseOctet third, ← parseOctet fourth⟩
  | _ => none

def printV4 (address : IPv4Address) : List Char :=
  List.intercalate ['.'] [printOctet address.first, printOctet address.second,
    printOctet address.third, printOctet address.fourth]

/-- A dotted suffix stands for the last two hextets. -/
def expandSuffix (parts : List (List Char)) : Option (List (List Char)) :=
  match parts.getLast? with
  | some last =>
      if '.' ∈ last then do
        let address ← parseV4 last
        let high := address.first.val * 256 + address.second.val
        let low := address.third.val * 256 + address.fourth.val
        return parts.dropLast ++ [printHextet (Fin.ofNat 65536 high), printHextet (Fin.ofNat 65536 low)]
      else some parts
  | none => some parts

/-- One empty part in the middle stands for the skipped zeros, also at an end of the address. -/
def expandParts (parts : List (List Char)) : Option (List (Fin 65536)) :=
  let middle := parts.tail.dropLast
  if 1 < middle.countP (· = []) then none
  else match middle.findIdx? (· = []) with
    | some place =>
        let before := place + 1
        let after := parts.length - before - 1
        let high := if parts.head? = some [] then before - 1 else before
        let low := if parts.getLast? = some [] then after - 1 else after
        if parts.head? = some [] ∧ high ≠ 0 then none
        else if parts.getLast? = some [] ∧ low ≠ 0 then none
        else if 8 ≤ high + low then none
        else do
          let front ← (parts.take high).mapM parseHextet
          let back ← (parts.drop (parts.length - low)).mapM parseHextet
          return front ++ List.replicate (8 - (high + low)) 0 ++ back
    | none =>
        if parts.length ≠ 8 then none
        else parts.mapM parseHextet

/-- The zone identifier follows the first percent sign. -/
def splitScope (text : List Char) : Option (List Char × Option (List Char)) :=
  match text.splitOn '%' with
  | [address] => some (address, none)
  | [address, scope] => if scope = [] then none else some (address, some scope)
  | _ => none

def parseHextets (text : List Char) : Option (List (Fin 65536)) := do
  let parts := text.splitOn ':'
  if parts.length < 3 then none
  let expanded ← expandSuffix parts
  if 9 < expanded.length then none
  expandParts expanded

def parseV6 (text : List Char) : Option IPv6Address := do
  if '/' ∈ text then none
  let (address, scope) ← splitScope text
  let hextets ← parseHextets address
  if complete : hextets.length = 8 then
    match scope with
    | none => some ⟨hextets, complete, none⟩
    | some zone =>
        if present : zone ≠ [] then
          if plain : '%' ∉ zone ∧ '/' ∉ zone then some ⟨hextets, complete, some ⟨zone, present, plain⟩⟩
          else none
        else none
  else none

/-- The scan keeps the current run of zeros and the first longest run so far. -/
def bestRun (hextets : List (Fin 65536)) (index start length bestStart bestLength : Nat) : Nat × Nat :=
  match hextets with
  | [] => (bestStart, bestLength)
  | hextet :: rest =>
      if hextet = 0 then
        let runStart := if length = 0 then index else start
        if bestLength < length + 1 then
          bestRun rest (index + 1) runStart (length + 1) runStart (length + 1)
        else bestRun rest (index + 1) runStart (length + 1) bestStart bestLength
      else bestRun rest (index + 1) 0 0 bestStart bestLength

/-- The longest run of two or more zeros is replaced by one empty part. -/
def compressHextets (hextets : List (Fin 65536)) : List (List Char) :=
  let run := bestRun hextets 0 0 0 0 0
  let texts := hextets.map printHextet
  if 1 < run.2 then
    (if run.1 = 0 then [[]] else texts.take run.1) ++ [[]] ++
      (if run.1 + run.2 = hextets.length then [[]] else texts.drop (run.1 + run.2))
  else texts

def printV6 (address : IPv6Address) : List Char :=
  let text := List.intercalate [':'] (compressHextets address.hextets)
  match address.scopeId with
  | none => text
  | some scope => text ++ '%' :: scope.text

/-- `ipaddress.ip_address` tries IPv4 before IPv6. -/
def ofChars (text : List Char) : Option IPAddress :=
  match parseV4 text with
  | some address => some (.v4 address)
  | none => (parseV6 text).map .v6

def toChars : IPAddress → List Char
  | .v4 address => printV4 address
  | .v6 address => printV6 address

/-- `ipaddress.ip_address` of a string. -/
def parse (text : String) : Option IPAddress := ofChars text.toList

/-- `str` of an address. -/
def print (address : IPAddress) : String := String.ofList address.toChars

/-- `str(ipaddress.ip_address(text))` is the canonical spelling. -/
def canonical (text : String) : Option String := (parse text).map print

end IPAddress

end ClosedLoop.Library
