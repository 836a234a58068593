import ClosedLoop.Construction.Response.Value
import ClosedLoop.Library.Cursor
import ClosedLoop.Library.Table
import Mathlib.Data.Prod.Lex

namespace ClosedLoop.Workers

open ClosedLoop.Library

section Times

/-- The year, the month, and the day of a UTC time, which is a number of microseconds. -/
def dateOf (value : Int) : Int × Nat × Nat := Calendar.dateOfOrdinal (value / 86400000000 + 719163)

/-- `rfc3339` writes the microseconds only when there are some. -/
def rfc3339 (value : Int) : String :=
  let date := dateOf value
  let time := (value % 86400000000).toNat
  String.ofList (Calendar.yearChars date.1 ++ ('-' :: Calendar.lastDigits 2 date.2.1 ++
    '-' :: Calendar.lastDigits 2 date.2.2 ++ 'T' :: Calendar.lastDigits 2 (time / 3600000000) ++
    ':' :: Calendar.lastDigits 2 (time / 60000000 % 60) ++ ':' :: Calendar.lastDigits 2 (time / 1000000 % 60) ++
    (if time % 1000000 = 0 then [] else '.' :: Calendar.lastDigits 6 (time % 1000000)) ++ ['Z']))

/-- `strftime("%Y.%m.%d")` names the index of a day. -/
def day (value : Int) : String :=
  let date := dateOf value
  String.ofList (Calendar.yearChars date.1 ++ ('.' :: Calendar.lastDigits 2 date.2.1 ++
    '.' :: Calendar.lastDigits 2 date.2.2))

/-- `timedelta(minutes=5)`. -/
def fiveMinutes : Int := 300000000

end Times

section Elastic

/-- What a failed request reports. -/
structure DeliveryError where
  code : String
  retryable : Bool
  deriving DecidableEq, Repr

/-- A request fails before or after the server has done its work. -/
structure Fault where
  error : DeliveryError
  effect : Bool
  deriving DecidableEq, Repr

/-- A document in one of the indices. -/
structure Stored (α : Type) where
  index : String
  id : String
  source : α

/-- How a worker sees its request to create a document. -/
inductive Reply where
  | created
  | conflict
  | failed (error : DeliveryError)
  | refused
  deriving DecidableEq, Repr

variable {α : Type}

/-- An index holds one document for each id. -/
def exists? (documents : List (Stored α)) (index id : String) : Bool :=
  documents.any fun document => document.index = index ∧ document.id = id

/-- The server keeps the document that is there. -/
def insert (documents : List (Stored α)) (index id : String) (source : α) : List (Stored α) :=
  if exists? documents index id then documents else documents ++ [⟨index, id, source⟩]

/-- A request `PUT /index/_create/id`. -/
def put (documents : List (Stored α)) (index id : String) (source : α) (fault : Option Fault) :
    Reply × List (Stored α) :=
  match fault with
  | none => (if exists? documents index id then .conflict else .created, insert documents index id source)
  | some fault => (.failed fault.error, if fault.effect then insert documents index id source else documents)

/-- `ElasticClient.create` refuses an id that no document can have. -/
def create (documents : List (Stored α)) (index id : String) (source : α) (fault : Option Fault) :
    Reply × List (Stored α) :=
  if id = "" ∨ 512 < id.toList.length then (.refused, documents) else put documents index id source fault

/-- A date in milliseconds and an identifier, as the searches sort by them. -/
abbrev SortTuple := Lex (Int × String)

def sortTuple (time : Int) (id : String) : SortTuple := toLex (time / 1000, id)

end Elastic

end ClosedLoop.Workers
