import ClosedLoop.Library.Json
import ClosedLoop.Library.Table

namespace ClosedLoop.Workers

open ClosedLoop.Library

/-- The exceptions of `_expand`, with their messages. -/
inductive ExpandError where
  | attribute (message : String)
  | type (message : String)
  deriving DecidableEq, Repr

/-- `type(value).__name__` -/
def typeName : Json → String
  | .null => "NoneType"
  | .bool _ => "bool"
  | .int _ => "int"
  | .float _ => "float"
  | .str _ => "str"
  | .arr _ => "list"
  | .obj _ => "dict"

/-- `key.split(".")` -/
def splitKey (key : String) : List String := (key.toList.splitOn '.').map String.ofList

/-- A value that is no object has no `setdefault`, and as the last parent it takes no text as index. -/
def noObject (value : Json) : List String → ExpandError
  | _ :: _ => .attribute ("'" ++ typeName value ++ "' object has no attribute 'setdefault'")
  | [] =>
      match value with
      | .arr _ => .type "list indices must be integers or slices, not str"
      | _ => .type ("'" ++ typeName value ++ "' object does not support item assignment")

/-- The branch of `_expand` for a dotted key: `setdefault` for each parent, then the assignment of the leaf. -/
def assignPath (node : List (String × Json)) : List String → String → Json → Except ExpandError (List (String × Json))
  | [], leaf, value => .ok (Table.upsert node leaf value)
  | part :: parents, leaf, value =>
      match Table.find? node part with
      | none => do
          let inner ← assignPath [] parents leaf value
          return Table.upsert node part (.obj inner)
      | some (.obj existing) => do
          let inner ← assignPath existing parents leaf value
          return Table.upsert node part (.obj inner)
      | some other => .error (noObject other parents)

/-- `existing.update(value)` -/
def updateWith (existing value : List (String × Json)) : List (String × Json) :=
  value.foldl (fun node field => Table.upsert node field.1 field.2) existing

/-- The branch of `_expand` for a key without a dot. -/
def mergeKey (expanded : List (String × Json)) (key : String) (value : Json) : List (String × Json) :=
  match Table.find? expanded key, value with
  | some (.obj existing), .obj fields => Table.upsert expanded key (.obj (updateWith existing fields))
  | _, _ => Table.upsert expanded key value

/-- One turn of the loop of `_expand`. -/
def expandField (expanded : List (String × Json)) (field : String × Json) :
    Except ExpandError (List (String × Json)) :=
  if '.' ∈ field.1.toList then
    let parts := splitKey field.1
    assignPath expanded parts.dropLast (parts.getLastD "") field.2
  else .ok (mergeKey expanded field.1 field.2)

/-- `_expand` -/
def expand (source : List (String × Json)) : Except ExpandError (List (String × Json)) :=
  source.foldlM expandField []

end ClosedLoop.Workers
