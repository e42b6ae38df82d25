/-
  Values — settings as they come from structured data, and the reasons why a
  value is not what was wanted.
-/
import ChipEight.Binary64.Text
import ChipEight.Text.Quoted

namespace ChipEight

/-- A piece of structured data. -/
inductive Value where
  | null
  | boolean (b : Bool)
  | integer (i : Int)
  | number (x : Binary64)
  | text (s : String)
  | list (items : List Value)
  /-- Fields in the order of their names, one for each name. -/
  | record (fields : List (String × Value))

namespace Value

/-- Put a field at its place; it replaces a field of its name. -/
def insertField (name : String) (value : Value) : List (String × Value) → List (String × Value)
  | [] => [(name, value)]
  | (other, held) :: rest =>
    if name < other then (name, value) :: (other, held) :: rest
    else if name = other then (name, value) :: rest
    else (other, held) :: insertField name value rest

/-- The record of a list of fields; of fields of one name, the last counts. -/
def ofFields (fields : List (String × Value)) : Value :=
  .record (fields.foldl (fun sorted (name, value) => insertField name value sorted) [])

/-- What a value is, in a report. -/
def description : Value → String
  | null => "null"
  | boolean b => "boolean \x60" ++ (if b then "true" else "false") ++ "\x60"
  | integer i => "integer \x60" ++ toString i ++ "\x60"
  | number x => "floating point \x60" ++ NumberStyle.compact.write x ++ "\x60"
  | text s => "string " ++ quote s
  | list _ => "sequence"
  | record _ => "map"

end Value

/-- The reason why a value is not what was wanted. -/
inductive Misfit where
  /-- It is of another kind. -/
  | kind (found : Value) (wanted : String)
  /-- It is of the right kind but out of range. -/
  | range (found : Value) (wanted : String)
  /-- It is a list with the wrong number of items. -/
  | length (found : Nat) (wanted : String)
  /-- It is a record without a field that has to be there. -/
  | missing (field : String)

/-- The report of a value that is not what was wanted. -/
def Misfit.message : Misfit → String
  | kind found wanted => "invalid type: " ++ found.description ++ ", expected " ++ wanted
  | range found wanted => "invalid value: " ++ found.description ++ ", expected " ++ wanted
  | length found wanted => "invalid length " ++ toString found ++ ", expected " ++ wanted
  | missing field => "missing field \x60" ++ field ++ "\x60"

end ChipEight
