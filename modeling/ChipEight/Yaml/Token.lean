/-
  Tokens — the words of a YAML document.

  Some of them do not stand in the text: a block begins where its first item or
  key stands, and it ends where the text returns to the left of its column; and
  a key is told from other nodes only by the colon after it.

  The lines before a document are directives, of a token each: they tell the
  version of the format and what handles stand for.
-/
import ChipEight.Yaml.Tag

namespace ChipEight.Yaml

/-- The ways to write a scalar. -/
inductive Style where
  /-- Without quotes. -/
  | plain
  /-- Between quotes. -/
  | quoted
  /-- As lines of their own, each of which is kept. -/
  | literal
  /-- As lines of their own, which are joined. -/
  | folded
deriving DecidableEq

/-- A token. -/
inductive Token where
  /-- The version of the format. -/
  | version (major minor : Nat)
  /-- What a handle stands for. -/
  | handle (name : String) (bytes : List UInt8)
  | documentStart
  | documentEnd
  /-- A list in the block style begins, with the mark of its first item. -/
  | blockList
  /-- A map in the block style begins, with its first key. -/
  | blockMap
  /-- The innermost block ends. -/
  | blockEnd
  | flowList
  | flowListEnd
  | flowMap
  | flowMapEnd
  /-- The mark of an item in the block style. -/
  | item
  | comma
  /-- A key follows. -/
  | key
  /-- The value of a key follows. -/
  | value
  /-- The node with an anchor stands here once more. -/
  | reference (anchor : String)
  /-- A name for the node that follows. -/
  | anchor (name : String)
  /-- The tag of the node that follows. -/
  | tag (text : TagText)
  | scalar (style : Style) (text : String)

/-! ## Directives -/

/-- A number of up to nine digits at a cursor, and the place after it. -/
def versionNumberAt? (cursor : Cursor) : Option (Nat × Cursor) :=
  let (digits, after) := cursor.span Char.isDigit
  if digits = [] ∨ 9 < digits.length then none
  else some (digits.foldl (fun n c => n * 10 + (c.toNat - '0'.toNat)) 0, after)

/-- The version at a cursor, and the place after it. -/
def versionAt? (cursor : Cursor) : Option (Token × Cursor) := do
  let (major, point) ← versionNumberAt? cursor
  guard (point.rest.head? = some '.')
  let (minor, after) ← versionNumberAt? (point.past 1)
  return (.version major minor, after)

/-- The handle at a cursor and what it stands for, and the place after them. -/
def handleMeaningAt? (cursor : Cursor) : Option (Token × Cursor) := do
  guard (cursor.rest.head? = some '!')
  let (handle, gap) := handleAt cursor
  guard (handle.endsWith "!" ∧ (gap.rest.head?.map isBlank).getD false)
  let (bytes, after) ← tagBytesAt? true (gap.skipWhile isBlank)
  guard (bytes ≠ [] ∧ endsToken after.rest)
  return (.handle handle bytes, after)

/-- The directive whose line begins at a cursor, and the place after its line. -/
def directiveAt? (cursor : Cursor) : Option (Token × Cursor) := do
  let (name, after) := (cursor.past 1).span isNameCharacter
  guard (endsToken after.rest)
  let operand := after.skipWhile isBlank
  let (token, after) ←
    if name = "YAML".toList then versionAt? operand
    else if name = "TAG".toList then handleMeaningAt? operand
    else none
  let lineEnd ← after.toLineEnd?
  return (token, lineEnd.past 1)

end ChipEight.Yaml
