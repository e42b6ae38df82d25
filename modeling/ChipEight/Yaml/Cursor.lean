/-
  Cursors — places in a YAML document, and the space between its tokens.
-/
import ChipEight.Yaml.Character

namespace ChipEight.Yaml

/-! ## Places -/

/-- A place in a document. -/
structure Place where
  /-- The number of bytes before it. -/
  offset : Nat
  /-- The number of lines before its own. -/
  line : Nat
  /-- The number of characters before it on its line. -/
  column : Nat
deriving DecidableEq

/-- The place after a character. -/
def Place.after (place : Place) (c : Char) : Place :=
  if c = '\n' then ⟨place.offset + 1, place.line + 1, 0⟩
  else ⟨place.offset + c.utf8Size, place.line, place.column + 1⟩

/-! ## Cursors -/

/-- A place together with what follows it. -/
structure Cursor where
  rest : List Char
  place : Place

namespace Cursor

/-- The beginning of a document. -/
def start (cs : List Char) : Cursor := ⟨cs, ⟨0, 0, 0⟩⟩

/-- The end of the document. -/
def atEnd (cursor : Cursor) : Bool := cursor.rest.isEmpty

/-- Go past a number of characters. -/
def past (cursor : Cursor) (count : Nat) : Cursor :=
  ⟨cursor.rest.drop count, (cursor.rest.take count).foldl Place.after cursor.place⟩

/-- The characters of a class that stand here, and the place after them. -/
def span (cursor : Cursor) (p : Char → Bool) : List Char × Cursor :=
  let taken := cursor.rest.takeWhile p
  (taken, cursor.past taken.length)

/-- Go past the characters of a class. -/
def skipWhile (cursor : Cursor) (p : Char → Bool) : Cursor := (cursor.span p).2

/-- The line that begins here marks the beginning or the end of a document. -/
def atMark (cursor : Cursor) (mark : String) : Bool :=
  cursor.place.column == 0 && mark.toList.isPrefixOf cursor.rest && endsToken (cursor.rest.drop 3)

/-- The line that begins here marks the bounds of a document. -/
def atBound (cursor : Cursor) : Bool := cursor.atMark "---" || cursor.atMark "..."

/-- Go past the blanks and the comment at the end of a line, to its end. -/
def toLineEnd? (cursor : Cursor) : Option Cursor :=
  let cursor := cursor.skipWhile isBlank
  let cursor := if cursor.rest.head? = some '#' then cursor.skipWhile (· != '\n') else cursor
  if cursor.atEnd ∨ cursor.rest.head? = some '\n' then some cursor else none

end Cursor

/-! ## Space between tokens -/

/-- Go past blanks, line ends, comments and marks of the byte order, to the next
    token, and tell whether a key may begin there; outside the flow style it may
    on a new line.  Where it may, a tab is not passed over. -/
def skipFrom (flow inComment keyAllowed : Bool) (place : Place) : List Char → Cursor × Bool
  | [] => (⟨[], place⟩, keyAllowed)
  | c :: rest =>
    if c = '\n' then skipFrom flow false (keyAllowed || !flow) (place.after c) rest
    else if inComment then skipFrom flow true keyAllowed (place.after c) rest
    else if c = ' ' ∨ (c = '\t' ∧ (flow ∨ keyAllowed = false)) ∨
        (c = byteOrderMark ∧ place.column = 0) then
      skipFrom flow false keyAllowed (place.after c) rest
    else if c = '#' then skipFrom flow true keyAllowed (place.after c) rest
    else (⟨c :: rest, place⟩, keyAllowed)

end ChipEight.Yaml
