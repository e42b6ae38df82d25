/-
  Text in lines — text in a YAML document as a block of lines of its own.

  The lines are indented alike; how far is told before them, or it is found from
  the first line that is not blank.  A line that is indented less ends the block.
  Literal text keeps its line ends; in folded text, a line end between two lines
  that do not begin with a blank becomes a space.  What becomes of the line ends
  after the last line is told before the block.
-/
import ChipEight.Yaml.Token
import ChipEight.Yaml.Text.Gap

namespace ChipEight.Yaml

/-! ## Headers -/

/-- What becomes of the line ends after the last line. -/
inductive Chomping where
  | strip
  /-- The first of them is kept. -/
  | clip
  | keep
deriving DecidableEq

/-- What is told before a block of lines. -/
structure LinesHeader where
  chomping : Chomping
  /-- How much farther than the block around them the lines are indented. -/
  indent : Option Nat

/-- The way to chomp that a character tells. -/
def chompingOf? (c : Char) : Option Chomping := [('-', .strip), ('+', .keep)].lookup c

/-- The indentation that a digit tells; zero is none. -/
def indentOf? (c : Char) : Option Nat := if c.isDigit then some (c.toNat - '0'.toNat) else none

/-- The header that stands at a cursor, and the place of the line end after it;
    its two marks may stand in either order. -/
def linesHeaderAt? (cursor : Cursor) : Option (LinesHeader × Cursor) := do
  let first := cursor.rest.head?
  let second := (cursor.rest.drop 1).head?
  let (header, count) : LinesHeader × Nat :=
    match first.bind chompingOf?, first.bind indentOf? with
    | some chomping, _ =>
      match second.bind indentOf? with
      | some indent => (⟨chomping, some indent⟩, 2)
      | none => (⟨chomping, none⟩, 1)
    | none, some indent =>
      match second.bind chompingOf? with
      | some chomping => (⟨chomping, some indent⟩, 2)
      | none => (⟨.clip, some indent⟩, 1)
    | none, none => (⟨.clip, none⟩, 0)
  guard (header.indent ≠ some 0)
  return (header, ← (cursor.past count).toLineEnd?)

/-! ## Lines -/

/-- The number of spaces with which a line begins. -/
def indentation (line : List Char) : Nat := (line.takeWhile (· == ' ')).length

/-- The indentation of lines that is found from the lines themselves; the lines up
    to the first that is not blank must not be indented with tabs. -/
def commonIndent? (most : Nat) : List (List Char) → Option Nat
  | [] => some most
  | line :: later =>
    let most := max most (indentation line)
    match line.drop (indentation line) with
    | [] => commonIndent? most later
    | c :: _ => if c = '\t' then none else some most

/-- A block of lines that is under way. -/
structure LinesDraft where
  /-- The text without the line ends at its end, the last character first. -/
  reversed : List Char
  /-- The last line that is not blank has a line end. -/
  ended : Bool
  /-- It begins with a blank. -/
  blank : Bool
  /-- The number of blank lines after it. -/
  breaks : Nat

namespace LinesDraft

/-- No lines yet. -/
def empty : LinesDraft := ⟨[], false, false, 0⟩

/-- The line ends before a further line that is not blank. -/
def glue (folding nextBlank : Bool) (draft : LinesDraft) : List Char :=
  if folding && draft.ended && !draft.blank && !nextBlank then
    if draft.breaks = 0 then [' '] else List.replicate draft.breaks '\n'
  else List.replicate ((if draft.ended then 1 else 0) + draft.breaks) '\n'

/-- The text after chomping. -/
def text (draft : LinesDraft) (chomping : Chomping) : String :=
  let last := if draft.ended ∧ chomping ≠ .strip then 1 else 0
  let others := if chomping = .keep then draft.breaks else 0
  String.ofList (draft.reversed.reverse ++ List.replicate (last + others) '\n')

/-- Go on with the lines of a block, and count the characters up to its end. -/
def goOn (folding : Bool) (indent : Nat) (draft : LinesDraft) (count : Nat) :
    List (List Char) → Option (LinesDraft × Nat)
  | [] => some (draft, count)
  | line :: later =>
    let spaces := min indent (indentation line)
    let lineEnd := if later.isEmpty then 0 else 1
    match line.drop spaces with
    | [] =>
      goOn folding indent { draft with breaks := draft.breaks + lineEnd }
        (count + spaces + lineEnd) later
    | c :: cs =>
      if spaces < indent then if c = '\t' then none else some (draft, count + spaces)
      else
        let glue := draft.glue folding (isBlank c)
        goOn folding indent
          ⟨(c :: cs).reverse ++ (glue ++ draft.reversed), lineEnd == 1, isBlank c, 0⟩
          (count + line.length + lineEnd) later

end LinesDraft

/-- The text in lines whose header begins at a cursor, and the place after it; the
    block around it stands in a column, if there is one. -/
def linesAt? (folding : Bool) (column : Option Nat) (cursor : Cursor) :
    Option (String × Cursor) := do
  let (header, headerEnd) ← linesHeaderAt? cursor
  let first := headerEnd.past 1
  let lines := if headerEnd.atEnd then [] else first.rest.splitOn '\n'
  let indent ← match header.indent with
    | some more => some (column.getD 0 + more)
    | none => commonIndent? (max 1 ((column.map (· + 1)).getD 0)) lines
  let (draft, count) ← LinesDraft.empty.goOn folding indent 0 lines
  return (draft.text header.chomping, first.past count)

end ChipEight.Yaml
