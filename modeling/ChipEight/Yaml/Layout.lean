/-
  Layout — from the characters of a YAML document to its tokens.

  What a character means depends on where it stands.

  * Outside the flow style, a block is a column of list marks or of keys.  It
    begins with the first of them and ends before the first token to the left of
    its column.
  * A key that is not marked as one shows itself only when a colon follows.  So
    the place of every node that may turn out to be a key is kept, one for the
    innermost bracket and one for all that enclose it.  A key has to be on one
    line, and its colon within 1024 bytes.
  * A node that stands in the column of the innermost block has to be a key.

  There are as many steps as tokens in the text, so its length is fuel enough.
-/
import ChipEight.Yaml.Token
import ChipEight.Yaml.Text.Lines
import ChipEight.Yaml.Text.Plain
import ChipEight.Yaml.Text.Quoted

namespace ChipEight.Yaml

/-! ## Marks of keys -/

/-- A node that may turn out to be a key. -/
structure KeyMark where
  /-- The number of tokens before it. -/
  index : Nat
  place : Place
  /-- It has to be a key. -/
  required : Bool

/-- The greatest number of bytes from the beginning of a key to its colon. -/
def keyReach : Nat := 1024

/-- A colon at a place is too far from the beginning of the key. -/
def KeyMark.isOver (mark : KeyMark) (place : Place) : Bool :=
  mark.place.line < place.line || mark.place.offset + keyReach < place.offset

/-! ## Layouts -/

/-- A document up to a place in it. -/
structure Layout where
  cursor : Cursor
  /-- The tokens so far, the last first. -/
  tokens : List Token
  /-- The columns of the open blocks, the innermost first. -/
  columns : List Nat
  /-- A key may begin at the next token. -/
  keyAllowed : Bool
  /-- The node in the innermost bracket, or outside of all, that may be a key. -/
  mark : Option KeyMark
  /-- The same for all that encloses it, from the inside out. -/
  outer : List (Option KeyMark)

namespace Layout

/-- The beginning of a document. -/
def start (cs : List Char) : Layout := ⟨.start cs, [], [], true, none, []⟩

/-- The place stands between brackets. -/
def inFlow (layout : Layout) : Bool := !layout.outer.isEmpty

/-- The column of the next token. -/
def column (layout : Layout) : Nat := layout.cursor.place.column

/-- The least column of a line that goes on with a node of the innermost block. -/
def least (layout : Layout) : Nat := (layout.columns.head?.map (· + 1)).getD 0

/-- Put a token at the end. -/
def emit (layout : Layout) (token : Token) : Layout :=
  { layout with tokens := token :: layout.tokens }

/-- Put tokens in the place where a number of tokens stand before them. -/
def insertAt (layout : Layout) (index : Nat) (inserted : List Token) : Layout :=
  let later := layout.tokens.length - index
  { layout with
    tokens := layout.tokens.take later ++ inserted.reverse ++ layout.tokens.drop later }

/-- Go past a token of one sign. -/
def sign (layout : Layout) (token : Token) : Layout :=
  { layout with cursor := layout.cursor.past 1 }.emit token

/-! ## Keys -/

/-- Give up the node that may be a key; this fails if it has to be one. -/
def dropMark (layout : Layout) : Option Layout :=
  if layout.mark.any KeyMark.required then none else some { layout with mark := none }

/-- Keep the place of the next token as that of a node that may be a key. -/
def keepMark (layout : Layout) : Option Layout :=
  if layout.keyAllowed then do
    let layout ← layout.dropMark
    let required := !layout.inFlow && layout.columns.head? == some layout.column
    return { layout with mark := some ⟨layout.tokens.length, layout.cursor.place, required⟩ }
  else some layout

/-- Give up a node that can no longer be a key. -/
def expire (place : Place) : Option KeyMark → Option (Option KeyMark)
  | none => some none
  | some mark =>
    if mark.isOver place then (if mark.required then none else some none) else some (some mark)

/-- Give up all nodes that can no longer be keys. -/
def expireMarks (layout : Layout) : Option Layout := do
  let mark ← expire layout.cursor.place layout.mark
  let outer ← layout.outer.mapM (expire layout.cursor.place)
  return { layout with mark := mark, outer := outer }

/-! ## Blocks -/

/-- A block that begins in a column to the right of the innermost one. -/
def opensBlock (layout : Layout) (column : Nat) : Bool :=
  !layout.inFlow && layout.columns.head?.all (· < column)

/-- Begin a block in a column, unless there is one. -/
def openBlock (layout : Layout) (column : Nat) (token : Token) : Layout :=
  if layout.opensBlock column then
    { layout with columns := column :: layout.columns }.emit token
  else layout

/-- End the blocks whose columns are not kept. -/
def closeBlocks (layout : Layout) (keeps : Nat → Bool) : Layout :=
  if layout.inFlow then layout
  else
    let columns := layout.columns.dropWhile fun column => !keeps column
    { layout with
      columns := columns
      tokens := List.replicate (layout.columns.length - columns.length) .blockEnd
        ++ layout.tokens }

/-! ## Single tokens -/

/-- Go to the next token. -/
def skip (layout : Layout) : Layout :=
  let (cursor, keyAllowed) :=
    skipFrom layout.inFlow false layout.keyAllowed layout.cursor.place layout.cursor.rest
  { layout with cursor := cursor, keyAllowed := keyAllowed }

/-- End all blocks, where no key may follow. -/
def leave (layout : Layout) : Option Layout := do
  let layout ← (layout.closeBlocks fun _ => false).dropMark
  return { layout with keyAllowed := false }

/-- Read a directive. -/
def readDirective (layout : Layout) : Option Layout := do
  let layout ← layout.leave
  let (token, after) ← directiveAt? layout.cursor
  return { layout with cursor := after }.emit token

/-- Read a mark of the bounds of the document. -/
def readBound (layout : Layout) (token : Token) : Option Layout := do
  let layout ← layout.leave
  return { layout with cursor := layout.cursor.past 3 }.emit token

/-- Read an opening bracket. -/
def readOpening (layout : Layout) (token : Token) : Option Layout := do
  let layout ← layout.keepMark
  return { layout with
    keyAllowed := true, mark := none, outer := layout.mark :: layout.outer }.sign token

/-- Read a closing bracket. -/
def readClosing (layout : Layout) (token : Token) : Option Layout := do
  let layout ← layout.dropMark
  let layout := match layout.outer with
    | [] => layout
    | mark :: outer => { layout with mark := mark, outer := outer }
  return { layout with keyAllowed := false }.sign token

/-- Read a comma. -/
def readComma (layout : Layout) : Option Layout := do
  let layout ← layout.dropMark
  return { layout with keyAllowed := true }.sign .comma

/-- Read the mark of an item. -/
def readItem (layout : Layout) : Option Layout := do
  guard (layout.inFlow ∨ layout.keyAllowed)
  let layout ← (layout.openBlock layout.column .blockList).dropMark
  return { layout with keyAllowed := true }.sign .item

/-- Read the mark of a key. -/
def readKey (layout : Layout) : Option Layout := do
  guard (layout.inFlow ∨ layout.keyAllowed)
  let layout ← (layout.openBlock layout.column .blockMap).dropMark
  return { layout with keyAllowed := !layout.inFlow }.sign .key

/-- Read the colon before a value.  If a node before it may be a key, it is one. -/
def readValue (layout : Layout) : Option Layout :=
  match layout.mark with
  | some mark =>
    let column := mark.place.column
    let layout :=
      if layout.opensBlock column then
        { layout with columns := column :: layout.columns }.insertAt mark.index [.blockMap, .key]
      else layout.insertAt mark.index [.key]
    some ({ layout with keyAllowed := false, mark := none }.sign .value)
  | none => do
    guard (layout.inFlow ∨ layout.keyAllowed)
    let layout := layout.openBlock layout.column .blockMap
    return { layout with keyAllowed := !layout.inFlow }.sign .value

/-- Read a name after a mark. -/
def readName (layout : Layout) (token : String → Token) : Option Layout := do
  let layout ← layout.keepMark
  let (name, after) := (layout.cursor.past 1).span isNameCharacter
  guard (name ≠ [])
  guard (endsToken after.rest ∨
    ['?', ':', ',', ']', '\x7d', '%', '@', '\x60'].contains (after.rest.headD ' '))
  return { layout with keyAllowed := false, cursor := after }.emit (token (String.ofList name))

/-- Read a tag. -/
def readTag (layout : Layout) : Option Layout := do
  let layout ← layout.keepMark
  let (text, after) ← tagAt? layout.cursor
  guard (endsToken after.rest ∨ (layout.inFlow ∧ after.rest.head? = some ','))
  return { layout with keyAllowed := false, cursor := after }.emit (.tag text)

/-- Read text in lines. -/
def readLines (layout : Layout) (style : Style) : Option Layout := do
  guard (layout.inFlow = false)
  let layout ← layout.dropMark
  let (text, after) ←
    linesAt? (style = .folded) layout.columns.head? (layout.cursor.past 1)
  return { layout with keyAllowed := true, cursor := after }.emit (.scalar style text)

/-- Read quoted text. -/
def readQuoted (layout : Layout) : Option Layout := do
  let layout ← layout.keepMark
  let (text, after) ← quotedAt? layout.cursor
  return { layout with keyAllowed := false, cursor := after }.emit (.scalar .quoted text)

/-- Read text without quotes. -/
def readPlain (layout : Layout) : Option Layout := do
  let layout ← layout.keepMark
  let found ← plainAt? layout.inFlow layout.least layout.cursor
  return { layout with
    keyAllowed := found.endsLine, cursor := found.after }.emit (.scalar .plain found.text)

/-- Read the token at the cursor. -/
def readToken (layout : Layout) : Option Layout :=
  match layout.cursor.rest with
  | [] => none
  | c :: rest =>
    let inFlow := layout.inFlow
    if c = '%' ∧ layout.column = 0 then layout.readDirective
    else if layout.cursor.atMark "---" then layout.readBound .documentStart
    else if layout.cursor.atMark "..." then layout.readBound .documentEnd
    else if c = '[' then layout.readOpening .flowList
    else if c = '\x7b' then layout.readOpening .flowMap
    else if c = ']' then layout.readClosing .flowListEnd
    else if c = '\x7d' then layout.readClosing .flowMapEnd
    else if c = ',' then layout.readComma
    else if c = '-' ∧ endsToken rest then layout.readItem
    else if c = '?' ∧ (inFlow ∨ endsToken rest) then layout.readKey
    else if c = ':' ∧ (inFlow ∨ endsToken rest) then layout.readValue
    else if c = '*' then layout.readName .reference
    else if c = '&' then layout.readName .anchor
    else if c = '!' then layout.readTag
    else if c = '|' then layout.readLines .literal
    else if c = '>' then layout.readLines .folded
    else if c = '\'' ∨ c = '"' then layout.readQuoted
    else if isBlank c ∨ isReserved c then none
    else layout.readPlain

/-- Read all tokens that are left. -/
def readAll (fuel : Nat) (layout : Layout) : Option (List Token) :=
  match fuel with
  | 0 => none
  | fuel + 1 => do
    let layout ← layout.skip.expireMarks
    let layout := layout.closeBlocks (· ≤ layout.column)
    if layout.cursor.atEnd then return (← layout.leave).tokens.reverse
    else (← layout.readToken).readAll fuel

end Layout

/-- The tokens of a document's text; there are none in bad form. -/
def tokensOf? (text : String) : Option (List Token) :=
  let cs := text.toList
  if cs.all isAllowed then
    let cs := withNewlines cs
    (Layout.start cs).readAll (cs.length + 1)
  else none

end ChipEight.Yaml
