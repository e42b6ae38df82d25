/-
  Plain text — text in a YAML document without quotes.
-/
import ChipEight.Yaml.Text.Gap

namespace ChipEight.Yaml

/-- A mark with which text without quotes does not begin. -/
def isReserved (c : Char) : Bool :=
  ['#', '&', '*', '!', '|', '>', '\'', '"', '%', '@', '\x60'].contains c

/-- Text without quotes as it was found. -/
structure PlainText where
  text : String
  /-- The place of what follows the text and the space after it. -/
  after : Cursor
  /-- There is a line end in the space after the text. -/
  endsLine : Bool

/-- Go on with text without quotes.  It ends before a comment, before a mark of
    the bounds of the document, before a colon that ends a key, in the flow style
    before a bracket or comma, and outside of it on a line that is indented less
    than `least`.  A colon right before a flow mark is refused, and so is a tab
    that indents a line less than `least`. -/
def Draft.plainFrom (flow : Bool) (least : Nat) (place : Place) (draft : Draft) :
    List Char → Option PlainText
  | [] => some ⟨draft.text, ⟨[], place⟩, draft.gap.breaks != 0⟩
  | c :: rest =>
    let cursor : Cursor := ⟨c :: rest, place⟩
    let finished := some ⟨draft.text, cursor, draft.gap.breaks != 0⟩
    if isSpace c then
      if c = '\t' ∧ draft.gap.breaks ≠ 0 ∧ place.column < least then none
      else Draft.plainFrom flow least (place.after c) (draft.space c) rest
    else if draft.gap.isNone = false ∧
        ((flow = false ∧ place.column < least) ∨ cursor.atBound ∨ c = '#') then finished
    else if flow && c == ':' && (rest.headD ' ' == '?' || isFlowMark (rest.headD ' ')) then none
    else if (c = ':' ∧ endsToken rest) ∨ (flow ∧ isFlowMark c) then finished
    else Draft.plainFrom flow least (place.after c) (draft.push c) rest

/-- The text without quotes that begins at a cursor. -/
def plainAt? (flow : Bool) (least : Nat) (cursor : Cursor) : Option PlainText :=
  Draft.plainFrom flow least cursor.place .empty cursor.rest

end ChipEight.Yaml
