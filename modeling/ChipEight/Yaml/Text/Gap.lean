/-
  Gaps — the space inside of text that goes on over line ends.

  Blanks around a line end are left out.  One line end becomes a space, and of
  several the first is left out.  After a line end that was taken back by a
  backslash, all others count.
-/
import ChipEight.Yaml.Cursor

namespace ChipEight.Yaml

/-- The space since the last character of text that is none. -/
structure Gap where
  /-- The blanks, the last first; there are none beside a line end. -/
  blanks : List Char
  /-- The number of line ends. -/
  breaks : Nat
  /-- A line end before them was taken back. -/
  joined : Bool

namespace Gap

/-- No space. -/
def none : Gap := ⟨[], 0, false⟩

/-- A line end that was taken back. -/
def takenBack : Gap := ⟨[], 0, true⟩

/-- There is no space. -/
def isNone (gap : Gap) : Bool := gap.blanks.isEmpty && gap.breaks == 0 && !gap.joined

/-- Add a blank or a line end. -/
def push (gap : Gap) (c : Char) : Gap :=
  if c = '\n' then { gap with blanks := [], breaks := gap.breaks + 1 }
  else if gap.breaks = 0 ∧ gap.joined = false then { gap with blanks := c :: gap.blanks }
  else gap

/-- What a gap leaves of the text, the last character first. -/
def reversed (gap : Gap) : List Char :=
  if gap.joined then List.replicate gap.breaks '\n'
  else
    match gap.breaks with
    | 0 => gap.blanks
    | 1 => [' ']
    | breaks + 1 => List.replicate breaks '\n'

end Gap

/-! ## Drafts -/

/-- Text that is under way. -/
structure Draft where
  /-- The text without the gap at its end, the last character first. -/
  reversed : List Char
  /-- The gap at its end. -/
  gap : Gap

namespace Draft

/-- No text yet. -/
def empty : Draft := ⟨[], .none⟩

/-- The text with its gap, the last character first. -/
def closed (draft : Draft) : List Char := draft.gap.reversed ++ draft.reversed

/-- Append a character. -/
def push (draft : Draft) (c : Char) : Draft := ⟨c :: draft.closed, .none⟩

/-- Append a blank or a line end. -/
def space (draft : Draft) (c : Char) : Draft := { draft with gap := draft.gap.push c }

/-- The text without the gap at its end. -/
def text (draft : Draft) : String := String.ofList draft.reversed.reverse

/-- The text with the gap at its end. -/
def wholeText (draft : Draft) : String := String.ofList draft.closed.reverse

end Draft

end ChipEight.Yaml
