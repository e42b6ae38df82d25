/-
  Quoted text — text in a YAML document between quotes.

  Between single quotes, two quotes stand for one.  Between double quotes, a
  backslash gives the next character another meaning.  Quoted text may go on over
  lines, but none of them may mark the bounds of the document.
-/
import ChipEight.Text.Hexadecimal
import ChipEight.Yaml.Text.Gap

namespace ChipEight.Yaml

/-- The character for which a letter after a backslash stands. -/
def escapeOf? (c : Char) : Option Char :=
  [('0', '\x00'), ('a', '\x07'), ('b', '\x08'), ('t', '\t'), ('\t', '\t'), ('n', '\n'),
   ('v', '\x0B'), ('f', '\x0C'), ('r', '\r'), ('e', '\x1B'), (' ', ' '), ('"', '"'),
   ('/', '/'), ('\\', '\\'), ('N', '\u0085'), ('_', '\u00A0'), ('L', '\u2028'),
   ('P', '\u2029')].lookup c

/-- The number of hexadecimal digits that follow a letter after a backslash. -/
def escapeWidth? (c : Char) : Option Nat := [('x', 2), ('u', 4), ('U', 8)].lookup c

/-- What is expected next between double quotes. -/
inductive QuoteState where
  /-- A character of the text. -/
  | text
  /-- What follows a backslash. -/
  | escape
  /-- Hexadecimal digits of the number of a character. -/
  | number (digits : Nat) (value : Nat)

namespace Draft

/-- Append a character of quoted text as it stands. -/
def pushQuoted (draft : Draft) (c : Char) : Draft :=
  if isSpace c then draft.space c else draft.push c

/-- Go on with text between single quotes. -/
def singleFrom (place : Place) (draft : Draft) : List Char → Option (String × Cursor)
  | [] => none
  | '\'' :: '\'' :: rest => singleFrom ((place.after '\'').after '\'') (draft.push '\'') rest
  | c :: rest =>
    if Cursor.atBound ⟨c :: rest, place⟩ then none
    else if c = '\'' then some (draft.wholeText, ⟨rest, place.after c⟩)
    else singleFrom (place.after c) (draft.pushQuoted c) rest

/-- Go on with text between double quotes. -/
def doubleFrom (place : Place) (state : QuoteState) (draft : Draft) :
    List Char → Option (String × Cursor)
  | [] => none
  | c :: rest =>
    match state with
    | .text =>
      if Cursor.atBound ⟨c :: rest, place⟩ then none
      else if c = '"' then some (draft.wholeText, ⟨rest, place.after c⟩)
      else if c = '\\' then doubleFrom (place.after c) .escape draft rest
      else doubleFrom (place.after c) .text (draft.pushQuoted c) rest
    | .escape =>
      if c = '\n' then doubleFrom (place.after c) .text ⟨draft.closed, .takenBack⟩ rest
      else
        match escapeOf? c, escapeWidth? c with
        | some d, _ => doubleFrom (place.after c) .text (draft.push d) rest
        | none, some width => doubleFrom (place.after c) (.number width 0) draft rest
        | none, none => none
    | .number digits value =>
      match hexValue? c with
      | none => none
      | some d =>
        let value := value * 16 + d.val
        if digits ≤ 1 then
          if value.isValidChar then
            doubleFrom (place.after c) .text (draft.push (Char.ofNat value)) rest
          else none
        else doubleFrom (place.after c) (.number (digits - 1) value) draft rest

end Draft

/-- The quoted text that begins at a cursor, and the place after it. -/
def quotedAt? (cursor : Cursor) : Option (String × Cursor) :=
  match cursor.rest with
  | '\'' :: rest => Draft.singleFrom (cursor.place.after '\'') .empty rest
  | '"' :: rest => Draft.doubleFrom (cursor.place.after '"') .text .empty rest
  | _ => none

end ChipEight.Yaml
