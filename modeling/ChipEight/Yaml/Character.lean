/-
  Characters — the classes of characters that the form of a YAML document
  distinguishes.

  A document has one kind of line end only: `withNewlines` puts a newline in the
  place of every other kind, so that the rest of the reader knows no other.
-/
namespace ChipEight.Yaml

/-- A space or a tab. -/
def isBlank (c : Char) : Bool := c = ' ' ∨ c = '\t'

/-- A blank or the line end. -/
def isSpace (c : Char) : Bool := isBlank c || c == '\n'

/-- A bracket, brace or comma of the flow style. -/
def isFlowMark (c : Char) : Bool := [',', '[', ']', '\x7b', '\x7d'].contains c

/-- A character of a name: a letter or digit of the ASCII range, an underscore
    or a hyphen. -/
def isNameCharacter (c : Char) : Bool := c.isAlphanum || c == '_' || c == '-'

/-- A character of a tag; a tag that is written in full holds more of them. -/
def isTagCharacter (full : Bool) (c : Char) : Bool :=
  isNameCharacter c || ";/?:@&=+$.%!~*'()".toList.contains c
    || (full && [',', '[', ']'].contains c)

/-- A document may hold the character. -/
def isAllowed (c : Char) : Bool :=
  let n := c.toNat
  [0x09, 0x0A, 0x0D, 0x85].contains n || (0x20 ≤ n && n ≤ 0x7E) ||
    (0xA0 ≤ n && n ≤ 0xFFFD) || 0x10000 ≤ n

/-- The mark that may stand before a line to tell how bytes make characters. -/
def byteOrderMark : Char := '\uFEFF'

/-- Nothing but a blank or the end of the line follows. -/
def endsToken : List Char → Bool
  | [] => true
  | c :: _ => isSpace c

/-- Every kind of line end becomes a newline. -/
def withNewlines : List Char → List Char
  | '\r' :: '\n' :: rest => '\n' :: withNewlines rest
  | c :: rest =>
    (if ['\r', '\u0085', '\u2028', '\u2029'].contains c then '\n' else c) :: withNewlines rest
  | [] => []

end ChipEight.Yaml
