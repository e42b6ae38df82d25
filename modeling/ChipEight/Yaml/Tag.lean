/-
  Tags — what a YAML document says about the kind of a node.

  A tag is a string of bytes.  It is written in full, or as a handle that stands
  for its beginning and the rest of it.  In both forms, an octet may be given by
  its number, as a percent sign and two hexadecimal digits; octets that are given
  so have to be of the lengths that characters have.
-/
import ChipEight.Text.Hexadecimal
import ChipEight.Yaml.Cursor

namespace ChipEight.Yaml

/-! ## Tags -/

/-- A tag. -/
structure Tag where
  bytes : List UInt8
deriving DecidableEq

namespace Tag

/-- The tag that text spells. -/
def ofString (text : String) : Tag := ⟨text.toUTF8.toList⟩

/-- What begins the tags that every document knows. -/
def coreBeginning : String := "tag:yaml.org,2002:"

/-- The tag of truth values. -/
def boolean : Tag := ofString (coreBeginning ++ "bool")

/-- The tag of whole numbers. -/
def integer : Tag := ofString (coreBeginning ++ "int")

/-- The tag of numbers. -/
def number : Tag := ofString (coreBeginning ++ "float")

/-- The tag of nothing. -/
def nothing : Tag := ofString (coreBeginning ++ "null")

/-- The tag that an exclamation mark by itself is; the document's own tags begin
    with it. -/
def bare : Tag := ofString "!"

/-- The tag is one of the document's own. -/
def isLocal (tag : Tag) : Bool := tag.bytes.head? = some 0x21

/-- The tag is the name of a kind of its own: it is local, and it is text. -/
def isName (tag : Tag) : Bool := tag.isLocal && (ByteArray.mk tag.bytes.toArray).validateUTF8

end Tag

/-- A tag as it is written. -/
inductive TagText where
  /-- The tag in full. -/
  | full (bytes : List UInt8)
  /-- What follows the part of the tag that a handle stands for. -/
  | short (handle : String) (bytes : List UInt8)

/-- What every handle stands for, the last that was given first. -/
abbrev Handles := List (String × List UInt8)

/-- The handles that a document need not give. -/
def coreHandles : Handles :=
  [("!", Tag.bare.bytes), ("!!", (Tag.ofString Tag.coreBeginning).bytes)]

/-- The tag that is written; a handle has to be known. -/
def TagText.resolve (handles : Handles) : TagText → Option Tag
  | full bytes => some ⟨bytes⟩
  | short handle bytes => do return ⟨(← handles.lookup handle) ++ bytes⟩

/-! ## Octets by their numbers -/

/-- The number of octets of a character after its first octet. -/
def laterOctets? (first : Nat) : Option Nat :=
  if first < 0x80 then some 0
  else if first < 0xC0 then none
  else if first < 0xE0 then some 1
  else if first < 0xF0 then some 2
  else if first < 0xF8 then some 3
  else none

/-- The octets that the characters of a tag stand for, and what follows them;
    `due` more octets belong to the character that was begun. -/
def tagBytes? (full : Bool) (due : Nat) : List Char → Option (List UInt8 × List Char)
  | '%' :: high :: low :: rest => do
    let octet := (← hexValue? high).val * 16 + (← hexValue? low).val
    let due ← if due = 0 then laterOctets? octet
      else if 0x80 ≤ octet ∧ octet < 0xC0 then some (due - 1) else none
    let (bytes, rest) ← tagBytes? full due rest
    return (octet.toUInt8 :: bytes, rest)
  | c :: rest =>
    if due ≠ 0 ∨ c = '%' then none
    else if isTagCharacter full c then do
      let (bytes, rest) ← tagBytes? full 0 rest
      return (c.toNat.toUInt8 :: bytes, rest)
    else some ([], c :: rest)
  | [] => if due = 0 then some ([], []) else none

/-- The octets that stand at a cursor, and the place after them. -/
def tagBytesAt? (full : Bool) (cursor : Cursor) : Option (List UInt8 × Cursor) := do
  let (bytes, rest) ← tagBytes? full 0 cursor.rest
  return (bytes, cursor.past (cursor.rest.length - rest.length))

/-! ## Tags in a document -/

/-- The text at a cursor that may be a handle, after an exclamation mark: a name,
    and the mark that ends it if there is one. -/
def handleAt (cursor : Cursor) : String × Cursor :=
  let (name, after) := (cursor.past 1).span isNameCharacter
  if after.rest.head? = some '!' then (String.ofList ('!' :: name ++ ['!']), after.past 1)
  else (String.ofList ('!' :: name), after)

/-- The tag at a cursor, and the place after it.  A tag in angle brackets is in
    full; after a lone exclamation mark, it is local. -/
def tagAt? (cursor : Cursor) : Option (TagText × Cursor) :=
  if (cursor.rest.drop 1).head? = some '<' then do
    let (bytes, after) ← tagBytesAt? true (cursor.past 2)
    if bytes ≠ [] ∧ after.rest.head? = some '>' then return (.full bytes, after.past 1) else none
  else do
    let (handle, after) := handleAt cursor
    if handle ≠ "!" ∧ handle.endsWith "!" then
      let (bytes, after) ← tagBytesAt? false after
      if bytes ≠ [] then return (.short handle bytes, after) else none
    else
      let (bytes, after) ← tagBytesAt? false (cursor.past 1)
      if bytes = [] then return (.full Tag.bare.bytes, after)
      else return (.short "!" bytes, after)

end ChipEight.Yaml
