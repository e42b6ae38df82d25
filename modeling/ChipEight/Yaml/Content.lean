/-
  Content — what the nodes of a YAML document stand for, where nothing more is
  known of them.

  A whole number has 64 bits.  A node with a tag of the document's own stands for
  nothing that is known, and lists and maps may lie in one another only up to a
  depth.
-/
import ChipEight.Yaml.Reader
import ChipEight.Yaml.Scalar

namespace ChipEight.Yaml

/-- What a node stands for. -/
inductive Content where
  | nothing
  | boolean (b : Bool)
  | integer (i : Int)
  | number (x : Binary64)
  | text (s : String)
  | list (items : List Content)
  | map (fields : List (Content × Content))

namespace Content

/-- A whole number, which has to have 64 bits, with or without a sign. -/
def ofInteger? (i : Int) : Option Content :=
  if -((UInt64.size / 2 : Nat) : Int) ≤ i ∧ i < UInt64.size then some (integer i) else none

/-- What text without quotes stands for. -/
def ofPlain? (text : String) : Option Content :=
  if isNull text then some nothing
  else
    match boolean? text, integer? text with
    | some b, _ => some (boolean b)
    | none, some i => ofInteger? i
    | none, none =>
      match number? text with
      | some x => if isPadded text then some (.text text) else some (number x)
      | none => some (.text text)

/-- What a scalar stands for; by its tag, it may have to be of one kind. -/
def ofScalar? (tag : Option Tag) (style : Style) (text : String) : Option Content :=
  match tag with
  | none => if style = .plain then ofPlain? text else some (.text text)
  | some tag =>
    if tag.isName then none
    else if tag = Tag.boolean then boolean <$> boolean? text
    else if tag = Tag.integer then (integer? text).bind ofInteger?
    else if tag = Tag.number then number <$> number? text
    else if tag = Tag.nothing then if isNullWord text then some nothing else none
    else if tag.isLocal ∧ style = .plain then ofPlain? text
    else some (.text text)

/-- A collection with a tag can be read. -/
def isReadable (tag : Option Tag) : Bool := !tag.any Tag.isName

end Content

/-- What a node stands for, where lists and maps may lie in one another up to a
    depth. -/
def Node.content : Nat → Node Nat → Reader Content
  | depth, node => do
    match ← node.actual with
    | .scalar tag style text => Reader.ofOption (Content.ofScalar? tag style text)
    | .list tag items =>
      guard (Content.isReadable tag)
      match depth with
      | 0 => failure
      | depth + 1 => Content.list <$> items.mapM (content depth)
    | .map tag fields =>
      guard (Content.isReadable tag)
      match depth with
      | 0 => failure
      | depth + 1 =>
        Content.map <$> fields.mapM fun (key, value) => do
          return (← content depth key, ← content depth value)
    | _ => failure

end ChipEight.Yaml
