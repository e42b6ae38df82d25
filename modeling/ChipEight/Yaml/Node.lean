/-
  Nodes — the tree of a YAML document in the block and the flow style.

  * In the flow style, brackets and braces enclose lists and maps; a field among
    the items of a list is a map of its own.
  * In the block style, a list is a column of marks and a map a column of keys;
    only in a map may the marks stand in the column of the keys.
  * Before a node may stand a name for it, its anchor, and its tag; where they
    stand before nothing, the node is an empty scalar.

  The readers take fuel, of which they use no more than four for every token.
-/
import ChipEight.Yaml.Token

namespace ChipEight.Yaml

/-- A node of a document whose anchors are of a type. -/
inductive Node (Anchor : Type) where
  | scalar (tag : Option Tag) (style : Style) (text : String)
  | list (tag : Option Tag) (items : List (Node Anchor))
  /-- Keys with their values; a key may occur more than once. -/
  | map (tag : Option Tag) (fields : List (Node Anchor × Node Anchor))
  /-- The node with an anchor, once more. -/
  | reference (anchor : Anchor)
  | anchored (anchor : Anchor) (node : Node Anchor)

namespace Node

/-- Nothing stands where a node could be. -/
def absent {Anchor : Type} : Node Anchor := scalar none .plain ""

/-! ## Properties -/

/-- What may stand before a node. -/
structure Properties where
  anchor : Option String
  tag : Option TagText

namespace Properties

/-- The properties at the beginning, in either order, and what follows them. -/
def split : List Token → Properties × List Token
  | .anchor name :: .tag text :: rest => (⟨some name, some text⟩, rest)
  | .tag text :: .anchor name :: rest => (⟨some name, some text⟩, rest)
  | .anchor name :: rest => (⟨some name, none⟩, rest)
  | .tag text :: rest => (⟨none, some text⟩, rest)
  | tokens => (⟨none, none⟩, tokens)

/-- There are some. -/
def any (properties : Properties) : Bool := properties.anchor.isSome || properties.tag.isSome

/-- Name a node. -/
def mark (properties : Properties) (node : Node String) : Node String :=
  match properties.anchor with
  | some name => anchored name node
  | none => node

end Properties

/-! ## Bounds -/

/-- An item or a key of the block style stands empty before the token. -/
def endsBlockPart (inList indented : Bool) : List Token → Bool
  | .blockEnd :: _ => true
  | .item :: _ => inList
  | .key :: _ | .value :: _ => !(inList && indented)
  | _ => false

/-- A key or a value of the flow style stands empty before the token. -/
def endsFlowPart (inList isKey : Bool) : List Token → Bool
  | .comma :: _ => true
  | .value :: _ => isKey
  | .flowListEnd :: _ => inList
  | .flowMapEnd :: _ => !inList
  | _ => false

/-! ## Readers -/

mutual

/-- The node that begins with a token.  A block may be the node where `block`
    holds, and a list with its marks in the column around it where `flush`
    does. -/
def read (fuel : Nat) (handles : Handles) (block flush : Bool) (tokens : List Token) :
    Option (Node String × List Token) :=
  match fuel with
  | 0 => none
  | fuel + 1 =>
    match tokens with
    | .reference name :: rest => some (reference name, rest)
    | _ => do
      let (properties, rest) := Properties.split tokens
      let tag ← properties.tag.mapM (TagText.resolve handles)
      let (node, rest) ←
        match flush, block, rest with
        | true, _, .item :: _ => do
          let (items, rest) ← readItems fuel handles false [] rest
          pure (list tag items, rest)
        | _, _, .scalar style text :: rest => pure (scalar tag style text, rest)
        | _, _, .flowList :: rest => do
          let (items, rest) ← readFlowItems fuel handles [] rest
          pure (list tag items, rest)
        | _, _, .flowMap :: rest => do
          let (fields, rest) ← readFlowFields fuel handles [] rest
          pure (map tag fields, rest)
        | _, true, .blockList :: rest => do
          let (items, rest) ← readItems fuel handles true [] rest
          pure (list tag items, rest)
        | _, true, .blockMap :: rest => do
          let (fields, rest) ← readFields fuel handles [] rest
          pure (map tag fields, rest)
        | _, _, _ => if properties.any then pure (scalar tag .plain "", rest) else none
      return (properties.mark node, rest)

/-- The items that follow in the block style; `done` are those before, the last
    first.  A list that is not indented ends without a token of its own. -/
def readItems (fuel : Nat) (handles : Handles) (indented : Bool) (done : List (Node String))
    (tokens : List Token) : Option (List (Node String) × List Token) :=
  match fuel with
  | 0 => none
  | fuel + 1 =>
    match tokens with
    | .item :: rest =>
      if endsBlockPart true indented rest then
        readItems fuel handles indented (absent :: done) rest
      else do
        let (item, rest) ← read fuel handles true false rest
        readItems fuel handles indented (item :: done) rest
    | _ =>
      if indented then
        match tokens with
        | .blockEnd :: rest => some (done.reverse, rest)
        | _ => none
      else some (done.reverse, tokens)

/-- The fields that follow in the block style; `done` are those before, the last
    first. -/
def readFields (fuel : Nat) (handles : Handles) (done : List (Node String × Node String))
    (tokens : List Token) : Option (List (Node String × Node String) × List Token) :=
  match fuel with
  | 0 => none
  | fuel + 1 =>
    match tokens with
    | .key :: rest => do
      let (key, rest) ← readPart fuel handles rest
      let (value, rest) ←
        match rest with
        | .value :: rest => readPart fuel handles rest
        | _ => pure (absent, rest)
      readFields fuel handles ((key, value) :: done) rest
    | .blockEnd :: rest => some (done.reverse, rest)
    | _ => none

/-- The key or the value of a field in the block style. -/
def readPart (fuel : Nat) (handles : Handles) (tokens : List Token) :
    Option (Node String × List Token) :=
  match fuel with
  | 0 => none
  | fuel + 1 =>
    if endsBlockPart false true tokens then some (absent, tokens)
    else read fuel handles true true tokens

/-- The items that follow in the flow style, up to the closing bracket; `done` are
    those before, the last first. -/
def readFlowItems (fuel : Nat) (handles : Handles) (done : List (Node String))
    (tokens : List Token) : Option (List (Node String) × List Token) :=
  match fuel with
  | 0 => none
  | fuel + 1 =>
    match tokens with
    | .flowListEnd :: rest => some (done.reverse, rest)
    | _ => do
      let (item, rest) ←
        match tokens with
        | .key :: rest => readFlowEntry fuel handles rest
        | _ => read fuel handles false false tokens
      match rest with
      | .comma :: rest => readFlowItems fuel handles (item :: done) rest
      | .flowListEnd :: _ => readFlowItems fuel handles (item :: done) rest
      | _ => none

/-- A field among the items of a list in the flow style, after the mark of its
    key.  Where the key is empty, the token that shows it is passed over. -/
def readFlowEntry (fuel : Nat) (handles : Handles) (tokens : List Token) :
    Option (Node String × List Token) :=
  match fuel with
  | 0 => none
  | fuel + 1 => do
    let (key, rest) ←
      if endsFlowPart true true tokens then pure (absent, tokens.drop 1)
      else read fuel handles false false tokens
    let (value, rest) ← readFlowValue fuel handles true rest
    return (map none [(key, value)], rest)

/-- The fields that follow in the flow style, up to the closing brace; `done` are
    those before, the last first. -/
def readFlowFields (fuel : Nat) (handles : Handles) (done : List (Node String × Node String))
    (tokens : List Token) : Option (List (Node String × Node String) × List Token) :=
  match fuel with
  | 0 => none
  | fuel + 1 =>
    match tokens with
    | .flowMapEnd :: rest => some (done.reverse, rest)
    | _ => do
      let (field, rest) ←
        match tokens with
        | .key :: rest => do
          let (key, rest) ←
            if endsFlowPart false true rest then pure (absent, rest)
            else read fuel handles false false rest
          let (value, rest) ← readFlowValue fuel handles false rest
          pure ((key, value), rest)
        | _ => do
          let (key, rest) ← read fuel handles false false tokens
          pure ((key, absent), rest)
      match rest with
      | .comma :: rest => readFlowFields fuel handles (field :: done) rest
      | .flowMapEnd :: _ => readFlowFields fuel handles (field :: done) rest
      | _ => none

/-- The value of a field in the flow style, from the colon on if there is one. -/
def readFlowValue (fuel : Nat) (handles : Handles) (inList : Bool) (tokens : List Token) :
    Option (Node String × List Token) :=
  match fuel with
  | 0 => none
  | fuel + 1 =>
    match tokens with
    | .value :: rest =>
      if endsFlowPart inList false rest then some (absent, rest)
      else read fuel handles false false rest
    | _ => some (absent, tokens)

end

/-- The node that begins with a token where a document may begin. -/
def ofTokens? (handles : Handles) (tokens : List Token) : Option (Node String × List Token) :=
  read (4 * tokens.length + 4) handles true false tokens

end Node

end ChipEight.Yaml
