/-
  Documents — the node of a YAML document, and the nodes that are named in it.

  Text holds one document.  Before it may stand directives, and then the mark of
  its beginning has to follow.

  A named node is kept in a slot, and the number of the slot is the number of
  names that are known before it.  So a name that is given again takes a slot that
  the next new name will share, and the last node of a slot is the one that counts,
  wherever it is referred to.
-/
import ChipEight.Yaml.Layout
import ChipEight.Yaml.Node

namespace ChipEight.Yaml

/-- A document. -/
structure Document where
  root : Node Nat
  /-- The named nodes with their slots, the last first. -/
  named : List (Nat × Node Nat)

/-! ## Names -/

/-- The slots of the names that are known. -/
abbrev Slots := List (String × Nat)

/-- Give a name its slot. -/
def Slots.give (slots : Slots) (name : String) : Nat × Slots :=
  let slot := slots.length
  (slot, (name, slot) :: slots.filter (·.1 != name))

namespace Node

mutual

/-- Put slots in the place of names; a name has to be known where it is referred
    to. -/
def withSlots (slots : Slots) : Node String → Option (Node Nat × Slots)
  | scalar tag style text => some (scalar tag style text, slots)
  | reference name => do return (reference (← slots.lookup name), slots)
  | anchored name node => do
    let (slot, slots) := Slots.give slots name
    let (node, slots) ← withSlots slots node
    return (anchored slot node, slots)
  | list tag items => do
    let (items, slots) ← itemsWithSlots slots items
    return (list tag items, slots)
  | map tag fields => do
    let (fields, slots) ← fieldsWithSlots slots fields
    return (map tag fields, slots)

/-- Put slots in the place of names in the items of a list. -/
def itemsWithSlots (slots : Slots) : List (Node String) → Option (List (Node Nat) × Slots)
  | [] => some ([], slots)
  | item :: rest => do
    let (item, slots) ← withSlots slots item
    let (rest, slots) ← itemsWithSlots slots rest
    return (item :: rest, slots)

/-- Put slots in the place of names in the fields of a map. -/
def fieldsWithSlots (slots : Slots) :
    List (Node String × Node String) → Option (List (Node Nat × Node Nat) × Slots)
  | [] => some ([], slots)
  | (key, value) :: rest => do
    let (key, slots) ← withSlots slots key
    let (value, slots) ← withSlots slots value
    let (rest, slots) ← fieldsWithSlots slots rest
    return ((key, value) :: rest, slots)

end

mutual

/-- The named nodes in a node in their order, each before those inside of it. -/
def named {Anchor : Type} : Node Anchor → List (Anchor × Node Anchor)
  | scalar _ _ _ | reference _ => []
  | anchored anchor node => (anchor, node) :: node.named
  | list _ items => namedItems items
  | map _ fields => namedFields fields

/-- The named nodes in the items of a list. -/
def namedItems {Anchor : Type} : List (Node Anchor) → List (Anchor × Node Anchor)
  | [] => []
  | item :: rest => item.named ++ namedItems rest

/-- The named nodes in the fields of a map. -/
def namedFields {Anchor : Type} : List (Node Anchor × Node Anchor) → List (Anchor × Node Anchor)
  | [] => []
  | (key, value) :: rest => key.named ++ (value.named ++ namedFields rest)

end

mutual

/-- The number of steps that it takes to walk through a node: one for a scalar or
    a reference, and two for the ends of a list or a map. -/
def steps {Anchor : Type} : Node Anchor → Nat
  | scalar _ _ _ | reference _ => 1
  | anchored _ node => node.steps
  | list _ items => 2 + stepsOfItems items
  | map _ fields => 2 + stepsOfFields fields

/-- The number of steps through the items of a list. -/
def stepsOfItems {Anchor : Type} : List (Node Anchor) → Nat
  | [] => 0
  | item :: rest => item.steps + stepsOfItems rest

/-- The number of steps through the fields of a map. -/
def stepsOfFields {Anchor : Type} : List (Node Anchor × Node Anchor) → Nat
  | [] => 0
  | (key, value) :: rest => key.steps + value.steps + stepsOfFields rest

end

end Node

namespace Document

/-- The document of a node. -/
def ofNode? (node : Node String) : Option Document := do
  let (root, _) ← node.withSlots []
  return ⟨root, root.named.reverse⟩

/-- The node of a slot. -/
def find? (document : Document) (slot : Nat) : Option (Node Nat) := document.named.lookup slot

/-! ## Bounds -/

/-- Read the directives: there may be one version, which has to be known, and one
    meaning of each handle. -/
def readDirectives (hasVersion : Bool) (handles : Handles) :
    List Token → Option (Handles × List Token)
  | .version major minor :: rest =>
    if hasVersion = false ∧ major = 1 ∧ (minor = 1 ∨ minor = 2) then
      readDirectives true handles rest
    else none
  | .handle name bytes :: rest =>
    if (handles.lookup name).isNone then readDirectives hasVersion ((name, bytes) :: handles) rest
    else none
  | tokens => some (handles ++ coreHandles, tokens)

/-- Nothing stands between the marks of a document's bounds. -/
def isBlankBody : List Token → Bool
  | [] | .version _ _ :: _ | .handle _ _ :: _ | .documentStart :: _ | .documentEnd :: _ => true
  | _ => false

/-- The node of the only document, and what follows it. -/
def readBody (tokens : List Token) : Option (Node String × List Token) :=
  match tokens with
  | [] => some (.absent, [])
  | .version _ _ :: _ | .handle _ _ :: _ | .documentStart :: _ => do
    let (handles, rest) ← readDirectives false [] tokens
    match rest with
    | .documentStart :: rest =>
      if isBlankBody rest then return (.absent, rest) else Node.ofTokens? handles rest
    | _ => none
  | _ => Node.ofTokens? coreHandles tokens

/-- The token is the mark of a document's end. -/
def isEnd : Token → Bool
  | .documentEnd => true
  | _ => false

/-- The only document of tokens. -/
def ofTokens? (tokens : List Token) : Option Document := do
  let (node, rest) ← readBody tokens
  if rest.all isEnd then ofNode? node else none

/-- The only document of text; there is none in bad form. -/
def ofText? (text : String) : Option Document := (tokensOf? text).bind ofTokens?

end Document

end ChipEight.Yaml
