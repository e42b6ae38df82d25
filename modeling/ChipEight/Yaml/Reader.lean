/-
  Readers — ways to read a YAML document's nodes that follow its references.

  A node may contain itself, or the same nodes over and over again.  So that no
  document takes forever, only so many references are followed in it as a hundred
  for each of its steps.
-/
import ChipEight.Yaml.Document

namespace ChipEight.Yaml

/-- A way to read a part of a document.  Of the references that may be followed,
    it leaves some; it may fail. -/
abbrev Reader (α : Type) := ReaderT Document (StateT Nat Option) α

namespace Reader

/-- The references that may be followed for each step through the document. -/
def referencesPerStep : Nat := 100

/-- What a reader makes of a document. -/
def run? {α : Type} (reader : Reader α) (document : Document) : Option α :=
  (fun (a, _) => a) <$> ReaderT.run reader document (document.root.steps * referencesPerStep)

/-- The value that is there, or else failure. -/
def ofOption {α : Type} : Option α → Reader α
  | some a => pure a
  | none => failure

/-- The node of a slot. -/
def follow (slot : Nat) : Reader (Node Nat) := do
  let left ← get
  guard (left ≠ 0)
  set (left - 1)
  ofOption ((← read).find? slot)

end Reader

/-- The node that stands here by itself, by a name or by a reference. -/
def Node.actual : Node Nat → Reader (Node Nat)
  | .anchored _ node => node.actual
  | .reference slot => Reader.follow slot
  | node => pure node

/-- The text of a scalar, however it is written. -/
def Node.text (node : Node Nat) : Reader String := do
  match ← node.actual with
  | .scalar _ _ text => pure text
  | _ => failure

end ChipEight.Yaml
