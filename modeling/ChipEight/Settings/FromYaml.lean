/-
  Settings from YAML documents.

  A document is a map, or nothing at all.  Keys that are not known are passed
  over, and a known one may occur only once.  Nothing is told about a document
  that cannot be read.

  The settings of the machine stand among the others, and what belongs to it is
  found only when all fields have been read.  So they are read from the content of
  their nodes, and every field that is not known is looked into.  The other
  settings are read from their nodes, whose tags count for less.
-/
import ChipEight.Settings.FromValue
import ChipEight.Yaml.Content

namespace ChipEight

/-! ## Simple nodes -/

namespace Yaml.Node

/-- The text of a scalar whose meaning is open: it has no quotes, or it is literal
    and has the tag of what is wanted. -/
def openText (wanted : Tag) (node : Node Nat) : Reader String := do
  match ← node.actual with
  | .scalar _ .plain text => pure text
  | .scalar tag .literal text => do
    guard (tag = some wanted)
    pure text
  | _ => failure

/-- A truth value. -/
def flag (node : Node Nat) : Reader Bool := do
  Reader.ofOption (boolean? (← node.openText Tag.boolean))

/-- A number, which may be whole. -/
def seconds (node : Node Nat) : Reader Binary64 := do
  Reader.ofOption (number? (← node.openText Tag.number))

/-- A key. -/
def key (node : Node Nat) : Reader Key := do
  let i ← Reader.ofOption (integer? (← node.openText Tag.integer))
  guard (0 ≤ i)
  Reader.ofOption (Key.ofNat? i.toNat)

/-- A scalar that stands for nothing; with the tag of nothing, it must. -/
def isAbsent (tag : Option Tag) (style : Style) (text : String) : Reader Bool :=
  if style ≠ .plain then pure false
  else
    match tag with
    | none => pure (isNull text)
    | some tag =>
      if tag ≠ Tag.nothing then pure false
      else do
        guard (isNullWord text)
        pure true

/-- A node that may stand for nothing. -/
def optional {α : Type} (reader : Node Nat → Reader α) (node : Node Nat) : Reader (Option α) := do
  let node ← node.actual
  match node with
  | .scalar tag style text => if ← isAbsent tag style text then pure none else some <$> reader node
  | _ => some <$> reader node

/-- The items of a list; nothing stands for a list without items. -/
def items (node : Node Nat) : Reader (List (Node Nat)) := do
  match ← node.actual with
  | .list _ items => pure items
  | .scalar _ .plain "" => pure []
  | _ => failure

end Yaml.Node

open Yaml (Node Reader Content)

/-! ## Presses -/

/-- A press under way, and the names of the fields that have been read. -/
structure PressReading where
  draft : PressDraft
  names : List String

namespace PressReading

/-- Read the node of a field; a known one may occur only once. -/
def readField (reading : PressReading) (name : String) (node : Node Nat) :
    Reader PressReading := do
  if PressDraft.fieldNames.contains name then
    guard (!reading.names.contains name)
    let draft := reading.draft
    let draft ←
      match name with
      | "at" => do pure { draft with time := some (← node.seconds) }
      | "key" => do pure { draft with key := some (← node.key) }
      | _ => do pure { draft with hold := some (← node.seconds) }
    return ⟨draft, name :: reading.names⟩
  else return reading

end PressReading

/-- A press: its fields by name, or by position. -/
def Press.ofNode (node : Node Nat) : Reader Press := do
  let start : PressReading := ⟨.blank, []⟩
  let reading ←
    match ← node.actual with
    | .map _ fields =>
      fields.foldlM (fun reading (key, value) => do reading.readField (← key.text) value) start
    | .list _ items => do
      guard (items.length ≤ PressDraft.fieldNames.length)
      (PressDraft.fieldNames.zip items).foldlM
        (fun reading (name, value) => reading.readField name value) start
    | _ => failure
  Reader.ofOption (reading.draft.finish () ()).toOption

/-! ## Machine settings -/

namespace Yaml.Content

/-- A whole number of 64 bits without a sign. -/
def word? : Content → Option Nat
  | integer i => if 0 ≤ i then some i.toNat else none
  | _ => none

/-- A truth value. -/
def flag? : Content → Option Bool
  | boolean b => some b
  | _ => none

/-- Content that may be left open. -/
def optional? {α : Type} (reader : Content → Option α) : Content → Option (Option α)
  | nothing => some none
  | content => some <$> reader content

end Yaml.Content

/-- Read one field of the machine's settings. -/
def MachineSettings.readContent (settings : MachineSettings) :
    String × Content → Option MachineSettings
  | ("clock_frequency", content) => do
    return { settings with clockFrequency := ← content.optional? Content.word? }
  | ("step_mode", content) => do return { settings with stepMode := ← content.flag? }
  | ("seed", content) => do
    return { settings with seed := (← content.optional? Content.word?).map UInt64.ofNat }
  | _ => some settings

/-- No name of a list occurs twice among the fields. -/
def namesOnce {α : Type} (names : List String) (fields : List (String × α)) : Bool :=
  names.all fun name => (fields.filter (·.1 == name)).length ≤ 1

/-- The machine's settings among fields. -/
def MachineSettings.ofContents (fields : List (String × Content)) : Option MachineSettings :=
  if namesOnce fieldNames fields then fields.foldlM readContent default else none

/-! ## Settings -/

/-- Settings under way. -/
structure SettingsReading where
  settings : Settings
  /-- The names of the fields that have been read. -/
  names : List String
  /-- The content of the fields that are not known, the last first. -/
  others : List (String × Content)

namespace Settings

/-- The names of the fields that are not the machine's. -/
def fieldNames : List String := ["run_seconds", "render", "presses"]

/-- The depth up to which a document's lists and maps may lie in one another. -/
def depthLimit : Nat := 128

end Settings

namespace SettingsReading

/-- Read the node of a field; a known one may occur only once. -/
def readField (reading : SettingsReading) (name : String) (node : Node Nat) :
    Reader SettingsReading := do
  if Settings.fieldNames.contains name then
    guard (!reading.names.contains name)
    let settings := reading.settings
    let settings ←
      match name with
      | "run_seconds" => do
        pure { settings with runSeconds := ← node.optional Node.seconds }
      | "render" => do pure { settings with render := ← node.flag }
      | _ => do pure { settings with presses := ← (← node.items).mapM Press.ofNode }
    return { reading with settings := settings, names := name :: reading.names }
  else
    let content ← node.content (Settings.depthLimit - 1)
    return { reading with others := (name, content) :: reading.others }

/-- The settings with those of the machine. -/
def finish (reading : SettingsReading) : Option Settings := do
  let machine ← MachineSettings.ofContents reading.others.reverse
  return { reading.settings with machine := machine }

end SettingsReading

namespace Settings

/-- The settings of a node. -/
def ofNode (node : Node Nat) : Reader Settings := do
  match ← node.actual with
  | .map _ fields => do
    let reading ← fields.foldlM
      (fun (reading : SettingsReading) (key, value) => do reading.readField (← key.text) value)
      ⟨default, [], []⟩
    Reader.ofOption reading.finish
  | .scalar _ .plain "" => pure default
  | _ => failure

/-- The settings of a document's text. -/
def ofYaml? (text : String) : Option Settings := do
  let document ← Yaml.Document.ofText? text
  (ofNode document.root).run? document

end Settings

end ChipEight
