/-
  Settings from values.

  A record's fields are read in the order of their names, and fields of other
  names are passed over.  A list stands for a record whose fields are given by
  position.
-/
import ChipEight.Settings.Basic
import ChipEight.Settings.Value

namespace ChipEight

/-! ## Simple values -/

namespace Value

/-- A whole number of 64 bits without a sign. -/
def word? : Value → Except Misfit Nat
  | integer i =>
    if 0 ≤ i ∧ i < UInt64.size then .ok i.toNat else .error (.range (integer i) "u64")
  | found => .error (.kind found "u64")

/-- A truth value. -/
def boolean? : Value → Except Misfit Bool
  | boolean b => .ok b
  | found => .error (.kind found "a boolean")

/-- A number, which may be whole. -/
def number? : Value → Except Misfit Binary64
  | number x => .ok x
  | integer i => .ok (.ofInt i)
  | found => .error (.kind found "f64")

/-- A key. -/
def key? : Value → Except Misfit Key
  | integer i =>
    match (if 0 ≤ i then Key.ofNat? i.toNat else none) with
    | some k => .ok k
    | none => .error (.range (integer i) Key.outOfRange)
  | found => .error (.kind found "an integer between 0 and 15")

/-- A value that may be left open. -/
def optional {α : Type} (read : Value → Except Misfit α) : Value → Except Misfit (Option α)
  | null => .ok none
  | found => some <$> read found

end Value

/-- The report of a list with more items than there are fields. -/
def tooManyItems : String := "fewer elements in array"

/-! ## Machine settings -/

namespace MachineSettings

/-- Read one field. -/
def readField (settings : MachineSettings) : String × Value → Except Misfit MachineSettings
  | ("clock_frequency", value) => do
    return { settings with clockFrequency := ← value.optional Value.word? }
  | ("step_mode", value) => do return { settings with stepMode := ← value.boolean? }
  | ("seed", value) => do
    return { settings with seed := (← value.optional Value.word?).map UInt64.ofNat }
  | _ => return settings

/-- The names of the fields, by position. -/
def fieldNames : List String := ["clock_frequency", "step_mode", "seed"]

/-- Machine settings. -/
def ofValue : Value → Except Misfit MachineSettings
  | .record fields => fields.foldlM readField default
  | .list items => do
    let settings ← (fieldNames.zip items).foldlM readField default
    if fieldNames.length < items.length then throw (.length items.length tooManyItems)
    return settings
  | found => .error (.kind found "struct Chip8Conf")

end MachineSettings

/-! ## Presses -/

/-- A press some of whose fields have been given. -/
structure PressDraft where
  time : Option Binary64
  key : Option Key
  hold : Option Binary64

namespace PressDraft

/-- Nothing has been given. -/
def blank : PressDraft := ⟨none, none, none⟩

/-- Read one field. -/
def readField (draft : PressDraft) : String × Value → Except Misfit PressDraft
  | ("at", value) => do return { draft with time := some (← value.number?) }
  | ("key", value) => do return { draft with key := some (← value.key?) }
  | ("hold", value) => do return { draft with hold := some (← value.number?) }
  | _ => return draft

/-- The names of the fields, by position. -/
def fieldNames : List String := ["at", "key", "hold"]

/-- The press, or what is the matter if its time or its key has not been given. -/
def finish {ε : Type} (draft : PressDraft) (noTime noKey : ε) : Except ε Press :=
  match draft.time, draft.key with
  | some time, some key => .ok ⟨time, key, draft.hold.getD Press.defaultHold⟩
  | none, _ => .error noTime
  | some _, none => .error noKey

end PressDraft

namespace Press

/-- A press. -/
def ofValue : Value → Except Misfit Press
  | .record fields => do
    let draft ← fields.foldlM PressDraft.readField .blank
    draft.finish (.missing "at") (.missing "key")
  | .list items => do
    let draft ← (PressDraft.fieldNames.zip items).foldlM PressDraft.readField .blank
    let wanted := "struct ScheduledPress with 3 elements"
    let press ← draft.finish (.length 0 wanted) (.length 1 wanted)
    if PressDraft.fieldNames.length < items.length then
      throw (.length items.length tooManyItems)
    return press
  | found => .error (.kind found "struct ScheduledPress")

/-- A list of presses. -/
def listOfValue : Value → Except Misfit (List Press)
  | .list items => items.mapM ofValue
  | found => .error (.kind found "a sequence")

end Press

end ChipEight
