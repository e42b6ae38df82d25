/-
  Settings — what a session is to do: the machine's pace and seed, how long to
  run, whether to print pictures, and the keys to press.

  Times are kept as they were given, in seconds, and become spans of
  nanoseconds when they are needed; that is where bad ones are found.  A span is
  the nanosecond nearest to the number of seconds, a half goes to the even one.
  There are no negative spans, and none of `2 ^ 64` seconds or more.
-/
import ChipEight.Binary64.Text
import ChipEight.Keypad.Basic
import ChipEight.Pace.Cadence

namespace ChipEight

/-- The settings of the machine. -/
structure MachineSettings where
  /-- The cycles of a second. -/
  clockFrequency : Option Nat
  /-- Cycles are made of steps that are asked for. -/
  stepMode : Bool
  /-- The seed of the random stream. -/
  seed : Option UInt64
deriving DecidableEq

/-- Nothing is asked of the machine. -/
def MachineSettings.default : MachineSettings := ⟨none, false, none⟩

/-- A key that is held down for a while. -/
structure Press where
  /-- The second at which the key goes down. -/
  time : Binary64
  key : Key
  /-- The seconds for which it is held. -/
  hold : Binary64
deriving DecidableEq

/-- The seconds for which a key is held if none are given: a tenth. -/
def Press.defaultHold : Binary64 := .ofDecimal false 1 (-1)

/-- The settings of a session. -/
structure Settings where
  machine : MachineSettings
  /-- The seconds after which the run ends. -/
  runSeconds : Option Binary64
  /-- Pictures are printed. -/
  render : Bool
  presses : List Press
deriving DecidableEq

/-- A session without an end that prints pictures and presses no keys. -/
def Settings.default : Settings := ⟨.default, none, true, []⟩

/-! ## Spans -/

/-- The seconds that spans stay below. -/
def secondsLimit : Nat := Nat.pow 2 64

/-- The nanoseconds that spans stay below. -/
def nanosLimit : Nat := secondsLimit * nanosPerSecond

/-- The reason why a number of seconds is no span of time. -/
inductive SpanFault where
  /-- It is below zero. -/
  | negative
  /-- It is too large, or not a number. -/
  | tooLarge
deriving DecidableEq

/-- The report of a number of seconds that is no span. -/
def SpanFault.message : SpanFault → String
  | .negative => "cannot convert float seconds to Duration: value is negative"
  | .tooLarge => "cannot convert float seconds to Duration: value is either too big or NaN"

/-- The nanoseconds of a number of seconds.  A zero has no sign here; infinities
    and what is not a number have more units than any span. -/
def nanosOfSeconds (x : Binary64) : Except SpanFault Nat :=
  if x.isNegative ∧ x.units ≠ 0 ∧ x.isNaN = false then .error .negative
  else if secondsLimit * Binary64.one ≤ x.units then .error .tooLarge
  else .ok (roundHalfEven (x.units * nanosPerSecond) Binary64.one)

/-- The reason why settings cannot be used. -/
inductive SettingFault where
  /-- The value of a field is no span of time. -/
  | span (field : String) (value : Binary64) (reason : SpanFault)
  /-- A key would be released later than any span reaches. -/
  | lateRelease (press : Press)
deriving DecidableEq

/-- The report of settings that cannot be used. -/
def SettingFault.message : SettingFault → String
  | .span field value reason =>
    field ++ " = " ++ NumberStyle.plain.write value ++ ": " ++ reason.message
  | .lateRelease press =>
    "presses.at + presses.hold = " ++ NumberStyle.plain.write press.time ++ " + "
      ++ NumberStyle.plain.write press.hold ++ " is too large"

/-- The nanoseconds of a field. -/
def spanOf (field : String) (value : Binary64) : Except SettingFault Nat :=
  (nanosOfSeconds value).mapError (.span field value)

/-- The nanoseconds at which a key goes down and comes up again. -/
def Press.span (press : Press) : Except SettingFault (Nat × Nat) := do
  let down ← spanOf "presses.at" press.time
  let hold ← spanOf "presses.hold" press.hold
  if down + hold < nanosLimit then return (down, down + hold)
  else throw (.lateRelease press)

/-- The nanoseconds after which the run ends. -/
def Settings.runLimit (settings : Settings) : Except SettingFault (Option Nat) :=
  settings.runSeconds.mapM (spanOf "run_seconds")

end ChipEight
