/-
  Running — a session that lets a program run as time passes, with scripted
  keys.

  Time passes in slices.  In each, the keys that are due are moved first, and
  then the pacer drives the console.  A run ends with the first slice in which
  the machine faults, or at whose end the limit is reached.  The time of a slice
  is told by two clocks, one for the script and the limit and one for the pacer.
-/
import ChipEight.Keypad.Script
import ChipEight.Pace.Pacer
import ChipEight.Session.Terminal

namespace ChipEight

/-- A console after power-up with its keypad untouched; its random stream is
    that of the settings' seed, or of `chance` if they have none. -/
def Console.powerUp (settings : MachineSettings) (chance : UInt64) : Console :=
  ⟨.new (settings.seed.getD chance), .idle⟩

/-- Start a new program. -/
def Console.load (console : Console) (program : List UInt8) : Except Fault Console := do
  let machine ← console.machine.load program
  return { console with machine }

/-- The pacer of the settings. -/
def Pacer.ofSettings (settings : MachineSettings) : Except Fault Pacer :=
  Pacer.new (settings.clockFrequency.getD defaultFrequency) settings.stepMode

/-- A slice of time, as it is told by two clocks. -/
structure Slice where
  /-- The nanoseconds that have passed for the script and the limit. -/
  passed : Nat
  /-- The nanoseconds that the pacer is told of. -/
  measured : Nat
deriving DecidableEq

/-- A slice of which both clocks tell the same. -/
instance : Coe Nat Slice := ⟨fun elapsed => ⟨elapsed, elapsed⟩⟩

/-- A program that runs on a console with a panel. -/
structure Run (δ : Type) where
  pacer : Pacer
  console : Console
  panel : δ
  /-- The keys that are still to be moved. -/
  script : Script
  /-- The nanoseconds that have passed for the script and the limit. -/
  elapsed : Nat
  /-- The nanoseconds after which the run ends. -/
  limit : Option Nat

namespace Run

variable {δ : Type}

/-- The run of a program, before any time has passed. -/
def start (settings : Settings) (chance : UInt64) (program : List UInt8) (panel : δ) :
    Except Failure (Run δ) := do
  let pacer ← failOnFault (Pacer.ofSettings settings.machine)
  let console ← failOnFault ((Console.powerUp settings.machine chance).load program)
  let limit ← failOnSetting settings.runLimit
  let script ← failOnSetting (Script.ofPresses settings.presses)
  return ⟨pacer, console, panel, script, 0, limit⟩

variable [Panel δ]

/-- Let a slice of time pass. -/
def advance (run : Run δ) (slice : Slice) : Except Fault Report × Run δ :=
  let elapsed := run.elapsed + slice.passed
  let (script, keypad) := run.script.apply elapsed run.console.keypad
  let (pacer, episode) := run.pacer.update { run.console with keypad } run.panel slice.measured
  (episode.result, ⟨pacer, episode.console, episode.panel, script, elapsed, run.limit⟩)

/-- The limit is reached. -/
def isOver (run : Run δ) : Bool :=
  match run.limit with
  | some limit => limit ≤ run.elapsed
  | none => false

/-- The run ends after a slice with this outcome. -/
def endsWith (run : Run δ) : Except Fault Report → Bool
  | .error _ => true
  | .ok _ => run.isOver

/-- The outcomes of slices of time, of which both clocks tell the same, with the
    runs after them, up to the end of the run. -/
def trace (run : Run δ) : List Nat → List (Except Fault Report × Run δ)
  | [] => []
  | slice :: later =>
    let (outcome, after) := run.advance slice
    (outcome, after) :: if after.endsWith outcome then [] else after.trace later

end Run

end ChipEight
