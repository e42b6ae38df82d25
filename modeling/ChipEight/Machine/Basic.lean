/-
  The machine — registers, timers, memory, call stack, screen, what it is
  doing, and its stream of random bytes.

  * `install` puts a new program in the place of the one before it: memory is
    erased and filled with the glyphs of the digits, at the bottom, and with the
    program, above the interpreter's area; then the machine is reset.  A program
    that is too large is refused first.  `load` is the machine after it;
  * `reset` restarts the loaded program: memory and the random stream stay.
-/
import ChipEight.InPlace
import ChipEight.Machine.Registers
import ChipEight.Machine.CallStack
import ChipEight.Machine.Timers
import ChipEight.Machine.Screen
import ChipEight.Machine.Keystream

namespace ChipEight

/-! ## Glyphs -/

/-- The address of the glyphs. -/
def fontStart : Nat := 0

/-- The number of bytes of a glyph, one a row. -/
def glyphHeight : Nat := 5

/-- The number of bytes of the sixteen glyphs. -/
def fontSize : Nat := 80

/-- The glyphs of the hexadecimal digits. -/
def builtinFont : List UInt8 :=
  [0xF0, 0x90, 0x90, 0x90, 0xF0, 0x20, 0x60, 0x20, 0x20, 0x70,
   0xF0, 0x10, 0xF0, 0x80, 0xF0, 0xF0, 0x10, 0xF0, 0x10, 0xF0,
   0x90, 0x90, 0xF0, 0x10, 0x10, 0xF0, 0x80, 0xF0, 0x10, 0xF0,
   0xF0, 0x80, 0xF0, 0x90, 0xF0, 0xF0, 0x10, 0x20, 0x40, 0x40,
   0xF0, 0x90, 0xF0, 0x90, 0xF0, 0xF0, 0x90, 0xF0, 0x10, 0xF0,
   0xF0, 0x90, 0xF0, 0x90, 0x90, 0xE0, 0x90, 0xE0, 0x90, 0xE0,
   0xF0, 0x80, 0x80, 0x80, 0xF0, 0xE0, 0x90, 0x90, 0x90, 0xE0,
   0xF0, 0x80, 0xF0, 0x80, 0xF0, 0xF0, 0x80, 0xF0, 0x80, 0x80]

/-! ## State -/

/-- What the machine is doing. -/
inductive Status where
  /-- It executes instructions. -/
  | running
  /-- It waits for a key press, whose key goes to the register. -/
  | waiting (x : Register)
  /-- It has stopped because of a fault. -/
  | halted (fault : Fault)
deriving DecidableEq

/-- The machine. -/
structure Machine where
  registers : Registers
  timers : Timers
  memory : Memory
  stack : CallStack
  screen : Screen
  status : Status
  random : Keystream
deriving DecidableEq

namespace Machine

/-- The machine after power-up, with an empty memory, drawing random bytes from
    the stream of a seed. -/
def new (seed : UInt64) : Machine where
  registers := .initial
  timers := .initial
  memory := .zeros
  stack := .empty
  screen := .dark
  status := .running
  random := .ofSeed seed

/-- The machine has stopped. -/
def isHalted (m : Machine) : Bool :=
  match m.status with
  | .halted _ => true
  | _ => false

/-- The machine waits for a key press. -/
def isWaiting (m : Machine) : Bool :=
  match m.status with
  | .waiting _ => true
  | _ => false

/-- The fault that stopped the machine. -/
def fault? (m : Machine) : Option Fault :=
  match m.status with
  | .halted fault => some fault
  | _ => none

/-- Restart the program in memory. -/
def reset (m : Machine) : Machine :=
  { m with
    registers := .initial
    timers := .initial
    stack := .empty
    screen := .dark
    status := .running }

/-- Replace the glyphs. -/
def loadFont (m : Machine) (glyphs : List UInt8) : Except Fault Machine :=
  if glyphs.length = fontSize then do
    let memory ← m.memory.load fontStart glyphs
    return { m with memory }
  else
    .error (.font ("fontset data must be " ++ toString fontSize ++ " bytes, got "
      ++ toString glyphs.length))

/-- Erase memory, call stack and screen. -/
def erase (m : Machine) : Machine :=
  { m with memory := .zeros, stack := .empty, screen := .dark }

/-- Put a new program in the place of the one before it. -/
def install (program : List UInt8) : InPlace Machine Unit := do
  if maxProgramSize < program.length then
    throw (.programTooLarge program.length)
  modify erase
  set (← (← get).loadFont builtinFont)
  let m ← get
  set { m with memory := ← m.memory.load programStart program }
  modify reset

/-- Start a new program. -/
def load (m : Machine) (program : List UInt8) : Except Fault Machine :=
  match (install program).on m with
  | (.ok (), after) => .ok after
  | (.error fault, _) => .error fault

/-- Count the timers down once. -/
def tick (m : Machine) : Machine := { m with timers := m.timers.tick }

/-- The change of the buzzer that has not been reported yet. -/
def buzzerChange (m : Machine) : Option Bool × Machine :=
  let (change, timers) := m.timers.buzzerChange
  (change, { m with timers })

theorem buzzerChange_snd (m : Machine) :
    m.buzzerChange.2 = { m with timers := m.timers.buzzerChange.2 } := rfl

theorem buzzerChange_of_none {m : Machine} (h : m.buzzerChange.1 = none) :
    m.buzzerChange.2 = m := by
  rw [buzzerChange_snd, Timers.buzzerChange_of_none h]

end Machine

end ChipEight
