/-
  Faults — the reasons for which the machine or its pacer refuses to go on,
  each with the text that reports it.
-/
import ChipEight.Instruction.Word

namespace ChipEight

/-- The largest program, in bytes, that fits above the interpreter's area. -/
def maxProgramSize : Nat := 3584

/-- The reason for a refusal. -/
inductive Fault where
  /-- A program or block of `size` bytes does not fit into memory. -/
  | programTooLarge (size : Nat)
  /-- The glyph data cannot be used. -/
  | font (detail : String)
  /-- A byte outside memory was to be read or written. -/
  | outOfBounds (address : Nat)
  /-- A call with all frames of the stack in use. -/
  | stackOverflow
  /-- A return without a call. -/
  | stackUnderflow
  /-- The word fetched from `address` is no instruction. -/
  | invalidInstruction (word : Word) (address : Address)
  /-- The settings contradict themselves. -/
  | invalidSettings (detail : String)
  /-- A value could not be written as text. -/
  | unprintable
deriving DecidableEq

/-- The report of a fault. -/
def Fault.message : Fault → String
  | .programTooLarge size =>
    "program too large for VM memory: " ++ toString size ++ " bytes, maximum is "
      ++ toString maxProgramSize
  | .font detail => "font error: " ++ detail
  | .outOfBounds address => "memory access out of bounds: 0x" ++ hex 4 address
  | .stackOverflow => "call stack overflow"
  | .stackUnderflow => "call stack underflow"
  | .invalidInstruction word address =>
    "invalid opcode " ++ word.text ++ " at 0x" ++ hex 4 address.toNat
  | .invalidSettings detail => "invalid configuration: " ++ detail
  | .unprintable => "an error occurred when formatting an argument"

end ChipEight
