/-
  Dumps — what a machine shows of itself as text: its registers, its memory, and
  what its next cycle is about to do.
-/
import ChipEight.Instruction.Mnemonic
import ChipEight.Machine.Step

namespace ChipEight

namespace Machine

/-- The registers, timers and stack depth on one line. -/
def registersText (m : Machine) : String :=
  "PC: " ++ hex 4 m.registers.pc.toNat ++ " | I: " ++ hex 4 m.registers.i.toNat ++ " |"
    ++ String.join ((List.finRange 16).map fun x =>
      " V" ++ hex 1 x.val ++ ": " ++ hex 2 (m.registers.get x).toNat)
    ++ " | DT: " ++ hex 2 m.timers.delay.toNat ++ " ST: " ++ hex 2 m.timers.sound.toNat
    ++ " | SP: " ++ toString m.stack.depth

/-- Lines of at most two bytes, each with the address of its first byte. -/
def dumpLines (address : Nat) : List UInt8 → List String
  | first :: second :: rest =>
    (hex 4 address ++ ": " ++ hex 2 first.toNat ++ " " ++ hex 2 second.toNat)
      :: dumpLines (address + 2) rest
  | [byte] => [hex 4 address ++ ": " ++ hex 2 byte.toNat]
  | [] => []

/-- The first `count` bytes of the program area, or all of it if there are
    fewer, two bytes a line. -/
def memoryText (m : Machine) (count : Nat) : String :=
  let bytes := m.memory.slice programStart (min count (memorySize - programStart))
  String.join ((dumpLines programStart bytes).map (· ++ "\n"))

end Machine

/-! ## Prompts -/

/-- What the next cycle is about to do. -/
inductive Prompt where
  /-- Nothing, because the machine has stopped. -/
  | halted (fault : Fault)
  /-- Ask for a key. -/
  | waiting
  /-- Execute an instruction. -/
  | next (address : Address) (word : Word) (instruction : Instruction)
  /-- Refuse a word that is no instruction. -/
  | invalid (address : Address) (word : Word)
  /-- Refuse to fetch a word. -/
  | unreadable (address : Address) (fault : Fault)
deriving DecidableEq

/-- What the next cycle of a machine is about to do. -/
def Machine.prompt (m : Machine) : Prompt :=
  match m.status with
  | .halted fault => .halted fault
  | .waiting _ => .waiting
  | .running =>
    let address := m.registers.pc
    match m.fetch with
    | .error fault => .unreadable address fault
    | .ok word =>
      match Instruction.decode word with
      | some instruction => .next address word instruction
      | none => .invalid address word

/-- A prompt as text. -/
def Prompt.text : Prompt → String
  | .halted fault => "halted: " ++ fault.message
  | .waiting => "waiting for key press"
  | .next address word instruction =>
    nextAt address ++ word.text ++ "  " ++ instruction.mnemonic
  | .invalid address word => nextAt address ++ word.text ++ "  (invalid)"
  | .unreadable address fault => nextAt address ++ fault.message
where
  /-- The beginning of a prompt with an address. -/
  nextAt (address : Address) : String := "next: 0x" ++ hex 4 address.toNat ++ "  "

end ChipEight
