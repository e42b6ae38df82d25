/-
  Instructions — what the words of a program tell the machine to do, and how
  a word is decoded.

  The formats that differ only in an operation or a condition share a
  constructor: `skip` takes the `Test` that decides it, `combine` the
  `Operation` applied to two registers.
-/
import ChipEight.Instruction.Word

namespace ChipEight

/-- The condition of a skip. -/
inductive Test where
  /-- The register holds the byte. -/
  | isByte (x : Register) (byte : UInt8)
  /-- The register does not hold the byte. -/
  | isNotByte (x : Register) (byte : UInt8)
  /-- The registers hold the same byte. -/
  | same (x y : Register)
  /-- The registers hold different bytes. -/
  | differ (x y : Register)
  /-- The key that the register names is down. -/
  | keyDown (x : Register)
  /-- The key that the register names is not down. -/
  | keyUp (x : Register)
deriving DecidableEq

/-- An operation on a destination and a source register. -/
inductive Operation where
  | copy | or | and | xor | add
  /-- The source is taken from the destination. -/
  | subtract
  /-- The destination is taken from the source. -/
  | subtractFrom
deriving DecidableEq

/-- An instruction of the machine. -/
inductive Instruction where
  | clearScreen
  | ret
  | jump (target : Address)
  | call (target : Address)
  | skip (test : Test)
  | loadByte (x : Register) (byte : UInt8)
  | addByte (x : Register) (byte : UInt8)
  | combine (operation : Operation) (x y : Register)
  | shiftRight (x : Register)
  | shiftLeft (x : Register)
  | loadIndex (target : Address)
  /-- Jump to the target plus `V0`. -/
  | jumpOffset (target : Address)
  | random (x : Register) (mask : UInt8)
  | draw (x y : Register) (rows : Fin 16)
  | loadDelay (x : Register)
  | awaitKey (x : Register)
  | setDelay (x : Register)
  | setSound (x : Register)
  | addIndex (x : Register)
  | loadGlyph (x : Register)
  | storeDecimal (x : Register)
  | storeRegisters (x : Register)
  | loadRegisters (x : Register)
deriving DecidableEq

namespace Instruction

/-- The instruction of group `8`: the low four bits choose the operation. -/
def decodeCombine (w : Word) : Option Instruction :=
  match w.nibble.val with
  | 0x0 => some (.combine .copy w.x w.y)
  | 0x1 => some (.combine .or w.x w.y)
  | 0x2 => some (.combine .and w.x w.y)
  | 0x3 => some (.combine .xor w.x w.y)
  | 0x4 => some (.combine .add w.x w.y)
  | 0x5 => some (.combine .subtract w.x w.y)
  | 0x6 => some (.shiftRight w.x)
  | 0x7 => some (.combine .subtractFrom w.x w.y)
  | 0xE => some (.shiftLeft w.x)
  | _ => none

/-- The instruction of group `F`: the low byte chooses it. -/
def decodeMisc (w : Word) : Option Instruction :=
  match w.byte.toNat with
  | 0x07 => some (.loadDelay w.x)
  | 0x0A => some (.awaitKey w.x)
  | 0x15 => some (.setDelay w.x)
  | 0x18 => some (.setSound w.x)
  | 0x1E => some (.addIndex w.x)
  | 0x29 => some (.loadGlyph w.x)
  | 0x33 => some (.storeDecimal w.x)
  | 0x55 => some (.storeRegisters w.x)
  | 0x65 => some (.loadRegisters w.x)
  | _ => none

/-- The instruction that a word stands for, if it stands for one. -/
def decode (w : Word) : Option Instruction :=
  match w.group.val with
  | 0x0 => if w = 0x00E0 then some .clearScreen else if w = 0x00EE then some .ret else none
  | 0x1 => some (.jump w.address)
  | 0x2 => some (.call w.address)
  | 0x3 => some (.skip (.isByte w.x w.byte))
  | 0x4 => some (.skip (.isNotByte w.x w.byte))
  | 0x5 => if w.nibble.val = 0 then some (.skip (.same w.x w.y)) else none
  | 0x6 => some (.loadByte w.x w.byte)
  | 0x7 => some (.addByte w.x w.byte)
  | 0x8 => decodeCombine w
  | 0x9 => if w.nibble.val = 0 then some (.skip (.differ w.x w.y)) else none
  | 0xA => some (.loadIndex w.address)
  | 0xB => some (.jumpOffset w.address)
  | 0xC => some (.random w.x w.byte)
  | 0xD => some (.draw w.x w.y w.nibble)
  | 0xE =>
    if w.byte = 0x9E then some (.skip (.keyDown w.x))
    else if w.byte = 0xA1 then some (.skip (.keyUp w.x))
    else none
  | _ => decodeMisc w

end Instruction

end ChipEight
