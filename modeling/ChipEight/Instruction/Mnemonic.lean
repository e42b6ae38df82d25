/-
  Mnemonics — the assembly text of an instruction: a verb and its operands,
  registers as `v` and a digit, bytes in decimal, addresses as `0x` and at
  least three hexadecimal digits.
-/
import ChipEight.Instruction.Basic

namespace ChipEight

/-- A register as an operand. -/
def Register.text (x : Register) : String := "v" ++ hex 1 x.val

/-- A byte as an operand. -/
def byteText (byte : UInt8) : String := toString byte.toNat

/-- An address as an operand. -/
def addressText (a : Address) : String := "0x" ++ hex 3 a.toNat

/-- A verb with two operands. -/
def twoOperands (verb first second : String) : String := verb ++ " " ++ first ++ ", " ++ second

/-- The assembly text of the skip that a test decides. -/
def Test.mnemonic : Test → String
  | .isByte x byte => twoOperands "SE" (Register.text x) (byteText byte)
  | .isNotByte x byte => twoOperands "SNE" (Register.text x) (byteText byte)
  | .same x y => twoOperands "SE" (Register.text x) (Register.text y)
  | .differ x y => twoOperands "SNE" (Register.text x) (Register.text y)
  | .keyDown x => "SKP " ++ Register.text x
  | .keyUp x => "SKNP " ++ Register.text x

/-- The verb of an operation on two registers. -/
def Operation.verb : Operation → String
  | .copy => "LD"
  | .or => "OR"
  | .and => "AND"
  | .xor => "XOR"
  | .add => "ADD"
  | .subtract => "SUB"
  | .subtractFrom => "SUBN"

/-- The assembly text of an instruction. -/
def Instruction.mnemonic : Instruction → String
  | .clearScreen => "CLS"
  | .ret => "RET"
  | .jump target => "JP " ++ addressText target
  | .call target => "CALL " ++ addressText target
  | .skip test => test.mnemonic
  | .loadByte x byte => twoOperands "LD" (Register.text x) (byteText byte)
  | .addByte x byte => twoOperands "ADD" (Register.text x) (byteText byte)
  | .combine operation x y => twoOperands operation.verb (Register.text x) (Register.text y)
  | .shiftRight x => "SHR " ++ Register.text x
  | .shiftLeft x => "SHL " ++ Register.text x
  | .loadIndex target => twoOperands "LD" "I" (addressText target)
  | .jumpOffset target => twoOperands "JP" "v0" (addressText target)
  | .random x mask => twoOperands "RND" (Register.text x) (byteText mask)
  | .draw x y rows => twoOperands "DRW" (Register.text x) (Register.text y) ++ ", " ++ toString rows.val
  | .loadDelay x => twoOperands "LD" (Register.text x) "DT"
  | .awaitKey x => twoOperands "LD" (Register.text x) "K"
  | .setDelay x => twoOperands "LD" "DT" (Register.text x)
  | .setSound x => twoOperands "LD" "ST" (Register.text x)
  | .addIndex x => twoOperands "ADD" "I" (Register.text x)
  | .loadGlyph x => twoOperands "LD" "F" (Register.text x)
  | .storeDecimal x => twoOperands "LD" "B" (Register.text x)
  | .storeRegisters x => twoOperands "LD" "[I]" (Register.text x)
  | .loadRegisters x => twoOperands "LD" (Register.text x) "[I]"

end ChipEight
