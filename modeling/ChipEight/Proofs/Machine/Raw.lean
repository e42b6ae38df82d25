/-
  Raw instructions — what the shifts and masks of the decoder cut out of a word:
  operations with bytes for operands.

  A byte need not name a register, and sixteen bits need not be an address of
  memory.  What is decoded is in range all the same:

  * `RawInstruction.decode` cuts the fields out of a word, and `refine` reads a
    raw instruction as an instruction;
  * `fits_of_decode`: the operands that are used without another mask are in
    range;
  * `Instruction.raw` is an instruction with bytes for registers, and what is decoded
    is the raw form of what the word stands for (`decode_eq`); read as an instruction,
    it is what the word stands for (`map_refine_decode`).
-/
import ChipEight.Instruction.Basic

namespace ChipEight

/-! ## Fields of a word -/

namespace Word

/-- Four bits of a word, by a shift and a mask. -/
def cut (w : Word) (shift : UInt16) : UInt8 := (w >>> shift &&& 0xF).toUInt8

/-- The group of a word, by a shift. -/
def rawGroup (w : Word) : UInt8 := (w >>> 12).toUInt8

/-- The first register operand. -/
def rawX (w : Word) : UInt8 := w.cut 8

/-- The second register operand. -/
def rawY (w : Word) : UInt8 := w.cut 4

/-- The low four bits, by a mask. -/
def rawNibble (w : Word) : UInt8 := (w &&& 0xF).toUInt8

/-- The low eight bits, by a mask. -/
def rawByte (w : Word) : UInt8 := (w &&& 0xFF).toUInt8

/-- The low twelve bits, by a mask. -/
def rawAddress (w : Word) : Address := w &&& 0xFFF

theorem toNat_cut (w : Word) (shift : UInt16) :
    (w.cut shift).toNat = (w >>> shift).toNat % 16 := by
  have mask := Nat.and_two_pow_sub_one_eq_mod (w >>> shift).toNat 4
  simp only [cut, UInt16.toNat_toUInt8, UInt16.toNat_and, UInt16.toNat_ofNat]
  simp only [Nat.reducePow, Nat.reduceSub, Nat.reduceMod] at mask ⊢
  omega

theorem toNat_rawGroup (w : Word) : w.rawGroup.toNat = w.group.val := by
  have h := w.toNat_lt
  simp only [rawGroup, group, lastDigit, UInt16.toNat_toUInt8, UInt16.toNat_shiftRight,
    UInt16.toNat_ofNat, Nat.shiftRight_eq_div_pow]
  simp only [Nat.reducePow, Nat.reduceMod]
  omega

theorem toNat_rawX (w : Word) : w.rawX.toNat = w.x.val := by
  rw [rawX, toNat_cut, UInt16.toNat_shiftRight, Nat.shiftRight_eq_div_pow]
  rfl

theorem toNat_rawY (w : Word) : w.rawY.toNat = w.y.val := by
  rw [rawY, toNat_cut, UInt16.toNat_shiftRight, Nat.shiftRight_eq_div_pow]
  rfl

theorem toNat_rawNibble (w : Word) : w.rawNibble.toNat = w.nibble.val := by
  have mask := Nat.and_two_pow_sub_one_eq_mod w.toNat 4
  simp only [rawNibble, nibble, lastDigit, UInt16.toNat_toUInt8, UInt16.toNat_and,
    UInt16.toNat_ofNat]
  simp only [Nat.reducePow, Nat.reduceSub, Nat.reduceMod] at mask ⊢
  omega

theorem rawByte_eq (w : Word) : w.rawByte = w.byte := by
  have mask := Nat.and_two_pow_sub_one_eq_mod w.toNat 8
  refine UInt8.toNat_inj.1 ?_
  simp only [rawByte, byte, UInt16.toNat_toUInt8, UInt16.toNat_and, UInt16.toNat_ofNat,
    UInt8.toNat_ofNat']
  simp only [Nat.reducePow, Nat.reduceSub, Nat.reduceMod] at mask ⊢
  omega

theorem rawAddress_eq (w : Word) : w.rawAddress = w.address := by
  have mask := Nat.and_two_pow_sub_one_eq_mod w.toNat 12
  refine UInt16.toNat_inj.1 ?_
  simp only [rawAddress, address, UInt16.toNat_and, UInt16.toNat_ofNat, UInt16.toNat_ofNat']
  simp only [Nat.reducePow, Nat.reduceSub, Nat.reduceMod] at mask ⊢
  omega

end Word

/-! ## Raw instructions -/

/-- The register that the low four bits of a byte name. -/
def registerOf (operand : UInt8) : Register := lastDigit operand.toNat

/-- The condition of a skip, with bytes for registers. -/
inductive RawTest where
  | isByte (x byte : UInt8)
  | isNotByte (x byte : UInt8)
  | same (x y : UInt8)
  | differ (x y : UInt8)
  | keyDown (x : UInt8)
  | keyUp (x : UInt8)

/-- An instruction, with bytes for registers. -/
inductive RawInstruction where
  | clearScreen
  | ret
  | jump (target : Address)
  | call (target : Address)
  | skip (test : RawTest)
  | loadByte (x byte : UInt8)
  | addByte (x byte : UInt8)
  | combine (operation : Operation) (x y : UInt8)
  | shiftRight (x : UInt8)
  | shiftLeft (x : UInt8)
  | loadIndex (target : Address)
  | jumpOffset (target : Address)
  | random (x mask : UInt8)
  | draw (x y rows : UInt8)
  | loadDelay (x : UInt8)
  | awaitKey (x : UInt8)
  | setDelay (x : UInt8)
  | setSound (x : UInt8)
  | addIndex (x : UInt8)
  | loadGlyph (x : UInt8)
  | storeDecimal (x : UInt8)
  | storeRegisters (x : UInt8)
  | loadRegisters (x : UInt8)

/-- The test that a raw one stands for. -/
def RawTest.refine : RawTest → Test
  | .isByte x byte => .isByte (registerOf x) byte
  | .isNotByte x byte => .isNotByte (registerOf x) byte
  | .same x y => .same (registerOf x) (registerOf y)
  | .differ x y => .differ (registerOf x) (registerOf y)
  | .keyDown x => .keyDown (registerOf x)
  | .keyUp x => .keyUp (registerOf x)

namespace RawInstruction

/-- The instruction that a raw one stands for. -/
def refine : RawInstruction → Instruction
  | .clearScreen => .clearScreen
  | .ret => .ret
  | .jump target => .jump target
  | .call target => .call target
  | .skip test => .skip test.refine
  | .loadByte x byte => .loadByte (registerOf x) byte
  | .addByte x byte => .addByte (registerOf x) byte
  | .combine operation x y => .combine operation (registerOf x) (registerOf y)
  | .shiftRight x => .shiftRight (registerOf x)
  | .shiftLeft x => .shiftLeft (registerOf x)
  | .loadIndex target => .loadIndex target
  | .jumpOffset target => .jumpOffset target
  | .random x mask => .random (registerOf x) mask
  | .draw x y rows => .draw (registerOf x) (registerOf y) (lastDigit rows.toNat)
  | .loadDelay x => .loadDelay (registerOf x)
  | .awaitKey x => .awaitKey (registerOf x)
  | .setDelay x => .setDelay (registerOf x)
  | .setSound x => .setSound (registerOf x)
  | .addIndex x => .addIndex (registerOf x)
  | .loadGlyph x => .loadGlyph (registerOf x)
  | .storeDecimal x => .storeDecimal (registerOf x)
  | .storeRegisters x => .storeRegisters (registerOf x)
  | .loadRegisters x => .loadRegisters (registerOf x)

end RawInstruction

/-! ## Instructions with bytes for registers -/

/-- The byte that names a register. -/
def Register.raw (x : Register) : UInt8 := UInt8.ofNat x.val

theorem Register.toNat_raw (x : Register) : (Register.raw x).toNat = x.val := by
  have small := x.isLt
  rw [Register.raw, UInt8.toNat_ofNat']
  omega

theorem registerOf_val (x : Register) : registerOf (UInt8.ofNat x.val) = x := by
  revert x
  decide

/-- A test with bytes for registers. -/
def Test.raw : Test → RawTest
  | .isByte x byte => .isByte (Register.raw x) byte
  | .isNotByte x byte => .isNotByte (Register.raw x) byte
  | .same x y => .same (Register.raw x) (Register.raw y)
  | .differ x y => .differ (Register.raw x) (Register.raw y)
  | .keyDown x => .keyDown (Register.raw x)
  | .keyUp x => .keyUp (Register.raw x)

namespace Instruction

/-- An instruction with bytes for registers. -/
def raw : Instruction → RawInstruction
  | .clearScreen => .clearScreen
  | .ret => .ret
  | .jump target => .jump target
  | .call target => .call target
  | .skip test => .skip test.raw
  | .loadByte x byte => .loadByte (Register.raw x) byte
  | .addByte x byte => .addByte (Register.raw x) byte
  | .combine operation x y => .combine operation (Register.raw x) (Register.raw y)
  | .shiftRight x => .shiftRight (Register.raw x)
  | .shiftLeft x => .shiftLeft (Register.raw x)
  | .loadIndex target => .loadIndex target
  | .jumpOffset target => .jumpOffset target
  | .random x mask => .random (Register.raw x) mask
  | .draw x y rows => .draw (Register.raw x) (Register.raw y) (Register.raw rows)
  | .loadDelay x => .loadDelay (Register.raw x)
  | .awaitKey x => .awaitKey (Register.raw x)
  | .setDelay x => .setDelay (Register.raw x)
  | .setSound x => .setSound (Register.raw x)
  | .addIndex x => .addIndex (Register.raw x)
  | .loadGlyph x => .loadGlyph (Register.raw x)
  | .storeDecimal x => .storeDecimal (Register.raw x)
  | .storeRegisters x => .storeRegisters (Register.raw x)
  | .loadRegisters x => .loadRegisters (Register.raw x)

/-- **An instruction is what its raw one stands for.** -/
theorem refine_raw (i : Instruction) : i.raw.refine = i := by
  cases i with
  | skip test =>
    cases test
    all_goals
      simp only [raw, Test.raw, RawInstruction.refine, RawTest.refine, Register.raw, registerOf_val]
  | draw x y rows =>
    have same : lastDigit (UInt8.ofNat rows.val).toNat = rows := registerOf_val rows
    simp only [raw, RawInstruction.refine, Register.raw, registerOf_val, same]
  | _ => simp only [raw, RawInstruction.refine, Register.raw, registerOf_val]

end Instruction

namespace RawInstruction

/-! ## Decoding -/

/-- The raw instruction of group `8`. -/
def decodeCombine (w : Word) : Option RawInstruction :=
  match w.rawNibble.toNat with
  | 0x0 => some (.combine .copy w.rawX w.rawY)
  | 0x1 => some (.combine .or w.rawX w.rawY)
  | 0x2 => some (.combine .and w.rawX w.rawY)
  | 0x3 => some (.combine .xor w.rawX w.rawY)
  | 0x4 => some (.combine .add w.rawX w.rawY)
  | 0x5 => some (.combine .subtract w.rawX w.rawY)
  | 0x6 => some (.shiftRight w.rawX)
  | 0x7 => some (.combine .subtractFrom w.rawX w.rawY)
  | 0xE => some (.shiftLeft w.rawX)
  | _ => none

/-- The raw instruction of group `F`. -/
def decodeMisc (w : Word) : Option RawInstruction :=
  match w.rawByte.toNat with
  | 0x07 => some (.loadDelay w.rawX)
  | 0x0A => some (.awaitKey w.rawX)
  | 0x15 => some (.setDelay w.rawX)
  | 0x18 => some (.setSound w.rawX)
  | 0x1E => some (.addIndex w.rawX)
  | 0x29 => some (.loadGlyph w.rawX)
  | 0x33 => some (.storeDecimal w.rawX)
  | 0x55 => some (.storeRegisters w.rawX)
  | 0x65 => some (.loadRegisters w.rawX)
  | _ => none

/-- The raw instruction that is cut out of a word, if the word stands for one. -/
def decode (w : Word) : Option RawInstruction :=
  match w.rawGroup.toNat with
  | 0x0 => if w = 0x00E0 then some .clearScreen else if w = 0x00EE then some .ret else none
  | 0x1 => some (.jump w.rawAddress)
  | 0x2 => some (.call w.rawAddress)
  | 0x3 => some (.skip (.isByte w.rawX w.rawByte))
  | 0x4 => some (.skip (.isNotByte w.rawX w.rawByte))
  | 0x5 => if w.rawNibble.toNat = 0 then some (.skip (.same w.rawX w.rawY)) else none
  | 0x6 => some (.loadByte w.rawX w.rawByte)
  | 0x7 => some (.addByte w.rawX w.rawByte)
  | 0x8 => decodeCombine w
  | 0x9 => if w.rawNibble.toNat = 0 then some (.skip (.differ w.rawX w.rawY)) else none
  | 0xA => some (.loadIndex w.rawAddress)
  | 0xB => some (.jumpOffset w.rawAddress)
  | 0xC => some (.random w.rawX w.rawByte)
  | 0xD => some (.draw w.rawX w.rawY w.rawNibble)
  | 0xE =>
    if w.rawByte = 0x9E then some (.skip (.keyDown w.rawX))
    else if w.rawByte = 0xA1 then some (.skip (.keyUp w.rawX))
    else none
  | 0xF => decodeMisc w
  | _ => none

/-- The operands that are used as they are, without another mask, are in range. -/
def Fits : RawInstruction → Prop
  | .jumpOffset target => target.toNat < 4096
  | .draw _ _ rows => rows.toNat < 16
  | .storeRegisters x => x.toNat < 16
  | .loadRegisters x => x.toNat < 16
  | _ => True

variable {w : Word} {raw : RawInstruction}

theorem fits_of_decodeCombine (h : decodeCombine w = some raw) : raw.Fits := by
  unfold decodeCombine at h
  split at h <;> cases h <;> trivial

theorem fits_of_decodeMisc (h : decodeMisc w = some raw) : raw.Fits := by
  have register : w.rawX.toNat < 16 := by
    rw [Word.toNat_rawX]
    exact w.x.isLt
  unfold decodeMisc at h
  split at h <;> cases h <;> first | exact register | trivial

/-- **The masks keep the operands in range.** -/
theorem fits_of_decode (h : decode w = some raw) : raw.Fits := by
  have target : w.rawAddress.toNat < 4096 := by
    rw [Word.rawAddress_eq]
    exact w.address_lt
  have rows : w.rawNibble.toNat < 16 := by
    rw [Word.toNat_rawNibble]
    exact w.nibble.isLt
  unfold decode at h
  split at h
  case h_9 => exact fits_of_decodeCombine h
  case h_16 => exact fits_of_decodeMisc h
  case h_17 => cases h
  -- the words of these groups must also have the right low bits
  case h_1 | h_15 =>
    split at h
    · cases h; trivial
    · split at h
      · cases h; trivial
      · cases h
  case h_6 | h_10 =>
    split at h
    · cases h; trivial
    · cases h
  all_goals cases h; first | exact target | exact rows | trivial

/-! ## What is decoded -/

theorem raw_x (w : Word) : Register.raw w.x = w.rawX :=
  UInt8.toNat_inj.1 ((Register.toNat_raw w.x).trans w.toNat_rawX.symm)

theorem raw_y (w : Word) : Register.raw w.y = w.rawY :=
  UInt8.toNat_inj.1 ((Register.toNat_raw w.y).trans w.toNat_rawY.symm)

theorem raw_nibble (w : Word) : Register.raw w.nibble = w.rawNibble :=
  UInt8.toNat_inj.1 ((Register.toNat_raw w.nibble).trans w.toNat_rawNibble.symm)

theorem decodeCombine_eq (w : Word) :
    decodeCombine w = (Instruction.decodeCombine w).map Instruction.raw := by
  rw [decodeCombine, Instruction.decodeCombine, Word.toNat_rawNibble]
  generalize w.nibble.val = nibble
  split <;> simp only [Option.map_some, Option.map_none, Instruction.raw, raw_x, raw_y]

theorem decodeMisc_eq (w : Word) :
    decodeMisc w = (Instruction.decodeMisc w).map Instruction.raw := by
  rw [decodeMisc, Instruction.decodeMisc, Word.rawByte_eq]
  generalize w.byte.toNat = byte
  split <;> simp only [Option.map_some, Option.map_none, Instruction.raw, raw_x]

/-- **What is decoded** is the raw form of the instruction that the word stands for. -/
theorem decode_eq (w : Word) : decode w = (Instruction.decode w).map Instruction.raw := by
  have bound := w.group.isLt
  rw [decode, Instruction.decode, Word.toNat_rawGroup, Word.toNat_rawNibble, Word.rawByte_eq,
    Word.rawAddress_eq]
  generalize w.group.val = group at bound ⊢
  split
  case h_9 => exact decodeCombine_eq w
  case h_16 => exact decodeMisc_eq w
  case h_17 => exfalso; grind
  case h_1 | h_6 | h_10 | h_15 =>
    simp only [apply_ite (Option.map Instruction.raw), Option.map_some, Option.map_none,
      Instruction.raw, Test.raw, raw_x, raw_y]
  all_goals
    simp only [Option.map_some, Instruction.raw, Test.raw, raw_x, raw_y, raw_nibble]

/-- **Read as an instruction**, what is decoded is what the word stands for. -/
theorem map_refine_decode (w : Word) : (decode w).map refine = Instruction.decode w := by
  rw [decode_eq, Option.map_map]
  cases Instruction.decode w with
  | none => rfl
  | some i => exact congrArg some i.refine_raw

end RawInstruction

end ChipEight
