/-
  Formats — which words stand for which instructions.

  `Word.StandsFor` is the table of the instruction set: a row for each format of a
  word, with the digits that are fixed and the operands that are cut out of the
  others.  The decoder finds what is in the table, and nothing else
  (`decode_eq_some_iff`), so the formats do not overlap (`StandsFor.unique`).
-/
import ChipEight.Instruction.Basic

namespace ChipEight

/-- The last digit of the words that combine two registers by an operation. -/
def Operation.digit : Operation → Nat
  | .copy => 0x0
  | .or => 0x1
  | .and => 0x2
  | .xor => 0x3
  | .add => 0x4
  | .subtract => 0x5
  | .subtractFrom => 0x7

namespace Word

/-- The word has the form `FX` and two more digits. -/
def IsMisc (w : Word) (low : UInt8) : Prop := w.group.val = 0xF ∧ w.byte = low

/-- The instruction that a word stands for, format by format. -/
inductive StandsFor (w : Word) : Instruction → Prop
  | clearScreen (word : w = 0x00E0) : StandsFor w .clearScreen
  | ret (word : w = 0x00EE) : StandsFor w .ret
  | jump (group : w.group.val = 0x1) : StandsFor w (.jump w.address)
  | call (group : w.group.val = 0x2) : StandsFor w (.call w.address)
  | skipByte (group : w.group.val = 0x3) : StandsFor w (.skip (.isByte w.x w.byte))
  | skipNotByte (group : w.group.val = 0x4) : StandsFor w (.skip (.isNotByte w.x w.byte))
  | skipSame (group : w.group.val = 0x5) (digit : w.nibble.val = 0x0) :
      StandsFor w (.skip (.same w.x w.y))
  | loadByte (group : w.group.val = 0x6) : StandsFor w (.loadByte w.x w.byte)
  | addByte (group : w.group.val = 0x7) : StandsFor w (.addByte w.x w.byte)
  | combine {operation : Operation} (group : w.group.val = 0x8)
      (digit : w.nibble.val = operation.digit) : StandsFor w (.combine operation w.x w.y)
  | shiftRight (group : w.group.val = 0x8) (digit : w.nibble.val = 0x6) :
      StandsFor w (.shiftRight w.x)
  | shiftLeft (group : w.group.val = 0x8) (digit : w.nibble.val = 0xE) :
      StandsFor w (.shiftLeft w.x)
  | skipDiffer (group : w.group.val = 0x9) (digit : w.nibble.val = 0x0) :
      StandsFor w (.skip (.differ w.x w.y))
  | loadIndex (group : w.group.val = 0xA) : StandsFor w (.loadIndex w.address)
  | jumpOffset (group : w.group.val = 0xB) : StandsFor w (.jumpOffset w.address)
  | random (group : w.group.val = 0xC) : StandsFor w (.random w.x w.byte)
  | draw (group : w.group.val = 0xD) : StandsFor w (.draw w.x w.y w.nibble)
  | skipKeyDown (group : w.group.val = 0xE) (low : w.byte = 0x9E) :
      StandsFor w (.skip (.keyDown w.x))
  | skipKeyUp (group : w.group.val = 0xE) (low : w.byte = 0xA1) :
      StandsFor w (.skip (.keyUp w.x))
  | loadDelay (word : w.IsMisc 0x07) : StandsFor w (.loadDelay w.x)
  | awaitKey (word : w.IsMisc 0x0A) : StandsFor w (.awaitKey w.x)
  | setDelay (word : w.IsMisc 0x15) : StandsFor w (.setDelay w.x)
  | setSound (word : w.IsMisc 0x18) : StandsFor w (.setSound w.x)
  | addIndex (word : w.IsMisc 0x1E) : StandsFor w (.addIndex w.x)
  | loadGlyph (word : w.IsMisc 0x29) : StandsFor w (.loadGlyph w.x)
  | storeDecimal (word : w.IsMisc 0x33) : StandsFor w (.storeDecimal w.x)
  | storeRegisters (word : w.IsMisc 0x55) : StandsFor w (.storeRegisters w.x)
  | loadRegisters (word : w.IsMisc 0x65) : StandsFor w (.loadRegisters w.x)

variable {w : Word} {i : Instruction}

theorem standsFor_of_decodeCombine (group : w.group.val = 0x8)
    (h : Instruction.decodeCombine w = some i) : w.StandsFor i := by
  unfold Instruction.decodeCombine at h
  split at h <;> cases h
  case h_7 digit => exact .shiftRight group digit
  case h_9 digit => exact .shiftLeft group digit
  all_goals next digit => exact .combine group digit

theorem standsFor_of_decodeMisc (group : w.group.val = 0xF)
    (h : Instruction.decodeMisc w = some i) : w.StandsFor i := by
  have misc {low : UInt8} (same : w.byte.toNat = low.toNat) : w.IsMisc low :=
    ⟨group, UInt8.toNat_inj.1 same⟩
  unfold Instruction.decodeMisc at h
  split at h <;> cases h
  case h_1 same => exact .loadDelay (misc same)
  case h_2 same => exact .awaitKey (misc same)
  case h_3 same => exact .setDelay (misc same)
  case h_4 same => exact .setSound (misc same)
  case h_5 same => exact .addIndex (misc same)
  case h_6 same => exact .loadGlyph (misc same)
  case h_7 same => exact .storeDecimal (misc same)
  case h_8 same => exact .storeRegisters (misc same)
  case h_9 same => exact .loadRegisters (misc same)

/-- What is decoded is in the table. -/
theorem standsFor_of_decode (h : Instruction.decode w = some i) : w.StandsFor i := by
  unfold Instruction.decode at h
  split at h
  case h_1 =>
    split at h
    · next word => cases h; exact .clearScreen word
    · split at h
      · next word => cases h; exact .ret word
      · cases h
  case h_2 group => cases h; exact .jump group
  case h_3 group => cases h; exact .call group
  case h_4 group => cases h; exact .skipByte group
  case h_5 group => cases h; exact .skipNotByte group
  case h_6 group =>
    split at h
    · next digit => cases h; exact .skipSame group digit
    · cases h
  case h_7 group => cases h; exact .loadByte group
  case h_8 group => cases h; exact .addByte group
  case h_9 group => exact standsFor_of_decodeCombine group h
  case h_10 group =>
    split at h
    · next digit => cases h; exact .skipDiffer group digit
    · cases h
  case h_11 group => cases h; exact .loadIndex group
  case h_12 group => cases h; exact .jumpOffset group
  case h_13 group => cases h; exact .random group
  case h_14 group => cases h; exact .draw group
  case h_15 group =>
    split at h
    · next low => cases h; exact .skipKeyDown group low
    · split at h
      · next low => cases h; exact .skipKeyUp group low
      · cases h
  case h_16 =>
    -- the other fifteen groups are named above
    have bound := w.group.isLt
    exact standsFor_of_decodeMisc (by grind) h

/-- What is in the table is decoded. -/
theorem decode_of_standsFor (h : w.StandsFor i) : Instruction.decode w = some i := by
  cases h with
  | clearScreen word | ret word => subst word; rfl
  | skipSame group digit | skipDiffer group digit =>
    simp only [Instruction.decode, group, digit, if_pos]
  | @combine operation group digit =>
    simp only [Instruction.decode, group, Instruction.decodeCombine, digit]
    cases operation <;> rfl
  | shiftRight group digit | shiftLeft group digit =>
    simp only [Instruction.decode, group, Instruction.decodeCombine, digit]
  | skipKeyDown group low | skipKeyUp group low =>
    simp only [Instruction.decode, group, low]
    rfl
  | loadDelay word | awaitKey word | setDelay word | setSound word | addIndex word
  | loadGlyph word | storeDecimal word | storeRegisters word | loadRegisters word =>
    obtain ⟨group, low⟩ := word
    simp only [Instruction.decode, group, Instruction.decodeMisc, low]
    rfl
  | _ group => simp only [Instruction.decode, group]

/-- **The decoder is the table.** -/
theorem decode_eq_some_iff : Instruction.decode w = some i ↔ w.StandsFor i :=
  ⟨standsFor_of_decode, decode_of_standsFor⟩

/-- A word stands for one instruction at most. -/
theorem StandsFor.unique {j : Instruction} (h : w.StandsFor i) (h' : w.StandsFor j) : i = j :=
  Option.some.inj ((decode_of_standsFor h).symm.trans (decode_of_standsFor h'))

end Word

end ChipEight
