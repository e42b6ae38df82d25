/-
  Synonyms — words with the same mnemonic.

  * `Instruction.code` is the number of the word that stands for an instruction, with zeros
    for the digits that do not matter; only the shifts have such digits
    (`StandsFor.toNat_eq`), so all other instructions have one word (`StandsFor.eq`);
  * `Console.SameBut`: two consoles that are the same but for bytes of memory;
  * `step_withMemory`: a shift does the same with every memory, and leaves it as it is;
  * `step_sameBut`: words that stand for the same instruction do the same, on consoles that
    are the same but for those words.
-/
import ChipEight.Instruction.Listing
import ChipEight.Proofs.Instruction.Phrases
import ChipEight.Proofs.Machine.Bounds

namespace ChipEight

/-! ## The words of an instruction -/

/-- The number of the word that a skip consists of. -/
def Test.code : Test → Nat
  | .isByte x byte => 0x3000 + x.val * 256 + byte.toNat
  | .isNotByte x byte => 0x4000 + x.val * 256 + byte.toNat
  | .same x y => 0x5000 + x.val * 256 + y.val * 16
  | .differ x y => 0x9000 + x.val * 256 + y.val * 16
  | .keyDown x => 0xE09E + x.val * 256
  | .keyUp x => 0xE0A1 + x.val * 256

namespace Instruction

/-- The number of the word that an instruction consists of. -/
def code : Instruction → Nat
  | .clearScreen => 0x00E0
  | .ret => 0x00EE
  | .jump target => 0x1000 + target.toNat
  | .call target => 0x2000 + target.toNat
  | .skip test => test.code
  | .loadByte x byte => 0x6000 + x.val * 256 + byte.toNat
  | .addByte x byte => 0x7000 + x.val * 256 + byte.toNat
  | .combine operation x y => 0x8000 + x.val * 256 + y.val * 16 + operation.digit
  | .shiftRight x => 0x8006 + x.val * 256
  | .shiftLeft x => 0x800E + x.val * 256
  | .loadIndex target => 0xA000 + target.toNat
  | .jumpOffset target => 0xB000 + target.toNat
  | .random x mask => 0xC000 + x.val * 256 + mask.toNat
  | .draw x y rows => 0xD000 + x.val * 256 + y.val * 16 + rows.val
  | .loadDelay x => 0xF007 + x.val * 256
  | .awaitKey x => 0xF00A + x.val * 256
  | .setDelay x => 0xF015 + x.val * 256
  | .setSound x => 0xF018 + x.val * 256
  | .addIndex x => 0xF01E + x.val * 256
  | .loadGlyph x => 0xF029 + x.val * 256
  | .storeDecimal x => 0xF033 + x.val * 256
  | .storeRegisters x => 0xF055 + x.val * 256
  | .loadRegisters x => 0xF065 + x.val * 256

/-- The instruction shifts a register. -/
def Shifts : Instruction → Prop
  | .shiftRight _ | .shiftLeft _ => True
  | _ => False

end Instruction

namespace Word

variable {w v : Word} {i : Instruction}

theorem IsMisc.toNat_eq {low : UInt8} (misc : w.IsMisc low) :
    w.toNat = 0xF000 + w.x.val * 256 + low.toNat := by
  obtain ⟨group, rfl⟩ := misc
  rw [w.toNat_eq_byte, group]

/-- **The word of an instruction**, but for the digit that a shift ignores. -/
theorem StandsFor.toNat_eq (h : w.StandsFor i) (fixed : ¬ i.Shifts) : w.toNat = i.code := by
  have whole := w.toNat_eq
  have bytes := w.toNat_eq_byte
  have digits := w.toNat_eq_digits
  cases h with
  | shiftRight | shiftLeft => exact absurd trivial fixed
  | clearScreen word | ret word => subst word; rfl
  | jump group | call group | loadIndex group | jumpOffset group =>
    rw [Instruction.code, whole, group]
  | skipByte group | skipNotByte group =>
    rw [Instruction.code, Test.code, bytes, group]
  | loadByte group | addByte group | random group =>
    rw [Instruction.code, bytes, group]
  | skipSame group digit | skipDiffer group digit =>
    rw [Instruction.code, Test.code, digits, group, digit, Nat.add_zero]
  | skipKeyDown group low | skipKeyUp group low =>
    simp only [Instruction.code, Test.code, bytes, group, low, UInt8.reduceToNat]
    omega
  | combine group digit => rw [Instruction.code, digits, group, digit]
  | draw group => rw [Instruction.code, digits, group]
  | loadDelay word | awaitKey word | setDelay word | setSound word | addIndex word
  | loadGlyph word | storeDecimal word | storeRegisters word | loadRegisters word =>
    simp only [Instruction.code, word.toNat_eq, UInt8.reduceToNat]
    omega

/-- **One word** stands for an instruction that is no shift. -/
theorem StandsFor.eq (h : w.StandsFor i) (h' : v.StandsFor i) (fixed : ¬ i.Shifts) : w = v :=
  UInt16.toNat_inj.1 ((h.toNat_eq fixed).trans (h'.toNat_eq fixed).symm)

end Word

/-! ## Mnemonics in a listing -/

/-- **The mnemonic of a word** that stands for an instruction is what its listing shows. -/
theorem RawInstruction.operationText_of_decode {w : Word} {raw : RawInstruction}
    (h : decode w = some raw) : Listing.operationText w = raw.mnemonic := by
  rw [decode_eq] at h
  obtain ⟨i, known, rfl⟩ := Option.map_eq_some_iff.1 h
  rw [Listing.operationText, known, i.mnemonic_raw]

/-! ## Another memory -/

namespace Console

/-- The console with another memory. -/
def withMemory (c : Console) (memory : Memory) : Console := c.mapMachine ({ · with memory })

/-- The consoles are the same, but for the bytes of memory at some addresses. -/
structure SameBut (differ : Nat → Prop) (one other : Console) : Prop where
  bytes : ∀ a, ¬ differ a → other.machine.memory.byte a = one.machine.memory.byte a
  others : other = one.withMemory other.machine.memory

variable {differ : Nat → Prop} {one other c : Console} {memory : Memory} {i : Instruction}
  {w v : Word}

theorem SameBut.refl (differ : Nat → Prop) (c : Console) : c.SameBut differ c :=
  ⟨fun _ _ => rfl, rfl⟩

/-- **Shifts** do the same with every memory, and leave it as it is. -/
theorem execute_withMemory (shift : i.Shifts) (c : Console) (memory : Memory) :
    i.execute.on (c.withMemory memory) =
      ((i.execute.on c).1, (i.execute.on c).2.withMemory memory) := by
  cases i with
  | shiftRight | shiftLeft => rfl
  | _ => exact shift.elim

/-- **A step to a shift** is the same with every memory that has the shift where it is. -/
theorem step_withMemory (shift : i.Shifts) (found : c.machine.fetchInstruction = .ok i)
    (kept : (c.withMemory memory).machine.fetchInstruction = .ok i) :
    (c.withMemory memory).step = (c.step.1, c.step.2.withMemory memory) := by
  refine step_adapt (t := id) (s := fun _ => memory) (r := id) (fun _ => kept.trans found.symm) ?_
  intro j upcoming
  obtain ⟨-, fetch⟩ := upcoming_eq_some.1 upcoming
  cases found.symm.trans fetch
  exact execute_withMemory shift c.advance memory

theorem memory_step (shift : i.Shifts) (found : c.machine.fetchInstruction = .ok i) :
    c.step.2.machine.memory = c.machine.memory := by
  have unchanged : c.withMemory c.machine.memory = c := rfl
  have own := step_withMemory shift found (unchanged.symm ▸ found)
  rw [unchanged] at own
  rw [own]
  rfl

/-- Consoles are equal if they are the same but for a word, and that is the same too. -/
theorem SameBut.eq (same : one.SameBut differ other)
    (code : ∀ a, differ a → a = one.machine.registers.pc.toNat ∨
      a = one.machine.registers.pc.toNat + 1)
    (here : one.machine.PointsTo w) (there : other.machine.PointsTo w) : one = other := by
  have place : other.machine.registers = one.machine.registers := by rw [same.others]; rfl
  obtain ⟨-, word⟩ := here
  obtain ⟨-, copy⟩ := there
  rw [place] at copy
  obtain ⟨high, low⟩ := Word.ofBytes_inj (word.symm.trans copy)
  have memory : one.machine.memory = other.machine.memory := by
    refine Memory.ext_byte fun a => ?_
    by_cases inside : differ a
    · rcases code a inside with rfl | rfl
      · exact high
      · exact low
    · exact (same.bytes a inside).symm
  rw [same.others, ← memory]
  rfl

/-- **Words that stand for the same instruction do the same** on consoles that are the same
    but for those words. -/
theorem step_sameBut (same : one.SameBut differ other)
    (code : ∀ a, differ a → a = one.machine.registers.pc.toNat ∨
      a = one.machine.registers.pc.toNat + 1)
    (here : one.machine.PointsTo w) (there : other.machine.PointsTo v)
    (first : w.StandsFor i) (second : v.StandsFor i) :
    other.step.1 = one.step.1 ∧ one.step.2.SameBut differ other.step.2 := by
  by_cases shift : i.Shifts
  · have found {c : Console} {w : Word} (points : c.machine.PointsTo w) (stands : w.StandsFor i) :
        c.machine.fetchInstruction = .ok i := by
      rw [Machine.fetchInstruction_of_ok (Machine.fetch_eq_ok_iff.2 points),
        Word.decode_of_standsFor stands]
    have kept := memory_step shift (found here first)
    have step : other.step =
        (one.step.1, one.step.2.withMemory other.machine.memory) := by
      have there := found there second
      rw [same.others] at there ⊢
      exact step_withMemory shift (found here first) there
    rw [step]
    refine ⟨rfl, fun a outside => ?_, rfl⟩
    rw [kept]
    exact same.bytes a outside
  · -- without a shift there is only one word, so the consoles are equal
    obtain rfl := first.eq second shift
    obtain rfl := same.eq code here there
    exact ⟨rfl, .refl differ _⟩

/-- **Mnemonics are unambiguous.**  Raw instructions with the same mnemonic are equal,
    whatever bytes and addresses are their operands.  What a listing shows of a word that
    stands for an instruction is such a mnemonic, so two of these words of which it shows
    the same stand for the same instruction; and they do the same on any two consoles that
    have them at the program counter and are the same but for bytes of them. -/
theorem mnemonics_unambiguous :
    (∀ a b : RawInstruction, a.mnemonic = b.mnemonic → a = b) ∧
      (∀ w raw, RawInstruction.decode w = some raw → Listing.operationText w = raw.mnemonic) ∧
      ∀ w v : Word, (RawInstruction.decode w).isSome → (RawInstruction.decode v).isSome →
        Listing.operationText w = Listing.operationText v →
        RawInstruction.decode w = RawInstruction.decode v ∧
          ∀ (one other : Console) (differ : Nat → Prop),
            (∀ a, differ a → a = one.machine.registers.pc.toNat ∨
              a = one.machine.registers.pc.toNat + 1) →
            one.SameBut differ other → one.machine.PointsTo w → other.machine.PointsTo v →
            other.step.1 = one.step.1 ∧ one.step.2.SameBut differ other.step.2 := by
  refine ⟨fun a b => RawInstruction.mnemonic_inj,
    fun w raw => RawInstruction.operationText_of_decode, fun w v first second same => ?_⟩
  obtain ⟨raw, cut⟩ := Option.isSome_iff_exists.1 first
  obtain ⟨other, cut'⟩ := Option.isSome_iff_exists.1 second
  rw [RawInstruction.operationText_of_decode cut, RawInstruction.operationText_of_decode cut'] at same
  obtain rfl := RawInstruction.mnemonic_inj same
  refine ⟨cut.trans cut'.symm, fun one other differ code apart here there => ?_⟩
  have stands {w : Word} (cut : RawInstruction.decode w = some raw) : w.StandsFor raw.refine := by
    apply Word.standsFor_of_decode
    rw [← RawInstruction.map_refine_decode, cut]
    rfl
  exact step_sameBut apart code here there (stands cut) (stands cut')

/-- A program that shifts `V0` to the right, by a word with the given low byte. -/
def shiftingBy (low : UInt8) : Console :=
  ⟨{ Machine.new 0 with memory := Memory.zeros.overwrite programStart [0x80, low] }, .idle⟩

/-- The words `8016` and `8026` are listed as the same shift, and do the same. -/
theorem shiftingBy_alike :
    Listing.operationText 0x8016 = "SHR v0" ∧ Listing.operationText 0x8026 = "SHR v0" ∧
      (shiftingBy 0x26).step.1 = (shiftingBy 0x16).step.1 ∧
      (shiftingBy 0x16).step.2.SameBut (· = 0x201) (shiftingBy 0x26).step.2 := by
  have one : Listing.operationText 0x8016 = "SHR v0" := by decide +kernel
  have other : Listing.operationText 0x8026 = "SHR v0" := by decide +kernel
  obtain ⟨-, -, alike⟩ := mnemonics_unambiguous
  obtain ⟨-, act⟩ := alike 0x8016 0x8026 rfl rfl (one.trans other.symm)
  have apart : (shiftingBy 0x16).SameBut (· = 0x201) (shiftingBy 0x26) := by
    refine ⟨fun a elsewhere => ?_, rfl⟩
    have fits : programStart + 2 ≤ memorySize := by decide
    have bytes (low : UInt8) := Memory.zeros.byte_overwrite programStart [0x80, low] a fits
    refine (bytes 0x26).trans (.trans ?_ (bytes 0x16).symm)
    rcases place : a - programStart with _ | _ | past
    · rfl
    · exact absurd (show a = 0x201 by unfold programStart at place; omega) elsewhere
    · rfl
  exact ⟨one, other, act (shiftingBy 0x16) (shiftingBy 0x26) (· = 0x201) (fun _ => .inr) apart
    ⟨by decide, by decide +kernel⟩ ⟨by decide, by decide +kernel⟩⟩

end Console

end ChipEight
