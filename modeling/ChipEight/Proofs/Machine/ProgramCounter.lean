/-
  Where a step leaves the program counter.

  The program counter is past an instruction before the instruction is carried out, which
  may set it or move it on once more.

  * `Word.Jumps` and `Word.Skips`: the words that set the program counter, and those
    that skip the next word, format by format with their conditions;
  * `StandsFor.jumped_iff`, `StandsFor.skips_iff` tell the same of the instructions that
    words stand for;
  * `Console.Proceeds` is the law of the program counter, and `step_proceeds` the theorem.
-/
import ChipEight.Proofs.Machine.Course

namespace ChipEight

/-- A byte names a key that is down. -/
def Keypad.NamesDown (p : Keypad) (byte : UInt8) : Prop :=
  ∃ k : Key, k.val = byte.toNat ∧ p.isDown k = true

theorem Keypad.namesDown_iff {p : Keypad} {byte : UInt8} :
    p.namesDown byte = true ↔ p.NamesDown byte := by
  unfold namesDown Key.ofNat? NamesDown
  by_cases small : byte.toNat < 16
  · rw [dif_pos small]
    constructor
    · intro down
      exact ⟨⟨byte.toNat, small⟩, rfl, down⟩
    · rintro ⟨k, same, down⟩
      obtain rfl : k = ⟨byte.toNat, small⟩ := Fin.ext same
      exact down
  · rw [dif_neg small]
    constructor
    · rintro ⟨⟩
    · rintro ⟨k, same, -⟩
      exact absurd k.isLt (same ▸ small)

namespace Word

/-! ## Words that jump and words that skip -/

/-- The word sets the program counter. -/
def Jumps (w : Word) : Prop :=
  w.group.val = 0x1 ∨ w.group.val = 0x2 ∨ w = 0x00EE ∨ w.group.val = 0xB

/-- The word is a skip whose condition holds. -/
inductive Skips (w : Word) (c : Console) : Prop
  | isByte (group : w.group.val = 0x3) (same : c.machine.get w.x = w.byte)
  | isNotByte (group : w.group.val = 0x4) (differ : c.machine.get w.x ≠ w.byte)
  | same (group : w.group.val = 0x5) (digit : w.nibble.val = 0x0)
      (same : c.machine.get w.x = c.machine.get w.y)
  | differ (group : w.group.val = 0x9) (digit : w.nibble.val = 0x0)
      (differ : c.machine.get w.x ≠ c.machine.get w.y)
  | keyDown (group : w.group.val = 0xE) (low : w.byte = 0x9E)
      (down : c.keypad.NamesDown (c.machine.get w.x))
  | keyUp (group : w.group.val = 0xE) (low : w.byte = 0xA1)
      (up : ¬ c.keypad.NamesDown (c.machine.get w.x))

variable {w : Word} {i : Instruction}

theorem StandsFor.jumped_iff (h : w.StandsFor i) : i.effect = .jumped ↔ w.Jumps := by
  constructor
  · intro jumped
    cases h with
    | jump group => exact .inl group
    | call group => exact .inr (.inl group)
    | ret word => exact .inr (.inr (.inl word))
    | jumpOffset group => exact .inr (.inr (.inr group))
    | _ => cases jumped
  · rintro (group | group | word | group)
    · rw [h.unique (.jump group)]; rfl
    · rw [h.unique (.call group)]; rfl
    · rw [h.unique (.ret word)]; rfl
    · rw [h.unique (.jumpOffset group)]; rfl

theorem StandsFor.skips_iff (h : w.StandsFor i) {c : Console} :
    w.Skips c ↔ ∃ test, i = .skip test ∧ test.holds c.machine c.keypad = true := by
  constructor
  · rintro (⟨group, same⟩ | ⟨group, differ⟩ | ⟨group, digit, same⟩ | ⟨group, digit, differ⟩ |
      ⟨group, low, down⟩ | ⟨group, low, up⟩)
    · exact ⟨_, h.unique (.skipByte group), beq_iff_eq.2 same⟩
    · exact ⟨_, h.unique (.skipNotByte group), bne_iff_ne.2 differ⟩
    · exact ⟨_, h.unique (.skipSame group digit), beq_iff_eq.2 same⟩
    · exact ⟨_, h.unique (.skipDiffer group digit), bne_iff_ne.2 differ⟩
    · exact ⟨_, h.unique (.skipKeyDown group low), Keypad.namesDown_iff.2 down⟩
    · refine ⟨_, h.unique (.skipKeyUp group low), ?_⟩
      simpa [Test.holds, ← Bool.not_eq_true, Keypad.namesDown_iff] using up
  · rintro ⟨test, rfl, holds⟩
    cases h with
    | skipByte group => exact .isByte group (beq_iff_eq.1 holds)
    | skipNotByte group => exact .isNotByte group (bne_iff_ne.1 holds)
    | skipSame group digit => exact .same group digit (beq_iff_eq.1 holds)
    | skipDiffer group digit => exact .differ group digit (bne_iff_ne.1 holds)
    | skipKeyDown group low => exact .keyDown group low (Keypad.namesDown_iff.1 holds)
    | skipKeyUp group low =>
      refine .keyUp group low ?_
      simpa [Test.holds, ← Bool.not_eq_true, Keypad.namesDown_iff] using holds

end Word

/-! ## Instructions -/

namespace Instruction

variable {i : Instruction}

theorem holds_advance (test : Test) (c : Console) :
    test.holds c.advance.machine c.advance.keypad = test.holds c.machine c.keypad := by
  cases test <;> rfl

/-- An instruction that neither jumps nor skips leaves the program counter alone. -/
theorem Course.pc_eq {m after : Machine} (h : i.Course m after) (stays : i.effect ≠ .jumped)
    (plain : ∀ test, i ≠ .skip test) : after.registers.pc = m.registers.pc := by
  cases i with
  | ret | call | jump | jumpOffset => exact absurd rfl stays
  | skip test => exact absurd rfl (plain test)
  | _ => exact h.2

end Instruction

/-! ## Steps -/

namespace Console

/-- The law of the program counter for a step that carries out a word. -/
structure Proceeds (w : Word) (effect : Effect) (c after : Console) : Prop where
  jump : w.group.val = 0x1 ∨ w.group.val = 0x2 → after.machine.registers.pc = w.address
  ret : w = 0x00EE →
    c.machine.stack.pop = .ok (after.machine.registers.pc, after.machine.stack)
  offset : w.group.val = 0xB →
    after.machine.registers.pc.toNat =
      w.address.toNat + (c.machine.get offsetRegister).toNat
  skip : w.Skips c → after.machine.registers.pc = c.machine.registers.pc + 4
  next : ¬ w.Jumps → ¬ w.Skips c → after.machine.registers.pc = c.machine.registers.pc + 2
  jumped : effect = .jumped ↔ w.Jumps

/-- **The program counter** after a step of a running machine that comes to no fault is
    what the word at it says: the target of a jump or call, the return address, the target
    and `V0`, or else the next word or the one after it.  Only the words that set it are
    said to have jumped. -/
theorem step_proceeds {c after : Console} {effect : Effect}
    (running : c.machine.status = .running) (h : c.step = (.ok effect, after)) :
    ∃ w, c.machine.fetch = .ok w ∧ c.Proceeds w effect after := by
  cases step_spec h with
  | halted status | waits status | resumes status => rw [status] at running; cases running
  | @executes i _ _ _ found execute =>
    obtain ⟨w, fetch, decode⟩ := Machine.fetch_of_fetchInstruction found
    have stands : w.StandsFor i := Word.standsFor_of_decode decode
    obtain rfl : effect = i.effect := Instruction.execute_effect execute
    have course : i.Course c.advance.machine after.machine := Instruction.execute_course execute
    have further : c.machine.registers.pc + 2 + 2 = c.machine.registers.pc + 4 :=
      UInt16.add_assoc _ _ _
    refine ⟨w, fetch, ?_⟩
    exact
      { jumped := stands.jumped_iff
        jump := by
          rintro (group | group)
          · obtain rfl := stands.unique (.jump group)
            exact course.2
          · obtain rfl := stands.unique (.call group)
            exact course.2
        ret := by
          intro word
          obtain rfl := stands.unique (.ret word)
          exact course
        offset := by
          intro group
          obtain rfl := stands.unique (.jumpOffset group)
          have bound := w.address_lt
          have small := (c.machine.get offsetRegister).toNat_lt
          have sum : after.machine.registers.pc =
              w.address + (c.machine.get offsetRegister).toUInt16 := course.2
          rw [sum, UInt16.toNat_add, UInt8.toNat_toUInt16]
          omega
        skip := by
          intro skips
          obtain ⟨test, rfl, holds⟩ := stands.skips_iff.1 skips
          rw [Instruction.execute_skip, Instruction.holds_advance, if_pos holds] at execute
          cases execute
          exact further
        next := by
          intro stays fails
          have noJump : i.effect ≠ .jumped := fun jumped => stays (stands.jumped_iff.1 jumped)
          by_cases skips : ∃ test, i = .skip test
          · obtain ⟨test, rfl⟩ := skips
            have unmet : ¬ test.holds c.machine c.keypad = true := fun holds =>
              fails (stands.skips_iff.2 ⟨test, rfl, holds⟩)
            rw [Instruction.execute_skip, Instruction.holds_advance, if_neg unmet] at execute
            cases execute
            rfl
          · exact course.pc_eq noJump fun test same => skips ⟨test, same⟩ }

/-- A program that skips unless the key that `V0` names is down, and there is no such
    key. -/
def asksForNoKey : Console :=
  ⟨{ Machine.new 0 with
      registers := Registers.initial.set (lastDigit 0) 0x20
      memory := Memory.zeros.overwrite programStart [0xE0, 0xA1] }, .idle⟩

/-- It skips, without a jump. -/
theorem asksForNoKey_skips :
    asksForNoKey.machine.status = .running ∧ ∃ after, asksForNoKey.step = (.ok .plain, after) ∧
      (∃ w, asksForNoKey.machine.fetch = .ok w ∧ asksForNoKey.Proceeds w .plain after) ∧
        after.machine.registers.pc = 0x204 := by
  have found : asksForNoKey.upcoming = some (.skip (.keyUp 0)) := by decide +kernel
  have step := step_of_upcoming found
  rw [Instruction.execute_skip] at step
  obtain ⟨w, fetch, proceeds⟩ := step_proceeds rfl step
  refine ⟨rfl, _, step, ⟨w, fetch, proceeds⟩, proceeds.skip ?_⟩
  obtain ⟨-, find⟩ := upcoming_eq_some.1 found
  obtain ⟨_, same, decode⟩ := Machine.fetch_of_fetchInstruction find
  obtain rfl := Except.ok.inj (fetch.symm.trans same)
  exact (Word.standsFor_of_decode decode).skips_iff.2 ⟨_, rfl, by decide +kernel⟩

end Console

end ChipEight
