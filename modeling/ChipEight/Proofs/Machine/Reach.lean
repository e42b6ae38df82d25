/-
  Reachable machines.

  What a program does cannot take the program counter or a return address far
  from memory, whatever the program is and however memory changes under it.

  * `Reachable` consoles come from power-up by any deeds that keep out of the
    registers and the call stack;
  * `InRange` is what their machines have in common.  An instruction preserves it
    (`InRange.of_course`), and so do a step (`inRange_step`), a run
    (`inRange_runFrom`) and every other deed (`inRange_perform`);
  * `reachable_in_range`: so the program counter never wraps around.
-/
import ChipEight.Proofs.Machine.Course
import ChipEight.Proofs.Machine.Faults

namespace ChipEight

namespace Machine

/-! ## The range -/

/-- The highest address that a program can jump to: the last one of memory, plus
    what a byte register holds at most. -/
def highestTarget : Nat := memorySize - 1 + 255

/-- The program counter and the return addresses are not far from memory. -/
structure InRange (m : Machine) : Prop where
  pc : m.registers.pc.toNat ≤ highestTarget
  frames : ∀ a ∈ m.stack.bottomUp, 2 ≤ a.toNat ∧ a.toNat ≤ memorySize

variable {m after : Machine} {i : Instruction}

/-- Other parts of the machine do not matter. -/
theorem InRange.congr (range : m.InRange) (pc : after.registers.pc = m.registers.pc)
    (stack : after.stack = m.stack) : after.InRange := by
  constructor
  · rw [pc]
    exact range.pc
  · rw [stack]
    exact range.frames

/-- A machine at the beginning of a program is in range. -/
theorem inRange_of_initial (registers : m.registers = .initial) (stack : m.stack = .empty) :
    m.InRange := by
  constructor
  · rw [registers]
    decide
  · rw [stack]
    rintro a ⟨⟩

/-- The program counter is in range past an instruction that has been found. -/
theorem InRange.advance (range : m.InRange) (found : m.fetchInstruction = .ok i) :
    m.advance.InRange := by
  have inside : m.registers.pc.toNat + 1 < 4096 := (fetchInstruction_spec found).1
  refine ⟨?_, range.frames⟩
  rw [toNat_pc_advance found]
  change _ ≤ 4350
  omega

/-- **An instruction keeps the range.** -/
theorem InRange.of_course (range : m.InRange) (found : m.fetchInstruction = .ok i)
    (course : i.Course m.advance after) : after.InRange := by
  obtain ⟨inside, w, decoded⟩ := fetchInstruction_spec found
  have low : m.registers.pc.toNat + 1 < 4096 := inside
  have next := toNat_pc_advance found
  have target {t : Address} (named : i.target? = some t) : t.toNat < 4096 :=
    Instruction.target_lt_of_decode decoded named
  -- most instructions keep the stack, and only the address they lead to matters
  have leads (stack : after.stack = m.stack) (pc : after.registers.pc.toNat ≤ 4350) :
      after.InRange := ⟨pc, stack ▸ range.frames⟩
  cases i with
  | ret =>
    have frames : m.stack.bottomUp = after.stack.bottomUp ++ [after.registers.pc] :=
      CallStack.bottomUp_pop course
    have top := range.frames after.registers.pc (by simp [frames])
    refine ⟨Nat.le_trans top.2 (by decide), fun a below => range.frames a ?_⟩
    rw [frames]
    exact List.mem_append_left _ below
  | call t =>
    obtain ⟨push, pc⟩ := course
    have near := target rfl
    refine ⟨?_, ?_⟩
    · rw [pc]
      change _ ≤ 4350
      omega
    · rw [CallStack.bottomUp_push push]
      simp only [List.mem_append, List.mem_singleton]
      rintro a (old | rfl)
      · exact range.frames a old
      · change 2 ≤ _ ∧ _ ≤ 4096
        omega
  | jump t =>
    obtain ⟨stack, pc⟩ := course
    have near := target rfl
    exact leads stack (by rw [pc]; omega)
  | jumpOffset t =>
    obtain ⟨stack, pc⟩ := course
    have near := target rfl
    have offset := (m.advance.get offsetRegister).toNat_lt
    refine leads stack ?_
    rw [pc, UInt16.toNat_add, UInt8.toNat_toUInt16]
    omega
  | skip test =>
    obtain ⟨stack, here | beyond⟩ := course
    · exact leads stack (by rw [here]; omega)
    · refine leads stack ?_
      simp only [beyond, UInt16.toNat_add, UInt16.toNat_ofNat]
      omega
  | _ =>
    obtain ⟨stack, pc⟩ := course
    exact leads stack (by rw [pc]; omega)

end Machine

namespace Console

variable {c : Console}

/-! ## Steps and runs -/

/-- **A step keeps the range**, whether it comes to a fault or not. -/
theorem inRange_step (range : c.machine.InRange) : c.step.2.machine.InRange := by
  rcases step : c.step with ⟨result, after⟩
  cases step_spec step with
  | halted | waits | resumes | unfetched => exact range.congr rfl rfl
  | refused status found => exact (range.advance found).congr rfl rfl
  | executes status found execute =>
    exact range.of_course found (Instruction.execute_course execute)

theorem inRange_runFrom (range : c.machine.InRange) (last : Effect) (n : Nat) :
    (runFrom last n c).2.machine.InRange := by
  induction n generalizing c last with
  | zero => exact range
  | succ n ih =>
    have next := inRange_step range
    obtain halted | ⟨fault, after, step⟩ | ⟨effect, after, running, step⟩ := c.step_cases
    · rw [runFrom_of_halted halted]
      exact range
    · rw [step] at next
      rw [runFrom_of_error step]
      exact next
    · rw [step] at next
      rw [runFrom_of_ok running step]
      exact ih next effect

/-! ## Deeds -/

/-- A deed keeps out of the registers and the call stack. -/
def KeepsOut (c : Console) : Deed → Prop
  | .edit registers _ _ stack _ => registers = c.machine.registers ∧ stack = c.machine.stack
  | _ => True

/-- **A deed keeps the range** if it keeps out of the registers and the call
    stack. -/
theorem inRange_perform (range : c.machine.InRange) {deed : Deed} (keepsOut : c.KeepsOut deed) :
    (c.perform deed).machine.InRange := by
  cases deed with
  | turn turn =>
    cases turn with
    | step => exact inRange_step range
    | tick | keys => exact range.congr rfl rfl
  | run n => exact inRange_runFrom range .plain n
  | askBuzzer => exact range.congr rfl rfl
  | edit registers timers memory stack screen =>
    obtain ⟨rfl, rfl⟩ := keepsOut
    exact range.congr rfl rfl
  | loadFont glyphs =>
    obtain ⟨memory, same⟩ := c.perform_loadFont glyphs
    rw [same]
    exact range.congr rfl rfl
  | install program =>
    rcases Nat.lt_or_ge maxProgramSize program.length with large | fits
    · rw [perform, mapMachine, Machine.install_of_tooLarge large]
      exact range
    · rw [perform, mapMachine, Machine.install_of_fits fits]
      exact Machine.inRange_of_initial rfl rfl
  | reset => exact Machine.inRange_of_initial rfl rfl

/-! ## Reachable consoles -/

/-- The console can come from power-up by deeds that keep out of the registers and
    the call stack.  Any keypad may be plugged in at any time. -/
inductive Reachable : Console → Prop
  | start (seed : UInt64) (keypad : Keypad) : Reachable ⟨Machine.new seed, keypad⟩
  | plugIn {c : Console} (reached : Reachable c) (keypad : Keypad) : Reachable { c with keypad }
  | perform {c : Console} (reached : Reachable c) {deed : Deed} (keepsOut : c.KeepsOut deed) :
      Reachable (c.perform deed)

theorem Reachable.inRange (reached : c.Reachable) : c.machine.InRange := by
  induction reached with
  | start => exact Machine.inRange_of_initial rfl rfl
  | plugIn _ _ ih => exact ih
  | perform _ keepsOut ih => exact inRange_perform ih keepsOut

/-- **Everything stays in range.**  However a console comes about, as long as
    nobody writes to the registers or the call stack from outside: the program
    counter is not above `0x10FE`; the return addresses are between 2 and `0x1000`,
    and there are sixteen of them at most; a wait for a key names a register; and
    the program counter does not wrap around, not even when an instruction is
    skipped. -/
theorem reachable_in_range (reached : c.Reachable) :
    c.machine.registers.pc.toNat ≤ 0x10FE ∧
      (∀ a ∈ c.machine.stack.bottomUp, 2 ≤ a.toNat ∧ a.toNat ≤ 0x1000) ∧
      c.machine.stack.bottomUp.length ≤ 16 ∧
      (∀ x, c.machine.status = .waiting x → x.val ≤ 15) ∧
      c.advance.machine.registers.pc.toNat = c.machine.registers.pc.toNat + 2 ∧
      c.advance.advance.machine.registers.pc.toNat = c.machine.registers.pc.toNat + 4 := by
  obtain ⟨pc, frames⟩ := reached.inRange
  have low : c.machine.registers.pc.toNat ≤ 0x10FE := pc
  refine ⟨low, frames, ?_, fun x _ => Nat.le_of_lt_succ x.isLt, ?_, ?_⟩
  · rw [CallStack.length_bottomUp]
    exact c.machine.stack.depth_le
  · change (c.machine.registers.pc + 2).toNat = _
    simp only [UInt16.toNat_add, UInt16.toNat_ofNat]
    omega
  · change (c.machine.registers.pc + 2 + 2).toNat = _
    simp only [UInt16.toNat_add, UInt16.toNat_ofNat]
    omega

/-- A program that calls a routine, which jumps as far as can be. -/
def farJump : Console :=
  ((Console.mk (Machine.new 0) .idle).perform
    (.install [0x60, 0xFF, 0x22, 0x06, 0x00, 0x00, 0xBF, 0xFF])).perform (.run 3)

/-- The program counter of `farJump` is as high as it can be. -/
theorem farJump_in_range :
    farJump.Reachable ∧ farJump.machine.registers.pc.toNat = 0x10FE ∧
      farJump.machine.stack.bottomUp = [0x204] ∧
      farJump.advance.advance.machine.registers.pc.toNat = 0x1102 := by
  have reached : farJump.Reachable := by
    refine .perform (.perform (.start 0 .idle) ?_) ?_
    · exact trivial
    · exact trivial
  have computed : farJump.machine.registers.pc.toNat = 0x10FE ∧
      farJump.machine.stack.bottomUp = [0x204] := by decide +kernel
  obtain ⟨pc, stack⟩ := computed
  obtain ⟨-, -, -, -, -, twice⟩ := reachable_in_range reached
  exact ⟨reached, pc, stack, by rw [twice, pc]⟩

end Console

end ChipEight
