/-
  Where a halt is said to have occurred.

  A machine that halts keeps its program counter, and this is the address in the line
  that a terminal prints and in the dump of the registers.

  * `Machine.fetchInstruction_error`: no instruction is found at the program counter if
    the word there lies outside memory, or stands for none;
  * `Console.registers_after`: the registers of a halted machine stay as they are;
  * `Console.halt_located`: a halt is located where the word is that could not be fetched
    or stands for no instruction, but a halt in the middle of an instruction is located
    at the word after it.
-/
import ChipEight.Machine.Dump
import ChipEight.Proofs.Machine.Course
import ChipEight.Proofs.Machine.Faults
import ChipEight.Proofs.Pace.Episode
import ChipEight.Session.Terminal

namespace ChipEight

/-- There is no instruction to carry out if the word at the program counter lies outside
    memory, or stands for none. -/
theorem Machine.fetchInstruction_error {m : Machine} {fault : Fault}
    (h : m.fetchInstruction = .error fault) :
    (∃ word, fault = .invalidInstruction word m.registers.pc) ∨
      memorySize ≤ m.registers.pc.toNat + 1 := by
  by_cases inside : m.registers.pc.toNat + 1 < memorySize
  · rw [fetchInstruction_of_ok (fetch_of_lt inside)] at h
    split at h
    · cases h
    · cases h
      exact .inl ⟨_, rfl⟩
  · exact .inr (Nat.le_of_not_lt inside)

namespace Console

/-- The address at which a machine is said to have halted: in the line that a terminal
    prints, and in the dump of the registers, however late it is made. -/
structure SaidToHaltAt (c after : Console) (fault : Fault) (address : Address) : Prop where
  line : ∀ e : Episode Terminal, e.console = c →
    e.cycle.panel = e.panel.print (Terminal.haltLine address fault)
  registers : ∀ turns, ∃ rest,
    (after.after turns).machine.registersText = "PC: " ++ hex 4 address.toNat ++ rest

variable {c after : Console} {fault : Fault}

/-- The registers of a halted machine stay as they are. -/
theorem registers_after (halted : c.machine.status = .halted fault) (turns : List Turn) :
    (c.after turns).machine.registers = c.machine.registers := by
  induction turns generalizing c with
  | nil => rfl
  | cons turn later ih =>
    rw [after_cons, ih (take_of_halted halted turn).2]
    cases turn with
    | step => rw [take, step_of_halted (Machine.isHalted_iff.2 ⟨fault, halted⟩)]
    | tick | keys => rfl

/-- **A halt is located** at the program counter that the step leaves. -/
theorem saidToHaltAt_of_step (h : c.step = (.error fault, after)) :
    c.SaidToHaltAt after fault after.machine.registers.pc where
  line e same := by
    subst same
    rw [Episode.cycle_of_error h]
    rfl
  registers turns := by
    have kept := registers_after (step_error h).1 turns
    -- `delta`, since an equation for so long a text is slow to prove
    delta Machine.registersText
    simp only [kept, String.append_assoc]
    exact ⟨_, rfl⟩

/-- **The place of a halt.**  A step that comes to a fault leaves the program counter where
    the machine is said to have halted.  That is the address of the word that the step was
    to carry out if no instruction was found there, since the word lies outside memory or
    stands for none.  A fault in the middle of an instruction, of the call stack or of the
    memory that it reads or writes, is located two bytes further on, at the next word. -/
theorem halt_located (h : c.step = (.error fault, after)) :
    let place := after.machine.registers.pc
    c.SaidToHaltAt after fault place ∧
      (c.upcoming = none → place = c.machine.registers.pc) ∧
      (∀ i, c.upcoming = some i → place.toNat = c.machine.registers.pc.toNat + 2) ∧
      (place = c.machine.registers.pc ↔
        (∃ word, fault = .invalidInstruction word c.machine.registers.pc) ∨
          memorySize ≤ c.machine.registers.pc.toNat + 1) := by
  intro place
  refine ⟨saidToHaltAt_of_step h, ?_⟩
  cases step_spec h with
  | unfetched status found =>
    have none : c.upcoming = none := by simp [upcoming, status, found, Except.toOption]
    rw [none]
    refine ⟨fun _ => rfl, fun _ ready => ?_, iff_of_true rfl (Machine.fetchInstruction_error found)⟩
    cases ready
  | @refused i _ status found execute =>
    have next : place.toNat = c.machine.registers.pc.toNat + 2 := Machine.toNat_pc_advance found
    obtain ⟨inside, -⟩ := Machine.fetchInstruction_spec found
    rw [upcoming_eq_some.2 ⟨status, found⟩]
    refine ⟨fun nothing => ?_, fun _ _ => next, iff_of_false (fun same => ?_) ?_⟩
    · cases nothing
    · rw [same] at next
      omega
    · rintro (⟨word, rfl⟩ | outside)
      · rcases Instruction.execute_fault execute with other | other | ⟨_, other⟩ <;> cases other
      · omega

/-- A program that returns without a call. -/
def returnsAtOnce : Console :=
  ⟨{ Machine.new 0 with memory := Memory.zeros.overwrite programStart [0x00, 0xEE] }, .idle⟩

/-- Its halt is located at the word after the return. -/
theorem returnsAtOnce_located :
    returnsAtOnce.machine.registers.pc = 0x200 ∧
      ∃ after, returnsAtOnce.step = (.error .stackUnderflow, after) ∧
        after.machine.registers.pc = 0x202 ∧
        ∀ e : Episode Terminal, e.console = returnsAtOnce → e.cycle.panel =
          e.panel.print "ERROR [chip8::vm] halting VM at 0x0202: call stack underflow\n" := by
  have found : returnsAtOnce.upcoming = some .ret := by decide +kernel
  have step : returnsAtOnce.step =
      (.error .stackUnderflow, returnsAtOnce.advance.halt .stackUnderflow) := by
    rw [step_of_upcoming found]
    rfl
  obtain ⟨said, -, past, -⟩ := halt_located step
  have place := UInt16.toNat_inj.1 ((past _ found).trans (rfl : _ = UInt16.toNat 0x202))
  refine ⟨rfl, _, step, place, fun e same => ?_⟩
  have line : Terminal.haltLine 0x202 .stackUnderflow =
      "ERROR [chip8::vm] halting VM at 0x0202: call stack underflow\n" := by decide +kernel
  rw [← line, ← place]
  exact said.line e same

end Console

end ChipEight
