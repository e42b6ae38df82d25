/-
  New programs.

  * `Machine.loaded` is a machine with a new program: `install` leads there from
    any machine (`install_of_fits`), unless the program is too large, and then
    it does nothing (`install_of_tooLarge`);
  * `byte_programMemory`: memory holds the glyphs, the program, and zeros;
  * `install_forgets`: nothing is left of what the machine did before but the
    random stream, and no turns tell that apart unless they draw from it.
-/
import ChipEight.Proofs.Machine.Turns

namespace ChipEight

namespace Machine

/-! ## The machine with a new program -/

/-- Memory with a new program. -/
def programMemory (program : List UInt8) : Memory :=
  (Memory.zeros.overwrite fontStart builtinFont).overwrite programStart program

/-- The machine with a new program, at its beginning. -/
def loaded (program : List UInt8) (random : Keystream) : Machine where
  registers := .initial
  timers := .initial
  memory := programMemory program
  stack := .empty
  screen := .dark
  status := .running
  random := random

theorem length_builtinFont : builtinFont.length = fontSize := rfl

theorem programStart_add_le {program : List UInt8} (fits : program.length ≤ maxProgramSize) :
    programStart + program.length ≤ memorySize := by
  have room : programStart + maxProgramSize = memorySize := rfl
  omega

/-- **Memory holds the glyphs, the program, and zeros.** -/
theorem byte_programMemory {program : List UInt8} (fits : program.length ≤ maxProgramSize)
    (address : Nat) :
    (programMemory program).byte address =
      if address < fontSize then builtinFont[address]?.getD 0
      else if programStart ≤ address then program[address - programStart]?.getD 0
      else 0 := by
  have glyphs : (Memory.zeros.overwrite fontStart builtinFont).byte address =
      builtinFont[address]?.getD 0 := by
    rw [Memory.byte_overwrite _ _ _ _ (by decide), Memory.byte_zeros]
    exact if_pos (Nat.zero_le address)
  rw [programMemory, Memory.byte_overwrite _ _ _ _ (programStart_add_le fits), glyphs]
  have above : fontSize < programStart := by decide
  have past : ¬ address < fontSize → builtinFont[address]? = none := fun h =>
    List.getElem?_eq_none (by rw [length_builtinFont]; omega)
  by_cases inFont : address < fontSize
  · rw [if_pos inFont, if_neg (by omega)]
  · rw [if_neg inFont, past inFont]
    rfl

/-! ## Installing a program -/

/-- Replacing the glyphs changes nothing but memory. -/
theorem loadFont_spec {m after : Machine} {glyphs : List UInt8}
    (h : m.loadFont glyphs = .ok after) : ∃ memory, after = { m with memory } := by
  unfold loadFont at h
  split at h
  · cases load : m.memory.load fontStart glyphs with
    | error fault => rw [load] at h; cases h
    | ok memory => rw [load] at h; cases h; exact ⟨memory, rfl⟩
  · cases h

/-- A program that fits is installed in any machine. -/
theorem install_of_fits {program : List UInt8} (fits : program.length ≤ maxProgramSize)
    (m : Machine) : (install program).on m = (.ok (), loaded program m.random) := by
  have font : m.erase.loadFont builtinFont =
      .ok { m.erase with memory := Memory.zeros.overwrite fontStart builtinFont } := rfl
  have room : ∀ memory : Memory, memory.load programStart program =
      .ok (memory.overwrite programStart program) :=
    fun memory => if_pos (programStart_add_le fits)
  rw [install, if_neg (Nat.not_lt.2 fits)]
  rw [InPlace.modify_bind, InPlace.get_bind]
  refine InPlace.lift_bind_eq_ok.2 ⟨_, font, ?_⟩
  rw [InPlace.set_bind, InPlace.get_bind]
  refine InPlace.lift_bind_eq_ok.2 ⟨_, room _, ?_⟩
  rfl

/-- A program that does not fit is refused, and the machine goes on as it was. -/
theorem install_of_tooLarge {program : List UInt8} (large : maxProgramSize < program.length)
    (m : Machine) : (install program).on m = (.error (.programTooLarge program.length), m) := by
  rw [install, if_pos large]
  rfl

/-- What fits is loaded, and nothing else is. -/
theorem load_eq_ok_iff {m after : Machine} {program : List UInt8} :
    m.load program = .ok after ↔
      program.length ≤ maxProgramSize ∧ after = loaded program m.random := by
  by_cases fits : program.length ≤ maxProgramSize
  · simp [load, install_of_fits fits, fits, eq_comm]
  · simp [load, install_of_tooLarge (Nat.lt_of_not_le fits), fits]

/-- A new program finds both timers at zero. -/
theorem timers_install {m machine : Machine} {program : List UInt8}
    (h : (install program).on m = (.ok (), machine)) : machine.timers = .initial := by
  by_cases fits : program.length ≤ maxProgramSize
  · rw [install_of_fits fits] at h
    cases h
    rfl
  · rw [install_of_tooLarge (Nat.lt_of_not_le fits)] at h
    cases h

/-- **No trace of what was before.**  A program that fits leads from any two
    machines to two that differ in nothing but their random streams; and on equal
    keypads, turns that draw no random byte are answered alike on both and leave
    both alike.  A program that does not fit is refused, and changes nothing. -/
theorem install_forgets (m n : Machine) (program : List UInt8) :
    (program.length ≤ maxProgramSize →
      ∃ m' n', (install program).on m = (.ok (), m') ∧ (install program).on n = (.ok (), n') ∧
        m'.random = m.random ∧ n' = { m' with random := n.random } ∧
        (∀ address, m'.memory.byte address =
          if address < fontSize then builtinFont[address]?.getD 0
          else if programStart ≤ address then program[address - programStart]?.getD 0
          else 0) ∧
        ∀ (keypad : Keypad) (turns : List Turn),
          (Console.mk m' keypad).Avoids Instruction.DrawsRandom turns →
            (Console.mk n' keypad).trace turns =
              ((Console.mk m' keypad).trace turns).map fun (answer, after) =>
                (answer, after.withRandom n.random)) ∧
      (maxProgramSize < program.length →
        (install program).on m = (.error (.programTooLarge program.length), m)) := by
  refine ⟨fun fits => ?_, fun large => install_of_tooLarge large m⟩
  refine ⟨loaded program m.random, loaded program n.random, install_of_fits fits m,
    install_of_fits fits n, rfl, rfl, byte_programMemory fits, fun keypad turns avoids => ?_⟩
  exact Console.trace_withRandom avoids n.random

end Machine

end ChipEight
