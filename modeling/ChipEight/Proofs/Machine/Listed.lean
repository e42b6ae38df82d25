/-
  Programs run as they are listed.

  A listing cuts the bytes of a program into words, and the machine reads words from
  its memory.  As long as no instruction has stored anything, they find the same.

  * `Listing.operationText_eq_data`: a word is listed as data exactly if it stands for
    no instruction, since no mnemonic looks like data;
  * `Instruction.StoresBytes`: the instructions that write to memory.  Turns without
    them leave memory as it is (`Console.byte_after`);
  * `Console.step_eq_invalid_iff`: a step reports a word that is no instruction exactly
    if it has fetched one, and then it reports the word and its address;
  * `execution_as_listed` puts these together for a program that was just installed.
-/
import ChipEight.Proofs.Instruction.Listing
import ChipEight.Proofs.Machine.Footprint
import ChipEight.Proofs.Machine.Loading

namespace ChipEight

/-! ## Listed words -/

/-- No mnemonic looks like data. -/
theorem Instruction.mnemonic_ne_data (i : Instruction) (rest : String) :
    i.mnemonic ≠ "DW 0x" ++ rest := by
  intro same
  have chars := congrArg String.toList same
  cases i with
  | skip test => cases test <;> simp [mnemonic, Test.mnemonic, twoOperands] at chars
  | combine operation x y => cases operation <;> simp [mnemonic, Operation.verb, twoOperands] at chars
  | _ => simp [mnemonic, twoOperands] at chars

namespace Listing

/-- A listed word has a line of its own. -/
theorem mem_linesFrom_of_mem_words {origin address : Address} {program : List UInt8} {w : Word}
    (labels : List Address) (h : (address, w) ∈ words origin program) :
    .word address w ∈ linesFrom labels origin program := by
  fun_induction words origin program with
  | case1 origin high low rest ih =>
    have listed : Line.word address w ∈
        .word origin (Word.ofBytes high low) :: linesFrom labels (origin + 2) rest := by
      rcases List.mem_cons.1 h with first | later
      · obtain ⟨rfl, rfl⟩ := Prod.mk.inj first
        exact List.mem_cons_self
      · exact List.mem_cons_of_mem _ (ih later)
    rw [linesFrom]
    split
    · exact List.mem_cons_of_mem _ listed
    · exact listed
  | case2 => simp at h

/-- **A word is listed as data** exactly if it stands for no instruction. -/
theorem operationText_eq_data {w : Word} :
    operationText w = "DW 0x" ++ w.text ↔ Instruction.decode w = none := by
  unfold operationText
  split
  · next i known => simp [known, i.mnemonic_ne_data]
  · next unknown => simp [unknown]

end Listing

/-! ## Stores -/

namespace Instruction

/-- The instruction writes to memory. -/
def StoresBytes : Instruction → Prop
  | .storeDecimal _ | .storeRegisters _ => True
  | _ => False

/-- An instruction that is not one of them stores nothing. -/
theorem not_stores {i : Instruction} (h : ¬ i.StoresBytes) (m : Machine) (a : Nat) :
    ¬ i.Stores m a := by
  cases i with
  | storeDecimal | storeRegisters => exact absurd trivial h
  | _ => exact id

end Instruction

namespace Console

/-- A step leaves memory as it is, unless it carries out an instruction that stores. -/
theorem byte_step {c : Console} (h : ∀ i, c.upcoming = some i → ¬ i.StoresBytes) (a : Nat) :
    c.step.2.machine.memory.byte a = c.machine.memory.byte a := by
  rcases step : c.step with ⟨result, after⟩
  cases step_spec step with
  | @executes i _ _ status fetch execute =>
    have quiet := h i (upcoming_eq_some.2 ⟨status, fetch⟩)
    rcases (Instruction.execute_keeps execute).memory a with kept | stores
    · exact kept
    · exact absurd stores (Instruction.not_stores quiet _ a)
  | _ => rfl

/-- **Turns without stores** leave memory as it is. -/
theorem byte_after {c : Console} {turns : List Turn} (h : c.Avoids Instruction.StoresBytes turns)
    (a : Nat) : (c.after turns).machine.memory.byte a = c.machine.memory.byte a := by
  induction turns generalizing c with
  | nil => rfl
  | cons turn later ih =>
    obtain ⟨quiet, rest⟩ := h
    rw [after_cons, ih rest]
    cases turn with
    | step => exact byte_step (quiet rfl) a
    | tick | keys => rfl

/-! ## Words that are no instructions -/

/-- A step reports a word that is no instruction exactly if it has fetched one. -/
theorem step_eq_invalid_iff {c : Console} {w : Word} (running : c.machine.status = .running)
    (fetch : c.machine.fetch = .ok w) (word : Word) (address : Address) :
    c.step.1 = .error (.invalidInstruction word address) ↔
      Instruction.decode w = none ∧ word = w ∧ address = c.machine.registers.pc := by
  have found := Machine.fetchInstruction_of_ok fetch
  cases known : Instruction.decode w with
  | none =>
    rw [known] at found
    rw [(StepsTo.unfetched running found).step_eq]
    simp [eq_comm]
  | some i =>
    rw [known] at found
    constructor
    · intro invalid
      -- an instruction that was found comes to other faults only
      rw [step_of_upcoming (upcoming_eq_some.2 ⟨running, found⟩)] at invalid
      rcases execute : i.execute.on c.advance with ⟨fault | effect, after⟩
      · rw [execute] at invalid
        obtain rfl : fault = .invalidInstruction word address := Except.error.inj invalid
        rcases Instruction.execute_fault execute with other | other | ⟨_, other⟩ <;> cases other
      · rw [execute] at invalid
        cases invalid
    · rintro ⟨none, -⟩
      cases none

end Console

/-! ## Fetching what is listed -/

/-- **A listed word is fetched** where it is listed, from a memory that still holds the
    program. -/
theorem Machine.fetch_of_mem_words {program : List UInt8} (fits : program.length ≤ maxProgramSize)
    {m : Machine} (holds : ∀ a, m.memory.byte a = (programMemory program).byte a) {w : Word}
    (listed : (m.registers.pc, w) ∈ Listing.words (UInt16.ofNat programStart) program) :
    m.fetch = .ok w := by
  obtain ⟨n, high, low, place, first, second, rfl⟩ := Listing.mem_words_iff.1 listed
  obtain ⟨inside, -⟩ := List.getElem?_eq_some_iff.1 second
  have room := programStart_add_le fits
  have pc : m.registers.pc.toNat = programStart + 2 * n := by
    rw [place]
    simp only [UInt16.toNat_add, UInt16.toNat_ofNat']
    simp only [programStart, memorySize] at room ⊢
    omega
  have held (k : Nat) {byte : UInt8} (there : program[k]? = some byte) :
      m.memory.byte (programStart + k) = byte := by
    have above : ¬ programStart + k < fontSize := by simp only [programStart, fontSize]; omega
    rw [holds, byte_programMemory fits, if_neg above, if_pos (Nat.le_add_right _ _),
      Nat.add_sub_cancel_left, there]
    rfl
  have within : m.registers.pc.toNat + 1 < memorySize := by omega
  rw [fetch_of_lt within, pc, Nat.add_assoc, held (2 * n) first, held (2 * n + 1) second]

open Listing in
/-- **Programs run as they are listed.**  A program that fits is installed in any
    machine.  Whatever is done then, as long as no step carries out an instruction that
    stores, a running machine whose program counter is the address of a listed word
    fetches that word; its step reports an invalid instruction exactly if the word is
    listed as data, and then the report names the word and its address.  A word that is
    listed as an instruction is never reported. -/
theorem Machine.execution_as_listed {program : List UInt8}
    (fits : program.length ≤ maxProgramSize) (m : Machine) (keypad : Keypad) (turns : List Turn) :
    ∃ machine, (install program).on m = (.ok (), machine) ∧
      let start := Console.mk machine keypad
      let c := start.after turns
      let pc := c.machine.registers.pc
      start.Avoids Instruction.StoresBytes turns → c.machine.status = .running →
        ∀ w, (pc, w) ∈ words (UInt16.ofNat programStart) program →
          .word pc w ∈ lines (UInt16.ofNat programStart) program ∧
            c.machine.fetch = .ok w ∧
            (∀ word address, c.step.1 = .error (.invalidInstruction word address) ↔
              operationText w = "DW 0x" ++ w.text ∧ word = w ∧ address = pc) ∧
            ∀ i : Instruction, operationText w = i.mnemonic →
              ∀ word address, c.step.1 ≠ .error (.invalidInstruction word address) := by
  refine ⟨loaded program m.random, install_of_fits fits m, ?_⟩
  intro start c pc quiet running w listed
  have holds (a : Nat) : c.machine.memory.byte a = (programMemory program).byte a :=
    Console.byte_after quiet a
  have fetch : c.machine.fetch = .ok w := fetch_of_mem_words fits holds listed
  have invalid (word : Word) (address : Address) :
      c.step.1 = .error (.invalidInstruction word address) ↔
        operationText w = "DW 0x" ++ w.text ∧ word = w ∧ address = pc := by
    rw [Console.step_eq_invalid_iff running fetch, operationText_eq_data]
  refine ⟨mem_linesFrom_of_mem_words _ listed, fetch, invalid, ?_⟩
  intro i rendered word address reported
  obtain ⟨data, -⟩ := (invalid word address).1 reported
  exact i.mnemonic_ne_data w.text (rendered.symm.trans data)

/-- A program that jumps over an instruction to a word that stands for none. -/
def straying : List UInt8 := [0x12, 0x04, 0x00, 0xE0, 0x5A, 0xAA]

/-- The word is listed as data, and it is reported as it is listed. -/
theorem Machine.straying_as_listed :
    straying.length ≤ maxProgramSize ∧
      ∃ machine, (install straying).on (.new 0) = (.ok (), machine) ∧
        let start := Console.mk machine .idle
        let c := start.after [.step]
        start.Avoids Instruction.StoresBytes [.step] ∧ c.machine.status = .running ∧
          (c.machine.registers.pc, 0x5AAA) ∈
            Listing.words (UInt16.ofNat programStart) straying ∧
          Listing.operationText 0x5AAA = "DW 0x" ++ Word.text 0x5AAA ∧
          c.step.1 = .error (.invalidInstruction 0x5AAA 0x204) := by
  have fits : straying.length ≤ maxProgramSize := by decide
  obtain ⟨machine, installed, agrees⟩ := execution_as_listed fits (.new 0) .idle [.step]
  obtain rfl : loaded straying (Machine.new 0).random = machine := by
    rw [install_of_fits fits] at installed
    cases installed
    rfl
  have computed :
      let start := Console.mk (loaded straying (Machine.new 0).random) .idle
      let c := start.after [.step]
      start.upcoming = some (.jump 0x204) ∧ c.machine.status = .running ∧
        c.machine.registers.pc = 0x204 ∧
        (0x204, 0x5AAA) ∈ Listing.words (UInt16.ofNat programStart) straying ∧
        Listing.operationText 0x5AAA = "DW 0x" ++ Word.text 0x5AAA := by
    decide +kernel
  obtain ⟨jump, running, pc, listed, data⟩ := computed
  have quiet : (Console.mk (loaded straying (Machine.new 0).random) .idle).Avoids
      Instruction.StoresBytes [.step] := by
    refine ⟨fun _ i found => ?_, trivial⟩
    rw [jump] at found
    cases found
    exact id
  rw [← pc] at listed
  obtain ⟨-, -, invalid, -⟩ := agrees quiet running 0x5AAA listed
  refine ⟨fits, _, installed, quiet, running, listed, data, ?_⟩
  exact (invalid 0x5AAA 0x204).2 ⟨data, rfl, pc.symm⟩

end ChipEight
