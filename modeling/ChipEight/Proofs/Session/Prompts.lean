/-
  What prompts tell.

  The prompt of a running machine shows the address at which it reads, and then the word
  that it reads there with its mnemonic, or why there is none.

  * `hex_append_inj`: sixteen-bit numbers are written in four digits, so a text that
    begins with one is read in one way only;
  * `Machine.shown_of_prompt`: what stands behind the address in a prompt is what the
    machine reads there;
  * `Console.StepsAsShown` says that the step of a console is the one that a line
    announces, and `Console.stepsAsShown_of_prompt` that prompts do so.
-/
import ChipEight.Proofs.Machine.Step
import ChipEight.Proofs.Text.Hexadecimal
import ChipEight.Session.Stepping

namespace ChipEight

/-! ## Columns -/

theorem hex_append_inj {a b : UInt16} {s t : String}
    (h : hex 4 a.toNat ++ s = hex 4 b.toNat ++ t) : a = b ∧ s = t := by
  have four (n : UInt16) : (hex 4 n.toNat).toList.length = 4 := by
    rw [toList_hex_of_lt n.toNat_lt, length_lastDigits]
  have lists := congrArg String.toList h
  rw [String.toList_append, String.toList_append] at lists
  obtain ⟨digits, rest⟩ := List.append_inj lists ((four a).trans (four b).symm)
  have numbers := congrArg hexNumber? digits
  rw [hexNumber?_hex, hexNumber?_hex] at numbers
  exact ⟨UInt16.toNat_inj.1 (Option.some.inj numbers), String.toList_inj.1 rest⟩

/-- A prompt with an address and something behind it is read in one way only. -/
theorem Prompt.nextAt_append_inj {a b : Address} {s t : String}
    (h : text.nextAt a ++ s = text.nextAt b ++ t) : a = b ∧ s = t := by
  simp only [text.nextAt, String.append_assoc, String.append_right_inj] at h
  obtain ⟨same, rest⟩ := hex_append_inj h
  exact ⟨same, (String.append_right_inj _).1 rest⟩

theorem Word.text_append_inj {w v : Word} {s t : String}
    (h : w.text ++ "  " ++ s = v.text ++ "  " ++ t) : w = v ∧ s = t := by
  simp only [text, String.append_assoc] at h
  obtain ⟨same, rest⟩ := hex_append_inj h
  exact ⟨same, (String.append_right_inj _).1 rest⟩

/-- A mnemonic begins with its verb. -/
theorem Instruction.mnemonic_ne_invalid (i : Instruction) : i.mnemonic ≠ "(invalid)" := by
  intro same
  have first := congrArg (fun s : String => s.toList.head?) same
  cases i with
  | skip test => cases test <;> simp [mnemonic, Test.mnemonic, twoOperands] at first
  | combine operation => cases operation <;> simp [mnemonic, Operation.verb, twoOperands] at first
  | _ => simp [mnemonic, twoOperands] at first

/-- The report of an address outside memory does not begin with a word. -/
theorem outOfBounds_message_ne (n : Nat) (w : Word) (rest : String) :
    (Fault.outOfBounds n).message ≠ w.text ++ rest := by
  intro same
  have four : w.text.toList = lastDigits 4 w.toNat := toList_hex_of_lt w.toNat_lt
  have report : (Fault.outOfBounds n).message = "memory access out of bounds: 0x" ++ hex 4 n := rfl
  have letter : (w.text ++ rest).toList.head? = some 'm' := by
    rw [← same, report, String.toList_append]
    simp
  rw [String.toList_append, four] at letter
  cases digits : lastDigits 4 w.toNat with
  | nil =>
    have none := length_lastDigits 4 w.toNat
    rw [digits] at none
    cases none
  | cons c others =>
    have inside : c ∈ lastDigits 4 w.toNat := by
      rw [digits]
      exact List.mem_cons_self ..
    obtain ⟨d, digit⟩ := exists_of_mem_lastDigits inside
    rw [digits, List.cons_append, List.head?_cons, digit] at letter
    clear digit
    revert d
    decide

/-! ## Prompts -/

namespace Machine

variable {m : Machine}

/-- **What a prompt shows behind an address** is what the machine reads there. -/
theorem shown_of_prompt {a : Address} {report : String}
    (h : m.prompt.text = Prompt.text.nextAt a ++ report) :
    m.status = .running ∧ m.registers.pc = a ∧
      ((∃ fault, m.fetch = .error fault ∧ report = fault.message) ∨
        ∃ w, m.fetch = .ok w ∧ report = w.text ++ "  " ++
          ((Instruction.decode w).map Instruction.mnemonic).getD "(invalid)") := by
  have first := congrArg (fun s : String => s.toList.head?) h
  unfold prompt at h first
  cases status : m.status with
  | halted fault =>
    simp [status, Prompt.text, Prompt.text.nextAt] at first
  | waiting x =>
    simp [status, Prompt.text, Prompt.text.nextAt] at first
  | running =>
    simp only [status] at h
    refine ⟨rfl, ?_⟩
    cases fetch : m.fetch with
    | error fault =>
      simp only [fetch, Prompt.text] at h
      obtain ⟨same, shown⟩ := Prompt.nextAt_append_inj h
      exact ⟨same, .inl ⟨fault, rfl, shown.symm⟩⟩
    | ok w =>
      cases decode : Instruction.decode w with
      | some | none =>
        simp only [fetch, decode, Prompt.text, String.append_assoc] at h
        obtain ⟨same, shown⟩ := Prompt.nextAt_append_inj h
        refine ⟨same, .inr ⟨w, rfl, ?_⟩⟩
        simp [decode, ← shown, String.append_assoc]

/-- A word that is shown is the one that the machine reads. -/
theorem word_of_prompt {a : Address} {w : Word} {rest : String}
    (h : m.prompt.text = Prompt.text.nextAt a ++ (w.text ++ "  " ++ rest)) :
    m.status = .running ∧ m.registers.pc = a ∧ m.fetch = .ok w ∧
      rest = ((Instruction.decode w).map Instruction.mnemonic).getD "(invalid)" := by
  obtain ⟨status, pc, ⟨fault, fetch, shown⟩ | ⟨v, fetch, shown⟩⟩ := shown_of_prompt h
  · obtain ⟨address, rfl⟩ := fetch_error fetch
    rw [String.append_assoc] at shown
    exact absurd shown.symm (outOfBounds_message_ne address w _)
  · obtain ⟨rfl, rest⟩ := Word.text_append_inj shown
    exact ⟨status, pc, fetch, rest⟩

end Machine

namespace Console

/-- The step of a console is the one that a line announces. -/
structure StepsAsShown (c : Console) (line : String) : Prop where
  /-- An address is shown as long as the machine is running. -/
  running : c.machine.status = .running →
    ∃ report, line = Prompt.text.nextAt c.machine.registers.pc ++ report
  address : ∀ a report, line = Prompt.text.nextAt a ++ report →
    c.machine.status = .running ∧ c.machine.registers.pc = a
  /-- A word with a mnemonic is executed. -/
  operation : ∀ a w rest, line = Prompt.text.nextAt a ++ w.text ++ "  " ++ rest →
    rest ≠ "(invalid)" →
      ∃ i, c.machine.registers.pc = a ∧ c.machine.fetch = .ok w ∧
        Instruction.decode w = some i ∧ rest = i.mnemonic ∧
        c.step =
          match i.execute.on c.advance with
          | (.error fault, after) => (.error fault, after.halt fault)
          | (.ok effect, after) => (.ok effect, after)
  /-- A word without one is refused. -/
  invalid : ∀ a w, line = Prompt.text.nextAt a ++ w.text ++ "  (invalid)" →
    c.machine.fetch = .ok w ∧ Instruction.decode w = none ∧
      c.step = (.error (.invalidInstruction w a), c.halt (.invalidInstruction w a))
  /-- Anything else is the fault that the step comes to. -/
  unreadable : ∀ a report, line = Prompt.text.nextAt a ++ report →
    (∀ (w : Word) rest, report ≠ w.text ++ "  " ++ rest) →
      ∃ fault, c.machine.fetch = .error fault ∧ report = fault.message ∧
        c.step = (.error fault, c.halt fault)

/-- **Prompts announce steps.** -/
theorem stepsAsShown_of_prompt (c : Console) : c.StepsAsShown c.machine.prompt.text where
  running status := by
    unfold Machine.prompt
    rw [status]
    dsimp only
    split
    · exact ⟨_, rfl⟩
    · split
      · exact ⟨_, by rw [Prompt.text, String.append_assoc, String.append_assoc]⟩
      · exact ⟨_, by rw [Prompt.text, String.append_assoc]⟩
  address a report h := by
    obtain ⟨status, pc, -⟩ := Machine.shown_of_prompt h
    exact ⟨status, pc⟩
  operation a w rest h valid := by
    have behind : Prompt.text.nextAt a ++ w.text ++ "  " ++ rest =
        Prompt.text.nextAt a ++ (w.text ++ "  " ++ rest) := by
      simp only [String.append_assoc]
    obtain ⟨status, pc, fetch, rfl⟩ := Machine.word_of_prompt (h.trans behind)
    cases decode : Instruction.decode w with
    | none => simp [decode] at valid
    | some i =>
      have upcoming : c.upcoming = some i :=
        upcoming_eq_some.2 ⟨status, by rw [Machine.fetchInstruction_of_ok fetch, decode]⟩
      exact ⟨i, pc, fetch, rfl, by simp, step_of_upcoming upcoming⟩
  invalid a w h := by
    have behind : Prompt.text.nextAt a ++ w.text ++ "  (invalid)" =
        Prompt.text.nextAt a ++ (w.text ++ "  " ++ "(invalid)") := by
      rw [String.append_assoc, String.append_assoc]
      rfl
    obtain ⟨status, pc, fetch, same⟩ := Machine.word_of_prompt (h.trans behind)
    cases decode : Instruction.decode w with
    | some i =>
      rw [decode] at same
      exact absurd same.symm i.mnemonic_ne_invalid
    | none =>
      have refused : c.machine.fetchInstruction = .error (.invalidInstruction w a) := by
        rw [Machine.fetchInstruction_of_ok fetch, decode, pc]
      exact ⟨fetch, rfl, (StepsTo.unfetched status refused).step_eq⟩
  unreadable a report h plain := by
    obtain ⟨status, -, ⟨fault, fetch, shown⟩ | ⟨v, fetch, shown⟩⟩ := Machine.shown_of_prompt h
    · have refused := Machine.fetchInstruction_of_error fetch
      exact ⟨fault, fetch, shown, (StepsTo.unfetched status refused).step_eq⟩
    · exact absurd shown (plain v _)

end Console

end ChipEight
