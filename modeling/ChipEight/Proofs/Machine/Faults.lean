/-
  Faults.

  A fault arises before there is an instruction to carry out, or in the middle
  of one: in a call or a return, or where memory is read or written.

  * `step_error_atomic`: wherever it arises, nothing has been done yet;
  * `faults_eq`: the faults that turns come to are the one that has halted the
    machine since, if it has halted;
  * `fault_is_final`: so there is one at most, and from then on steps change
    nothing, and nothing but a reset or a new program sets the machine going
    again.  A `Deed` is what can be done to a console, in turns or otherwise.
-/
import ChipEight.Proofs.Machine.Loading

namespace ChipEight

namespace Console

/-! ## The step that comes to a fault -/

/-- Two consoles that differ in nothing but the program counter and what the
    machine is doing. -/
structure SameBesidesProgress (c d : Console) : Prop where
  v : c.machine.registers.v = d.machine.registers.v
  i : c.machine.registers.i = d.machine.registers.i
  timers : c.machine.timers = d.machine.timers
  memory : c.machine.memory = d.machine.memory
  stack : c.machine.stack = d.machine.stack
  screen : c.machine.screen = d.machine.screen
  random : c.machine.random = d.machine.random
  keypad : c.keypad = d.keypad

theorem sameBesidesProgress_halt (c : Console) (fault : Fault) :
    c.SameBesidesProgress (c.halt fault) :=
  ⟨rfl, rfl, rfl, rfl, rfl, rfl, rfl, rfl⟩

theorem sameBesidesProgress_advance_halt (c : Console) (fault : Fault) :
    c.SameBesidesProgress (c.advance.halt fault) :=
  ⟨rfl, rfl, rfl, rfl, rfl, rfl, rfl, rfl⟩

/-- **Atomicity**: a step that comes to a fault halts the machine with it and does
    nothing else, except that the program counter is past the instruction, if
    there was one. -/
theorem step_error_atomic {c after : Console} {fault : Fault}
    (h : c.step = (.error fault, after)) :
    c.SameBesidesProgress after ∧ after.machine.status = .halted fault ∧
      after.machine.registers.pc =
        if c.upcoming.isSome then c.machine.registers.pc + 2 else c.machine.registers.pc := by
  cases step_spec h with
  | unfetched status fetch =>
    have none : c.upcoming = none := by simp [upcoming, status, fetch, Except.toOption]
    refine ⟨c.sameBesidesProgress_halt fault, rfl, ?_⟩
    rw [none]
    rfl
  | refused status fetch =>
    refine ⟨c.sameBesidesProgress_advance_halt fault, rfl, ?_⟩
    rw [upcoming_eq_some.2 ⟨status, fetch⟩]
    rfl

/-- A program that stores all registers where memory has room for six of them. -/
def storesOutside : Console :=
  let registers := { Registers.initial with v := Vector.replicate 16 7, i := 4090 }
  ⟨{ Machine.new 0 with
      registers, memory := Memory.zeros.overwrite programStart [0xFF, 0x55] }, .idle⟩

/-- None of the registers is stored when there is no room for all of them. -/
theorem storesOutside_step :
    ∃ after, storesOutside.step = (.error (.outOfBounds 4096), after) ∧
      storesOutside.SameBesidesProgress after ∧ after.machine.registers.pc = 514 := by
  have upcoming : storesOutside.upcoming = some (.storeRegisters 15) := by decide +kernel
  obtain ⟨status, fetch⟩ := upcoming_eq_some.1 upcoming
  have execute : (Instruction.storeRegisters 15).execute.on storesOutside.advance =
      (.error (.outOfBounds 4096), storesOutside.advance) := by
    rw [Instruction.execute, theMachine_bind]
    exact InPlace.lift_bind_eq_error.2 (.inl ⟨rfl, rfl⟩)
  have step := (StepsTo.refused status fetch execute).step_eq
  obtain ⟨same, -, pc⟩ := step_error_atomic step
  rw [upcoming] at pc
  exact ⟨_, step, same, pc⟩

/-! ## Turns up to the fault, and from then on -/

/-- A turn with a halted machine comes to no fault, and the machine stays as it
    has halted. -/
theorem take_of_halted {c : Console} {fault : Fault} (h : c.machine.status = .halted fault)
    (turn : Turn) :
    (c.take turn).1.fault? = none ∧ (c.take turn).2.machine.status = .halted fault := by
  cases turn with
  | step =>
    rw [take, step_of_halted (Machine.isHalted_iff.2 ⟨fault, h⟩)]
    exact ⟨rfl, h⟩
  | tick => exact ⟨rfl, h⟩
  | keys use => exact ⟨rfl, h⟩

theorem after_of_halted {c : Console} {fault : Fault} (h : c.machine.status = .halted fault)
    (turns : List Turn) :
    c.faults turns = [] ∧ (c.after turns).machine.status = .halted fault := by
  induction turns generalizing c with
  | nil => exact ⟨rfl, h⟩
  | cons turn later ih =>
    obtain ⟨none, stays⟩ := take_of_halted h turn
    rw [faults_cons, none, after_cons]
    exact ih stays

/-- A turn with a machine that has not halted comes to a fault, which halts the
    machine, or the machine goes on, and then no step has found it halted. -/
theorem take_of_running {c : Console} (running : c.machine.isHalted = false) (turn : Turn) :
    (∃ fault, (c.take turn).1.fault? = some fault ∧
        (c.take turn).2.machine.status = .halted fault) ∨
      (c.take turn).1.fault? = none ∧ (c.take turn).1 ≠ .stepped (.ok .halted) ∧
        (c.take turn).2.machine.isHalted = false := by
  cases turn with
  | step =>
    rcases step : c.step with ⟨fault | effect, after⟩
    · refine Or.inl ⟨fault, ?_⟩
      rw [take, step]
      exact ⟨rfl, (step_error step).1⟩
    · obtain ⟨notHalted, goesOn⟩ := step_ok step running
      refine Or.inr ?_
      rw [take, step]
      refine ⟨rfl, fun same => notHalted ?_, goesOn⟩
      cases same
      rfl
  | tick => exact Or.inr ⟨rfl, by simp [take], running⟩
  | keys use => exact Or.inr ⟨rfl, by simp [take], running⟩

/-- **The faults that turns come to** are the one that has halted the machine
    since, if it has halted. -/
theorem faults_eq {c : Console} (running : c.machine.isHalted = false) (turns : List Turn) :
    c.faults turns = (c.after turns).machine.fault?.toList := by
  induction turns generalizing c with
  | nil => rw [after_nil, Machine.fault?_eq_none.2 running]; rfl
  | cons turn later ih =>
    rw [faults_cons, after_cons]
    obtain ⟨fault, comes, halted⟩ | ⟨none, -, goesOn⟩ := take_of_running running turn
    · obtain ⟨noMore, stays⟩ := after_of_halted halted later
      rw [comes, noMore, Machine.fault?_eq_some.2 stays]
      rfl
    · rw [none, ih goesOn]
      rfl

theorem isHalted_of_faults_eq_nil {c : Console} (running : c.machine.isHalted = false)
    {turns : List Turn} (none : c.faults turns = []) :
    (c.after turns).machine.isHalted = false := by
  rw [faults_eq running, Option.toList_eq_nil_iff] at none
  exact Machine.fault?_eq_none.1 none

/-- No step finds the machine halted before one has come to a fault. -/
theorem halted_notMem_answers {c : Console} (running : c.machine.isHalted = false)
    {turns : List Turn} (none : c.faults turns = []) :
    Answer.stepped (.ok .halted) ∉ c.answers turns := by
  induction turns generalizing c with
  | nil => exact List.not_mem_nil
  | cons turn later ih =>
    rw [faults_cons] at none
    obtain ⟨now, later⟩ := List.append_eq_nil_iff.1 none
    obtain ⟨fault, comes, -⟩ | ⟨-, notHalted, goesOn⟩ := take_of_running running turn
    · rw [comes] at now
      cases now
    · rw [answers_cons, List.mem_cons]
      rintro (same | more)
      · exact notHalted same.symm
      · exact ih goesOn later more

/-! ## The way out -/

/-- What can be done to a console. -/
inductive Deed where
  /-- Take a turn. -/
  | turn (turn : Turn)
  /-- Make at most `n` steps. -/
  | run (n : Nat)
  /-- Ask whether the buzzer has changed. -/
  | askBuzzer
  /-- Put other contents into the machine; what it is doing and the random
      stream are out of reach. -/
  | edit (registers : Registers) (timers : Timers) (memory : Memory) (stack : CallStack)
      (screen : Screen)
  /-- Replace the glyphs. -/
  | loadFont (glyphs : List UInt8)
  /-- Put a new program in the place of the one before it. -/
  | install (program : List UInt8)
  /-- Restart the program. -/
  | reset

/-- The console after a deed. -/
def perform (c : Console) : Deed → Console
  | .turn turn => (c.take turn).2
  | .run n => (c.run n).2
  | .askBuzzer => c.mapMachine (·.buzzerChange.2)
  | .edit registers timers memory stack screen =>
    c.mapMachine ({ · with registers, timers, memory, stack, screen })
  | .loadFont glyphs =>
    match c.machine.loadFont glyphs with
    | .ok machine => { c with machine }
    | .error _ => c
  | .install program => c.mapMachine fun m => ((Machine.install program).on m).2
  | .reset => c.mapMachine Machine.reset

/-- Replacing the glyphs changes nothing but memory, if anything. -/
theorem perform_loadFont (c : Console) (glyphs : List UInt8) :
    ∃ memory, c.perform (.loadFont glyphs) = c.mapMachine ({ · with memory }) := by
  rcases h : c.machine.loadFont glyphs with fault | machine
  · exact ⟨c.machine.memory, by simp only [perform, h]; rfl⟩
  · obtain ⟨memory, rfl⟩ := Machine.loadFont_spec h
    exact ⟨memory, by simp only [perform, h]; rfl⟩

/-- Replacing the glyphs does not set the machine going. -/
theorem status_perform_loadFont (c : Console) (glyphs : List UInt8) :
    (c.perform (.loadFont glyphs)).machine.status = c.machine.status := by
  obtain ⟨memory, same⟩ := c.perform_loadFont glyphs
  rw [same]
  rfl

/-- No other deeds than the last two set a halted machine going. -/
theorem status_perform_of_halted {c : Console} (h : c.machine.isHalted = true) {deed : Deed}
    (notInstall : ∀ program, deed ≠ .install program) (notReset : deed ≠ .reset) :
    (c.perform deed).machine.status = c.machine.status := by
  obtain ⟨fault, status⟩ := Machine.isHalted_iff.1 h
  cases deed with
  | turn turn => exact (take_of_halted status turn).2.trans status.symm
  | run n =>
    cases n with
    | zero => rfl
    | succ n => rw [perform, run, runFrom_of_halted h]
  | askBuzzer => rfl
  | edit => rfl
  | loadFont glyphs => exact c.status_perform_loadFont glyphs
  | install program => exact absurd rfl (notInstall program)
  | reset => exact absurd rfl notReset

/-- **The way out** of a halt is a reset, or a program that is accepted. -/
theorem isHalted_perform_of_halted {c : Console} (h : c.machine.isHalted = true) (deed : Deed) :
    (c.perform deed).machine.isHalted = false ↔
      deed = .reset ∨
        ∃ program, deed = .install program ∧
          ((Machine.install program).on c.machine).1 = .ok () := by
  by_cases isReset : deed = .reset
  · subst isReset
    exact iff_of_true rfl (.inl rfl)
  by_cases isInstall : ∃ program, deed = .install program
  · obtain ⟨program, rfl⟩ := isInstall
    rcases Nat.lt_or_ge maxProgramSize program.length with large | fits
    · have refused := Machine.install_of_tooLarge large c.machine
      have stays : (c.perform (.install program)).machine.isHalted = true := by
        rw [perform, mapMachine, refused]
        exact h
      simp [stays, refused]
    · have accepted := Machine.install_of_fits fits c.machine
      have goesOn : (c.perform (.install program)).machine.isHalted = false := by
        rw [perform, mapMachine, accepted]
        rfl
      exact iff_of_true goesOn (.inr ⟨program, rfl, by rw [accepted]⟩)
  · -- the other deeds leave it as it is
    have stays := status_perform_of_halted h (fun program same => isInstall ⟨program, same⟩) isReset
    refine iff_of_false ?_ ?_
    · rw [Machine.isHalted, stays, ← Machine.isHalted, h]
      simp
    · rintro (same | ⟨program, same, -⟩)
      · exact isReset same
      · exact isInstall ⟨program, same⟩

/-- **A fault is reported once and is final.**  Of the steps among any turns, at
    most one comes to a fault.  From then on the machine has halted with that
    fault, steps say so and change neither the machine nor the keypad.  Until
    then the machine has not halted, and no step says so.  Nothing but a reset or
    a program that is accepted sets a halted machine going again. -/
theorem fault_is_final {c : Console} (running : c.machine.isHalted = false) (turns : List Turn) :
    (c.faults turns).length ≤ 1 ∧
      (∀ before later fault, turns = before ++ .step :: later →
        (c.after before).step.1 = .error fault →
          ∀ meanwhile, meanwhile <+: later →
            let d := c.after (before ++ .step :: meanwhile)
            d.machine.status = .halted fault ∧ d.step = (.ok .halted, d)) ∧
      (∀ before, before <+: turns → c.faults before = [] →
        (c.after before).machine.isHalted = false ∧
          .stepped (.ok .halted) ∉ c.answers before) ∧
      ∀ (d : Console) (deed : Deed), d.machine.isHalted = true →
        ((d.perform deed).machine.isHalted = false ↔
          deed = .reset ∨
            ∃ program, deed = .install program ∧
              ((Machine.install program).on d.machine).1 = .ok ()) := by
  refine ⟨?_, ?_, ?_, fun d deed halted => isHalted_perform_of_halted halted deed⟩
  · rw [faults_eq running]
    exact Option.length_toList_le
  · intro before later fault _ comes meanwhile _ d
    have once : ((c.after before).take .step).2.machine.status = .halted fault :=
      (step_error (Prod.ext comes rfl)).1
    have halted : d.machine.status = .halted fault := by
      have stays := (after_of_halted once meanwhile).2
      rwa [← after_cons, ← after_append] at stays
    exact ⟨halted, step_of_halted (Machine.isHalted_iff.2 ⟨fault, halted⟩)⟩
  · intro before _ none
    exact ⟨isHalted_of_faults_eq_nil running none, halted_notMem_answers running none⟩

/-- A console whose program begins with a word that is no instruction. -/
def strays : Console := ⟨Machine.new 0, .idle⟩

/-- The word is reported once, however many steps follow. -/
theorem strays_reports_once :
    strays.machine.isHalted = false ∧
      (strays.faults [.step, .tick, .step]).length ≤ 1 ∧
      let d := strays.after [.step, .tick]
      d.machine.status = .halted (.invalidInstruction 0 512) ∧ d.step = (.ok .halted, d) := by
  have running : strays.machine.isHalted = false := rfl
  obtain ⟨once, final, -⟩ := fault_is_final running [.step, .tick, .step]
  have comes : strays.step.1 = .error (.invalidInstruction 0 512) :=
    Answer.fault?_stepped.1 (by decide +kernel)
  exact ⟨running, once, final [] [.tick, .step] _ rfl comes [.tick] ⟨[.step], rfl⟩⟩

end Console

end ChipEight
