/-
  What instructions do not look at.

  Two parts of the machine are hidden from almost every instruction: the timers,
  which one instruction reads, and the random stream, which one draws from.

  * `step_adapt`: a step does not notice a change of parts that neither the fetch nor
    the instruction notices;
  * `equip` gives a console other timers and another stream, and
    `execute_equip` says that the other instructions do not notice;
  * `step_timers`: of all steps only those that carry out an instruction which
    sets a timer change the timers;
  * `execute_withRandom` and `step_withRandom`: instructions and steps that draw
    nothing do the same with every stream;
  * `execute_withKeypad`: the keypad concerns three instructions, and the others do the
    same with every keypad and leave it as it is.
-/
import ChipEight.Proofs.Machine.Step

namespace ChipEight

/-! ## Instructions that look -/

namespace Instruction

/-- The instruction reads the delay timer. -/
def ReadsDelay : Instruction → Prop
  | .loadDelay _ => True
  | _ => False

/-- The instruction draws a random byte. -/
def DrawsRandom : Instruction → Prop
  | .random .. => True
  | _ => False

/-- The instruction looks at a key, or asks for presses. -/
def AsksKeypad : Instruction → Prop
  | .skip (.keyDown _) | .skip (.keyUp _) | .awaitKey _ => True
  | _ => False

/-- The timers after an instruction. -/
def timersAfter (m : Machine) : Instruction → Timers
  | .setDelay x => { m.timers with delay := m.get x }
  | .setSound x => { m.timers with sound := m.get x }
  | _ => m.timers

/-- No instruction changes what was reported of the buzzer. -/
theorem reported_timersAfter (m : Machine) (i : Instruction) :
    (i.timersAfter m).reported = m.timers.reported := by cases i <;> rfl

theorem timersAfter_advance (m : Machine) (i : Instruction) :
    i.timersAfter m.advance = i.timersAfter m := by cases i <;> rfl

/-- The stream after an instruction. -/
def randomAfter (stream : Keystream) : Instruction → Keystream
  | .random .. => stream.next.2
  | _ => stream

theorem randomAfter_of_not {i : Instruction} (h : ¬ i.DrawsRandom) (stream : Keystream) :
    i.randomAfter stream = stream := by
  cases i with
  | random => exact absurd trivial h
  | _ => rfl

end Instruction

/-! ## Hidden parts -/

/-- The console with its timers, its memory and its random stream changed. -/
def Console.adapt (t : Timers → Timers) (s : Memory → Memory) (r : Keystream → Keystream)
    (c : Console) : Console :=
  c.mapMachine fun m =>
    { m with timers := t m.timers, memory := s m.memory, random := r m.random }

/-- **A step does not notice** that these parts are changed, if neither the fetch nor the
    instruction does. -/
theorem Console.step_adapt {t : Timers → Timers} {s : Memory → Memory} {r : Keystream → Keystream}
    {c : Console} (fetch : c.machine.status = .running →
      (c.adapt t s r).machine.fetchInstruction = c.machine.fetchInstruction)
    (execute : ∀ i, c.upcoming = some i → i.execute.on (c.advance.adapt t s r) =
      ((i.execute.on c.advance).1, (i.execute.on c.advance).2.adapt t s r)) :
    (c.adapt t s r).step = (c.step.1, c.step.2.adapt t s r) := by
  rcases step : c.step with ⟨result, after⟩
  apply StepsTo.step_eq
  cases step_spec step with
  | halted status => exact .halted status
  | waits status press => exact .waits status press
  | resumes status press => exact .resumes (c := c.adapt t s r) status press
  | unfetched status found =>
    exact .unfetched (c := c.adapt t s r) status ((fetch status).trans found)
  | @refused i _ status found failed =>
    have image := execute i (upcoming_eq_some.2 ⟨status, found⟩)
    rw [failed] at image
    exact .refused (c := c.adapt t s r) status ((fetch status).trans found) image
  | @executes i _ _ status found done =>
    have image := execute i (upcoming_eq_some.2 ⟨status, found⟩)
    rw [done] at image
    exact .executes (c := c.adapt t s r) status ((fetch status).trans found) image

/-! ## Other timers and another stream -/

/-- The console with other timers and another random stream. -/
def Console.equip (c : Console) (timers : Timers) (random : Keystream) : Console :=
  c.mapMachine ({ · with timers, random })

namespace Instruction
variable {i : Instruction} {c : Console} {timers : Timers} {random : Keystream}

/-- **Hidden parts.**  With other timers and another stream, an instruction that
    does not look at them does the same, and changes them as it says. -/
theorem execute_equip (delay : i.ReadsDelay → timers = c.machine.timers)
    (draw : i.DrawsRandom → random = c.machine.random) :
    i.execute.on (c.equip timers random) =
      ((i.execute.on c).1,
        (i.execute.on c).2.equip (i.timersAfter (c.equip timers random).machine)
          (i.randomAfter random)) := by
  cases i with
  | loadDelay x =>
    obtain rfl := delay trivial
    rfl
  | random x mask =>
    obtain rfl := draw trivial
    rfl
  | ret | call | draw | storeDecimal | storeRegisters | loadRegisters =>
    rw [execute, Console.theMachine_bind, Console.theMachine_bind]
    -- no value that an instruction needs depends on the hidden parts
    refine InPlace.lift_bind_image (f := (Console.equip · _ _)) ?_ fun a => ?_
    · rfl
    · rfl
  | skip test =>
    have same : test.holds (c.equip timers random).machine c.keypad =
        test.holds c.machine c.keypad := by
      cases test <;> rfl
    rw [execute_skip, execute_skip, show (c.equip timers random).keypad = c.keypad from rfl, same]
    split <;> rfl
  | combine operation =>
    cases operation <;> rfl
  | _ => rfl

/-- The timers after an instruction, whether it comes to a fault or not. -/
theorem timers_execute (i : Instruction) (c : Console) :
    (i.execute.on c).2.machine.timers = i.timersAfter c.machine := by
  have own := execute_equip (i := i) (c := c) (fun _ => rfl) (fun _ => rfl)
  exact congrArg (·.2.machine.timers) own

/-- The stream after an instruction, whether it comes to a fault or not. -/
theorem random_execute (i : Instruction) (c : Console) :
    (i.execute.on c).2.machine.random = i.randomAfter c.machine.random := by
  have own := execute_equip (i := i) (c := c) (fun _ => rfl) (fun _ => rfl)
  exact congrArg (·.2.machine.random) own

end Instruction

/-! ## Timers -/

/-- **Only instructions that set a timer change the timers.** -/
theorem Console.step_timers {c after : Console} {result : Except Fault Effect}
    (h : c.step = (result, after)) :
    after.machine.timers = c.machine.timers ∨
      ∃ i, c.upcoming = some i ∧ after.machine.timers = i.timersAfter c.machine := by
  cases Console.step_spec h with
  | @executes i _ _ status fetch execute =>
    refine Or.inr ⟨i, Console.upcoming_eq_some.2 ⟨status, fetch⟩, ?_⟩
    have timers := i.timers_execute c.advance
    rw [execute] at timers
    exact timers.trans (Instruction.timersAfter_advance _ _)
  | _ => exact Or.inl rfl

/-- A step that comes to a fault leaves the timers alone. -/
theorem Console.timers_of_error {c after : Console} {fault : Fault}
    (h : c.step = (.error fault, after)) : after.machine.timers = c.machine.timers := by
  cases step_spec h <;> rfl

/-- No step changes what was reported of the buzzer. -/
theorem Console.reported_step {c after : Console} {result : Except Fault Effect}
    (h : c.step = (result, after)) :
    after.machine.timers.reported = c.machine.timers.reported := by
  rcases step_timers h with same | ⟨i, -, changed⟩
  · rw [same]
  · rw [changed, Instruction.reported_timersAfter]

/-! ## Another stream -/

/-- The console with another random stream. -/
def Console.withRandom (c : Console) (random : Keystream) : Console :=
  c.equip c.machine.timers random

/-- **Instructions that draw nothing** do the same with every stream, and leave
    it as it is. -/
theorem Instruction.execute_withRandom {i : Instruction} (h : ¬ i.DrawsRandom) (c : Console)
    (random : Keystream) :
    i.execute.on (c.withRandom random) =
      ((i.execute.on c).1, (i.execute.on c).2.withRandom random) := by
  have timers : i.timersAfter (c.withRandom random).machine = (i.execute.on c).2.machine.timers := by
    rw [timers_execute]
    cases i <;> rfl
  rw [Console.withRandom, execute_equip (fun _ => rfl) fun draws => absurd draws h,
    randomAfter_of_not h]
  rw [Console.withRandom] at timers
  rw [timers]
  rfl

namespace Console

/-- **Steps that draw nothing** do the same with every stream. -/
theorem step_withRandom {c : Console} (h : ∀ i, c.upcoming = some i → ¬ i.DrawsRandom)
    (random : Keystream) : (c.withRandom random).step = (c.step.1, c.step.2.withRandom random) :=
  step_adapt (t := id) (s := id) (r := fun _ => random) (fun _ => rfl) fun i upcoming =>
    Instruction.execute_withRandom (h i upcoming) c.advance random

end Console

/-! ## Another keypad -/

/-- **Instructions that do not ask the keypad** do the same with every keypad, and leave it
    as it is. -/
theorem Instruction.execute_withKeypad {i : Instruction} (h : ¬ i.AsksKeypad) (c : Console)
    (keypad : Keypad) :
    i.execute.on { c with keypad } = ((i.execute.on c).1, { (i.execute.on c).2 with keypad }) := by
  cases i with
  | ret | call | draw | storeDecimal | storeRegisters | loadRegisters =>
    rw [execute, Console.theMachine_bind, Console.theMachine_bind]
    exact InPlace.lift_bind_image (f := fun c : Console => { c with keypad }) rfl fun _ => rfl
  | skip test =>
    have same : test.holds c.machine keypad = test.holds c.machine c.keypad := by
      cases test with
      | keyDown | keyUp => exact absurd trivial h
      | _ => rfl
    rw [execute_skip, execute_skip, same]
    split <;> rfl
  | awaitKey => exact absurd trivial h
  | combine operation => cases operation <;> rfl
  | _ => rfl

end ChipEight
