/-
  What a step can amount to.

  * `execute_frame` says what an instruction that is carried out does to the
    status of the machine and to the keypad, and `execute_effect` what it amounts
    to;
  * `Console.StepsTo` lists the outcomes of a step, each with all that leads to
    it; every step is one of them (`step_spec`).  `upcoming` is the instruction
    that a step has before it;
  * `step_error`, `step_ok`: a step that faults halts the machine, and one that
    does not leaves a machine that has not halted as it is in this respect;
  * `runFrom_of_ok`, `runFrom_of_error`, `runFrom_of_halted`: a plain run makes a
    step and goes on, or ends there.
-/
import ChipEight.Machine.Step
import ChipEight.Proofs.Failing

namespace ChipEight

/-! ## The status -/

namespace Machine

theorem isHalted_iff {m : Machine} : m.isHalted = true ↔ ∃ fault, m.status = .halted fault := by
  unfold isHalted
  split <;> simp_all

theorem fault?_eq_some {m : Machine} {fault : Fault} :
    m.fault? = some fault ↔ m.status = .halted fault := by
  unfold fault?
  split <;> simp_all

theorem fault?_eq_none {m : Machine} : m.fault? = none ↔ m.isHalted = false := by
  unfold fault? isHalted
  split <;> simp_all

/-- A word is fetched if both its bytes lie in memory. -/
theorem fetch_of_lt {m : Machine} (inside : m.registers.pc.toNat + 1 < memorySize) :
    m.fetch =
      .ok (Word.ofBytes (m.memory.byte m.registers.pc.toNat)
        (m.memory.byte (m.registers.pc.toNat + 1))) := by
  have first : m.registers.pc.toNat < memorySize := Nat.lt_of_succ_lt inside
  rw [fetch, Memory.readPair, Memory.read, Memory.read, if_pos first, if_pos inside]
  rfl

/-- A word is refused because a byte of it lies outside memory. -/
theorem fetch_error {m : Machine} {fault : Fault} (h : m.fetch = .error fault) :
    ∃ address, fault = .outOfBounds address := by
  obtain pair | ⟨_, -, h⟩ := bind_eq_error_iff.1 h
  · obtain first | ⟨_, -, h⟩ := bind_eq_error_iff.1 pair
    · exact ⟨_, Memory.read_error first⟩
    · obtain second | ⟨_, -, h⟩ := bind_eq_error_iff.1 h
      · exact ⟨_, Memory.read_error second⟩
      · cases h
  · cases h

theorem fetchInstruction_of_error {m : Machine} {fault : Fault} (fetch : m.fetch = .error fault) :
    m.fetchInstruction = .error fault := by
  rw [fetchInstruction, fetch]
  rfl

theorem fetchInstruction_of_ok {m : Machine} {word : Word} (fetch : m.fetch = .ok word) :
    m.fetchInstruction =
      match Instruction.decode word with
      | some i => .ok i
      | none => .error (.invalidInstruction word m.registers.pc) := by
  rw [fetchInstruction, fetch]
  rfl

/-- Only registers change when a result is written. -/
theorem setWithFlag_frame (m : Machine) (x : Register) (result : UInt8 × Option Bool) :
    m.setWithFlag x result = { m with registers := (m.setWithFlag x result).registers } := by
  obtain ⟨value, _ | flag⟩ := result <;> rfl

end Machine

/-! ## Instructions -/

theorem Console.theMachine_bind {α : Type} (next : Machine → InPlace Console α) (c : Console) :
    (theMachine >>= next).on c = (next c.machine).on c := rfl

namespace Instruction

/-- What the machine is doing after an instruction. -/
def statusAfter (m : Machine) : Instruction → Status
  | .awaitKey x => .waiting x
  | _ => m.status

/-- The keypad after an instruction: waiting for a key forgets the presses made
    before. -/
def keypadAfter (p : Keypad) : Instruction → Keypad
  | .awaitKey _ => p.drain
  | _ => p

/-- What carrying out an instruction amounts to. -/
def effect : Instruction → Effect
  | .ret | .jump _ | .call _ | .jumpOffset _ => .jumped
  | .clearScreen => .cleared
  | .draw .. => .drew
  | .setSound _ => .sounded
  | .awaitKey _ => .awaiting
  | _ => .plain

variable {c after : Console} {i : Instruction} {effect : Effect}

/-- A skip does nothing else. -/
theorem execute_skip (test : Test) (c : Console) :
    (skip test).execute.on c =
      (.ok .plain, if test.holds c.machine c.keypad then c.advance else c) := by
  rw [execute, InPlace.get_bind]
  split <;> rfl

/-- **Atomicity**: an instruction that comes to a fault has done nothing. -/
theorem execute_error {fault : Fault} (h : i.execute.on c = (.error fault, after)) :
    after = c := by
  cases i with
  | ret | call | draw | storeDecimal | storeRegisters | loadRegisters =>
    rw [execute, Console.theMachine_bind] at h
    obtain ⟨-, same⟩ | ⟨_, -, h⟩ := InPlace.lift_bind_eq_error.1 h
    · exact same
    -- with its value at hand, the instruction is not refused any more
    · cases h
  | skip test =>
    rw [execute_skip] at h
    cases h
  | _ => cases h

/-- The faults of instructions: of the call stack, and of memory. -/
theorem execute_fault {fault : Fault} (h : i.execute.on c = (.error fault, after)) :
    fault = .stackOverflow ∨ fault = .stackUnderflow ∨ ∃ address, fault = .outOfBounds address := by
  cases i with
  | ret =>
    rw [execute, Console.theMachine_bind] at h
    obtain ⟨pop, -⟩ | ⟨_, -, h⟩ := InPlace.lift_bind_eq_error.1 h
    · unfold CallStack.pop at pop
      split at pop
      · cases pop
        exact .inr (.inl rfl)
      · cases pop
    · cases h
  | call target =>
    rw [execute, Console.theMachine_bind] at h
    obtain ⟨push, -⟩ | ⟨_, -, h⟩ := InPlace.lift_bind_eq_error.1 h
    · unfold CallStack.push at push
      split at push
      · cases push
      · cases push
        exact .inl rfl
    · cases h
  | draw | loadRegisters =>
    rw [execute, Console.theMachine_bind] at h
    obtain ⟨read, -⟩ | ⟨_, -, h⟩ := InPlace.lift_bind_eq_error.1 h
    · exact .inr (.inr ⟨_, (Memory.readRange_error read).2⟩)
    · cases h
  | storeDecimal | storeRegisters =>
    rw [execute, Console.theMachine_bind] at h
    obtain ⟨write, -⟩ | ⟨_, -, h⟩ := InPlace.lift_bind_eq_error.1 h
    · exact .inr (.inr ⟨_, (Memory.writeRange_error write).2⟩)
    · cases h
  | skip test =>
    rw [execute_skip] at h
    cases h
  | _ => cases h

/-- **Status and keypad** change as the instruction says. -/
theorem execute_frame (h : i.execute.on c = (.ok effect, after)) :
    after =
      { machine := { after.machine with status := i.statusAfter c.machine }
        keypad := i.keypadAfter c.keypad } := by
  cases i with
  | ret | call | draw | storeDecimal | storeRegisters | loadRegisters =>
    rw [execute, Console.theMachine_bind] at h
    obtain ⟨_, -, h⟩ := InPlace.lift_bind_eq_ok.1 h
    cases h
    rfl
  | skip test =>
    rw [execute_skip] at h
    cases h
    split <;> rfl
  | combine | shiftRight | shiftLeft =>
    cases h
    simp only [Console.mapMachine]
    rw [Machine.setWithFlag_frame]
    rfl
  | _ => cases h; rfl

theorem execute_status (h : i.execute.on c = (.ok effect, after)) :
    after.machine.status = i.statusAfter c.machine := by
  rw [execute_frame h]

theorem execute_effect (h : i.execute.on c = (.ok effect, after)) : effect = i.effect := by
  cases i with
  | ret | call | draw | storeDecimal | storeRegisters | loadRegisters =>
    rw [execute, Console.theMachine_bind] at h
    obtain ⟨_, -, h⟩ := InPlace.lift_bind_eq_ok.1 h
    cases h
    rfl
  | skip test =>
    rw [execute_skip] at h
    cases h
    rfl
  | _ => cases h; rfl

theorem effect_ne_halted (i : Instruction) : i.effect ≠ .halted := by
  cases i <;> nofun

end Instruction

/-! ## Steps -/

namespace Console

/-- The instruction that a step has before it. -/
def upcoming (c : Console) : Option Instruction :=
  match c.machine.status with
  | .running => c.machine.fetchInstruction.toOption
  | _ => none

/-- What a step can amount to: its result and the console after it. -/
inductive StepsTo (c : Console) : Except Fault Effect → Console → Prop
  | halted {fault : Fault} (status : c.machine.status = .halted fault) : StepsTo c (.ok .halted) c
  | waits {x : Register} (status : c.machine.status = .waiting x)
      (press : c.keypad.poll = none) : StepsTo c (.ok .awaiting) c
  | resumes {x : Register} {key : Key} {keypad : Keypad} (status : c.machine.status = .waiting x)
      (press : c.keypad.poll = some (key, keypad)) :
      StepsTo c (.ok .plain)
        ⟨{ c.machine.set x (UInt8.ofNat key.val) with status := .running }, keypad⟩
  | unfetched {fault : Fault} (status : c.machine.status = .running)
      (fetch : c.machine.fetchInstruction = .error fault) : StepsTo c (.error fault) (c.halt fault)
  | refused {i : Instruction} {fault : Fault} (status : c.machine.status = .running)
      (fetch : c.machine.fetchInstruction = .ok i)
      (execute : i.execute.on c.advance = (.error fault, c.advance)) :
      StepsTo c (.error fault) (c.advance.halt fault)
  | executes {i : Instruction} {effect : Effect} {after : Console}
      (status : c.machine.status = .running) (fetch : c.machine.fetchInstruction = .ok i)
      (execute : i.execute.on c.advance = (.ok effect, after)) : StepsTo c (.ok effect) after

theorem executeNext_of_error {c : Console} {fault : Fault}
    (fetch : c.machine.fetchInstruction = .error fault) :
    executeNext.on c = (.error fault, c) := by
  rw [executeNext, theMachine_bind]
  exact InPlace.lift_bind_eq_error.2 (.inl ⟨fetch, rfl⟩)

theorem executeNext_of_ok {c : Console} {i : Instruction}
    (fetch : c.machine.fetchInstruction = .ok i) :
    executeNext.on c = i.execute.on c.advance := by
  rw [executeNext, theMachine_bind, fetch]
  rfl

/-- **Every step amounts to one of these.** -/
theorem step_spec {c after : Console} {result : Except Fault Effect}
    (h : c.step = (result, after)) : c.StepsTo result after := by
  cases status : c.machine.status with
  | running =>
    cases fetch : c.machine.fetchInstruction with
    | error fault =>
      simp only [step, status, stepRunning, executeNext_of_error fetch] at h
      cases h
      exact .unfetched status fetch
    | ok i =>
      rcases execute : i.execute.on c.advance with ⟨fault | effect, next⟩
      · simp only [step, status, stepRunning, executeNext_of_ok fetch, execute] at h
        cases h
        obtain rfl := Instruction.execute_error execute
        exact .refused status fetch execute
      · simp only [step, status, stepRunning, executeNext_of_ok fetch, execute] at h
        cases h
        exact .executes status fetch execute
  | waiting x =>
    cases press : c.keypad.poll with
    | none =>
      simp only [step, status, stepWaiting, press] at h
      cases h
      exact .waits status press
    | some found =>
      simp only [step, status, stepWaiting, press] at h
      cases h
      exact .resumes status press
  | halted fault =>
    simp only [step, status] at h
    cases h
    exact .halted status

/-- What leads to an outcome leads to no other one. -/
theorem StepsTo.step_eq {c after : Console} {result : Except Fault Effect}
    (h : c.StepsTo result after) : c.step = (result, after) := by
  cases h with
  | halted status => simp only [step, status]
  | waits status press => simp only [step, status, stepWaiting, press]
  | resumes status press => simp only [step, status, stepWaiting, press]
  | unfetched status fetch => simp only [step, status, stepRunning, executeNext_of_error fetch]
  | refused status fetch execute =>
    simp only [step, status, stepRunning, executeNext_of_ok fetch, execute]
  | executes status fetch execute =>
    simp only [step, status, stepRunning, executeNext_of_ok fetch, execute]

theorem upcoming_eq_some {c : Console} {i : Instruction} :
    c.upcoming = some i ↔ c.machine.status = .running ∧ c.machine.fetchInstruction = .ok i := by
  unfold upcoming
  split
  · next status =>
    cases c.machine.fetchInstruction <;> simp [Except.toOption, status]
  · next status =>
    simp only [reduceCtorEq, false_iff, not_and]
    exact fun running => absurd running (status · )

/-- A step carries out the instruction that it has before it. -/
theorem step_of_upcoming {c : Console} {i : Instruction} (h : c.upcoming = some i) :
    c.step =
      match i.execute.on c.advance with
      | (.error fault, after) => (.error fault, after.halt fault)
      | (.ok effect, after) => (.ok effect, after) := by
  obtain ⟨status, fetch⟩ := upcoming_eq_some.1 h
  have runs : c.step = c.stepRunning := by rw [step, status]
  rw [runs, ← executeNext_of_ok fetch]
  rfl

theorem step_eq_ok_iff {c after : Console} {i : Instruction} {effect : Effect}
    (h : c.upcoming = some i) :
    c.step = (.ok effect, after) ↔ i.execute.on c.advance = (.ok effect, after) := by
  rw [step_of_upcoming h]
  rcases i.execute.on c.advance with ⟨fault | done, next⟩ <;> simp

theorem step_eq_error_iff {c : Console} {i : Instruction} {fault : Fault}
    (h : c.upcoming = some i) :
    c.step.1 = .error fault ↔ i.execute.on c.advance = (.error fault, c.advance) := by
  rw [step_of_upcoming h]
  rcases execute : i.execute.on c.advance with ⟨other | effect, after⟩
  · obtain rfl := Instruction.execute_error execute
    simp
  · simp

/-- A halted machine stays as it is. -/
theorem step_of_halted {c : Console} (h : c.machine.isHalted = true) :
    c.step = (.ok .halted, c) := by
  obtain ⟨fault, status⟩ := Machine.isHalted_iff.1 h
  exact (StepsTo.halted status).step_eq

/-- **A fault halts the machine**, and none occurs once it has halted. -/
theorem step_error {c after : Console} {fault : Fault} (h : c.step = (.error fault, after)) :
    after.machine.status = .halted fault ∧ c.machine.isHalted = false := by
  cases step_spec h with
  | unfetched status => exact ⟨rfl, by simp [Machine.isHalted, status]⟩
  | refused status => exact ⟨rfl, by simp [Machine.isHalted, status]⟩

/-- A step without a fault does not halt the machine. -/
theorem step_ok {c after : Console} {effect : Effect} (h : c.step = (.ok effect, after))
    (running : c.machine.isHalted = false) : effect ≠ .halted ∧ after.machine.isHalted = false := by
  cases step_spec h with
  | halted status => simp [Machine.isHalted, status] at running
  | waits => exact ⟨by simp, running⟩
  | resumes => exact ⟨by simp, rfl⟩
  | @executes i _ _ status _ execute =>
    have goesOn : c.advance.machine.status = .running := status
    refine ⟨Instruction.execute_effect execute ▸ i.effect_ne_halted, ?_⟩
    rw [Machine.isHalted, Instruction.execute_status execute]
    cases i <;> simp [Instruction.statusAfter, goesOn]

/-- A step finds the machine halted, or comes to a fault, or is made. -/
theorem step_cases (c : Console) :
    c.machine.isHalted = true ∨ (∃ fault after, c.step = (.error fault, after)) ∨
      ∃ effect after, c.machine.isHalted = false ∧ c.step = (.ok effect, after) := by
  cases halted : c.machine.isHalted with
  | true => exact .inl rfl
  | false =>
    rcases step : c.step with ⟨fault | effect, after⟩
    · exact .inr (.inl ⟨fault, after, rfl⟩)
    · exact .inr (.inr ⟨effect, after, rfl, rfl⟩)

/-- No step moves a key. -/
theorem down_step {c after : Console} {result : Except Fault Effect}
    (h : c.step = (result, after)) : after.keypad.down = c.keypad.down := by
  cases step_spec h with
  | halted | waits | unfetched | refused => rfl
  | resumes status press =>
    unfold Keypad.poll at press
    split at press
    · cases press
    · cases press
      rfl
  | @executes i _ _ _ _ execute =>
    rw [Instruction.execute_frame execute]
    cases i <;> rfl

/-! ## Plain runs -/

variable {c after : Console} {last : Effect} {n : Nat}

theorem runFrom_of_error {fault : Fault} (h : c.step = (.error fault, after)) :
    runFrom last (n + 1) c = (.error fault, after) := by
  rw [runFrom, h]

theorem runFrom_of_halted (h : c.machine.isHalted = true) :
    runFrom last (n + 1) c = (.ok .halted, c) := by
  rw [runFrom, step_of_halted h]

theorem runFrom_of_ok {effect : Effect} (running : c.machine.isHalted = false)
    (h : c.step = (.ok effect, after)) : runFrom last (n + 1) c = runFrom effect n after := by
  have goesOn := (step_ok h running).1
  rw [runFrom, h]
  cases effect <;> first | rfl | exact absurd rfl goesOn

end Console

end ChipEight
