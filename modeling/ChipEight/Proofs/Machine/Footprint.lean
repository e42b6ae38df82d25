/-
  Footprints — what a step may change.

  * `Instruction.Keeps` says what an instruction leaves alone in the machine:
    registers that it does not write, memory where it does not store, and so on;
    `execute_keeps` that it does so;
  * `Console.Footprint` tells the same of a step by the word that it carries out,
    part by part of the console, and `step_footprint` is the theorem.
-/
import ChipEight.Proofs.Instruction.Formats
import ChipEight.Proofs.Machine.Course
import ChipEight.Proofs.Machine.Hidden

namespace ChipEight

/-! ## What an instruction writes -/

/-- The operation puts a flag into `VF`. -/
def Operation.SetsFlag : Operation → Prop
  | .add | .subtract | .subtractFrom => True
  | _ => False

namespace Instruction

/-- The instruction writes the byte register. -/
def Writes (y : Register) : Instruction → Prop
  | .loadByte x _ | .addByte x _ | .random x _ | .loadDelay x => y = x
  | .combine operation x _ => y = x ∨ operation.SetsFlag ∧ y = flagRegister
  | .shiftRight x | .shiftLeft x => y = x ∨ y = flagRegister
  | .draw .. => y = flagRegister
  | .loadRegisters x => y ≤ x
  | _ => False

/-- The instruction sets the index register. -/
def SetsIndex : Instruction → Prop
  | .loadIndex _ | .addIndex _ | .loadGlyph _ => True
  | _ => False

/-- The instruction stores a byte at the address. -/
def Stores (m : Machine) (address : Nat) : Instruction → Prop
  | .storeDecimal _ =>
    m.registers.i.toNat ≤ address ∧ address ≤ m.registers.i.toNat + 2
  | .storeRegisters x =>
    m.registers.i.toNat ≤ address ∧ address ≤ m.registers.i.toNat + x.val
  | _ => False

/-- The instruction changes the picture. -/
def Paints : Instruction → Prop
  | .clearScreen | .draw .. => True
  | _ => False

/-- An instruction leaves alone what it does not write, set, store or paint. -/
structure Keeps (i : Instruction) (m after : Machine) : Prop where
  registers : ∀ y, after.get y = m.get y ∨ i.Writes y
  index : after.registers.i = m.registers.i ∨ i.SetsIndex
  memory : ∀ a, after.memory.byte a = m.memory.byte a ∨ i.Stores m a
  screen : after.screen = m.screen ∨ i.Paints

end Instruction

namespace Machine

theorem get_set_or (m : Machine) (x y : Register) (value : UInt8) :
    (m.set x value).get y = m.get y ∨ y = x := by
  by_cases same : x = y
  · exact .inr same.symm
  · exact .inl ((m.registers.get_set x y value).trans (if_neg same))

end Machine

theorem Registers.length_upTo (r : Registers) (x : Register) : (r.upTo x).length = x.val + 1 := by
  simp only [upTo, List.length_take, Vector.length_toList]
  omega

theorem Registers.index_fill (r : Registers) (bytes : List UInt8) : (r.fill bytes).i = r.i := by
  rw [fill]

/-- Filled from a slice of memory, a register holds its byte. -/
theorem Registers.get_fill_slice (r : Registers) (memory : Memory) (start : Nat) (x y : Register) :
    (r.fill (memory.slice start (x.val + 1))).get y =
      if y ≤ x then memory.byte (start + y.val) else r.get y := by
  rw [get_fill]
  split
  · next filled =>
    rw [Memory.getElem?_slice _ (Nat.lt_succ_of_le filled)]
    rfl
  · next above =>
    -- there is no byte for a register above the last one
    have past : x.val + 1 ≤ y.val := Nat.lt_of_not_le above
    rw [List.getElem?_eq_none (by rwa [Memory.length_slice])]
    rfl

theorem Operation.isSome_flag {operation : Operation} {x y : UInt8}
    (h : (operation.apply x y).2.isSome) : operation.SetsFlag := by
  cases operation <;> trivial

namespace Instruction

variable {c after : Console} {i : Instruction} {effect : Effect}

/-- An instruction that touches none of these parts keeps them. -/
theorem keeps_of_same {m after : Machine} (v : after.registers.v = m.registers.v)
    (index : after.registers.i = m.registers.i) (memory : after.memory = m.memory)
    (screen : after.screen = m.screen) : i.Keeps m after where
  registers y := by
    rw [Machine.get, Machine.get, Registers.get, Registers.get, v]
    exact .inl rfl
  index := .inl index
  memory _ := .inl (by rw [memory])
  screen := .inl screen

/-- An instruction that changes nothing but byte registers keeps the rest. -/
theorem keeps_mapRegisters {m : Machine} {f : Registers → Registers}
    (registers : ∀ y, (f m.registers).get y = m.registers.get y ∨ i.Writes y)
    (index : (f m.registers).i = m.registers.i) : i.Keeps m (m.mapRegisters f) where
  registers := registers
  index := .inl index
  memory _ := .inl rfl
  screen := .inl rfl

/-- An instruction that does nothing but write a register keeps the rest. -/
theorem keeps_set {m : Machine} {x : Register} (value : UInt8) (register : i.Writes x) :
    i.Keeps m (m.set x value) := by
  refine keeps_mapRegisters (fun y => ?_) rfl
  rcases m.get_set_or x y value with kept | rfl
  · exact .inl kept
  · exact .inr register

/-- An instruction that does nothing but write a result keeps the rest. -/
theorem keeps_setWithFlag {m : Machine} {x : Register} {result : UInt8 × Option Bool}
    (register : i.Writes x) (flag : result.2.isSome → i.Writes flagRegister) :
    i.Keeps m (m.setWithFlag x result) := by
  obtain ⟨value, _ | flagged⟩ := result
  · exact keeps_set value register
  · -- the flag comes after the value
    have first : i.Keeps m (m.set x value) := keeps_set value register
    have second : i.Keeps (m.set x value) ((m.set x value).mapRegisters (·.setFlag flagged)) :=
      keeps_set _ (flag rfl)
    exact
      { registers y := (second.registers y).elim (fun same => same ▸ first.registers y) .inr
        index := .inl rfl
        memory _ := .inl rfl
        screen := .inl rfl }

/-- An instruction that does nothing but write memory keeps the rest. -/
theorem keeps_overwrite {m : Machine} {bytes : List UInt8}
    (fits : m.registers.i.toNat + bytes.length ≤ memorySize)
    (stores : ∀ a, m.registers.i.toNat ≤ a → a < m.registers.i.toNat + bytes.length →
      i.Stores m a) :
    i.Keeps m { m with memory := m.memory.overwrite m.registers.i.toNat bytes } where
  registers _ := .inl rfl
  index := .inl rfl
  memory a := by
    by_cases inside : m.registers.i.toNat ≤ a ∧ a < m.registers.i.toNat + bytes.length
    · exact .inr (stores a inside.1 inside.2)
    · exact .inl (Memory.byte_overwrite_of_outside fits (by omega))
  screen := .inl rfl

/-- **An instruction leaves alone** what it does not write, set, store or paint. -/
theorem execute_keeps (h : i.execute.on c = (.ok effect, after)) :
    i.Keeps c.machine after.machine := by
  cases i with
  | ret | call =>
    rw [execute, Console.theMachine_bind] at h
    obtain ⟨_, -, h⟩ := InPlace.lift_bind_eq_ok.1 h
    cases h
    exact keeps_of_same rfl rfl rfl rfl
  | draw x y rows =>
    rw [execute, Console.theMachine_bind] at h
    obtain ⟨_, -, h⟩ := InPlace.lift_bind_eq_ok.1 h
    cases h
    exact ⟨fun _ => Machine.get_set_or _ _ _ _, .inl rfl, fun _ => .inl rfl,
      .inr trivial⟩
  | storeDecimal x =>
    rw [execute, Console.theMachine_bind] at h
    obtain ⟨memory, write, h⟩ := InPlace.lift_bind_eq_ok.1 h
    cases h
    obtain ⟨fits, rfl⟩ := Memory.writeRange_spec write
    exact keeps_overwrite fits fun a above below => ⟨above, Nat.le_of_lt_succ below⟩
  | storeRegisters x =>
    rw [execute, Console.theMachine_bind] at h
    obtain ⟨memory, write, h⟩ := InPlace.lift_bind_eq_ok.1 h
    cases h
    obtain ⟨fits, rfl⟩ := Memory.writeRange_spec write
    refine keeps_overwrite fits fun a above below => ⟨above, ?_⟩
    rw [Registers.length_upTo] at below
    omega
  | loadRegisters x =>
    rw [execute, Console.theMachine_bind] at h
    obtain ⟨bytes, read, h⟩ := InPlace.lift_bind_eq_ok.1 h
    cases h
    obtain ⟨-, rfl⟩ := Memory.readRange_spec read
    simp only [Console.mapMachine]
    refine keeps_mapRegisters (fun y => ?_) (Registers.index_fill _ _)
    rw [Registers.get_fill_slice]
    split
    · next filled => exact .inr filled
    · exact .inl rfl
  | skip test =>
    rw [execute_skip] at h
    cases h
    split <;> exact keeps_of_same rfl rfl rfl rfl
  | combine operation x y =>
    cases h
    exact keeps_setWithFlag (m := c.machine) (Or.inl rfl)
      fun flagged => Or.inr ⟨Operation.isSome_flag flagged, rfl⟩
  | shiftRight x | shiftLeft x =>
    cases h
    simp only [Console.mapMachine]
    exact keeps_setWithFlag (Or.inl rfl) fun _ => Or.inr rfl
  | loadByte | addByte | loadDelay =>
    cases h
    exact keeps_set _ rfl
  | random =>
    cases h
    exact ⟨fun _ => Machine.get_set_or _ _ _ _, .inl rfl, fun _ => .inl rfl, .inl rfl⟩
  | clearScreen =>
    cases h
    exact ⟨fun _ => .inl rfl, .inl rfl, fun _ => .inl rfl, .inr trivial⟩
  | loadIndex | addIndex | loadGlyph =>
    cases h
    exact ⟨fun _ => .inl rfl, .inr trivial, fun _ => .inl rfl, .inl rfl⟩
  | jump | jumpOffset | setDelay | setSound | awaitKey =>
    cases h
    exact keeps_of_same rfl rfl rfl rfl

/-- Loading registers fills each of them with its byte. -/
theorem get_execute_loadRegisters {x y : Register} (filled : y ≤ x)
    (h : (loadRegisters x).execute.on c = (.ok effect, after)) :
    after.machine.get y = c.machine.memory.byte (c.machine.registers.i.toNat + y.val) := by
  rw [execute, Console.theMachine_bind] at h
  obtain ⟨bytes, read, h⟩ := InPlace.lift_bind_eq_ok.1 h
  cases h
  obtain ⟨-, rfl⟩ := Memory.readRange_spec read
  exact (Registers.get_fill_slice _ _ _ x y).trans (if_pos filled)

end Instruction

/-! ## Words -/

namespace Word

/-- The word writes its result to `VX`. -/
def HasDestination (w : Word) : Prop :=
  w.group.val = 0x6 ∨ w.group.val = 0x7 ∨ w.group.val = 0x8 ∨ w.group.val = 0xC ∨ w.IsMisc 0x07

/-- The word puts a flag into `VF`. -/
def SetsFlag (w : Word) : Prop :=
  w.group.val = 0x8 ∧ (0x4 ≤ w.nibble.val ∧ w.nibble.val ≤ 0x7 ∨ w.nibble.val = 0xE) ∨
    w.group.val = 0xD

variable {w : Word} {i : Instruction}

theorem StandsFor.of_writes (h : w.StandsFor i) {y : Register} (writes : i.Writes y) :
    y = w.x ∧ w.HasDestination ∨ y = flagRegister ∧ w.SetsFlag ∨ y ≤ w.x ∧ w.IsMisc 0x65 := by
  cases h with
  | loadByte group => exact .inl ⟨writes, .inl group⟩
  | addByte group => exact .inl ⟨writes, .inr (.inl group)⟩
  | random group => exact .inl ⟨writes, .inr (.inr (.inr (.inl group)))⟩
  | loadDelay word => exact .inl ⟨writes, .inr (.inr (.inr (.inr word)))⟩
  | @combine operation group digit =>
    rcases writes with rfl | ⟨flag, rfl⟩
    · exact .inl ⟨rfl, .inr (.inr (.inl group))⟩
    · refine .inr (.inl ⟨rfl, .inl ⟨group, ?_⟩⟩)
      rw [digit]
      cases operation <;> first | decide | cases flag
  | shiftRight group digit | shiftLeft group digit =>
    rcases writes with rfl | rfl
    · exact .inl ⟨rfl, .inr (.inr (.inl group))⟩
    · exact .inr (.inl ⟨rfl, .inl ⟨group, by omega⟩⟩)
  | draw group => exact .inr (.inl ⟨writes, .inr group⟩)
  | loadRegisters word => exact .inr (.inr ⟨writes, word⟩)
  | _ => cases writes

theorem StandsFor.of_setsIndex (h : w.StandsFor i) (sets : i.SetsIndex) :
    w.group.val = 0xA ∨ w.IsMisc 0x1E ∨ w.IsMisc 0x29 := by
  cases h with
  | loadIndex group => exact .inl group
  | addIndex word => exact .inr (.inl word)
  | loadGlyph word => exact .inr (.inr word)
  | _ => cases sets

theorem StandsFor.of_stores (h : w.StandsFor i) {m : Machine} {a : Nat} (stores : i.Stores m a) :
    m.registers.i.toNat ≤ a ∧
      (w.IsMisc 0x33 ∧ a ≤ m.registers.i.toNat + 2 ∨
        w.IsMisc 0x55 ∧ a ≤ m.registers.i.toNat + w.x.val) := by
  cases h with
  | storeDecimal word => exact ⟨stores.1, .inl ⟨word, stores.2⟩⟩
  | storeRegisters word => exact ⟨stores.1, .inr ⟨word, stores.2⟩⟩
  | _ => cases stores

theorem StandsFor.of_paints (h : w.StandsFor i) (paints : i.Paints) :
    w = 0x00E0 ∨ w.group.val = 0xD := by
  cases h with
  | clearScreen word => exact .inl word
  | draw group => exact .inr group
  | _ => cases paints

theorem StandsFor.stack_or (h : w.StandsFor i) {m after : Machine} (course : i.Course m after) :
    after.stack = m.stack ∨ w.group.val = 0x2 ∨ w = 0x00EE := by
  cases h with
  | ret word => exact .inr (.inr word)
  | call group => exact .inr (.inl group)
  | _ => exact .inl course.1

theorem StandsFor.timers_or (h : w.StandsFor i) (m : Machine) :
    ((i.timersAfter m).delay = m.timers.delay ∨ w.IsMisc 0x15) ∧
      ((i.timersAfter m).sound = m.timers.sound ∨ w.IsMisc 0x18) := by
  cases h with
  | setDelay word => exact ⟨.inr word, .inl rfl⟩
  | setSound word => exact ⟨.inl rfl, .inr word⟩
  | _ => exact ⟨.inl rfl, .inl rfl⟩

theorem StandsFor.random_or (h : w.StandsFor i) (stream : Keystream) :
    i.randomAfter stream = stream ∨ w.group.val = 0xC := by
  cases h with
  | random group => exact .inr group
  | _ => exact .inl rfl

theorem StandsFor.status_or (h : w.StandsFor i) (m : Machine) :
    i.statusAfter m = m.status ∨ w.IsMisc 0x0A := by
  cases h with
  | awaitKey word => exact .inr word
  | _ => exact .inl rfl

theorem StandsFor.keypad_or (h : w.StandsFor i) (p : Keypad) :
    (i.keypadAfter p).down = p.down ∧
      ((i.keypadAfter p).presses = p.presses ∨ w.IsMisc 0x0A) := by
  cases h with
  | awaitKey word => exact ⟨rfl, .inr word⟩
  | _ => exact ⟨rfl, .inl rfl⟩

/-- The words whose effects are told apart by what they do to the outside. -/
theorem StandsFor.effect_iff (h : w.StandsFor i) :
    (i.effect = .cleared ↔ w = 0x00E0) ∧ (i.effect = .drew ↔ w.group.val = 0xD) ∧
      (i.effect = .sounded ↔ w.IsMisc 0x18) := by
  refine ⟨⟨fun same => ?_, fun word => ?_⟩, ⟨fun same => ?_, fun group => ?_⟩,
    ⟨fun same => ?_, fun word => ?_⟩⟩
  · cases h with
    | clearScreen word => exact word
    | _ => cases same
  · rw [h.unique (.clearScreen word)]
    rfl
  · cases h with
    | draw group => exact group
    | _ => cases same
  · rw [h.unique (.draw group)]
    rfl
  · cases h with
    | setSound word => exact word
    | _ => cases same
  · rw [h.unique (.setSound word)]
    rfl

end Word

/-! ## Steps -/

namespace Console

/-- What a step may change in a console when it carries out a word: each part with
    the words that change it. -/
structure Footprint (w : Word) (effect : Effect) (c after : Console) : Prop where
  memory : ∀ a, after.machine.memory.byte a = c.machine.memory.byte a ∨
    c.machine.registers.i.toNat ≤ a ∧
      (w.IsMisc 0x33 ∧ a ≤ c.machine.registers.i.toNat + 2 ∨
        w.IsMisc 0x55 ∧ a ≤ c.machine.registers.i.toNat + w.x.val)
  screen : after.machine.screen = c.machine.screen ∨ w = 0x00E0 ∨ w.group.val = 0xD
  cleared : effect = .cleared ↔ w = 0x00E0
  drew : effect = .drew ↔ w.group.val = 0xD
  stack : after.machine.stack = c.machine.stack ∨ w.group.val = 0x2 ∨ w = 0x00EE
  delay : after.machine.timers.delay = c.machine.timers.delay ∨ w.IsMisc 0x15
  sound : after.machine.timers.sound = c.machine.timers.sound ∨ w.IsMisc 0x18
  sounded : effect = .sounded ↔ w.IsMisc 0x18
  reported : after.machine.timers.reported = c.machine.timers.reported
  index : after.machine.registers.i = c.machine.registers.i ∨
    w.group.val = 0xA ∨ w.IsMisc 0x1E ∨ w.IsMisc 0x29
  status : after.machine.status = c.machine.status ∨ w.IsMisc 0x0A
  random : after.machine.random = c.machine.random ∨ w.group.val = 0xC
  presses : after.keypad.presses = c.keypad.presses ∨ w.IsMisc 0x0A
  down : after.keypad.down = c.keypad.down
  registers : ∀ y, after.machine.get y = c.machine.get y ∨
    y = w.x ∧ w.HasDestination ∨ y = flagRegister ∧ w.SetsFlag ∨ y ≤ w.x ∧ w.IsMisc 0x65
  /-- All of the registers up to `VX` are loaded. -/
  loaded : w.IsMisc 0x65 → ∀ y ≤ w.x,
    after.machine.get y = c.machine.memory.byte (c.machine.registers.i.toNat + y.val)

/-- **Footprint.**  A step of a running machine that comes to no fault carries out
    the word at the program counter, and changes nothing but what that word may
    change. -/
theorem step_footprint {c after : Console} {effect : Effect}
    (running : c.machine.status = .running) (h : c.step = (.ok effect, after)) :
    ∃ w, c.machine.fetch = .ok w ∧ c.Footprint w effect after := by
  cases step_spec h with
  | halted status | waits status | resumes status => rw [status] at running; cases running
  | @executes i _ _ _ found execute =>
    obtain ⟨w, fetch, decode⟩ := Machine.fetch_of_fetchInstruction found
    have stands : w.StandsFor i := Word.standsFor_of_decode decode
    obtain rfl : effect = i.effect := Instruction.execute_effect execute
    have keeps : i.Keeps c.advance.machine after.machine := Instruction.execute_keeps execute
    have course : i.Course c.advance.machine after.machine := Instruction.execute_course execute
    have timers : after.machine.timers = i.timersAfter c.machine := by
      have timed := i.timers_execute c.advance
      rw [execute] at timed
      exact timed.trans (Instruction.timersAfter_advance _ _)
    have random : after.machine.random = i.randomAfter c.machine.random := by
      have drawn := i.random_execute c.advance
      rwa [execute] at drawn
    have frame := Instruction.execute_frame execute
    obtain ⟨cleared, drew, sounded⟩ := stands.effect_iff
    refine ⟨w, fetch, ?_⟩
    exact
      { cleared, drew, sounded
        memory a := (keeps.memory a).imp_right stands.of_stores
        screen := keeps.screen.imp_right stands.of_paints
        stack := stands.stack_or (m := c.advance.machine) course
        delay := by rw [timers]; exact (stands.timers_or c.machine).1
        sound := by rw [timers]; exact (stands.timers_or c.machine).2
        reported := reported_step h
        index := keeps.index.imp_right stands.of_setsIndex
        random := by rw [random]; exact stands.random_or _
        status := by rw [frame]; exact stands.status_or c.advance.machine
        presses := by rw [frame]; exact (stands.keypad_or c.keypad).2
        down := by rw [frame]; exact (stands.keypad_or c.keypad).1
        registers y := (keeps.registers y).imp_right stands.of_writes
        loaded word y filled := by
          obtain rfl := stands.unique (.loadRegisters word)
          exact Instruction.get_execute_loadRegisters (c := c.advance) filled execute }

/-- A program that stores two registers where the index register says. -/
def storing : Console :=
  let machine := { Machine.new 0 with
    memory := Memory.zeros.overwrite programStart [0xF1, 0x55] }
  ⟨((machine.set (lastDigit 0) 0x11).set (lastDigit 1) 0x22).mapRegisters fun r => { r with i := 0x300 }, .idle⟩

/-- Its step writes both of them, and leaves the rest of memory alone. -/
theorem storing_footprint :
    storing.step.1 = .ok .plain ∧
      storing.step.2.machine.memory.slice 0x2FF 4 = [0, 0x11, 0x22, 0] ∧
      ∃ w, storing.machine.fetch = .ok w ∧ storing.Footprint w .plain storing.step.2 := by
  have found : storing.upcoming = some (.storeRegisters 1) := by decide +kernel
  have stored : storing.step.1 = .ok .plain := by
    rw [step_of_upcoming found]
    rfl
  have written : storing.step.2.machine.memory.slice 0x2FF 4 = [0, 0x11, 0x22, 0] := by
    decide +kernel
  have step : storing.step = (.ok .plain, storing.step.2) := by rw [← stored]
  exact ⟨stored, written, step_footprint rfl step⟩

end Console

end ChipEight
