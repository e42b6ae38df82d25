/-
  Transfer — registers that are stored, and loaded again.

  * `Machine.Stored` and `Machine.Loaded` say what the machine is after `V0` to `VX` have
    been stored, or loaded; a step that carries out one of the two succeeds if the bytes
    lie in memory, and leaves such a machine (`step_store`, `step_load`);
  * `Machine.Records x values`: the bytes from the index register on are the values of
    `V0` to `VX`.  Storing makes such a record of the registers, loading reads one, and
    storing over a record of the registers changes nothing;
  * `transfer_round_trip`: what was stored is loaded again, whatever has happened in
    between to the rest of the machine, and loading and storing leaves memory as it was.
-/
import ChipEight.Proofs.Machine.Footprint

namespace ChipEight

/-! ## Bytes -/

theorem Registers.getElem?_upTo (r : Registers) {x y : Register} (covered : y ≤ x) :
    (r.upTo x)[y.val]? = some (r.get y) := by
  have place : y.val < x.val + 1 := Nat.lt_succ_of_le covered
  simp [upTo, get, place]

namespace Memory

variable {m : Memory} {start : Nat} {bytes : List UInt8}

/-- To write what is there already changes nothing. -/
theorem overwrite_of_same (fits : start + bytes.length ≤ memorySize)
    (same : ∀ n byte, bytes[n]? = some byte → m.byte (start + n) = byte) :
    m.overwrite start bytes = m := by
  refine ext_byte fun a => ?_
  by_cases before : a < start
  · exact byte_overwrite_of_outside fits (.inl before)
  · obtain ⟨n, rfl⟩ := Nat.exists_eq_add_of_le (Nat.le_of_not_lt before)
    rw [byte_overwrite_add fits]
    cases found : bytes[n]? with
    | none => rfl
    | some byte => exact (same n byte found).symm

end Memory

/-! ## Records -/

namespace Machine

/-- The bytes of a transfer of `V0` to `VX` lie in memory. -/
def Fits (m : Machine) (x : Register) : Prop := m.registers.i.toNat + x.val < memorySize

/-- The bytes from the index register on are the values of `V0` to `VX`. -/
def Records (m : Machine) (x : Register) (values : Register → UInt8) : Prop :=
  ∀ y ≤ x, m.memory.byte (m.registers.i.toNat + y.val) = values y

/-- The index register is the same, and so are the bytes of a transfer of `V0` to `VX`. -/
structure SameCells (x : Register) (m d : Machine) : Prop where
  index : d.registers.i = m.registers.i
  bytes : ∀ a, m.registers.i.toNat ≤ a → a ≤ m.registers.i.toNat + x.val →
    d.memory.byte a = m.memory.byte a

/-- `V0` to `VX` have been stored. -/
structure Stored (x : Register) (m after : Machine) : Prop where
  fits : m.Fits x
  memory : after.memory = m.memory.overwrite m.registers.i.toNat (m.registers.upTo x)
  index : after.registers.i = m.registers.i
  registers : ∀ y, after.get y = m.get y

/-- `V0` to `VX` have been loaded. -/
structure Loaded (x : Register) (m after : Machine) : Prop where
  fits : m.Fits x
  memory : after.memory = m.memory
  index : after.registers.i = m.registers.i
  registers : ∀ y, after.get y =
    if y ≤ x then m.memory.byte (m.registers.i.toNat + y.val) else m.get y

variable {m d after : Machine} {x y : Register} {values : Register → UInt8}

theorem Fits.length_upTo (fits : m.Fits x) :
    m.registers.i.toNat + (m.registers.upTo x).length ≤ memorySize := by
  rw [Registers.length_upTo]
  exact fits

theorem Fits.mono (fits : m.Fits x) (index : d.registers.i = m.registers.i) (below : y ≤ x) :
    d.Fits y := by
  rw [Fits, index]
  exact Nat.lt_of_le_of_lt (Nat.add_le_add_left below _) fits

/-- A record is there wherever the same bytes are, and it is one of the lower registers
    too. -/
theorem Records.mono (h : m.Records x values) (same : m.SameCells x d) (below : y ≤ x) :
    d.Records y values := by
  intro z covered
  have still : z ≤ x := Nat.le_trans covered below
  rw [same.index, same.bytes _ (Nat.le_add_right _ _) (Nat.add_le_add_left still _)]
  exact h z still

/-- **What is stored** is a record of the registers. -/
theorem Stored.records (h : m.Stored x after) : after.Records x m.get := by
  intro y covered
  rw [h.memory, h.index, Memory.byte_overwrite_add h.fits.length_upTo,
    Registers.getElem?_upTo _ covered]
  rfl

/-- To store the registers over a record of them changes nothing. -/
theorem Stored.memory_of_records (h : m.Stored x after) (recorded : m.Records x m.get) :
    after.memory = m.memory := by
  rw [h.memory]
  refine Memory.overwrite_of_same h.fits.length_upTo fun n byte found => ?_
  have short : n < x.val + 1 := by
    rw [← m.registers.length_upTo x]
    exact (List.getElem?_eq_some_iff.1 found).1
  have covered : (⟨n, by omega⟩ : Register) ≤ x := Nat.le_of_lt_succ short
  rw [Registers.getElem?_upTo m.registers covered] at found
  exact (recorded _ covered).trans (Option.some.inj found)

/-- **What is loaded** are the values of a record. -/
theorem Loaded.get_of_records (h : m.Loaded x after) (recorded : m.Records x values)
    (covered : y ≤ x) : after.get y = values y := by
  rw [h.registers, if_pos covered]
  exact recorded y covered

/-- Once loaded, the registers are the ones of the record. -/
theorem Loaded.records (h : m.Loaded x after) : after.Records x after.get := by
  intro y covered
  rw [h.registers, if_pos covered, h.memory, h.index]

end Machine

/-! ## Instructions -/

namespace Instruction

variable {c after : Console} {x : Register} {effect : Effect}

theorem execute_storeRegisters (h : (storeRegisters x).execute.on c = (.ok effect, after)) :
    c.machine.Stored x after.machine := by
  rw [execute, Console.theMachine_bind] at h
  obtain ⟨memory, write, h⟩ := InPlace.lift_bind_eq_ok.1 h
  cases h
  obtain ⟨fits, rfl⟩ := Memory.writeRange_spec write
  rw [Registers.length_upTo] at fits
  exact ⟨fits, rfl, rfl, fun _ => rfl⟩

theorem execute_loadRegisters (h : (loadRegisters x).execute.on c = (.ok effect, after)) :
    c.machine.Loaded x after.machine := by
  rw [execute, Console.theMachine_bind] at h
  obtain ⟨bytes, read, h⟩ := InPlace.lift_bind_eq_ok.1 h
  cases h
  obtain ⟨fits, rfl⟩ := Memory.readRange_spec read
  simp only [Console.mapMachine, Machine.mapRegisters]
  exact ⟨fits, rfl, Registers.index_fill _ _, Registers.get_fill_slice _ _ _ x⟩

theorem execute_storeRegisters_of_fits (fits : c.machine.Fits x) :
    ∃ after, (storeRegisters x).execute.on c = (.ok .plain, after) := by
  rw [execute, Console.theMachine_bind]
  exact ⟨_, InPlace.lift_bind_eq_ok.2 ⟨_, Memory.writeRange_of_le fits.length_upTo, rfl⟩⟩

theorem execute_loadRegisters_of_fits (fits : c.machine.Fits x) :
    ∃ after, (loadRegisters x).execute.on c = (.ok .plain, after) := by
  rw [execute, Console.theMachine_bind]
  exact ⟨_, InPlace.lift_bind_eq_ok.2 ⟨_, Memory.readRange_of_le fits, rfl⟩⟩

end Instruction

/-! ## Steps -/

namespace Console

/-- A running machine has a word `FX` with these two digits before it. -/
def Meets (c : Console) (low : UInt8) (x : Register) : Prop :=
  c.machine.status = .running ∧ ∃ w, c.machine.fetch = .ok w ∧ w.IsMisc low ∧ w.x = x

variable {c after : Console} {x : Register} {effect : Effect}

theorem meets_store_iff : c.Meets 0x55 x ↔ c.upcoming = some (.storeRegisters x) := by
  constructor
  · rintro ⟨running, w, fetch, misc, rfl⟩
    exact upcoming_of_standsFor running fetch (.storeRegisters misc)
  · intro h
    obtain ⟨running, w, fetch, stands⟩ := exists_standsFor_of_upcoming h
    cases stands with
    | storeRegisters misc => exact ⟨running, w, fetch, misc, rfl⟩

theorem meets_load_iff : c.Meets 0x65 x ↔ c.upcoming = some (.loadRegisters x) := by
  constructor
  · rintro ⟨running, w, fetch, misc, rfl⟩
    exact upcoming_of_standsFor running fetch (.loadRegisters misc)
  · intro h
    obtain ⟨running, w, fetch, stands⟩ := exists_standsFor_of_upcoming h
    cases stands with
    | loadRegisters misc => exact ⟨running, w, fetch, misc, rfl⟩

/-- **A step that stores registers**, and comes to no fault. -/
theorem step_store (h : c.Meets 0x55 x) (step : c.step = (.ok effect, after)) :
    c.machine.Stored x after.machine := by
  have stored := Instruction.execute_storeRegisters ((step_eq_ok_iff (meets_store_iff.1 h)).1 step)
  exact ⟨stored.fits, stored.memory, stored.index, stored.registers⟩

/-- **A step that loads registers**, and comes to no fault. -/
theorem step_load (h : c.Meets 0x65 x) (step : c.step = (.ok effect, after)) :
    c.machine.Loaded x after.machine := by
  have loaded := Instruction.execute_loadRegisters ((step_eq_ok_iff (meets_load_iff.1 h)).1 step)
  exact ⟨loaded.fits, loaded.memory, loaded.index, loaded.registers⟩

theorem step_store_of_fits (h : c.Meets 0x55 x) (fits : c.machine.Fits x) :
    ∃ after, c.step = (.ok .plain, after) := by
  obtain ⟨after, stored⟩ := Instruction.execute_storeRegisters_of_fits (c := c.advance) fits
  exact ⟨after, (step_eq_ok_iff (meets_store_iff.1 h)).2 stored⟩

theorem step_load_of_fits (h : c.Meets 0x65 x) (fits : c.machine.Fits x) :
    ∃ after, c.step = (.ok .plain, after) := by
  obtain ⟨after, loaded⟩ := Instruction.execute_loadRegisters_of_fits (c := c.advance) fits
  exact ⟨after, (step_eq_ok_iff (meets_load_iff.1 h)).2 loaded⟩

/-- A step that loads registers leaves memory alone, if it does not come to a fault, and if
    it does. -/
theorem memory_step_load (h : c.Meets 0x65 x) : c.step.2.machine.memory = c.machine.memory := by
  rcases step : c.step with ⟨fault | effect, after⟩
  · cases step_spec step with
    | unfetched | refused => rfl
  · exact (step_load h step).memory

/-- **Dump and restore.**  Once `V0` to `VX` have been stored, a step of a machine that has
    the same index register and the same bytes there, and that is to load `V0` to `VY`, of
    which there are no more, succeeds: those registers are what they were, and the others
    and the index register stay.  Conversely, loading registers leaves memory as it was;
    and if it has succeeded, then so does storing them again, with the next step or later
    on, and leaves memory as it was too. -/
theorem transfer_round_trip (c : Console) (x : Register) :
    (c.Meets 0x55 x → ∀ effect after, c.step = (.ok effect, after) →
      ∀ (d : Console) (y : Register), y ≤ x → d.Meets 0x65 y →
        after.machine.SameCells x d.machine →
        ∃ last, d.step = (.ok .plain, last) ∧
          (∀ z ≤ y, last.machine.get z = c.machine.get z) ∧
          (∀ z, y < z → last.machine.get z = d.machine.get z) ∧
          last.machine.registers.i = d.machine.registers.i) ∧
    (c.Meets 0x65 x → c.step.2.machine.memory = c.machine.memory ∧
      ∀ effect after, c.step = (.ok effect, after) →
        ∀ d : Console, d.Meets 0x55 x → after.machine.SameCells x d.machine →
          (∀ z ≤ x, d.machine.get z = after.machine.get z) →
          ∃ last, d.step = (.ok .plain, last) ∧ last.machine.memory = d.machine.memory) := by
  constructor
  · intro stores effect after step d y below loads same
    have stored := step_store stores step
    have recorded : d.machine.Records y c.machine.get := stored.records.mono same below
    have inside : d.machine.Fits y := stored.fits.mono (same.index.trans stored.index) below
    obtain ⟨last, again⟩ := step_load_of_fits loads inside
    have loaded := step_load loads again
    refine ⟨last, again, fun z covered => loaded.get_of_records recorded covered, ?_, loaded.index⟩
    intro z above
    rw [loaded.registers, if_neg (Fin.not_le.2 above)]
  · intro loads
    refine ⟨memory_step_load loads, fun effect after step d stores same registers => ?_⟩
    have loaded := step_load loads step
    have recorded : d.machine.Records x after.machine.get := loaded.records.mono same (Nat.le_refl _)
    have inside : d.machine.Fits x :=
      loaded.fits.mono (same.index.trans loaded.index) (Nat.le_refl _)
    obtain ⟨last, again⟩ := step_store_of_fits stores inside
    refine ⟨last, again, (step_store stores again).memory_of_records fun z covered => ?_⟩
    exact (recorded z covered).trans (registers z covered).symm

/-- A program that stores two registers, clears the first, and loads and stores both. -/
def dumping : Console :=
  ⟨{ Machine.new 0 with
      registers := { (Registers.initial.set (lastDigit 0) 7).set (lastDigit 1) 9 with i := 0x300 }
      memory := Memory.zeros.overwrite programStart
        [0xF1, 0x55, 0x60, 0x00, 0xF1, 0x65, 0xF1, 0x55] }, .idle⟩

/-- It has its first register back in the end. -/
theorem dumping_restored :
    ∃ stored cleared loaded last,
      dumping.Meets 0x55 1 ∧ dumping.step = (.ok .plain, stored) ∧
      stored.step = (.ok .plain, cleared) ∧ cleared.machine.get 0 = 0 ∧
      cleared.Meets 0x65 1 ∧ cleared.step = (.ok .plain, loaded) ∧
      loaded.machine.get 0 = dumping.machine.get 0 ∧
      loaded.Meets 0x55 1 ∧ loaded.step = (.ok .plain, last) ∧
      last.machine.memory = cleared.machine.memory := by
  have fits : dumping.machine.Fits 1 := by
    show 0x300 + 1 < 4096
    decide
  have first : dumping.Meets 0x55 1 := meets_store_iff.2 (by decide +kernel)
  obtain ⟨stored, store⟩ := step_store_of_fits first fits
  have second : dumping.step.2.upcoming = some (.loadByte 0 0) := by decide +kernel
  have third : dumping.step.2.step.2.upcoming = some (.loadRegisters 1) := by decide +kernel
  have fourth : dumping.step.2.step.2.step.2.upcoming = some (.storeRegisters 1) := by
    decide +kernel
  rw [store] at second third fourth
  have clear : stored.step = (.ok .plain, stored.advance.mapMachine (·.set 0 0)) := by
    rw [step_of_upcoming second]
    rfl
  rw [clear] at third fourth
  obtain ⟨loaded, load, same, -⟩ :=
    (transfer_round_trip dumping 1).1 first _ _ store _ 1 (Nat.le_refl _)
      (meets_load_iff.2 third) ⟨rfl, fun _ _ _ => rfl⟩
  rw [load] at fourth
  obtain ⟨memory, again⟩ := (transfer_round_trip _ 1).2 (meets_load_iff.2 third)
  rw [load] at memory
  obtain ⟨last, storeAgain, kept⟩ := again _ _ load _ (meets_store_iff.2 fourth)
    ⟨rfl, fun _ _ _ => rfl⟩ fun _ _ => rfl
  exact ⟨_, _, loaded, last, first, store, clear, Registers.get_set _ 0 0 0,
    meets_load_iff.2 third, load, same 0 (Nat.zero_le _), meets_store_iff.2 fourth, storeAgain,
    kept.trans memory⟩

end Console

end ChipEight
