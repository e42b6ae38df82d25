/-
  The course of a program — the program counter and the call stack.

  * `CallStack.bottomUp_push`, `CallStack.bottomUp_pop`: a call puts its return
    address on top of the others, and a return takes the topmost one;
  * `Instruction.Course` says where an instruction leads, and `execute_course` that
    it leads there;
  * `target_lt_of_decode`, `fetchInstruction_spec`: the operand of a jump is an
    address of memory, and so is the program counter when an instruction is found.
-/
import ChipEight.Proofs.Instruction.Formats
import ChipEight.Proofs.Machine.Step

namespace ChipEight

/-! ## The call stack -/

namespace CallStack

variable {s t : CallStack} {address : Address}

theorem length_bottomUp (s : CallStack) : s.bottomUp.length = s.depth := by
  rw [bottomUp, List.length_take, Vector.length_toList]
  exact Nat.min_eq_left s.depth_le

/-- **A call** puts its return address on top. -/
theorem bottomUp_push (h : s.push address = .ok t) : t.bottomUp = s.bottomUp ++ [address] := by
  obtain ⟨room, rfl⟩ := push_spec h
  have place : s.depth < (s.frames.set s.depth address room).toList.length := by
    rw [Vector.length_toList]
    exact room
  rw [bottomUp, List.take_add_one, List.getElem?_eq_getElem place]
  simp [bottomUp, Vector.toList_set, List.take_set_of_le]

/-- **A return** takes the topmost address. -/
theorem bottomUp_pop (h : s.pop = .ok (address, t)) : s.bottomUp = t.bottomUp ++ [address] := by
  obtain ⟨frames, _ | depth, depth_le⟩ := s
  · cases h
  · cases h
    have place : depth < frames.toList.length := by
      rw [Vector.length_toList]
      exact depth_le
    rw [bottomUp, List.take_add_one, List.getElem?_eq_getElem place]
    simp [bottomUp]

theorem push_of_lt (address : Address) (room : s.depth < stackSize) :
    ∃ t, s.push address = .ok t := ⟨_, dif_pos room⟩

theorem push_of_full (address : Address) (full : s.depth = stackSize) :
    s.push address = .error .stackOverflow := dif_neg (by omega)

theorem pop_of_pos (busy : 0 < s.depth) : ∃ address t, s.pop = .ok (address, t) := by
  obtain ⟨frames, _ | depth, depth_le⟩ := s
  · cases busy
  · exact ⟨_, _, rfl⟩

theorem pop_of_empty (idle : s.depth = 0) : s.pop = .error .stackUnderflow := by
  obtain ⟨frames, depth, depth_le⟩ := s
  obtain rfl : depth = 0 := idle
  rfl

end CallStack

/-! ## Where an instruction leads -/

namespace Instruction

/-- Where an instruction leads from a machine that is past it: the program counter
    and the call stack after it. -/
def Course (m after : Machine) : Instruction → Prop
  | .ret => m.stack.pop = .ok (after.registers.pc, after.stack)
  | .call target =>
    m.stack.push m.registers.pc = .ok after.stack ∧ after.registers.pc = target
  | .jump target => after.stack = m.stack ∧ after.registers.pc = target
  | .jumpOffset target =>
    after.stack = m.stack ∧ after.registers.pc = target + (m.get offsetRegister).toUInt16
  | .skip _ =>
    after.stack = m.stack ∧
      (after.registers.pc = m.registers.pc ∨ after.registers.pc = m.registers.pc + 2)
  | _ => after.stack = m.stack ∧ after.registers.pc = m.registers.pc

theorem setWithFlag_course (m : Machine) (x : Register) (result : UInt8 × Option Bool) :
    (m.setWithFlag x result).stack = m.stack ∧
      (m.setWithFlag x result).registers.pc = m.registers.pc := by
  obtain ⟨value, _ | flag⟩ := result <;> exact ⟨rfl, rfl⟩

/-- **An instruction that is carried out** leads where it should. -/
theorem execute_course {c after : Console} {i : Instruction} {effect : Effect}
    (h : i.execute.on c = (.ok effect, after)) : i.Course c.machine after.machine := by
  cases i with
  | ret =>
    rw [execute, Console.theMachine_bind] at h
    obtain ⟨_, pop, h⟩ := InPlace.lift_bind_eq_ok.1 h
    cases h
    exact pop
  | call target =>
    rw [execute, Console.theMachine_bind] at h
    obtain ⟨_, push, h⟩ := InPlace.lift_bind_eq_ok.1 h
    cases h
    exact ⟨push, rfl⟩
  | draw | storeDecimal | storeRegisters | loadRegisters =>
    rw [execute, Console.theMachine_bind] at h
    obtain ⟨_, -, h⟩ := InPlace.lift_bind_eq_ok.1 h
    cases h
    simp only [Course, Console.mapMachine, Machine.mapRegisters, Registers.fill,
      Registers.setFlag, Registers.set, and_self]
  | skip test =>
    rw [execute_skip] at h
    cases h
    split
    · exact ⟨rfl, .inr rfl⟩
    · exact ⟨rfl, .inl rfl⟩
  | combine | shiftRight | shiftLeft =>
    cases h
    exact setWithFlag_course _ _ _
  | _ => cases h; exact ⟨rfl, rfl⟩

/-! ## Where instructions come from -/

/-- The address that a jump or a call names. -/
def target? : Instruction → Option Address
  | .jump target | .call target | .jumpOffset target => some target
  | _ => none

variable {w : Word} {i : Instruction} {target : Address}

theorem target?_of_decodeCombine (h : decodeCombine w = some i) : i.target? = none := by
  unfold decodeCombine at h
  split at h <;> cases h <;> rfl

theorem target?_of_decodeMisc (h : decodeMisc w = some i) : i.target? = none := by
  unfold decodeMisc at h
  split at h <;> cases h <;> rfl

/-- **The operand of a jump** is an address of memory. -/
theorem target_lt_of_decode (h : decode w = some i) (named : i.target? = some target) :
    target.toNat < memorySize := by
  have operand : w.address.toNat < memorySize := w.address_lt
  unfold decode at h
  split at h
  case h_9 =>
    rw [target?_of_decodeCombine h] at named
    cases named
  case h_16 =>
    rw [target?_of_decodeMisc h] at named
    cases named
  case h_2 | h_3 | h_12 => cases h; cases named; exact operand
  -- no other word names a target
  case h_1 | h_6 | h_10 | h_15 => grind [target?]
  all_goals cases h; cases named

end Instruction

/-- The instruction that is found is the one that the word stands for. -/
theorem Machine.fetch_of_fetchInstruction {m : Machine} {i : Instruction}
    (h : m.fetchInstruction = .ok i) : ∃ w, m.fetch = .ok w ∧ Instruction.decode w = some i := by
  rcases fetch : m.fetch with fault | w
  · rw [fetchInstruction_of_error fetch] at h
    cases h
  · rw [fetchInstruction_of_ok fetch] at h
    split at h
    · next known => cases h; exact ⟨w, rfl, known⟩
    · cases h

/-- A running console is about to execute what the word at its program counter stands
    for. -/
theorem Console.upcoming_of_standsFor {c : Console} {w : Word} {i : Instruction}
    (running : c.machine.status = .running) (fetch : c.machine.fetch = .ok w)
    (stands : w.StandsFor i) : c.upcoming = some i := by
  refine upcoming_eq_some.2 ⟨running, ?_⟩
  rw [Machine.fetchInstruction_of_ok fetch, Word.decode_of_standsFor stands]

/-- The instruction that a step has before it comes from a word that stands for it. -/
theorem Console.exists_standsFor_of_upcoming {c : Console} {i : Instruction}
    (h : c.upcoming = some i) :
    c.machine.status = .running ∧ ∃ w, c.machine.fetch = .ok w ∧ w.StandsFor i := by
  obtain ⟨running, found⟩ := upcoming_eq_some.1 h
  obtain ⟨w, fetch, decode⟩ := Machine.fetch_of_fetchInstruction found
  exact ⟨running, w, fetch, Word.standsFor_of_decode decode⟩

/-- **An instruction is found** where memory holds a word that stands for it. -/
theorem Machine.fetchInstruction_spec {m : Machine} {i : Instruction}
    (h : m.fetchInstruction = .ok i) :
    m.registers.pc.toNat + 1 < memorySize ∧ ∃ w, Instruction.decode w = some i := by
  obtain ⟨w, fetch, known⟩ := fetch_of_fetchInstruction h
  refine ⟨Nat.lt_of_not_le fun outside => ?_, w, known⟩
  -- the second byte of the word is read last
  rw [Machine.fetch, Memory.readPair, Memory.read, Memory.read,
    if_neg (Nat.not_lt.2 outside)] at fetch
  split at fetch <;> cases fetch

/-- The program counter does not wrap around when it moves past an instruction. -/
theorem Machine.toNat_pc_advance {m : Machine} {i : Instruction} (h : m.fetchInstruction = .ok i) :
    m.advance.registers.pc.toNat = m.registers.pc.toNat + 2 := by
  have inside : m.registers.pc.toNat + 1 < 4096 := (fetchInstruction_spec h).1
  change (m.registers.pc + 2).toNat = _
  simp only [UInt16.toNat_add, UInt16.toNat_ofNat]
  omega

end ChipEight
