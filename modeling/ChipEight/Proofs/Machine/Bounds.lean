/-
  Bounds — when a step leaves memory, and where.

  * `Machine.Accesses` are the addresses of the bytes that the next instruction has to
    access: those of its word, and, by the format of the word, those from the index
    register on;
  * `Instruction.span?` is the number of the latter, if the instruction has any business
    there, and `execute_eq_outOfBounds_iff` says when it is refused for it;
  * `isLeast_range`: the least address of a range that lies outside memory;
  * `step_outOfBounds_iff`: a step leaves memory if it has to access a byte outside, and
    then the least such address is reported.  It is also refused if it draws a sprite
    without rows from an address past the end of memory, since a range is checked by its
    end (`farSprite_refused`).
-/
import Mathlib.Data.Set.Operations
import Mathlib.Order.Nat
import ChipEight.Proofs.Instruction.Formats
import ChipEight.Proofs.Machine.Course
import ChipEight.Proofs.Machine.Footprint

namespace ChipEight

/-! ## Ranges -/

namespace Memory

variable {m : Memory} {start length address : Nat}

theorem readRange_eq_outOfBounds_iff :
    m.readRange start length = .error (.outOfBounds address) ↔
      memorySize < start + length ∧ address = max start memorySize := by
  constructor
  · intro h
    obtain ⟨outside, same⟩ := readRange_error h
    exact ⟨outside, Fault.outOfBounds.inj same⟩
  · rintro ⟨outside, rfl⟩
    exact readRange_of_lt outside

theorem writeRange_eq_outOfBounds_iff {bytes : List UInt8} :
    m.writeRange start bytes = .error (.outOfBounds address) ↔
      memorySize < start + bytes.length ∧ address = max start memorySize := by
  constructor
  · intro h
    obtain ⟨outside, same⟩ := writeRange_error h
    exact ⟨outside, Fault.outOfBounds.inj same⟩
  · rintro ⟨outside, rfl⟩
    exact writeRange_of_lt outside

end Memory

/-- Work that needs a value, and comes to no fault once it has it, is refused for lack of
    the value. -/
theorem InPlace.lift_bind_refused_iff {σ α β : Type} {x : Except Fault α}
    {next : α → InPlace σ β} {s : σ} {fault : Fault}
    (goesOn : ∀ a, ∃ b t, (next a).on s = (.ok b, t)) :
    ((liftM x : InPlace σ α) >>= next).on s = (.error fault, s) ↔ x = .error fault := by
  rw [lift_bind_eq_error]
  constructor
  · rintro (⟨refused, -⟩ | ⟨a, -, h⟩)
    · exact refused
    · obtain ⟨b, t, done⟩ := goesOn a
      rw [done] at h
      cases h
  · intro refused
    exact .inl ⟨refused, rfl⟩

/-- The least address of a range that lies outside memory. -/
theorem isLeast_range {start length address : Nat} :
    IsLeast {a | (start ≤ a ∧ a < start + length) ∧ memorySize ≤ a} address ↔
      0 < length ∧ memorySize < start + length ∧ address = max start memorySize := by
  constructor
  · rintro ⟨⟨⟨above, below⟩, outside⟩, least⟩
    have first : address ≤ max start memorySize := least ⟨⟨by omega, by omega⟩, by omega⟩
    exact ⟨by omega, by omega, by omega⟩
  · rintro ⟨some, outside, rfl⟩
    refine ⟨⟨⟨by omega, by omega⟩, by omega⟩, ?_⟩
    rintro a ⟨⟨above, -⟩, past⟩
    omega

/-! ## Accesses -/

namespace Machine

/-- The program counter points to a word in memory. -/
def PointsTo (m : Machine) (w : Word) : Prop :=
  m.registers.pc.toNat + 1 < memorySize ∧
    w = Word.ofBytes (m.memory.byte m.registers.pc.toNat)
      (m.memory.byte (m.registers.pc.toNat + 1))

/-- The address of a byte that the next instruction has to access. -/
inductive Accesses (m : Machine) (a : Nat) : Prop
  | fetch (place : a = m.registers.pc.toNat ∨ a = m.registers.pc.toNat + 1)
  | draw {w : Word} (word : m.PointsTo w) (group : w.group.val = 0xD)
      (above : m.registers.i.toNat ≤ a) (below : a < m.registers.i.toNat + w.nibble.val)
  | storeDecimal {w : Word} (word : m.PointsTo w) (misc : w.IsMisc 0x33)
      (above : m.registers.i.toNat ≤ a) (below : a ≤ m.registers.i.toNat + 2)
  | transfer {w : Word} (word : m.PointsTo w) (misc : w.IsMisc 0x55 ∨ w.IsMisc 0x65)
      (above : m.registers.i.toNat ≤ a) (below : a ≤ m.registers.i.toNat + w.x.val)

/-- The next instruction draws a sprite without rows, from past the end of memory. -/
def DrawsNothingFar (m : Machine) : Prop :=
  ∃ w, m.PointsTo w ∧ w.group.val = 0xD ∧ w.nibble.val = 0 ∧ memorySize < m.registers.i.toNat

variable {m : Machine} {w : Word} {fault : Fault} {address : Nat}

theorem fetch_eq_ok_iff : m.fetch = .ok w ↔ m.PointsTo w := by
  constructor
  · intro h
    obtain ⟨⟨high, low⟩, pair, word⟩ := bind_eq_ok_iff.1 h
    obtain ⟨_, first, pair⟩ := bind_eq_ok_iff.1 pair
    obtain ⟨_, second, pair⟩ := bind_eq_ok_iff.1 pair
    cases pair
    cases word
    obtain ⟨-, rfl⟩ := Memory.read_eq_ok_iff.1 first
    obtain ⟨inside, rfl⟩ := Memory.read_eq_ok_iff.1 second
    exact ⟨inside, rfl⟩
  · rintro ⟨inside, rfl⟩
    exact fetch_of_lt inside

/-- The first byte of a word that lies outside memory is reported. -/
theorem fetch_of_le (outside : memorySize ≤ m.registers.pc.toNat + 1) :
    m.fetch = .error (.outOfBounds (max m.registers.pc.toNat memorySize)) := by
  rw [fetch, Memory.readPair, Memory.read, Memory.read, if_neg (Nat.not_lt.2 outside)]
  by_cases first : m.registers.pc.toNat < memorySize
  · have edge : m.registers.pc.toNat + 1 = memorySize := Nat.le_antisymm first outside
    rw [if_pos first, edge, Nat.max_eq_right (Nat.le_of_lt first)]
    rfl
  · rw [if_neg first, Nat.max_eq_left (Nat.le_of_not_lt first)]
    rfl

end Machine

/-! ## Instructions -/

namespace Instruction

/-- The number of bytes from the index register on that an instruction reads or writes. -/
def span? : Instruction → Option Nat
  | .draw _ _ rows => some rows.val
  | .storeDecimal _ => some 3
  | .storeRegisters x | .loadRegisters x => some (x.val + 1)
  | _ => none

variable {i : Instruction} {c : Console} {address : Nat}

/-- **An instruction leaves memory** if its bytes end outside. -/
theorem execute_eq_outOfBounds_iff :
    i.execute.on c = (.error (.outOfBounds address), c) ↔
      ∃ length, i.span? = some length ∧ memorySize < c.machine.registers.i.toNat + length ∧
        address = max c.machine.registers.i.toNat memorySize := by
  cases i with
  | draw | loadRegisters =>
    rw [execute, Console.theMachine_bind, InPlace.lift_bind_refused_iff]
    · rw [Memory.readRange_eq_outOfBounds_iff]
      simp [span?]
    · exact fun _ => ⟨_, _, rfl⟩
  | storeDecimal x =>
    rw [execute, Console.theMachine_bind, InPlace.lift_bind_refused_iff]
    · rw [Memory.writeRange_eq_outOfBounds_iff]
      simp [span?, decimalDigits]
    · exact fun _ => ⟨_, _, rfl⟩
  | storeRegisters x =>
    rw [execute, Console.theMachine_bind, InPlace.lift_bind_refused_iff]
    · rw [Memory.writeRange_eq_outOfBounds_iff, Registers.length_upTo]
      simp [span?]
    · exact fun _ => ⟨_, _, rfl⟩
  | ret =>
    rw [execute, Console.theMachine_bind, InPlace.lift_bind_refused_iff]
    · unfold CallStack.pop
      split <;> simp [span?]
    · exact fun _ => ⟨_, _, rfl⟩
  | call target =>
    rw [execute, Console.theMachine_bind, InPlace.lift_bind_refused_iff]
    · unfold CallStack.push
      split <;> simp [span?]
    · exact fun _ => ⟨_, _, rfl⟩
  | skip test =>
    rw [execute_skip]
    simp [span?]
  | _ =>
    constructor
    · rintro ⟨⟩
    · rintro ⟨_, ⟨⟩, -⟩

end Instruction

/-! ## Words -/

namespace Machine

variable {m : Machine} {w : Word} {a : Nat}

theorem PointsTo.unique {w' : Word} (h : m.PointsTo w) (h' : m.PointsTo w') : w = w' :=
  h.2.trans h'.2.symm

/-- The bytes that a word makes the machine access. -/
theorem PointsTo.accesses_iff (h : m.PointsTo w) :
    m.Accesses a ↔ (a = m.registers.pc.toNat ∨ a = m.registers.pc.toNat + 1) ∨
      ∃ i length, w.StandsFor i ∧ i.span? = some length ∧
        m.registers.i.toNat ≤ a ∧ a < m.registers.i.toNat + length := by
  constructor
  · intro accesses
    cases accesses with
    | fetch place => exact .inl place
    | draw word group above below =>
      obtain rfl := h.unique word
      exact .inr ⟨_, _, .draw group, rfl, above, below⟩
    | storeDecimal word misc above below =>
      obtain rfl := h.unique word
      exact .inr ⟨_, _, .storeDecimal misc, rfl, above, Nat.lt_succ_of_le below⟩
    | transfer word misc above below =>
      obtain rfl := h.unique word
      rcases misc with store | load
      · exact .inr ⟨_, _, .storeRegisters store, rfl, above, Nat.lt_succ_of_le below⟩
      · exact .inr ⟨_, _, .loadRegisters load, rfl, above, Nat.lt_succ_of_le below⟩
  · rintro (place | ⟨i, length, stands, span, above, below⟩)
    · exact .fetch place
    · cases stands with
      | draw group =>
        cases span
        exact .draw h group above below
      | storeDecimal misc =>
        cases span
        exact .storeDecimal h misc above (Nat.le_of_lt_succ below)
      | storeRegisters misc =>
        cases span
        exact .transfer h (.inl misc) above (Nat.le_of_lt_succ below)
      | loadRegisters misc =>
        cases span
        exact .transfer h (.inr misc) above (Nat.le_of_lt_succ below)
      | _ => cases span

theorem PointsTo.drawsNothingFar_iff (h : m.PointsTo w) :
    m.DrawsNothingFar ↔
      ∃ i, w.StandsFor i ∧ i.span? = some 0 ∧ memorySize < m.registers.i.toNat := by
  constructor
  · rintro ⟨w', word, group, rows, far⟩
    obtain rfl := h.unique word
    exact ⟨_, .draw group, congrArg some rows, far⟩
  · rintro ⟨i, stands, span, far⟩
    cases stands with
    | draw group => exact ⟨w, h, group, Option.some.inj span, far⟩
    | _ => cases span

/-- The least byte outside memory that a word in memory makes the machine access. -/
theorem PointsTo.isLeast_iff (h : m.PointsTo w) {address : Nat} :
    IsLeast {a | m.Accesses a ∧ memorySize ≤ a} address ↔
      ∃ i length, w.StandsFor i ∧ i.span? = some length ∧ 0 < length ∧
        memorySize < m.registers.i.toNat + length ∧ address = max m.registers.i.toNat memorySize := by
  have inside := h.1
  by_cases known : ∃ i length, w.StandsFor i ∧ i.span? = some length
  · obtain ⟨i, length, stands, span⟩ := known
    have same : {a | m.Accesses a ∧ memorySize ≤ a} =
        {a | (m.registers.i.toNat ≤ a ∧ a < m.registers.i.toNat + length) ∧ memorySize ≤ a} := by
      ext a
      rw [Set.mem_ofPred_eq, h.accesses_iff]
      constructor
      · rintro ⟨place | ⟨j, _, other, span', above, below⟩, outside⟩
        · omega
        · obtain rfl := stands.unique other
          obtain rfl := Option.some.inj (span.symm.trans span')
          exact ⟨⟨above, below⟩, outside⟩
      · rintro ⟨⟨above, below⟩, outside⟩
        exact ⟨.inr ⟨i, length, stands, span, above, below⟩, outside⟩
    rw [same, isLeast_range]
    constructor
    · intro least
      exact ⟨i, length, stands, span, least⟩
    · rintro ⟨j, _, other, span', least⟩
      obtain rfl := stands.unique other
      obtain rfl := Option.some.inj (span.symm.trans span')
      exact least
  · constructor
    · rintro ⟨⟨accesses, outside⟩, -⟩
      rcases h.accesses_iff.1 accesses with place | ⟨i, length, stands, span, -⟩
      · omega
      · exact absurd ⟨i, length, stands, span⟩ known
    · rintro ⟨i, length, stands, span, -⟩
      exact absurd ⟨i, length, stands, span⟩ known

end Machine

/-! ## Steps -/

namespace Console

variable {c : Console} {w : Word} {address : Nat}

/-- A step that carries out a word in memory leaves memory as the word says. -/
theorem step_outOfBounds_of_pointsTo (running : c.machine.status = .running)
    (h : c.machine.PointsTo w) :
    c.step.1 = .error (.outOfBounds address) ↔
      ∃ i length, w.StandsFor i ∧ i.span? = some length ∧
        memorySize < c.machine.registers.i.toNat + length ∧
        address = max c.machine.registers.i.toNat memorySize := by
  have fetch : c.machine.fetch = .ok w := Machine.fetch_eq_ok_iff.2 h
  have found := Machine.fetchInstruction_of_ok fetch
  cases known : Instruction.decode w with
  | none =>
    rw [known] at found
    rw [(StepsTo.unfetched running found).step_eq]
    constructor
    · rintro ⟨⟩
    · rintro ⟨i, _, stands, -⟩
      rw [Word.decode_of_standsFor stands] at known
      cases known
  | some i =>
    have stands : w.StandsFor i := Word.standsFor_of_decode known
    rw [step_eq_error_iff (upcoming_of_standsFor running fetch stands),
      Instruction.execute_eq_outOfBounds_iff]
    constructor
    · rintro ⟨length, refused⟩
      exact ⟨i, length, stands, refused⟩
    · rintro ⟨j, length, other, refused⟩
      obtain rfl := stands.unique other
      exact ⟨length, refused⟩

/-- A step whose word lies outside memory reports its first byte there. -/
theorem step_outOfBounds_of_le (running : c.machine.status = .running)
    (outside : memorySize ≤ c.machine.registers.pc.toNat + 1) :
    c.step.1 = .error (.outOfBounds address) ↔
      IsLeast {a | c.machine.Accesses a ∧ memorySize ≤ a} address := by
  have fetch := Machine.fetchInstruction_of_error (Machine.fetch_of_le outside)
  have same : {a | c.machine.Accesses a ∧ memorySize ≤ a} =
      {a | (c.machine.registers.pc.toNat ≤ a ∧ a < c.machine.registers.pc.toNat + 2) ∧
        memorySize ≤ a} := by
    ext a
    constructor
    · rintro ⟨accesses, past⟩
      cases accesses with
      | fetch place => exact ⟨by omega, past⟩
      | draw word | storeDecimal word | transfer word => exact absurd word.1 (Nat.not_lt.2 outside)
    · rintro ⟨between, past⟩
      exact ⟨.fetch (by omega), past⟩
  rw [(StepsTo.unfetched running fetch).step_eq, same, isLeast_range]
  constructor
  · intro h
    cases h
    exact ⟨by omega, by omega, rfl⟩
  · rintro ⟨-, -, rfl⟩
    rfl

/-- **Bounds.**  A step of a running machine leaves memory exactly if it has to access a
    byte outside, of its word or of what its word reads or writes from the index register
    on, and then it reports the least address of such a byte; or if its word draws a
    sprite without rows while the index register is past the end of memory, which it
    reports. -/
theorem step_outOfBounds_iff (running : c.machine.status = .running) :
    ((∃ address, c.step.1 = .error (.outOfBounds address)) ↔
        (∃ a, c.machine.Accesses a ∧ memorySize ≤ a) ∨ c.machine.DrawsNothingFar) ∧
      ∀ address, c.step.1 = .error (.outOfBounds address) ↔
        IsLeast {a | c.machine.Accesses a ∧ memorySize ≤ a} address ∨
          c.machine.DrawsNothingFar ∧ address = c.machine.registers.i.toNat := by
  have exactly (address : Nat) : c.step.1 = .error (.outOfBounds address) ↔
      IsLeast {a | c.machine.Accesses a ∧ memorySize ≤ a} address ∨
        c.machine.DrawsNothingFar ∧ address = c.machine.registers.i.toNat := by
    by_cases outside : memorySize ≤ c.machine.registers.pc.toNat + 1
    · have fetched : ¬ c.machine.DrawsNothingFar := by
        rintro ⟨w, word, -⟩
        exact absurd word.1 (Nat.not_lt.2 outside)
      rw [step_outOfBounds_of_le running outside]
      simp [fetched]
    · have word : c.machine.PointsTo _ := ⟨Nat.lt_of_not_le outside, rfl⟩
      rw [step_outOfBounds_of_pointsTo running word, word.isLeast_iff, word.drawsNothingFar_iff]
      constructor
      · rintro ⟨i, length, stands, span, past, rfl⟩
        rcases Nat.eq_zero_or_pos length with rfl | some
        · exact .inr ⟨⟨i, stands, span, past⟩, Nat.max_eq_left (Nat.le_of_lt past)⟩
        · exact .inl ⟨i, length, stands, span, some, past, rfl⟩
      · rintro (⟨i, length, stands, span, -, past, rfl⟩ | ⟨⟨i, stands, span, far⟩, rfl⟩)
        · exact ⟨i, length, stands, span, past, rfl⟩
        · exact ⟨i, 0, stands, span, far, (Nat.max_eq_left (Nat.le_of_lt far)).symm⟩
  refine ⟨?_, exactly⟩
  constructor
  · rintro ⟨address, reported⟩
    rcases (exactly address).1 reported with ⟨accesses, -⟩ | ⟨far, -⟩
    · exact .inl ⟨address, accesses⟩
    · exact .inr far
  · rintro (some | far)
    · classical exact ⟨_, (exactly _).2 (.inl (Nat.isLeast_find some))⟩
    · exact ⟨_, (exactly _).2 (.inr ⟨far, rfl⟩)⟩

/-- A program of one word, at an index. -/
def atIndex (high low : UInt8) (i : Address) : Console :=
  ⟨{ Machine.new 0 with
      registers := { Registers.initial with i }
      memory := Memory.zeros.overwrite programStart [high, low] }, .idle⟩

theorem atIndex_pointsTo (high low : UInt8) (i : Address) :
    (atIndex high low i).machine.PointsTo (Word.ofBytes high low) := by
  have inside : programStart + 1 < memorySize := by decide
  refine ⟨inside, ?_⟩
  have fits : programStart + [high, low].length ≤ memorySize := inside
  have held (n : Nat) : (atIndex high low i).machine.memory.byte (programStart + n) =
      ([high, low][n]?).getD 0 := by
    show (Memory.zeros.overwrite programStart [high, low]).byte _ = _
    rw [Memory.byte_overwrite_add fits, Memory.byte_zeros]
  exact congrArg₂ Word.ofBytes (held 0).symm (held 1).symm

/-- Three digits, of which the last comes to lie just outside memory. -/
theorem edgeDecimal_reported :
    (atIndex 0xF0 0x33 0xFFE).machine.status = .running ∧
      (atIndex 0xF0 0x33 0xFFE).step.1 = .error (.outOfBounds 0x1000) := by
  have word := atIndex_pointsTo 0xF0 0x33 0xFFE
  have stands : (Word.ofBytes 0xF0 0x33).StandsFor (.storeDecimal 0) :=
    Word.standsFor_of_decode rfl
  refine ⟨rfl, ((step_outOfBounds_iff rfl).2 0x1000).2 (.inl (word.isLeast_iff.2 ?_))⟩
  exact ⟨_, 3, stands, rfl, by decide, by decide, rfl⟩

/-- **A sprite without rows** is refused past the end of memory, though no byte outside is
    accessed. -/
theorem farSprite_refused :
    (atIndex 0xD0 0x00 0x1001).machine.status = .running ∧
      (atIndex 0xD0 0x00 0x1001).step.1 = .error (.outOfBounds 0x1001) ∧
      ¬ ∃ a, (atIndex 0xD0 0x00 0x1001).machine.Accesses a ∧ memorySize ≤ a := by
  have word := atIndex_pointsTo 0xD0 0x00 0x1001
  have stands : (Word.ofBytes 0xD0 0x00).StandsFor (.draw 0 0 0) := Word.standsFor_of_decode rfl
  refine ⟨rfl, ?_, ?_⟩
  · rw [step_outOfBounds_of_pointsTo rfl word]
    exact ⟨_, 0, stands, rfl, by decide, rfl⟩
  · rintro ⟨a, accesses, outside⟩
    rcases word.accesses_iff.1 accesses with place | ⟨i, length, other, span, above, below⟩
    · have inside := word.1
      omega
    · obtain rfl := stands.unique other
      obtain rfl := Option.some.inj span
      omega

end Console

end ChipEight
