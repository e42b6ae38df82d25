/-
  Arithmetic over the integers.

  Registers hold bytes, and what a byte has no room for goes to `VF` as a flag.

  * `add_carry`, `sub_borrow`, `shiftRight_bit`, `shiftLeft_bit`: what operations on
    bytes come to over the integers, with their flags;
  * `Console.Computes`: a step writes a result and then its flag, which obey a law, and
    leaves the other registers alone.  The flag is written last, so that it is what
    remains if both go to `VF`;
  * `Console.arithmetic_exact`: the laws of the instructions.  Their operands may be any
    registers, `VF` among them.
-/
import ChipEight.Proofs.Machine.Course

namespace ChipEight

/-! ## Bytes -/

theorem toNat_decide (p : Prop) [Decidable p] : (decide p).toNat = if p then 1 else 0 := by
  by_cases holds : p <;> simp [holds]

variable (x y : UInt8)

theorem add_carry :
    ((x + y).toNat : Int) =
      x.toNat + y.toNat - 256 * (decide (256 ≤ x.toNat + y.toNat)).toNat := by
  have hx := x.toNat_lt
  have hy := y.toNat_lt
  rw [UInt8.toNat_add, toNat_decide]
  split <;> omega

theorem sub_borrow :
    ((x - y).toNat : Int) =
      x.toNat - y.toNat + 256 * (1 - (decide (y.toNat ≤ x.toNat)).toNat) := by
  have hx := x.toNat_lt
  have hy := y.toNat_lt
  rw [UInt8.toNat_sub, toNat_decide]
  split <;> omega

theorem shiftRight_bit :
    2 * ((x >>> 1).toNat : Int) + (x.toNat.testBit 0).toNat = x.toNat := by
  have half : (x >>> 1).toNat = x.toNat / 2 := by
    simp [UInt8.toNat_shiftRight, Nat.shiftRight_eq_div_pow]
  rw [half, Nat.testBit_zero, toNat_decide]
  split <;> omega

theorem shiftLeft_bit :
    ((x <<< 1).toNat : Int) + 256 * (x.toNat.testBit 7).toNat = 2 * x.toNat := by
  have hx := x.toNat_lt
  have twice : (x <<< 1).toNat = x.toNat * 2 % 256 := by
    simp [UInt8.toNat_shiftLeft, Nat.shiftLeft_eq]
  have high : x.toNat.testBit 7 = decide (x.toNat / 128 % 2 = 1) :=
    Nat.testBit_eq_decide_div_mod_eq
  rw [twice, high, toNat_decide]
  split <;> omega

/-! ## Results with flags -/

theorem Machine.get_setWithFlag (m : Machine) (x y : Register) (value : UInt8) (flag : Bool) :
    (m.setWithFlag x (value, some flag)).get y =
      if flagRegister = y then (if flag then 1 else 0)
      else if x = y then value else m.get y := by
  show ((m.registers.set x value).setFlag flag).get y = _
  rw [Registers.setFlag, Registers.get_set, Registers.get_set]
  rfl

namespace Console

/-- The next step writes a byte to `VX` and then a flag to `VF`, which obey a law.  It
    leaves alone the other registers, and the index register. -/
def Computes (c : Console) (x : Register) (law : Int → Int → Prop) : Prop :=
  ∃ (after : Console) (result flag : Nat),
    c.step = (.ok .plain, after) ∧ result < 256 ∧ flag ≤ 1 ∧ law result flag ∧
      (after.machine.get flagRegister).toNat = flag ∧
      (x ≠ flagRegister → (after.machine.get x).toNat = result) ∧
      (∀ y, y ≠ x → y ≠ flagRegister → after.machine.get y = c.machine.get y) ∧
      after.machine.registers.i = c.machine.registers.i

variable {c : Console} {i : Instruction} {x : Register}

theorem computes_of_upcoming {value : UInt8} {flag : Bool} {law : Int → Int → Prop}
    (found : c.upcoming = some i)
    (execute : i.execute.on c.advance =
      (.ok .plain, c.advance.mapMachine (·.setWithFlag x (value, some flag))))
    (holds : law value.toNat flag.toNat) : c.Computes x law := by
  have get (y : Register) := c.advance.machine.get_setWithFlag x y value flag
  refine ⟨c.advance.mapMachine (·.setWithFlag x (value, some flag)), value.toNat, flag.toNat,
    ?_, value.toNat_lt, flag.toNat_le, holds, ?_, ?_, ?_, rfl⟩
  · rw [step_of_upcoming found, execute]
  · refine (congrArg UInt8.toNat (get flagRegister)).trans ?_
    rw [if_pos rfl]
    cases flag <;> rfl
  · intro other
    refine (congrArg UInt8.toNat (get x)).trans ?_
    rw [if_neg (Ne.symm other), if_pos rfl]
  · intro y other noFlag
    refine (get y).trans ?_
    rw [if_neg (Ne.symm noFlag), if_neg (Ne.symm other)]
    rfl

/-- **Arithmetic is exact.**  Let `x` and `y` be the contents of `VX` and `VY` before the
    instruction.  A sum leaves its carry in `VF` and a difference one less its borrow; a
    shift leaves the bit that falls out, so that nothing is lost.  Adding a byte drops the
    carry and has no flag. -/
theorem arithmetic_exact {w : Word} (running : c.machine.status = .running)
    (fetch : c.machine.fetch = .ok w) :
    let x : Int := (c.machine.get w.x).toNat
    let y : Int := (c.machine.get w.y).toNat
    (w.group.val = 0x8 →
      (w.nibble.val = 0x4 → c.Computes w.x fun result flag => result = x + y - 256 * flag) ∧
      (w.nibble.val = 0x5 → c.Computes w.x fun result flag =>
        ∃ borrow, flag = 1 - borrow ∧ result = x - y + 256 * borrow) ∧
      (w.nibble.val = 0x7 → c.Computes w.x fun result flag =>
        ∃ borrow, flag = 1 - borrow ∧ result = y - x + 256 * borrow) ∧
      (w.nibble.val = 0x6 → c.Computes w.x fun result flag => 2 * result + flag = x) ∧
      (w.nibble.val = 0xE → c.Computes w.x fun result flag => result + 256 * flag = 2 * x)) ∧
    (w.group.val = 0x7 → ∃ after, c.step = (.ok .plain, after) ∧
      ((after.machine.get w.x).toNat : Int) = (x + w.byte.toNat) % 256 ∧
      (∀ y, y ≠ w.x → after.machine.get y = c.machine.get y) ∧
      after.machine.registers.i = c.machine.registers.i) := by
  intro x y
  have found {i : Instruction} (stands : w.StandsFor i) : c.upcoming = some i :=
    upcoming_of_standsFor running fetch stands
  have difference (a b : UInt8) : ∃ borrow : Int,
      ((decide (b.toNat ≤ a.toNat)).toNat : Int) = 1 - borrow ∧
        ((a - b).toNat : Int) = a.toNat - b.toNat + 256 * borrow :=
    ⟨1 - (decide (b.toNat ≤ a.toNat)).toNat, by omega, sub_borrow a b⟩
  refine ⟨fun group => ⟨fun digit => ?_, fun digit => ?_, fun digit => ?_, fun digit => ?_,
    fun digit => ?_⟩, fun group => ?_⟩
  · exact computes_of_upcoming (found (i := .combine .add w.x w.y) (.combine group digit)) rfl
      (add_carry _ _)
  · exact computes_of_upcoming (found (i := .combine .subtract w.x w.y) (.combine group digit)) rfl
      (difference _ _)
  · exact computes_of_upcoming (found (i := .combine .subtractFrom w.x w.y) (.combine group digit)) rfl
      (difference _ _)
  · exact computes_of_upcoming (found (.shiftRight group digit)) rfl (shiftRight_bit _)
  · exact computes_of_upcoming (found (.shiftLeft group digit)) rfl (shiftLeft_bit _)
  · have get (y : Register) :=
      c.advance.machine.registers.get_set w.x y (c.machine.get w.x + w.byte)
    refine ⟨_, step_of_upcoming (found (.addByte group)), ?_, fun y other => ?_, rfl⟩
    · refine (congrArg (fun byte : UInt8 => (byte.toNat : Int)) (get w.x)).trans ?_
      rw [if_pos rfl, UInt8.toNat_add]
      exact Int.natCast_emod _ _
    · exact (get y).trans (if_neg (Ne.symm other))

/-- A program that takes `V1` from `VF`. -/
def takesFromFlag : Console :=
  ⟨{ Machine.new 0 with
      registers := (Registers.initial.set flagRegister 3).set (lastDigit 1) 5
      memory := Memory.zeros.overwrite programStart [0x8F, 0x15] }, .idle⟩

/-- The difference is lost, but there is a borrow. -/
theorem takesFromFlag_borrows :
    takesFromFlag.machine.status = .running ∧ takesFromFlag.machine.fetch = .ok 0x8F15 ∧
      takesFromFlag.Computes flagRegister fun result flag =>
        ∃ borrow, flag = 1 - borrow ∧ result = 3 - 5 + 256 * borrow := by
  have word : Word.ofBytes (takesFromFlag.machine.memory.byte 512)
      (takesFromFlag.machine.memory.byte 513) = 0x8F15 := by decide +kernel
  have fetch : takesFromFlag.machine.fetch = .ok 0x8F15 := by
    rw [← word]
    exact Machine.fetch_of_lt (by decide)
  obtain ⟨-, difference, -⟩ := (arithmetic_exact rfl fetch).1 rfl
  exact ⟨rfl, fetch, difference rfl⟩

end Console

end ChipEight
