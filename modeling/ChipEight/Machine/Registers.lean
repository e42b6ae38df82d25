/-
  Registers — the sixteen byte registers `V0` to `VF`, the index register and
  the program counter.  Arithmetic reports its carries and borrows in `VF`.
-/
import ChipEight.Machine.Memory

namespace ChipEight

/-- The register that holds flags. -/
def flagRegister : Register := lastDigit 15

/-- The register file. -/
structure Registers where
  /-- The byte registers. -/
  v : Vector UInt8 16
  /-- The index register. -/
  i : Address
  /-- The program counter. -/
  pc : Address
deriving DecidableEq

namespace Registers

/-- All registers are zero, and the next instruction is the first one of a
    program. -/
def initial : Registers := ⟨Vector.replicate 16 0, 0, UInt16.ofNat programStart⟩

/-- The content of a byte register. -/
def get (r : Registers) (x : Register) : UInt8 := r.v[x]

/-- Change a byte register. -/
def set (r : Registers) (x : Register) (value : UInt8) : Registers :=
  { r with v := r.v.set x.val value x.isLt }

/-- Write a flag into `VF`. -/
def setFlag (r : Registers) (flag : Bool) : Registers :=
  r.set flagRegister (if flag then 1 else 0)

/-- The flag register. -/
def flag (r : Registers) : UInt8 := r.get flagRegister

/-- Move the program counter past one instruction word, wrapping around. -/
def advance (r : Registers) : Registers := { r with pc := r.pc + 2 }

/-- The contents of `V0` to the register `x`. -/
def upTo (r : Registers) (x : Register) : List UInt8 := r.v.toList.take (x.val + 1)

/-- Fill the registers from `V0` on with bytes; bytes past `VF` are dropped. -/
def fill (r : Registers) (bytes : List UInt8) : Registers :=
  { r with v := Vector.ofFn fun x : Fin 16 => (bytes[x.val]?).getD (r.get x) }

theorem get_set (r : Registers) (x y : Register) (value : UInt8) :
    (r.set x value).get y = if x = y then value else r.get y := by
  simp [get, set, Vector.getElem_set, Fin.ext_iff]

theorem get_fill (r : Registers) (bytes : List UInt8) (x : Register) :
    (r.fill bytes).get x = (bytes[x.val]?).getD (r.get x) := by
  simp [get, fill]

end Registers

end ChipEight
