/-
  Instruction words — sixteen bits read from memory, the high byte first, and
  the fields that the instruction formats cut out of them.
-/
import ChipEight.Text.Hexadecimal

namespace ChipEight

/-- An address, or any other sixteen-bit quantity of the machine. -/
abbrev Address := UInt16

/-- The number of one of the sixteen registers `V0` to `VF`. -/
abbrev Register := Fin 16

/-- An instruction word. -/
abbrev Word := UInt16

namespace Word

/-- The word of two bytes, the high one first. -/
def ofBytes (high low : UInt8) : Word := UInt16.ofNat (high.toNat * 256 + low.toNat)

/-- The top four bits, which choose the group of instructions. -/
def group (w : Word) : Fin 16 := lastDigit (w.toNat / 4096)

/-- The second four bits, the first register operand. -/
def x (w : Word) : Register := lastDigit (w.toNat / 256)

/-- The third four bits, the second register operand. -/
def y (w : Word) : Register := lastDigit (w.toNat / 16)

/-- The low four bits. -/
def nibble (w : Word) : Fin 16 := lastDigit w.toNat

/-- The low eight bits. -/
def byte (w : Word) : UInt8 := UInt8.ofNat w.toNat

/-- The low twelve bits. -/
def address (w : Word) : Address := UInt16.ofNat (w.toNat % 4096)

/-- Four hexadecimal digits. -/
def text (w : Word) : String := hex 4 w.toNat

/-- An address operand never passes the end of memory. -/
theorem address_lt (w : Word) : w.address.toNat < 4096 := by
  have h : w.toNat % 4096 < 4096 := Nat.mod_lt _ (by decide)
  simp only [address, UInt16.toNat_ofNat']
  omega

/-- The fields of a word determine it. -/
theorem toNat_eq (w : Word) : w.toNat = w.group.val * 4096 + w.address.toNat := by
  have h := w.toNat_lt
  simp only [group, lastDigit, address, UInt16.toNat_ofNat']
  omega

theorem toNat_byte (w : Word) : w.byte.toNat = w.toNat % 256 := UInt8.toNat_ofNat'

/-- A word is its group, its first register and its low byte. -/
theorem toNat_eq_byte (w : Word) :
    w.toNat = w.group.val * 4096 + w.x.val * 256 + w.byte.toNat := by
  have bound := w.toNat_lt
  simp only [toNat_byte, group, x, lastDigit]
  omega

/-- A word is its four digits. -/
theorem toNat_eq_digits (w : Word) :
    w.toNat = w.group.val * 4096 + w.x.val * 256 + w.y.val * 16 + w.nibble.val := by
  have bound := w.toNat_lt
  simp only [group, x, y, nibble, lastDigit]
  omega

theorem toNat_ofBytes (high low : UInt8) :
    (ofBytes high low).toNat = high.toNat * 256 + low.toNat := by
  have highBound := high.toNat_lt
  have lowBound := low.toNat_lt
  rw [ofBytes, UInt16.toNat_ofNat']
  omega

/-- The bytes of a word are determined by it. -/
theorem ofBytes_inj {high low high' low' : UInt8}
    (h : ofBytes high low = ofBytes high' low') : high = high' ∧ low = low' := by
  have same := congrArg UInt16.toNat h
  rw [toNat_ofBytes, toNat_ofBytes] at same
  have first := low.toNat_lt
  have second := low'.toNat_lt
  exact ⟨UInt8.toNat_inj.1 (by omega), UInt8.toNat_inj.1 (by omega)⟩

end Word

end ChipEight
