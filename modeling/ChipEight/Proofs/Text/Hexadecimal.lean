/-
  Hexadecimal text read back.

  * `lastDigits w n` are the last `w` digits of `n`, and the text of a number consists
    of as many as it needs (`toList_hex`), `w` of them if it is below `16 ^ w`
    (`toList_hex_of_lt`);
  * `hexValue?_eq_some_iff` says which characters are read as a digit;
  * `hexNumber?` reads digits as one number (`hexNumber?_lastDigits`,
    `hexNumber?_hex`), and `hexBytes?` reads them as bytes, two digits each
    (`hexBytes?_lastDigits`).
-/
import Mathlib.Algebra.Order.Ring.Nat
import ChipEight.Text.Hexadecimal

namespace ChipEight

/-! ## The last digits -/

/-- The last digits of a number, as many as asked for. -/
def lastDigits : Nat → Nat → List Char
  | 0, _ => []
  | width + 1, n => lastDigits width (n / 16) ++ [hexDigit (lastDigit n)]

variable {width n : Nat}

theorem hexDigits_of_lt (h : n < 16) : hexDigits n = [hexDigit (lastDigit n)] := by
  rw [hexDigits, if_pos h]

theorem hexDigits_of_le (h : 16 ≤ n) :
    hexDigits n = hexDigits (n / 16) ++ [hexDigit (lastDigit n)] := by
  rw [hexDigits, if_neg (Nat.not_lt.2 h)]

theorem length_lastDigits (width n : Nat) : (lastDigits width n).length = width := by
  induction width generalizing n with
  | zero => rfl
  | succ width ih => rw [lastDigits, List.length_append, ih, List.length_singleton]

theorem lastDigits_zero (width : Nat) : lastDigits width 0 = List.replicate width '0' := by
  induction width with
  | zero => rfl
  | succ width ih =>
    rw [lastDigits, ih, List.replicate_succ']
    rfl

/-- A number has no more digits than the power of sixteen above it says. -/
theorem length_hexDigits_le (h : n < 16 ^ (width + 1)) : (hexDigits n).length ≤ width + 1 := by
  induction width generalizing n with
  | zero =>
    have single : n < 16 := h
    rw [hexDigits_of_lt single]
    exact Nat.le_refl 1
  | succ width ih =>
    rcases Nat.lt_or_ge n 16 with single | several
    · rw [hexDigits_of_lt single]
      exact Nat.le_add_left 1 _
    · have shorter : n / 16 < 16 ^ (width + 1) := by
        rw [Nat.pow_succ] at h
        exact Nat.div_lt_of_lt_mul (Nat.mul_comm .. ▸ h)
      rw [hexDigits_of_le several, List.length_append, List.length_singleton]
      exact Nat.add_le_add_right (ih shorter) 1

/-- Digits filled up with zeros are the last digits of their number. -/
theorem fill_hexDigits (h : (hexDigits n).length ≤ width) :
    List.replicate (width - (hexDigits n).length) '0' ++ hexDigits n = lastDigits width n := by
  induction width generalizing n with
  | zero =>
    rcases Nat.lt_or_ge n 16 with single | several
    · rw [hexDigits_of_lt single] at h
      cases h
    · rw [hexDigits_of_le several, List.length_append] at h
      cases h
  | succ width ih =>
    rcases Nat.lt_or_ge n 16 with single | several
    · rw [lastDigits, hexDigits_of_lt single, Nat.div_eq_of_lt single, lastDigits_zero]
      rfl
    · rw [hexDigits_of_le several, List.length_append, List.length_singleton] at h
      rw [lastDigits, hexDigits_of_le several, List.length_append, List.length_singleton,
        Nat.add_sub_add_right, ← List.append_assoc, ih (Nat.le_of_succ_le_succ h)]

/-- **The text of a number** are its last digits, as many as are wanted or more. -/
theorem toList_hex (width n : Nat) :
    (hex width n).toList = lastDigits (max width (hexDigits n).length) n := by
  rw [hex, String.toList_ofList]
  rcases Nat.le_total (hexDigits n).length width with short | long
  · rw [Nat.max_eq_left short, fill_hexDigits short]
  · rw [Nat.max_eq_right long, ← fill_hexDigits (Nat.le_refl _), Nat.sub_self,
      Nat.sub_eq_zero_of_le long]

theorem toList_hex_of_lt (h : n < 16 ^ (width + 1)) :
    (hex (width + 1) n).toList = lastDigits (width + 1) n := by
  rw [toList_hex, Nat.max_eq_left (length_hexDigits_le h)]

/-- Digits are all there is. -/
theorem exists_of_mem_lastDigits {c : Char} (h : c ∈ lastDigits width n) :
    ∃ d, c = hexDigit d := by
  induction width generalizing n with
  | zero => cases h
  | succ width ih =>
    rcases List.mem_append.1 h with before | last
    · exact ih before
    · exact ⟨_, List.mem_singleton.1 last⟩

/-- A character that is no digit is not among them. -/
theorem notMem_lastDigits {c : Char} (other : ∀ d, c ≠ hexDigit d) : c ∉ lastDigits width n :=
  fun found => (exists_of_mem_lastDigits found).elim other

theorem blank_notMem_lastDigits (width n : Nat) : ' ' ∉ lastDigits width n :=
  notMem_lastDigits (by decide)

/-! ## Reading numbers -/

/-- **A digit is read** from its capital and from its small letter, and from nothing
    else. -/
theorem hexValue?_eq_some_iff {c : Char} {d : Fin 16} :
    hexValue? c = some d ↔ c = hexDigit d ∨ c = (hexDigit d).toLower := by
  constructor
  · intro value
    have small : c.toNat < 103 := by
      unfold hexValue? at value
      simp only [Char.le_def, UInt32.le_iff_toNat_le] at value
      split at value
      · next h => exact Nat.lt_of_le_of_lt h.2 (by decide)
      · split at value
        · next h => exact Nat.lt_of_le_of_lt h.2 (by decide)
        · split at value
          · next h => exact Nat.lt_of_le_of_lt h.2 (by decide)
          · cases value
    have all : ∀ n < 103, ∀ d, hexValue? (Char.ofNat n) = some d →
        Char.ofNat n = hexDigit d ∨ Char.ofNat n = (hexDigit d).toLower := by decide +kernel
    rw [← Char.ofNat_toNat c] at value ⊢
    exact all c.toNat small d value
  · rintro (rfl | rfl)
    · exact hexValue?_hexDigit d
    · revert d
      decide

/-- The number that digits stand for, if there is nothing but digits. -/
def hexNumber? (digits : List Char) : Option Nat :=
  digits.foldlM (fun n c => (hexValue? c).map fun d => n * 16 + d.val) 0

theorem hexNumber?_concat (digits : List Char) (d : Fin 16) :
    hexNumber? (digits ++ [hexDigit d]) = (hexNumber? digits).map fun n => n * 16 + d.val := by
  rw [hexNumber?, List.foldlM_append, ← hexNumber?]
  cases hexNumber? digits with
  | none => rfl
  | some n => simp [hexValue?_hexDigit]

/-- **A number is read back** from its last digits, up to those that are missing. -/
theorem hexNumber?_lastDigits (width n : Nat) :
    hexNumber? (lastDigits width n) = some (n % 16 ^ width) := by
  induction width generalizing n with
  | zero => rw [Nat.pow_zero, Nat.mod_one]; rfl
  | succ width ih =>
    have split : n % (16 * 16 ^ width) = n % 16 + 16 * (n / 16 % 16 ^ width) := Nat.mod_mul
    rw [lastDigits, hexNumber?_concat, ih, Option.map_some, Nat.pow_succ', split, lastDigit,
      Nat.add_comm, Nat.mul_comm]

theorem lt_pow_length_hexDigits (n : Nat) : n < 16 ^ (hexDigits n).length := by
  fun_induction hexDigits n with
  | case1 n single => exact single
  | case2 n several ih =>
    rw [List.length_append, List.length_singleton, Nat.pow_succ]
    omega

/-- **A number is read back** from its text. -/
theorem hexNumber?_hex (width n : Nat) : hexNumber? (hex width n).toList = some n := by
  have enough : n < 16 ^ max width (hexDigits n).length :=
    Nat.lt_of_lt_of_le (lt_pow_length_hexDigits n)
      (Nat.pow_le_pow_right (by decide) (Nat.le_max_right ..))
  rw [toList_hex, hexNumber?_lastDigits, Nat.mod_eq_of_lt enough]

/-! ## Reading bytes -/

/-- The bytes that digits stand for, two digits a byte, if there is nothing else. -/
def hexBytes? : List Char → Option (List UInt8)
  | [] => some []
  | [_] => none
  | c :: d :: rest => do
    let high ← hexValue? c
    let low ← hexValue? d
    let bytes ← hexBytes? rest
    return UInt8.ofNat (high.val * 16 + low.val) :: bytes

/-- **A byte is read back** from its two digits, and then the bytes after it. -/
theorem hexBytes?_lastDigits (byte : UInt8) (rest : List Char) :
    hexBytes? (lastDigits 2 byte.toNat ++ rest) = (hexBytes? rest).map (byte :: ·) := by
  have bound := byte.toNat_lt
  have whole : byte.toNat / 16 % 16 * 16 + byte.toNat % 16 = byte.toNat := by omega
  simp only [lastDigits, List.nil_append, List.cons_append, hexBytes?, hexValue?_hexDigit,
    lastDigit, Option.bind_eq_bind, Option.bind_some, whole, UInt8.ofNat_toNat]
  cases hexBytes? rest <;> rfl

end ChipEight
