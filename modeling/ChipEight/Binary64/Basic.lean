/-
  Binary64 — numbers in the 64-bit binary floating-point format.

  Apart from infinities and what is not a number, a magnitude is a whole
  multiple of the least positive one, `2 ^ -1074`, which is the unit here:
  `significand * 2 ^ scale` units, with a significand below `2 ^ 53`.

  * `roundHalfEven` rounds a quotient to the nearest whole number;
  * `ofRatio` and `ofDecimal` are the numbers nearest to a quotient and to a
    decimal, of two that are equally near the one with the even significand;
    what is too large becomes infinite.
-/
namespace ChipEight

/-! ## Rounding -/

/-- The whole number nearest to a quotient; a half goes to the even neighbour. -/
def roundHalfEven (num den : Nat) : Nat :=
  let q := num / den
  let twice := 2 * (num % den)
  if twice < den ∨ (twice = den ∧ q % 2 = 0) then q else q + 1

/-! ## Numbers -/

/-- A number: a sign bit, eleven bits of exponent and 52 bits of fraction. -/
structure Binary64 where
  bits : UInt64
deriving DecidableEq

namespace Binary64

/-- The units of one: a unit is `2 ^ -1074`. -/
def one : Nat := Nat.pow 2 1074

/-- The exponent of infinities and of what is not a number. -/
def lastExponent : Nat := 2047

/-- The magnitude bits of infinity. -/
def infinityBits : Nat := lastExponent * Nat.pow 2 52

/-- The number with a sign and magnitude bits. -/
def ofMagnitude (negative : Bool) (magnitude : Nat) : Binary64 :=
  ⟨UInt64.ofNat ((if negative then Nat.pow 2 63 else 0) + magnitude)⟩

/-- An infinity. -/
def infinity (negative : Bool) : Binary64 := ofMagnitude negative infinityBits

/-- Not a number. -/
def notANumber : Binary64 := ofMagnitude false (infinityBits + Nat.pow 2 51)

/-- The sign bit is set. -/
def isNegative (x : Binary64) : Bool := Nat.pow 2 63 ≤ x.bits.toNat

/-- The bits of the exponent. -/
def exponent (x : Binary64) : Nat := x.bits.toNat / Nat.pow 2 52 % Nat.pow 2 11

/-- The bits of the fraction. -/
def fraction (x : Binary64) : Nat := x.bits.toNat % Nat.pow 2 52

/-- It is not a number. -/
def isNaN (x : Binary64) : Bool := x.exponent == lastExponent && x.fraction != 0

/-- It is an infinity. -/
def isInfinite (x : Binary64) : Bool := x.exponent == lastExponent && x.fraction == 0

/-- The significand, with the leading one that the fraction leaves out. -/
def significand (x : Binary64) : Nat :=
  if x.exponent = 0 then x.fraction else Nat.pow 2 52 + x.fraction

/-- The power of two, in units, that the significand counts. -/
def scale (x : Binary64) : Nat := x.exponent - 1

/-- The magnitude in units. -/
def units (x : Binary64) : Nat := x.significand * Nat.pow 2 x.scale

/-! ## The nearest number -/

/-- The number nearest to a quotient. -/
def ofRatio (negative : Bool) (num den : Nat) : Binary64 :=
  let scale := (num * one / den).log2 - 52
  let significand := roundHalfEven (num * one) (den * Nat.pow 2 scale)
  ofMagnitude negative (min (scale * Nat.pow 2 52 + significand) infinityBits)

/-- The number nearest to a whole number. -/
def ofInt (i : Int) : Binary64 := ofRatio (i < 0) i.natAbs 1

/-- The number of decimal digits, none for zero. -/
def decimalLength (n : Nat) : Nat := if n = 0 then 0 else (Nat.toDigits 10 n).length

/-- The number nearest to `digits * 10 ^ power`.  Powers that are out of the
    format's reach are not computed. -/
def ofDecimal (negative : Bool) (digits : Nat) (power : Int) : Binary64 :=
  let point := decimalLength digits + power
  if digits = 0 ∨ point < -330 then ofMagnitude negative 0
  else if 310 < point then infinity negative
  else ofRatio negative (digits * Nat.pow 10 power.toNat) (Nat.pow 10 (-power).toNat)

end Binary64

end ChipEight
