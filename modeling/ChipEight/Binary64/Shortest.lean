/-
  Shortest decimals — the decimal with the fewest digits that reads back as a
  given number.

  The decimals that read back as a number fill an interval around it, whose
  ends belong to it if the significand is even.  On the grid of decimals with
  a given number of digits, only the two neighbours of the number have to be
  looked at.  The first grid with a neighbour in the interval is taken, and of
  two neighbours in it the nearer.
-/
import ChipEight.Binary64.Basic

namespace ChipEight

/-- The decimal `0.d₁d₂… * 10 ^ point`, whose digits end in no zero. -/
structure Decimal where
  digits : List Char
  point : Int
deriving DecidableEq

namespace Binary64

/-! ## The interval -/

/-- The units of one, in quarters: a unit has four of them, so that the ends of
    intervals are whole. -/
def quartersOfOne : Nat := 4 * one

/-- The magnitude, in quarters of a unit. -/
def quarters (x : Binary64) : Nat := 4 * x.units

/-- The lower end of the interval, in quarters of a unit: half way to the number
    below, which is nearer where the scale changes. -/
def lowerEnd (x : Binary64) : Nat :=
  let gap := if x.fraction = 0 ∧ 1 < x.exponent then 1 else 2
  (4 * x.significand - gap) * Nat.pow 2 x.scale

/-- The upper end of the interval, in quarters of a unit. -/
def upperEnd (x : Binary64) : Nat := (4 * x.significand + 2) * Nat.pow 2 x.scale

/-- The quotient of quarters reads back as the number. -/
def readsBack (x : Binary64) (num den : Nat) : Bool :=
  if x.significand % 2 = 0 then x.lowerEnd * den ≤ num && num ≤ x.upperEnd * den
  else x.lowerEnd * den < num && num < x.upperEnd * den

/-! ## The grids -/

/-- The place of the decimal point before the first digit of a positive number:
    the number lies from `10 ^ (point - 1)` up to `10 ^ point`.  Below one, no
    power of ten is a number of the format. -/
def pointOf (x : Binary64) : Int :=
  if quartersOfOne ≤ x.quarters then decimalLength (x.quarters / quartersOfOne)
  else 1 - (decimalLength (quartersOfOne / x.quarters) : Int)

/-- The multiple of `10 ^ power` that is nearest to a number, among its two
    neighbours that read back; a half goes up if `halfUp`, and otherwise to the
    even one. -/
def onGrid (x : Binary64) (halfUp : Bool) (power : Int) : Option Nat :=
  let num := x.quarters * Nat.pow 10 (-power).toNat
  let den := quartersOfOne * Nat.pow 10 power.toNat
  let below := num / den
  let reads (d : Nat) := x.readsBack (d * den) (Nat.pow 10 (-power).toNat)
  let twice := 2 * (num % den)
  let nearBelow := twice < den || (twice == den && !halfUp && below % 2 == 0)
  match reads below, reads (below + 1) with
  | true, true => some (if nearBelow then below else below + 1)
  | true, false => some below
  | false, true => some (below + 1)
  | false, false => none

/-- Leave out the zeros at the end. -/
def withoutTrailingZeros (digits : List Char) : List Char :=
  (digits.reverse.dropWhile (· == '0')).reverse

/-- The most digits that a number needs. -/
def maxDigits : Nat := 17

/-- The shortest decimal that reads back as the magnitude of a number that is
    neither zero nor infinite. -/
def shortest (x : Binary64) (halfUp : Bool) : Decimal :=
  let point := x.pointOf
  let found := (List.range maxDigits).findSome? fun n =>
    let power := point - ((n + 1 : Nat) : Int)
    (x.onGrid halfUp power).map (·, power)
  match found with
  | some (multiple, power) =>
    let digits := Nat.toDigits 10 multiple
    ⟨withoutTrailingZeros digits, power + digits.length⟩
  | none => ⟨[], 0⟩

end Binary64

end ChipEight
