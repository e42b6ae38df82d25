/-
  Numbers as text — the shortest decimal that reads back, in the two styles
  that reports use.
-/
import ChipEight.Binary64.Shortest

namespace ChipEight

/-- The decisions about how a number is written. -/
structure NumberStyle where
  /-- A number half way between two shortest decimals is written as the larger
      one, and otherwise as the even one. -/
  halfUp : Bool
  /-- With the decimal point at this place, no exponent is written. -/
  isPositional : Int → Bool
  /-- A whole number without an exponent ends in `.0`. -/
  marksWhole : Bool

namespace NumberStyle

/-- Never an exponent, and no point in a whole number. -/
def plain : NumberStyle := ⟨true, fun _ => true, false⟩

/-- Exponents for very large and very small numbers, and a point in every
    number that has none. -/
def compact : NumberStyle := ⟨false, fun point => -5 < point && point ≤ 16, true⟩

/-- A decimal without an exponent. -/
def positional (style : NumberStyle) (d : Decimal) : String :=
  let size := d.digits.length
  let whole := d.digits.take d.point.toNat
  let rest := d.digits.drop d.point.toNat
  let left := if whole.isEmpty then ['0']
    else whole ++ List.replicate (d.point.toNat - size) '0'
  let right := if rest.isEmpty then (if style.marksWhole then ".0".toList else [])
    else '.' :: (List.replicate (-d.point).toNat '0' ++ rest)
  String.ofList (left ++ right)

/-- A decimal with one digit before the point, and an exponent with its sign. -/
def exponential (d : Decimal) : String :=
  let rest := d.digits.drop 1
  String.ofList (d.digits.take 1 ++ (if rest.isEmpty then [] else '.' :: rest))
    ++ (if 1 ≤ d.point then "e+" else "e") ++ toString (d.point - 1)

/-- A decimal. -/
def decimal (style : NumberStyle) (d : Decimal) : String :=
  if style.isPositional d.point then style.positional d else exponential d

/-- A number. -/
def write (style : NumberStyle) (x : Binary64) : String :=
  if x.isNaN then "NaN"
  else
    (if x.isNegative then "-" else "")
      ++ if x.isInfinite then "inf"
        else style.decimal (if x.units = 0 then ⟨['0'], 1⟩ else x.shortest style.halfUp)

end NumberStyle

end ChipEight
