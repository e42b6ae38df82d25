/-
  Plain scalars — what text without quotes stands for in a YAML document.

  It may be nothing, a truth value, a whole number in one of four bases, or a
  decimal; if it is none of these, it is text.  A digit string with a leading
  zero is no whole number, but it still can be read as a decimal.
-/
import ChipEight.Binary64.Basic
import ChipEight.Text.Hexadecimal

namespace ChipEight.Yaml

/-! ## Digits -/

/-- The number of a nonempty string of digits of a base up to sixteen. -/
def digits? (base : Nat) (cs : List Char) : Option Nat :=
  if cs.isEmpty then none
  else cs.foldlM (fun n c => do
    let d ← hexValue? c
    if d.val < base then return n * base + d.val else none) 0

/-- The digits at the beginning, and what follows them. -/
def splitDigits (cs : List Char) : List Char × List Char := cs.span Char.isDigit

/-- A digit string with a zero that is not needed. -/
def hasLeadingZero : List Char → Bool
  | '0' :: c :: rest => (c :: rest).all Char.isDigit
  | _ => false

/-- Take a sign off: the text is negative, and the rest of it. -/
def splitSign : List Char → Bool × List Char
  | '-' :: rest => (true, rest)
  | '+' :: rest => (false, rest)
  | cs => (false, cs)

/-! ## Meanings -/

/-- The text is a word for nothing. -/
def isNullWord (text : String) : Bool := ["null", "Null", "NULL", "~"].contains text

/-- The text stands for nothing. -/
def isNull (text : String) : Bool := text.isEmpty || isNullWord text

/-- The truth value that text stands for. -/
def boolean? (text : String) : Option Bool :=
  if ["true", "True", "TRUE"].contains text then some true
  else if ["false", "False", "FALSE"].contains text then some false
  else none

/-- The text is a string of digits with a zero that is not needed, and maybe a
    sign. -/
def isPadded (text : String) : Bool := hasLeadingZero (splitSign text.toList).2

/-- The magnitude of a whole number, whose base is decimal without a mark. -/
def magnitude? : List Char → Option Nat
  | '0' :: 'x' :: cs => digits? 16 cs
  | '0' :: 'o' :: cs => digits? 8 cs
  | '0' :: 'b' :: cs => digits? 2 cs
  | cs => if hasLeadingZero cs then none else digits? 10 cs

/-- The whole number that text stands for; there are none beyond 128 bits. -/
def integer? (text : String) : Option Int := do
  let (negative, cs) := splitSign text.toList
  let n ← magnitude? cs
  if negative then (if n ≤ Nat.pow 2 127 then return -(n : Int) else none)
  else (if n < Nat.pow 2 128 then return (n : Int) else none)

/-- The power of ten at the end of a decimal, zero if there is none. -/
def power? : List Char → Option Int
  | [] => some 0
  | c :: cs => do
    guard (c = 'e' ∨ c = 'E')
    let (negative, ds) := splitSign cs
    let n ← digits? 10 ds
    return (if negative then -(n : Int) else n)

/-- The number nearest to a decimal without a sign: digits around an optional
    point, at least one of them, and an optional power of ten. -/
def decimal? (negative : Bool) (cs : List Char) : Option Binary64 := do
  let (whole, rest) := splitDigits cs
  let (fraction, rest) := match rest with
    | '.' :: after => splitDigits after
    | _ => ([], rest)
  let n ← digits? 10 (whole ++ fraction)
  let power ← power? rest
  let x := Binary64.ofDecimal negative n (power - fraction.length)
  if x.isInfinite then none else some x

/-- The number that text stands for, a whole decimal one included. -/
def number? (text : String) : Option Binary64 :=
  if [".inf", ".Inf", ".INF", "+.inf", "+.Inf", "+.INF"].contains text then
    some (.infinity false)
  else if ["-.inf", "-.Inf", "-.INF"].contains text then some (.infinity true)
  else if [".nan", ".NaN", ".NAN"].contains text then some .notANumber
  else
    let (negative, cs) := splitSign text.toList
    decimal? negative cs

end ChipEight.Yaml
