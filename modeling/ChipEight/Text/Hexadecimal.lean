/-
  Hexadecimal text — numbers in base sixteen, the most significant digit
  first.

  * `hexDigits n` are the digits of `n`, at least one, in capitals;
  * `hex w n` is their text, filled up with zeros to at least `w` characters;
  * `hexValue? c` reads one digit back (`hexValue?_hexDigit`), a small letter
    counting as its capital.
-/
namespace ChipEight

/-- The digit character of a value below sixteen. -/
def hexDigit (d : Fin 16) : Char :=
  if d.val < 10 then Char.ofNat (48 + d.val) else Char.ofNat (55 + d.val)

theorem mod_sixteen_lt (n : Nat) : n % 16 < 16 := Nat.mod_lt n (by decide)

/-- The last digit of a number. -/
def lastDigit (n : Nat) : Fin 16 := ⟨n % 16, mod_sixteen_lt n⟩

/-- The digits of a number, the most significant first. -/
def hexDigits (n : Nat) : List Char :=
  if n < 16 then [hexDigit (lastDigit n)] else hexDigits (n / 16) ++ [hexDigit (lastDigit n)]
termination_by n

/-- The text of a number with at least `width` digits. -/
def hex (width n : Nat) : String :=
  let digits := hexDigits n
  String.ofList (List.replicate (width - digits.length) '0' ++ digits)

/-- The value of a digit character. -/
def hexValue? (c : Char) : Option (Fin 16) :=
  if '0' ≤ c ∧ c ≤ '9' then some (lastDigit (c.toNat - 48))
  else if 'A' ≤ c ∧ c ≤ 'F' then some (lastDigit (c.toNat - 55))
  else if 'a' ≤ c ∧ c ≤ 'f' then some (lastDigit (c.toNat - 87))
  else none

theorem hexValue?_hexDigit (d : Fin 16) : hexValue? (hexDigit d) = some d := by
  revert d; decide

end ChipEight
