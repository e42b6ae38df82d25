/-
  Printer — a panel that prints pictures as text.

  A picture is printed when it differs from the one before it, under a line
  with its number and the keys that are down.  A printer whose paper is jammed
  prints nothing but counts as if it did; one that does not render neither
  prints nor counts.
-/
import ChipEight.Panel.Basic

namespace ChipEight

/-- A panel that prints pictures. -/
structure Printer where
  /-- Pictures are to be printed. -/
  renders : Bool
  /-- Whatever is printed is lost. -/
  jammed : Bool
  /-- The last picture that was to be printed. -/
  shown : Option Screen
  /-- The number of pictures that were to be printed. -/
  frames : Nat
  /-- The text printed so far. -/
  output : String
deriving DecidableEq

namespace Printer

/-- A printer that has received nothing. -/
def new (renders : Bool) : Printer := ⟨renders, false, none, 0, ""⟩

/-- A jammed printer that has received nothing. -/
def newJammed (renders : Bool) : Printer := ⟨renders, true, none, 0, ""⟩

/-- A picture under its number and the keys that are down. -/
def frameText (number : Nat) (keypad : Keypad) (picture : Screen) : String :=
  "frame " ++ toString number ++ " (" ++ keypad.text ++ ")\n" ++ picture.text ++ "\n"

/-- Print text. -/
def print (p : Printer) (text : String) : Printer :=
  if p.jammed then p else { p with output := p.output ++ text }

/-- Show a picture. -/
def display (p : Printer) (keypad : Keypad) (picture : Screen) : Printer :=
  if p.renders = false ∨ p.shown = some picture then p
  else
    let number := p.frames + 1
    { p.print (frameText number keypad picture) with shown := some picture, frames := number }

/-- Take the text printed so far off the printer. -/
def takeOutput (p : Printer) : String × Printer := (p.output, { p with output := "" })

instance : Panel Printer where
  receive
    | keypad, .draw picture, p => p.display keypad picture
    | _, _, p => p

end Printer

end ChipEight
