/-
  Panels — what a console is connected to: a screen to look at, a buzzer to
  hear.

  A console under way sends signals, and a panel is anything that a signal
  turns into its next state.  Signals are all that passes between them, so a
  panel has no way to act on the machine.
-/
import ChipEight.Machine.Step

namespace ChipEight

/-- What a console tells its panel. -/
inductive Signal where
  /-- Show this picture. -/
  | draw (picture : Screen)
  /-- The program has cleared the screen. -/
  | clear
  /-- Switch the buzzer on or off. -/
  | buzz (on : Bool)
  /-- The machine has stopped with the program counter at `address`. -/
  | halt (address : Address) (fault : Fault)
deriving DecidableEq

/-- States of a panel, which signals change.  A signal comes with the keypad as
    it is at that time. -/
class Panel (δ : Type) where
  /-- The state after a signal. -/
  receive : Keypad → Signal → δ → δ

/-! ## The recorder -/

/-- A panel that keeps every signal, the earliest first. -/
structure Recorder where
  signals : Array Signal
deriving DecidableEq

/-- A recorder that has received nothing. -/
def Recorder.empty : Recorder := ⟨#[]⟩

instance : Panel Recorder where
  receive _ signal recorder := ⟨recorder.signals.push signal⟩

end ChipEight
