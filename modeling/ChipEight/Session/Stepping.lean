/-
  Stepping — a session that makes one cycle for every line that is entered.

  Before each line, a prompt shows the registers and what the next cycle is
  about to do.  A line that is a hexadecimal digit holds that key down for its
  cycle; one that is `q` ends the session.
-/
import ChipEight.Machine.Dump
import ChipEight.Session.Running
import ChipEight.Session.Terminal

namespace ChipEight

/-! ## Entries -/

/-- The character is white space. -/
def isWhiteSpace (c : Char) : Bool :=
  let n := c.toNat
  (0x09 ≤ n && n ≤ 0x0D) || (0x2000 ≤ n && n ≤ 0x200A)
    || [0x20, 0x85, 0xA0, 0x1680, 0x2028, 0x2029, 0x202F, 0x205F, 0x3000].contains n

/-- Text without the white space at its beginning and its end. -/
def trimmed (text : String) : String :=
  String.ofList
    ((text.toList.dropWhile isWhiteSpace).reverse.dropWhile isWhiteSpace).reverse

/-- What a line asks for. -/
inductive Entry where
  /-- End the session. -/
  | quit
  /-- Make a cycle, with a key held down if one is named. -/
  | cycle (key : Option Key)
deriving DecidableEq

/-- What a line asks for; the white space around it does not count. -/
def Entry.ofLine (line : String) : Entry :=
  let entry := trimmed line
  if entry = "q" then .quit
  else
    match entry.toList with
    | [c] => .cycle (hexValue? c)
    | _ => .cycle none

/-! ## Sessions -/

/-- A program that is stepped through. -/
structure Stepping where
  pacer : Pacer
  console : Console
  terminal : Terminal

namespace Stepping

/-- The session of a program, before its first prompt. -/
def start (settings : Settings) (chance : UInt64) (program : List UInt8) :
    Except Failure Stepping := do
  let machine := { settings.machine with stepMode := true }
  let pacer ← failOnFault (Pacer.ofSettings machine)
  let console ← failOnFault ((Console.powerUp machine chance).load program)
  return ⟨pacer, console, .new settings.render⟩

/-- Print text. -/
def print (s : Stepping) (text : String) : Stepping :=
  { s with terminal := s.terminal.print text }

/-- The registers and the prompt, a line each. -/
def promptText (s : Stepping) : String :=
  s.console.machine.registersText ++ "\n" ++ s.console.machine.prompt.text ++ "\n"

/-- Move the key that was named, if one was. -/
def moveKey (s : Stepping) (key : Option Key) (down : Bool) : Stepping :=
  match key with
  | some k => { s with console.keypad := s.console.keypad.set k down }
  | none => s

/-- Make a cycle with a key held down, the given time after the one before. -/
def cycle (s : Stepping) (key : Option Key) (elapsed : Nat) : Stepping :=
  let s := s.moveKey key true
  let (pacer, episode) := s.pacer.askStep.update s.console s.terminal elapsed
  let s := (Stepping.mk pacer episode.console episode.panel).moveKey key false
  match episode.fault with
  | some fault => s.print (errorLine "chip8" fault.message)
  | none => s

end Stepping

end ChipEight
