/-
  Devices — a screen, a speaker and a keyboard in one, with a keypad of its own.

  A device is told of pictures and of the buzzer, and it is asked for keys and presses.
  Each of these may change all of it, its keypad as well; that none of them does is
  something that a device has to be shown to keep to.

  * a `Recording` notes what it is told, and a `Teletype` prints pictures with a writer,
    which may fail at any time and in any way;
  * `Device.Lawful`: keys and presses are those of the keypad, and what a device is told
    leaves its keypad alone.  Recordings and teletypes are lawful;
  * `Device.Mirrors`: a part of a device does as a panel does.  What a teletype prints is
    what a printer prints.
-/
import ChipEight.Panel.Printer
import ChipEight.Proofs.Machine.Turns

namespace ChipEight

/-- States of a device. -/
class Device (δ : Type) where
  /-- The keypad, for someone who presses its keys. -/
  keypad : δ → Keypad
  /-- The state after someone has left the keypad like this. -/
  setKeypad : Keypad → δ → δ
  /-- The state after a picture. -/
  draw : Screen → δ → δ
  /-- The state after the program has cleared the screen. -/
  clear : δ → δ
  /-- The state after the buzzer was switched on or off. -/
  buzz : Bool → δ → δ
  /-- Whether a key is down. -/
  isDown : δ → Key → Bool
  /-- A press, if there is one, and the state after asking for it. -/
  poll : δ → Option Key × δ
  /-- A number of presses that there can be at most. -/
  queued : δ → Nat
  queued_poll : ∀ d, (poll d).1.isSome = true → queued (poll d).2 < queued d

/-- Asking for a press takes the oldest one, if there is any. -/
theorem Keypad.use_poll (p : Keypad) :
    p.use .poll = (p.presses.head?, { p with presses := p.presses.tail }) := by
  obtain ⟨down, _ | ⟨k, rest⟩⟩ := p <;> rfl

theorem Keypad.length_use_poll (p : Keypad) (press : (p.use .poll).1.isSome = true) :
    (p.use .poll).2.presses.length < p.presses.length := by
  rw [use_poll] at *
  obtain ⟨down, _ | ⟨k, rest⟩⟩ := p
  · cases press
  · exact Nat.lt_succ_self _

namespace Device
variable {δ ε : Type} [Device δ] [Panel ε]

/-- Ask for presses until there is none. -/
def drain (d : δ) : δ :=
  if press : (poll d).1.isSome = true then
    have := queued_poll d press
    drain (poll d).2
  else (poll d).2
termination_by queued d

/-- The key that a byte names is down; a byte above fifteen names none. -/
def namesDown (d : δ) (byte : UInt8) : Bool :=
  match Key.ofNat? byte.toNat with
  | some k => isDown d k
  | none => false

/-! ## Laws -/

/-- A device that answers for its keypad, and leaves it alone otherwise. -/
class Lawful (δ : Type) [Device δ] : Prop where
  keypad_setKeypad : ∀ (p : Keypad) (d : δ), keypad (setKeypad p d) = p
  isDown_eq : ∀ (d : δ) k, isDown d k = (keypad d).isDown k
  poll_eq : ∀ d : δ, ((poll d).1, keypad (poll d).2) = (keypad d).use .poll
  keypad_draw : ∀ (picture : Screen) (d : δ), keypad (draw picture d) = keypad d
  keypad_clear : ∀ d : δ, keypad (clear d) = keypad d
  keypad_buzz : ∀ (on : Bool) (d : δ), keypad (buzz on d) = keypad d

/-- A part of a device does as a panel does that is told the same, and keys do not
    concern it. -/
structure Mirrors (panel : δ → ε) : Prop where
  setKeypad : ∀ p d, panel (setKeypad p d) = panel d
  poll : ∀ d, panel (poll d).2 = panel d
  draw : ∀ picture d, panel (draw picture d) = Panel.receive (keypad d) (.draw picture) (panel d)
  clear : ∀ d, panel (clear d) = Panel.receive (keypad d) .clear (panel d)
  buzz : ∀ on d, panel (buzz on d) = Panel.receive (keypad d) (.buzz on) (panel d)
  /-- A device is told of no halt. -/
  halt : ∀ d address fault,
    Panel.receive (keypad d) (.halt address fault) (panel d) = panel d

/-- Nothing is connected that could be told something. -/
instance : Panel Unit where
  receive _ _ nothing := nothing

theorem mirrors_nothing : Mirrors fun _ : δ => () where
  setKeypad _ _ := rfl
  poll _ := rfl
  draw _ _ := rfl
  clear _ := rfl
  buzz _ _ := rfl
  halt _ _ _ := rfl

theorem Mirrors.drain {panel : δ → ε} (h : Mirrors panel) (d : δ) :
    panel (drain d) = panel d := by
  fun_induction Device.drain d with
  | case1 d press _ ih => rw [ih, h.poll]
  | case2 d none => exact h.poll d

section
variable [Lawful δ]

theorem namesDown_eq (d : δ) (byte : UInt8) : namesDown d byte = (keypad d).namesDown byte := by
  unfold namesDown Keypad.namesDown
  cases Key.ofNat? byte.toNat with
  | none => rfl
  | some k => exact Lawful.isDown_eq d k

/-- **All presses are forgotten**, and the keys stay as they are. -/
theorem keypad_drain (d : δ) : keypad (drain d) = (keypad d).drain := by
  fun_induction drain d with
  | case1 d press _ ih =>
    have rest : keypad (poll d).2 = { keypad d with presses := (keypad d).presses.tail } :=
      congrArg Prod.snd ((Lawful.poll_eq d).trans (keypad d).use_poll)
    rw [ih, rest]
    rfl
  | case2 d none =>
    obtain ⟨asked, rest⟩ := Prod.mk.inj ((Lawful.poll_eq d).trans (keypad d).use_poll)
    have empty : (keypad d).presses = [] := by simpa [asked] using none
    rw [rest, Keypad.drain, empty]
    rfl

end

/-! ## Recordings -/

/-- What a device is told. -/
inductive Call where
  | draw (picture : Screen)
  | clear
  | buzz (on : Bool)
deriving DecidableEq

end Device

/-- A device that notes what it is told, the earliest first. -/
structure Recording where
  keypad : Keypad
  calls : List Device.Call

namespace Recording

/-- A device that has been told nothing yet. -/
def new (keypad : Keypad) : Recording := ⟨keypad, []⟩

/-- Note what it is told. -/
def note (r : Recording) (call : Device.Call) : Recording := { r with calls := r.calls ++ [call] }

instance : Device Recording where
  keypad r := r.keypad
  setKeypad keypad r := { r with keypad }
  draw picture r := r.note (.draw picture)
  clear r := r.note .clear
  buzz on r := r.note (.buzz on)
  isDown r k := r.keypad.isDown k
  poll r :=
    let (press, keypad) := r.keypad.use .poll
    (press, { r with keypad })
  queued r := r.keypad.presses.length
  queued_poll r := r.keypad.length_use_poll

instance : Device.Lawful Recording where
  keypad_setKeypad _ _ := rfl
  isDown_eq _ _ := rfl
  poll_eq _ := rfl
  keypad_draw _ _ := rfl
  keypad_clear _ := rfl
  keypad_buzz _ _ := rfl

end Recording

/-! ## Teletypes -/

/-- States of a writer. -/
class Writer (ω : Type) where
  /-- Whether text was written, and the state after the attempt. -/
  write : String → ω → Bool × ω
  /-- Whether the text written so far was passed on, and the state after the attempt. -/
  flush : ω → Bool × ω

/-- A device that prints pictures with a writer. -/
structure Teletype (ω : Type) where
  out : ω
  keypad : Keypad
  /-- Pictures are to be printed. -/
  renders : Bool
  /-- The last picture that was to be printed. -/
  shown : Option Screen
  /-- The number of pictures that were to be printed. -/
  frames : Nat

namespace Teletype
variable {ω : Type}

/-- A teletype that has been told nothing yet. -/
def new (out : ω) (keypad : Keypad) (renders : Bool) : Teletype ω := ⟨out, keypad, renders, none, 0⟩

variable [Writer ω]

/-- Try to write text. -/
def write (t : Teletype ω) (text : String) : Bool × Teletype ω :=
  let (written, out) := Writer.write text t.out
  (written, { t with out })

/-- Try to pass on what is written. -/
def flush (t : Teletype ω) : Bool × Teletype ω :=
  let (passed, out) := Writer.flush t.out
  (passed, { t with out })

/-- Try to print a picture, under its number and the keys that are down; the first attempt
    that fails is the last. -/
def printFrame (t : Teletype ω) (picture : Screen) : Bool × Teletype ω :=
  match t.write ("frame " ++ toString t.frames ++ " (" ++ t.keypad.text ++ ")\n") with
  | (false, t) => (false, t)
  | (true, t) =>
    match t.write (picture.text ++ "\n") with
    | (false, t) => (false, t)
    | (true, t) => t.flush

/-- Show a picture; it counts as shown if printing fails, too. -/
def display (t : Teletype ω) (picture : Screen) : Teletype ω :=
  if t.renders = false ∨ t.shown = some picture then t
  else
    let (_, t) := { t with frames := t.frames + 1 }.printFrame picture
    { t with shown := some picture }

instance : Device (Teletype ω) where
  keypad t := t.keypad
  setKeypad keypad t := { t with keypad }
  draw picture t := t.display picture
  clear t := t
  buzz _ t := t
  isDown t k := t.keypad.isDown k
  poll t :=
    let (press, keypad) := t.keypad.use .poll
    (press, { t with keypad })
  queued t := t.keypad.presses.length
  queued_poll t := t.keypad.length_use_poll

theorem keypad_printFrame (t : Teletype ω) (picture : Screen) :
    (t.printFrame picture).2.keypad = t.keypad := by
  unfold printFrame
  split
  · next h => exact (congrArg (·.2.keypad) h).symm
  · next h =>
    have first := congrArg (·.2.keypad) h
    split
    · next h' => exact (congrArg (·.2.keypad) h').symm.trans first.symm
    · next h' => exact (congrArg (·.2.keypad) h').symm.trans first.symm

/-- **Printing leaves the keypad alone**, however far it comes. -/
theorem keypad_display (t : Teletype ω) (picture : Screen) :
    (t.display picture).keypad = t.keypad := by
  unfold display
  split
  · rfl
  · exact keypad_printFrame _ picture

instance : Device.Lawful (Teletype ω) where
  keypad_setKeypad _ _ := rfl
  isDown_eq _ _ := rfl
  poll_eq _ := rfl
  keypad_draw picture t := t.keypad_display picture
  keypad_clear _ := rfl
  keypad_buzz _ _ := rfl

end Teletype

/-! ## Paper -/

/-- A writer that keeps all that is written. -/
structure Paper where
  text : String

instance : Writer Paper where
  write text paper := (true, ⟨paper.text ++ text⟩)
  flush paper := (true, paper)

/-- A writer that fails at every attempt. -/
structure JammedPaper where

instance : Writer JammedPaper where
  write _ paper := (false, paper)
  flush paper := (false, paper)

namespace Teletype

/-- The printer of a teletype with paper. -/
def printer (t : Teletype Paper) : Printer := ⟨t.renders, false, t.shown, t.frames, t.out.text⟩

/-- The printer of a teletype whose paper is jammed. -/
def jammedPrinter (t : Teletype JammedPaper) : Printer := ⟨t.renders, true, t.shown, t.frames, ""⟩

/-- **What is printed on paper** is what a printer prints. -/
theorem mirrors_printer : Device.Mirrors printer where
  setKeypad _ _ := rfl
  poll _ := rfl
  draw picture t := by
    show (t.display picture).printer = t.printer.display t.keypad picture
    unfold display Printer.display
    by_cases skips : t.renders = false ∨ t.shown = some picture
    · rw [if_pos skips, if_pos (by exact skips)]
    · rw [if_neg skips, if_neg (by exact skips)]
      simp [printer, printFrame, write, flush, Writer.write, Writer.flush, Printer.print,
        Printer.frameText, String.append_assoc]
  clear _ := rfl
  buzz _ _ := rfl
  halt _ _ _ := rfl

/-- **Jammed paper** is that of a jammed printer. -/
theorem mirrors_jammedPrinter : Device.Mirrors jammedPrinter where
  setKeypad _ _ := rfl
  poll _ := rfl
  draw picture t := by
    show (t.display picture).jammedPrinter = t.jammedPrinter.display t.keypad picture
    unfold display Printer.display
    by_cases skips : t.renders = false ∨ t.shown = some picture
    · rw [if_pos skips, if_pos (by exact skips)]
    · rw [if_neg skips, if_neg (by exact skips)]
      rfl
  clear _ := rfl
  buzz _ _ := rfl
  halt _ _ _ := rfl

end Teletype

end ChipEight
