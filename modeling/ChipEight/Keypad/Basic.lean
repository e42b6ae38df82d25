/-
  Keypad — sixteen keys that are up or down, and the presses that have not
  been asked for yet.

  A key that goes down is a press; holding it is none.  Presses are kept in
  order, at most sixteen of them, and the oldest gives way to a new one.
-/
import ChipEight.Text.Hexadecimal

namespace ChipEight

/-- A key of the keypad. -/
abbrev Key := Fin 16

/-- The key that a number names. -/
def Key.ofNat? (n : Nat) : Option Key := if h : n < 16 then some ⟨n, h⟩ else none

/-- The report that a number names no key. -/
def Key.outOfRange : String := "keycode must be in range 0 <= keycode < 16"

/-- The name of a key: `k` and its digit, in small letters. -/
def Key.text (k : Key) : String := "k" ++ String.ofList [(hexDigit k).toLower]

/-- The number of presses that are kept. -/
def pressCapacity : Nat := 16

/-- The state of the keypad. -/
structure Keypad where
  /-- The keys that are down. -/
  down : Vector Bool 16
  /-- The presses that have not been asked for, the oldest first. -/
  presses : List Key
deriving DecidableEq

namespace Keypad

/-- All keys are up, and none has been pressed. -/
def idle : Keypad := ⟨Vector.replicate 16 false, []⟩

/-- The key is down. -/
def isDown (p : Keypad) (k : Key) : Bool := p.down[k]

/-- The keys that are down, in order. -/
def downKeys (p : Keypad) : List Key := (List.finRange 16).filter p.isDown

/-- Some key is down. -/
def anyDown (p : Keypad) : Bool := p.down.toList.any id

/-- Append a press; the oldest gives way if there is no room. -/
def enqueue (presses : List Key) (k : Key) : List Key :=
  (if presses.length < pressCapacity then presses else presses.drop 1) ++ [k]

/-- Move a key down or up. -/
def set (p : Keypad) (k : Key) (down : Bool) : Keypad where
  down := p.down.set k.val down k.isLt
  presses := if down && !p.isDown k then enqueue p.presses k else p.presses

/-- Move a key down. -/
def press (p : Keypad) (k : Key) : Keypad := p.set k true

/-- Move a key up. -/
def release (p : Keypad) (k : Key) : Keypad := p.set k false

/-- Ask for the oldest press, which is then forgotten. -/
def poll (p : Keypad) : Option (Key × Keypad) :=
  match p.presses with
  | [] => none
  | k :: rest => some (k, { p with presses := rest })

/-- Forget the presses. -/
def drain (p : Keypad) : Keypad := { p with presses := [] }

/-- The keys that are down, as text. -/
def text (p : Keypad) : String :=
  "keys:" ++ String.join (p.downKeys.map fun k => " " ++ Key.text k)

theorem isDown_set (p : Keypad) (k l : Key) (down : Bool) :
    (p.set k down).isDown l = if k = l then down else p.isDown l := by
  simp [isDown, set, Vector.getElem_set, Fin.ext_iff]

theorem length_enqueue_le {presses : List Key} (k : Key) (h : presses.length ≤ pressCapacity) :
    (enqueue presses k).length ≤ pressCapacity := by
  have : 0 < pressCapacity := by decide
  unfold enqueue
  split
  · simp only [List.length_append, List.length_cons, List.length_nil]; omega
  · simp only [List.length_append, List.length_drop, List.length_cons, List.length_nil]; omega

end Keypad

end ChipEight
