/-
  Scripts — keys that are pressed at set times.

  A press is two moves of its key, down and up again.  A script holds the moves
  that are still to be made in the order of their times; moves of one time keep
  the order of the presses, and a key goes down before it comes up.
-/
import ChipEight.Settings.Basic

namespace ChipEight

/-- A key that goes down or up at a time. -/
structure Move where
  /-- The nanosecond of the move. -/
  time : Nat
  key : Key
  down : Bool
deriving DecidableEq

/-- Make a move. -/
def Move.apply (keypad : Keypad) (move : Move) : Keypad := keypad.set move.key move.down

/-- The two moves of a press. -/
def Press.moves (press : Press) : Except SettingFault (List Move) := do
  let (down, up) ← press.span
  return [⟨down, press.key, true⟩, ⟨up, press.key, false⟩]

/-- The moves that are still to be made, the earliest first. -/
structure Script where
  pending : List Move
  sorted : pending.Pairwise fun a b => a.time ≤ b.time
deriving DecidableEq

namespace Script

/-- Moves in the order of their times; moves of one time stay as they are. -/
def sortMoves (moves : List Move) : List Move :=
  moves.mergeSort fun a b => a.time ≤ b.time

theorem sorted_sortMoves (moves : List Move) :
    (sortMoves moves).Pairwise fun a b => a.time ≤ b.time := by
  have h : (sortMoves moves).Pairwise fun a b => decide (a.time ≤ b.time) = true :=
    List.pairwise_mergeSort
      (fun a b c hab hbc => by simp only [decide_eq_true_eq] at *; omega)
      (fun a b => by simp only [Bool.or_eq_true, decide_eq_true_eq]; omega) moves
  exact h.imp of_decide_eq_true

/-- The script of a list of presses. -/
def ofPresses (presses : List Press) : Except SettingFault Script := do
  let moves ← presses.mapM Press.moves
  return ⟨sortMoves moves.flatten, sorted_sortMoves _⟩

/-- A move is due at the given time. -/
def isDue (elapsed : Nat) (move : Move) : Bool := move.time ≤ elapsed

/-- Make the moves that are due at the given time. -/
def apply (script : Script) (elapsed : Nat) (keypad : Keypad) : Script × Keypad :=
  (⟨script.pending.dropWhile (isDue elapsed), script.sorted.sublist (List.dropWhile_sublist _)⟩,
    (script.pending.takeWhile (isDue elapsed)).foldl Move.apply keypad)

end Script

end ChipEight
