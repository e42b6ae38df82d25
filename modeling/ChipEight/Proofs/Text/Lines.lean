/-
  Lines of text.

  A text is `Unbroken` if it has no line feed in it.  Unbroken texts with a line feed
  after each are the lines of the text that they make up (`linesOf_join`); a text
  `ConsistsOf` lines if they make it up in this way.
-/
import ChipEight.Proofs.Text.Hexadecimal

namespace ChipEight

/-- There is no line feed in a text. -/
def Unbroken (text : String) : Prop := '\n' ∉ text.toList

instance (text : String) : Decidable (Unbroken text) :=
  inferInstanceAs (Decidable ('\n' ∉ text.toList))

theorem unbroken_append {s t : String} : Unbroken (s ++ t) ↔ Unbroken s ∧ Unbroken t := by
  simp [Unbroken]

theorem unbroken_hex (width n : Nat) : Unbroken (hex width n) := by
  rw [Unbroken, toList_hex]
  exact notMem_lastDigits (by decide)

theorem unbroken_toString (n : Nat) : Unbroken (toString n) := by
  intro broken
  have digits : (toString n).toList = Nat.toDigits 10 n := Nat.toList_repr
  rw [digits] at broken
  have digit := Nat.isDigit_of_mem_toDigits (by decide) (by decide) broken
  cases digit

/-- Pieces that each end with a separator, and have none before, are found again. -/
theorem splitOn_flatMap_concat {α β : Type} [BEq α] [LawfulBEq α] {separator : α} {piece : β → List α}
    {l : List β} (clean : ∀ b ∈ l, separator ∉ piece b) :
    (l.flatMap fun b => piece b ++ [separator]).splitOn separator = l.map piece ++ [[]] := by
  induction l with
  | nil => rfl
  | cons b later ih =>
    obtain ⟨first, rest⟩ := List.forall_mem_cons.1 clean
    rw [List.flatMap_cons, List.append_assoc, List.singleton_append,
      List.splitOn_append_cons_self_of_not_mem first, ih rest]
    rfl

/-- The lines of a text that ends with a line feed, or is empty. -/
def linesOf (text : String) : List (List Char) := (text.toList.splitOn '\n').dropLast

/-- **Lines are found again.** -/
theorem linesOf_join {lines : List String} (unbroken : ∀ line ∈ lines, Unbroken line) :
    linesOf (String.join (lines.map (· ++ "\n"))) = lines.map String.toList := by
  have chars : (String.join (lines.map (· ++ "\n"))).toList =
      lines.flatMap fun line => line.toList ++ ['\n'] := by
    rw [String.toList_join, List.flatMap_map]
    simp only [String.toList_append]
    rfl
  rw [linesOf, chars, splitOn_flatMap_concat unbroken, List.dropLast_concat]

/-- The text consists of the lines, with a line feed after each. -/
structure ConsistsOf (text : String) (lines : List String) : Prop where
  joined : text = String.join (lines.map (· ++ "\n"))
  unbroken : ∀ line ∈ lines, Unbroken line

theorem ConsistsOf.linesOf {text : String} {lines : List String} (h : ConsistsOf text lines) :
    linesOf text = lines.map String.toList := by
  rw [h.joined]
  exact linesOf_join h.unbroken

/-- What reads each of some texts back reads them all back. -/
theorem mapM_map_eq_some {α β γ : Type} {write : α → β} {read : β → Option γ} {value : α → γ}
    {l : List α} (each : ∀ a ∈ l, read (write a) = some (value a)) :
    (l.map write).mapM read = some (l.map value) := by
  induction l with
  | nil => rfl
  | cons a later ih =>
    obtain ⟨first, rest⟩ := List.forall_mem_cons.1 each
    rw [List.map_cons, List.mapM_cons, first, ih rest]
    rfl

end ChipEight
