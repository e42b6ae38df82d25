/-
  Labels — where a listing marks branch targets.

  * `mem_targets_iff`: the targets of a program are the addresses that its jumps and
    calls name;
  * `Listing.Amid` says what stands next to a line of a listing, and `amid_of_split` that
    this holds of every line: a word is marked if its address is among the labels, and a
    mark stands before the word of its address;
  * `Listing.words_marked` tells the same of the text.  An odd byte at the end is never
    marked, also if a jump or call names its address.
-/
import ChipEight.Proofs.Instruction.Formats
import ChipEight.Proofs.Instruction.Listing

namespace ChipEight

/-! ## Targets -/

/-- The word is a jump to the address, or a call of it. -/
def Word.BranchesTo (w : Word) (a : Address) : Prop :=
  (w.group.val = 0x1 ∨ w.group.val = 0x2) ∧ w.address = a

/-- Without its repetitions, a list has the same members. -/
theorem mem_eraseRepsBy_loop {α : Type} [BEq α] [LawfulBEq α] {last x : α} {rest seen : List α} :
    x ∈ List.eraseRepsBy.loop (· == ·) last rest seen ↔ x = last ∨ x ∈ rest ∨ x ∈ seen := by
  induction rest generalizing last seen with
  | nil => simp [List.eraseRepsBy.loop, or_comm]
  | cons next rest ih =>
    unfold List.eraseRepsBy.loop
    split
    · next same =>
      obtain rfl := eq_of_beq same
      rw [ih, List.mem_cons]
      tauto
    · rw [ih, List.mem_cons, List.mem_cons]
      tauto

theorem mem_eraseReps {α : Type} [BEq α] [LawfulBEq α] {x : α} {l : List α} :
    x ∈ l.eraseReps ↔ x ∈ l := by
  cases l with
  | nil => rfl
  | cons first rest =>
    show x ∈ List.eraseRepsBy.loop (· == ·) first rest [] ↔ x ∈ first :: rest
    rw [mem_eraseRepsBy_loop, List.mem_cons]
    simp

namespace Listing

theorem branchTarget?_eq_some_iff {w : Word} {a : Address} :
    branchTarget? w = some a ↔ w.BranchesTo a := by
  unfold branchTarget?
  constructor
  · intro named
    split at named
    · next decode =>
      cases named
      cases Word.standsFor_of_decode decode with
      | jump group => exact ⟨.inl group, rfl⟩
    · next decode =>
      cases named
      cases Word.standsFor_of_decode decode with
      | call group => exact ⟨.inr group, rfl⟩
    · cases named
  · rintro ⟨group | group, rfl⟩
    · rw [Word.decode_of_standsFor (.jump group)]
    · rw [Word.decode_of_standsFor (.call group)]

/-- A jump or call among the words of the program names the address. -/
def Branches (program : List UInt8) (a : Address) : Prop :=
  ∃ n high low, program[2 * n]? = some high ∧ program[2 * n + 1]? = some low ∧
    (Word.ofBytes high low).BranchesTo a

/-- **Targets** are the addresses that jumps and calls name. -/
theorem mem_targets_iff {origin a : Address} {program : List UInt8} :
    a ∈ targets origin program ↔ Branches program a := by
  rw [targets, mem_eraseReps, List.mem_mergeSort, List.mem_filterMap]
  constructor
  · rintro ⟨⟨place, w⟩, listed, named⟩
    obtain ⟨n, high, low, -, first, second, rfl⟩ := mem_words_iff.1 listed
    exact ⟨n, high, low, first, second, branchTarget?_eq_some_iff.1 named⟩
  · rintro ⟨n, high, low, first, second, branches⟩
    exact ⟨(_, Word.ofBytes high low), mem_words_iff.2 ⟨n, high, low, rfl, first, second, rfl⟩,
      branchTarget?_eq_some_iff.2 branches⟩

/-! ## Lines -/

/-- What stands next to a line of a listing with labels, in the lines before and after
    it. -/
def Amid (labels : List Address) (before later : List Line) : Line → Prop
  | .label a => ∃ w rest, later = .word a w :: rest
  | .word a w => (∃ high low, w = Word.ofBytes high low) ∧
      (before.getLast? = some (.label a) ↔ a ∈ labels)
  | .byte _ _ => (∀ a, before.getLast? ≠ some (.label a)) ∧ later = []

theorem getLast?_cons_label {first : Line} (row : first.isLabel = false) (before : List Line)
    (a : Address) :
    (first :: before).getLast? = some (.label a) ↔ before.getLast? = some (.label a) := by
  rw [List.getLast?_cons]
  cases before.getLast? with
  | some last => rfl
  | none => cases first <;> simp_all [Line.isLabel]

/-- What stands next to a line stays so if a row is put in front. -/
theorem Amid.cons {labels : List Address} {before later : List Line} {line first : Line}
    (h : Amid labels before later line) (row : first.isLabel = false) :
    Amid labels (first :: before) later line := by
  cases line with
  | label a => exact h
  | word a w => exact ⟨h.1, (getLast?_cons_label row before a).trans h.2⟩
  | byte a b => exact ⟨fun a' marked => h.1 a' ((getLast?_cons_label row before a').1 marked), h.2⟩

/-- ... and if a label and its word are. -/
theorem Amid.cons_cons {labels : List Address} {before later : List Line} {line first : Line}
    (h : Amid labels (first :: before) later line) (mark : Line) :
    Amid labels (mark :: first :: before) later line := by
  have last : (mark :: first :: before).getLast? = (first :: before).getLast? := rfl
  unfold Amid at h ⊢
  rwa [last]

/-- **Every line of a listing** stands where it should. -/
theorem amid_of_split {labels : List Address} {later : List Line} {line : Line}
    (origin : Address) (program : List UInt8) (before : List Line)
    (h : linesFrom labels origin program = before ++ line :: later) :
    Amid labels before later line := by
  fun_induction linesFrom labels origin program generalizing before with
  | case1 origin high low rest word lines marked ih =>
    rcases before with _ | ⟨mark, _ | ⟨first, before⟩⟩
    · obtain ⟨rfl, rfl⟩ := List.cons.inj h
      exact ⟨_, _, rfl⟩
    · obtain ⟨rfl, tail⟩ := List.cons.inj h
      obtain ⟨rfl, -⟩ := List.cons.inj tail
      exact ⟨⟨high, low, rfl⟩, iff_of_true rfl marked⟩
    · obtain ⟨-, tail⟩ := List.cons.inj h
      obtain ⟨rfl, split⟩ := List.cons.inj tail
      exact ((ih before split).cons rfl).cons_cons mark
  | case2 origin high low rest word lines unmarked ih =>
    rcases before with _ | ⟨first, before⟩
    · obtain ⟨rfl, -⟩ := List.cons.inj h
      exact ⟨⟨high, low, rfl⟩, iff_of_false (by simp) unmarked⟩
    · obtain ⟨rfl, split⟩ := List.cons.inj h
      exact (ih before split).cons rfl
  | case3 origin byte =>
    rcases before with _ | ⟨first, before⟩
    · obtain ⟨rfl, rfl⟩ := List.cons.inj h
      exact ⟨by simp, rfl⟩
    · obtain ⟨-, tail⟩ := List.cons.inj h
      cases before <;> cases tail
  | case4 => cases before <;> cases h

/-! ## Text -/

/-- The line of text that marks an address. -/
def markOf (a : Address) : List Char := ("L" ++ hex 3 a.toNat ++ ":").toList

theorem text_eq_markOf {line : Line} {a : Address} :
    line.text.toList = markOf a ↔ line = .label a := by
  constructor
  · intro same
    have mark : line.isLabel = true := by
      rw [← Line.isLabel_text, same]
      exact Line.isLabel_text (.label a)
    cases line with
    | label b =>
      have digits : (hex 3 b.toNat).toList = (hex 3 a.toNat).toList := by
        simpa [Line.text, markOf] using same
      have numbers := congrArg hexNumber? digits
      rw [hexNumber?_hex, hexNumber?_hex] at numbers
      rw [UInt16.toNat_inj.1 (Option.some.inj numbers)]
    | word | byte => cases mark
  · rintro rfl
    rfl

theorem getLast?_map_text (before : List Line) (a : Address) :
    (before.map (·.text.toList)).getLast? = some (markOf a) ↔
      before.getLast? = some (.label a) := by
  rw [List.getLast?_map, Option.map_eq_some_iff]
  constructor
  · rintro ⟨line, last, same⟩
    rwa [← text_eq_markOf.1 same]
  · intro last
    exact ⟨_, last, rfl⟩

theorem hexNumber?_addressColumn {line : Line} (row : line.isLabel = false) :
    hexNumber? (addressColumn line.text.toList) = some line.address.toNat := by
  rw [(columns_text row).1, hexNumber?_lastDigits]
  exact congrArg some (Nat.mod_eq_of_lt line.address.toNat_lt)

/-- **Words are marked** where a jump or call of the program names their address.  Take any
    line of the text.  If it is a row, it lists two bytes or, at the end of the text, the
    odd one; and the line before it marks its address exactly if it lists two bytes and
    some word of the program branches there.  If it is no row, it marks the address of the
    row after it. -/
theorem words_marked (origin : Address) (program : List UInt8) :
    ∀ before line later, linesOf (text origin program) = before ++ line :: later →
      (isLabel line = false → ∃ (a : Address) (bytes : List UInt8),
        hexNumber? (addressColumn line) = some a.toNat ∧
        hexBytes? (codeColumn line) = some bytes ∧
        (bytes.length = 2 ∨ bytes.length = 1 ∧ later = []) ∧
        (before.getLast? = some (markOf a) ↔ bytes.length = 2 ∧ Branches program a)) ∧
      (isLabel line = true → ∃ (a : Address) (row : List Char) (rest : List (List Char)),
        line = markOf a ∧ later = row :: rest ∧ isLabel row = false ∧
        hexNumber? (addressColumn row) = some a.toNat) := by
  intro before line later printed
  rw [linesOf_text] at printed
  obtain ⟨before, others, listed, rfl, rest⟩ := List.map_eq_append_iff.1 printed
  obtain ⟨line, later, rfl, rfl, rfl⟩ := List.map_eq_cons_iff.1 rest
  have amid := amid_of_split origin program before listed
  rw [Line.isLabel_text]
  cases line with
  | label a =>
    obtain ⟨w, rest, rfl⟩ := amid
    have row : (Line.word a w).isLabel = false := rfl
    exact ⟨nofun, fun _ => ⟨a, _, _, rfl, rfl, Line.isLabel_text _, hexNumber?_addressColumn row⟩⟩
  | word a w =>
    obtain ⟨⟨high, low, rfl⟩, marked⟩ := amid
    have row : (Line.word a (Word.ofBytes high low)).isLabel = false := rfl
    refine ⟨fun _ => ⟨a, [high, low], hexNumber?_addressColumn row, ?_, .inl rfl, ?_⟩, nofun⟩
    · rw [(columns_text row).2]
      exact hexBytes?_ofBytes high low
    · rw [getLast?_map_text, marked, mem_targets_iff]
      exact (and_iff_right rfl).symm
  | byte a b =>
    obtain ⟨bare, rfl⟩ := amid
    have row : (Line.byte a b).isLabel = false := rfl
    refine ⟨fun _ => ⟨a, [b], hexNumber?_addressColumn row, ?_, .inr ⟨rfl, rfl⟩, ?_⟩, nofun⟩
    · rw [(columns_text row).2]
      exact hexBytes?_lastDigits b []
    · rw [getLast?_map_text]
      exact iff_of_false (bare a) (by simp)

/-- A program that jumps to its odd byte, which is not marked. -/
theorem odd_byte_unmarked :
    let program : List UInt8 := [0x12, 0x02, 0xFF]
    let jump := "0x0200  1202  JP 0x202".toList
    let odd := "0x0202  FF    DB 0xFF".toList
    linesOf (text 0x200 program) = [jump] ++ odd :: [] ∧ isLabel odd = false ∧
      hexNumber? (addressColumn odd) = some 0x202 ∧ Branches program 0x202 ∧
      [jump].getLast? ≠ some (markOf 0x202) := by
  intro program jump odd
  have printed : linesOf (text 0x200 program) = [jump] ++ odd :: [] := by decide +kernel
  have row : isLabel odd = false := by decide
  obtain ⟨a, bytes, place, code, -, marked⟩ := (words_marked 0x200 program _ _ _ printed).1 row
  have column : hexNumber? (addressColumn odd) = some 0x202 := by decide
  have single : hexBytes? (codeColumn odd) = some [0xFF] := by decide
  obtain rfl : (0x202 : Address) = a :=
    UInt16.toNat_inj.1 (Option.some.inj (column.symm.trans place))
  obtain rfl : [0xFF] = bytes := Option.some.inj (single.symm.trans code)
  refine ⟨printed, row, column, ⟨0, 0x12, 0x02, rfl, rfl, .inl rfl, rfl⟩, fun mark => ?_⟩
  cases (marked.1 mark).1

end Listing

end ChipEight
