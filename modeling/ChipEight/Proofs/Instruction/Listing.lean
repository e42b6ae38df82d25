/-
  Listings read back.

  The rows of a listing are its lines but for the labels: an address column, a code
  column and the operation.

  * `rows_text`: the rows of the text are those of a listing without labels, whatever
    the labels are;
  * `columns_text`: a row begins with the digits of its address and its code;
  * `text_lossless`: so the text of a program tells the program, byte by byte.
-/
import ChipEight.Instruction.Listing
import ChipEight.Proofs.Text.Lines

namespace ChipEight

/-! ## Operations are unbroken -/

theorem Register.unbroken_text (x : Register) : Unbroken (Register.text x) :=
  unbroken_append.2 ⟨by decide, unbroken_hex 1 x.val⟩

theorem unbroken_byteText (byte : UInt8) : Unbroken (byteText byte) := unbroken_toString byte.toNat

theorem unbroken_addressText (a : Address) : Unbroken (addressText a) :=
  unbroken_append.2 ⟨by decide, unbroken_hex 3 a.toNat⟩

theorem unbroken_twoOperands {verb first second : String} :
    Unbroken (twoOperands verb first second) ↔
      Unbroken verb ∧ Unbroken first ∧ Unbroken second := by
  have blank : Unbroken " " := by decide
  have comma : Unbroken ", " := by decide
  simp only [twoOperands, unbroken_append, blank, comma, and_true, and_assoc]

theorem Operation.unbroken_verb (operation : Operation) : Unbroken operation.verb := by
  cases operation <;> decide

theorem Test.unbroken_mnemonic (test : Test) : Unbroken test.mnemonic := by
  cases test with
  | isByte x byte | isNotByte x byte =>
    exact unbroken_twoOperands.2 ⟨by decide, x.unbroken_text, unbroken_byteText byte⟩
  | same x y | differ x y =>
    exact unbroken_twoOperands.2 ⟨by decide, x.unbroken_text, y.unbroken_text⟩
  | keyDown x | keyUp x => exact unbroken_append.2 ⟨by decide, x.unbroken_text⟩

theorem Instruction.unbroken_mnemonic (i : Instruction) : Unbroken i.mnemonic := by
  cases i with
  | clearScreen | ret => decide
  | jump target | call target =>
    exact unbroken_append.2 ⟨by decide, unbroken_addressText target⟩
  | skip test => exact test.unbroken_mnemonic
  | loadByte x byte | addByte x byte | random x byte =>
    exact unbroken_twoOperands.2 ⟨by decide, x.unbroken_text, unbroken_byteText byte⟩
  | combine operation x y =>
    exact unbroken_twoOperands.2 ⟨operation.unbroken_verb, x.unbroken_text, y.unbroken_text⟩
  | shiftRight x | shiftLeft x => exact unbroken_append.2 ⟨by decide, x.unbroken_text⟩
  | loadIndex target | jumpOffset target =>
    exact unbroken_twoOperands.2 ⟨by decide, by decide, unbroken_addressText target⟩
  | draw x y rows =>
    have operands : Unbroken (twoOperands "DRW" (Register.text x) (Register.text y)) :=
      unbroken_twoOperands.2 ⟨by decide, x.unbroken_text, y.unbroken_text⟩
    exact unbroken_append.2 ⟨unbroken_append.2 ⟨operands, by decide⟩, unbroken_toString rows.val⟩
  | loadDelay x | awaitKey x | loadRegisters x =>
    exact unbroken_twoOperands.2 ⟨by decide, x.unbroken_text, by decide⟩
  | setDelay x | setSound x | addIndex x | loadGlyph x | storeDecimal x | storeRegisters x =>
    exact unbroken_twoOperands.2 ⟨by decide, by decide, x.unbroken_text⟩

namespace Listing

theorem unbroken_operationText (w : Word) : Unbroken (operationText w) := by
  unfold operationText
  split
  · next i _ => exact i.unbroken_mnemonic
  · exact unbroken_append.2 ⟨by decide, unbroken_hex 4 w.toNat⟩

theorem Line.unbroken_text (line : Line) : Unbroken line.text := by
  have mark : Unbroken "0x" := by decide
  have gap : Unbroken "  " := by decide
  cases line with
  | label address =>
    exact unbroken_append.2 ⟨unbroken_append.2 ⟨by decide, unbroken_hex 3 _⟩, by decide⟩
  | word address w =>
    simp only [text, unbroken_append, mark, gap, unbroken_hex, Word.text, unbroken_operationText,
      and_self]
  | byte address b =>
    have data : Unbroken "    DB 0x" := by decide
    simp only [text, unbroken_append, mark, gap, data, unbroken_hex, and_self]

/-! ## Rows -/

/-- A line of text that marks a branch target. -/
def isLabel (line : List Char) : Bool := line.head? == some 'L'

/-- The lines of a listing but for the labels. -/
def rows (text : String) : List (List Char) := (linesOf text).filter (!isLabel ·)

/-- The digits of the address of a row, after `0x`. -/
def addressColumn (row : List Char) : List Char := (row.drop 2).take 4

/-- The digits of the code of a row, up to the blanks before the operation. -/
def codeColumn (row : List Char) : List Char := (row.drop 8).takeWhile (· != ' ')

namespace Line

/-- The line marks a branch target. -/
def isLabel : Line → Bool
  | .label _ => true
  | _ => false

/-- The address of a line. -/
def address : Line → Address
  | .label address | .word address _ | .byte address _ => address

/-- The digits of the bytes that a line lists. -/
def code : Line → List Char
  | .label _ => []
  | .word _ w => lastDigits 4 w.toNat
  | .byte _ b => lastDigits 2 b.toNat

theorem isLabel_text (line : Line) : Listing.isLabel line.text.toList = line.isLabel := by
  cases line <;> simp [text, Listing.isLabel, isLabel]

end Line

/-- Rows are cut into their columns again. -/
theorem columns_of_row {address code : List Char} (four : address.length = 4)
    (whole : ' ' ∉ code) (rest : List Char) :
    let row := '0' :: 'x' :: (address ++ ' ' :: ' ' :: (code ++ ' ' :: rest))
    addressColumn row = address ∧ codeColumn row = code := by
  intro row
  refine ⟨List.take_left' four, ?_⟩
  have behind : row.drop 8 = code ++ ' ' :: rest := by
    show (address ++ ' ' :: ' ' :: (code ++ ' ' :: rest)).drop 6 = _
    rw [List.drop_append, four, List.drop_eq_nil_of_le (by omega)]
    rfl
  have solid : ∀ c ∈ code, (c != ' ') = true := fun c mem =>
    bne_iff_ne.2 fun same => whole (same ▸ mem)
  rw [codeColumn, behind, List.takeWhile_append_of_pos solid, List.takeWhile_cons_of_neg (by decide),
    List.append_nil]

/-- **The columns of a row** are the digits of its address and its code. -/
theorem columns_text {line : Line} (row : line.isLabel = false) :
    addressColumn line.text.toList = lastDigits 4 line.address.toNat ∧
      codeColumn line.text.toList = line.code := by
  have four (a : Address) : (hex 4 a.toNat).toList = lastDigits 4 a.toNat :=
    toList_hex_of_lt a.toNat_lt
  cases line with
  | label address => cases row
  | word address w =>
    have columns := columns_of_row (length_lastDigits 4 address.toNat)
      (blank_notMem_lastDigits 4 w.toNat) (' ' :: (operationText w).toList)
    simpa [Line.text, Line.address, Line.code, Word.text, four] using columns
  | byte address b =>
    have two : (hex 2 b.toNat).toList = lastDigits 2 b.toNat := toList_hex_of_lt b.toNat_lt
    have columns := columns_of_row (length_lastDigits 4 address.toNat)
      (blank_notMem_lastDigits 2 b.toNat) ("   DB 0x".toList ++ lastDigits 2 b.toNat)
    simpa [Line.text, Line.address, Line.code, four, two] using columns

/-! ## Programs -/

/-- **A listed word** consists of two bytes of the program, and its address is their place
    after the origin. -/
theorem mem_words_iff {origin a : Address} {program : List UInt8} {w : Word} :
    (a, w) ∈ words origin program ↔
      ∃ n high low, a = origin + UInt16.ofNat (2 * n) ∧ program[2 * n]? = some high ∧
        program[2 * n + 1]? = some low ∧ w = Word.ofBytes high low := by
  fun_induction words origin program with
  | case1 origin high low rest ih =>
    have shift (n : Nat) :
        origin + 2 + UInt16.ofNat (2 * n) = origin + UInt16.ofNat (2 * (n + 1)) := by
      apply UInt16.toNat_inj.1
      simp only [UInt16.toNat_add, UInt16.toNat_ofNat', UInt16.toNat_ofNat]
      omega
    rw [List.mem_cons, ih, Prod.mk.injEq]
    constructor
    · rintro (⟨rfl, rfl⟩ | ⟨n, high', low', place, found⟩)
      · exact ⟨0, high, low, (UInt16.add_zero _).symm, rfl, rfl, rfl⟩
      · exact ⟨n + 1, high', low', place.trans (shift n), found⟩
    · rintro ⟨_ | n, high', low', place, found⟩
      · obtain ⟨first, second, rfl⟩ := found
        cases first
        cases second
        exact .inl ⟨place.trans (UInt16.add_zero _), rfl⟩
      · exact .inr ⟨n, high', low', place.trans (shift n).symm, found⟩
  | case2 program _ short =>
    constructor
    · rintro ⟨⟩
    · rintro ⟨n, high, low, -, -, second, -⟩
      obtain ⟨inside, -⟩ := List.getElem?_eq_some_iff.1 second
      rcases program with _ | ⟨first, _ | ⟨next, rest⟩⟩
      · cases inside
      · rw [List.length_singleton] at inside
        omega
      · exact absurd rfl (short first next rest)

/-- Without its labels, a listing is what it is if nothing is labelled. -/
theorem filter_linesFrom (labels : List Address) (origin : Address) (program : List UInt8) :
    (linesFrom labels origin program).filter (!·.isLabel) = linesFrom [] origin program := by
  fun_induction linesFrom labels origin program with
  | case1 origin high low rest line later marked ih =>
    rw [linesFrom, if_neg List.not_mem_nil, ← ih]
    rfl
  | case2 origin high low rest line later unmarked ih =>
    rw [linesFrom, if_neg List.not_mem_nil, ← ih]
    rfl
  | case3 | case4 => rfl

theorem linesOf_text (origin : Address) (program : List UInt8) :
    linesOf (text origin program) = (lines origin program).map (·.text.toList) := by
  have unbroken : ∀ row ∈ (lines origin program).map Line.text, Unbroken row :=
    List.forall_mem_map.2 fun line _ => line.unbroken_text
  have joined := linesOf_join unbroken
  rwa [List.map_map, List.map_map] at joined

/-- **The rows of the text** are those of a listing without labels. -/
theorem rows_text (origin : Address) (program : List UInt8) :
    rows (text origin program) = (linesFrom [] origin program).map (·.text.toList) := by
  rw [rows, linesOf_text, List.filter_map, ← filter_linesFrom (targets origin program), lines]
  congr 2
  funext line
  exact congrArg (!·) line.isLabel_text

theorem linesFrom_cons (origin : Address) (high low : UInt8) (rest : List UInt8) :
    linesFrom [] origin (high :: low :: rest) =
      .word origin (Word.ofBytes high low) :: linesFrom [] (origin + 2) rest := by
  rw [linesFrom, if_neg List.not_mem_nil]

/-- **A row for two bytes**, and one for an odd byte. -/
theorem length_linesFrom :
    ∀ (origin : Address) (program : List UInt8),
      (linesFrom [] origin program).length = (program.length + 1) / 2
  | _, [] => rfl
  | _, [_] => by rw [linesFrom, List.length_singleton, List.length_singleton]
  | origin, high :: low :: rest => by
    rw [linesFrom_cons, List.length_cons, length_linesFrom (origin + 2) rest, List.length_cons,
      List.length_cons]
    omega

/-- The code of a word are the digits of its bytes. -/
theorem lastDigits_ofBytes (high low : UInt8) :
    lastDigits 4 (Word.ofBytes high low).toNat =
      lastDigits 2 high.toNat ++ lastDigits 2 low.toNat := by
  have lowBound := low.toNat_lt
  have digits (a b : Nat) (same : a % 16 = b % 16) : hexDigit (lastDigit a) = hexDigit (lastDigit b) :=
    congrArg hexDigit (Fin.ext same)
  rw [Word.toNat_ofBytes]
  simp only [lastDigits, List.nil_append, List.cons_append, List.cons.injEq, and_true]
  exact ⟨digits _ _ (by omega), digits _ _ (by omega), digits _ _ (by omega), digits _ _ (by omega)⟩

theorem hexBytes?_ofBytes (high low : UInt8) :
    hexBytes? (lastDigits 4 (Word.ofBytes high low).toNat) = some [high, low] := by
  have second := hexBytes?_lastDigits low []
  rw [List.append_nil] at second
  rw [lastDigits_ofBytes, hexBytes?_lastDigits, second]
  rfl

/-- **The codes of the rows**, read one after the other, are the program. -/
theorem hexBytes?_code :
    ∀ (origin : Address) (program : List UInt8),
      hexBytes? ((linesFrom [] origin program).flatMap Line.code) = some program
  | _, [] => rfl
  | _, [byte] => hexBytes?_lastDigits byte []
  | origin, high :: low :: rest => by
    rw [linesFrom_cons, List.flatMap_cons, Line.code, lastDigits_ofBytes, List.append_assoc,
      hexBytes?_lastDigits, hexBytes?_lastDigits, hexBytes?_code (origin + 2) rest]
    rfl

/-- **Each row** stands at its place, and lists two bytes or the odd one. -/
theorem row_spec :
    ∀ (origin : Address) (program : List UInt8) (i : Nat) {line : Line},
      (linesFrom [] origin program)[i]? = some line →
        line.isLabel = false ∧ line.address = origin + UInt16.ofNat (2 * i) ∧
          hexBytes? line.code = some ((program.drop (2 * i)).take 2)
  | _, [], _, _, h => by cases h
  | origin, [byte], 0, _, h => by
    cases h
    exact ⟨rfl, (UInt16.add_zero _).symm, hexBytes?_lastDigits byte []⟩
  | _, [_], _ + 1, _, h => by cases h
  | origin, high :: low :: rest, 0, _, h => by
    rw [linesFrom_cons] at h
    cases h
    exact ⟨rfl, (UInt16.add_zero _).symm, hexBytes?_ofBytes high low⟩
  | origin, high :: low :: rest, i + 1, line, h => by
    rw [linesFrom_cons, List.getElem?_cons_succ] at h
    obtain ⟨row, place, code⟩ := row_spec (origin + 2) rest i h
    refine ⟨row, ?_, code⟩
    rw [place]
    apply UInt16.toNat_inj.1
    simp only [UInt16.toNat_add, UInt16.toNat_ofNat', UInt16.toNat_ofNat]
    omega

/-- An odd byte gets the last row. -/
theorem linesFrom_concat :
    ∀ (origin : Address) (program : List UInt8) (byte : UInt8), program.length % 2 = 0 →
      linesFrom [] origin (program ++ [byte]) =
        linesFrom [] origin program ++ [.byte (origin + UInt16.ofNat program.length) byte]
  | origin, [], byte, _ => by
    rw [List.length_nil]
    show [Line.byte origin byte] = [Line.byte (origin + 0) byte]
    rw [UInt16.add_zero]
  | _, [_], _, odd => by cases odd
  | origin, high :: low :: rest, byte, even => by
    have shorter : rest.length % 2 = 0 := by
      simp only [List.length_cons] at even
      omega
    have place : origin + 2 + UInt16.ofNat rest.length =
        origin + UInt16.ofNat (high :: low :: rest).length := by
      apply UInt16.toNat_inj.1
      simp only [List.length_cons, UInt16.toNat_add, UInt16.toNat_ofNat', UInt16.toNat_ofNat]
      omega
    rw [List.cons_append, List.cons_append, linesFrom_cons, linesFrom_cons,
      linesFrom_concat (origin + 2) rest byte shorter, place, List.cons_append]

theorem codes_text (origin : Address) (program : List UInt8) :
    hexBytes? ((rows (text origin program)).flatMap codeColumn) = some program := by
  have codes : (rows (text origin program)).flatMap codeColumn =
      (linesFrom [] origin program).flatMap Line.code := by
    rw [rows_text, List.flatMap_map]
    refine congrArg List.flatten (List.map_congr_left fun line mem => ?_)
    obtain ⟨i, found⟩ := List.getElem?_of_mem mem
    exact (columns_text (row_spec origin program i found).1).2
  rw [codes, hexBytes?_code]

/-- **Listings are lossless.**  The text of a program has, apart from labels, a row for
    every two bytes and one for an odd byte at the end.  The address of a row is its
    place after the origin, wrapping after the last address, and its code are the
    bytes that it stands for; the odd byte is listed as data.  The codes of all rows,
    one after the other, are the program, so programs with the same text are the
    same. -/
theorem text_lossless (origin : Address) (program : List UInt8) :
    let rows := rows (text origin program)
    rows.length = (program.length + 1) / 2 ∧
      (∀ i row, rows[i]? = some row →
        hexNumber? (addressColumn row) = some ((origin.toNat + 2 * i) % 65536) ∧
          hexBytes? (codeColumn row) = some ((program.drop (2 * i)).take 2)) ∧
      (∀ words byte, program = words ++ [byte] → words.length % 2 = 0 →
        rows.getLast? = some ("0x" ++ hex 4 ((origin.toNat + words.length) % 65536) ++ "  " ++
          hex 2 byte.toNat ++ "    DB 0x" ++ hex 2 byte.toNat).toList) ∧
      hexBytes? (rows.flatMap codeColumn) = some program ∧
      ∀ other, text origin other = text origin program → other = program := by
  intro rows
  have data : rows = (linesFrom [] origin program).map (·.text.toList) := rows_text origin program
  refine ⟨?_, fun i row found => ?_, fun words byte odd even => ?_, codes_text origin program,
    fun other same => ?_⟩
  · rw [data, List.length_map, length_linesFrom]
  · rw [data, List.getElem?_map, Option.map_eq_some_iff] at found
    obtain ⟨line, found, rfl⟩ := found
    obtain ⟨row, place, code⟩ := row_spec origin program i found
    obtain ⟨address, digits⟩ := columns_text row
    refine ⟨?_, digits ▸ code⟩
    have bound : line.address.toNat < 16 ^ 4 := line.address.toNat_lt
    rw [address, hexNumber?_lastDigits, Nat.mod_eq_of_lt bound, place]
    simp only [UInt16.toNat_add, UInt16.toNat_ofNat']
    congr 1
    omega
  · have place : (origin + UInt16.ofNat words.length).toNat =
        (origin.toNat + words.length) % 65536 := by
      simp only [UInt16.toNat_add, UInt16.toNat_ofNat']
      omega
    rw [data, odd, linesFrom_concat origin words byte even, List.map_append, List.map_singleton,
      List.getLast?_concat, Line.text, place]
  · have codes := codes_text origin other
    rw [same, codes_text] at codes
    exact (Option.some.inj codes).symm

example : text 0 [0x00, 0xEE, 0xF0] = "0x0000  00EE  RET\n0x0002  F0    DB 0xF0\n" := by
  decide +kernel

end Listing

end ChipEight
