/-
  Mnemonics read back.

  A mnemonic is a phrase: a verb, and operands with commas between them.  Each kind of
  operand is spelled in its own way, so a phrase is read in one way only.

  * `Operand.ofChars?` reads an operand back from its text (`ofChars?_text`);
  * `partsOf_text`: the verb and the operands are what lies between the blanks, once the
    commas are left out;
  * `RawInstruction.ofPhrase?` is the instruction that a phrase stands for, and
    `RawInstruction.ofText?` the one of a text, which reads every mnemonic back
    (`ofText?_mnemonic`), for operands of any size;
  * `Instruction.mnemonic_raw`: an instruction and its raw one have the same mnemonic.
-/
import ChipEight.Instruction.Mnemonic
import ChipEight.Proofs.Machine.Raw
import ChipEight.Proofs.Text.Lines

namespace ChipEight

/-! ## Operands -/

/-- An operand of a mnemonic. -/
inductive Operand where
  | register (x : UInt8)
  | number (n : UInt8)
  | address (a : Address)
  /-- The index register. -/
  | index
  /-- The memory from the address in the index register on. -/
  | cells
  | delay | sound | key | glyph | decimal
deriving DecidableEq

namespace Operand

/-- The text of an operand. -/
def text : Operand → String
  | .register x => "v" ++ hex 1 x.toNat
  | .number n => toString n.toNat
  | .address a => "0x" ++ hex 3 a.toNat
  | .index => "I"
  | .cells => "[I]"
  | .delay => "DT"
  | .sound => "ST"
  | .key => "K"
  | .glyph => "F"
  | .decimal => "B"

/-- The operand that characters spell. -/
def ofChars? : List Char → Option Operand
  | [] => none
  | 'v' :: digits => (hexNumber? digits).map fun n => .register (UInt8.ofNat n)
  | '0' :: 'x' :: digits => (hexNumber? digits).map fun n => .address (UInt16.ofNat n)
  | ['I'] => some .index
  | ['[', 'I', ']'] => some .cells
  | ['D', 'T'] => some .delay
  | ['S', 'T'] => some .sound
  | ['K'] => some .key
  | ['F'] => some .glyph
  | ['B'] => some .decimal
  | digits =>
    if digits.all Char.isDigit then some (.number (UInt8.ofNat (Nat.ofDigitChars 10 digits 0)))
    else none

/-- **An operand is read back** from its text. -/
theorem ofChars?_text (o : Operand) : ofChars? o.text.toList = some o := by
  cases o with
  | register x =>
    have chars : (register x).text.toList = 'v' :: (hex 1 x.toNat).toList := by simp [text]
    rw [chars, ofChars?, hexNumber?_hex, Option.map_some, UInt8.ofNat_toNat]
  | number n =>
    have chars : (number n).text.toList = Nat.toDigits 10 n.toNat := Nat.toList_repr
    have all : ∀ n < 256, ofChars? (Nat.toDigits 10 n) = some (number (UInt8.ofNat n)) := by
      decide +kernel
    rw [chars, all n.toNat n.toNat_lt, UInt8.ofNat_toNat]
  | address a =>
    have chars : (address a).text.toList = '0' :: 'x' :: (hex 3 a.toNat).toList := by simp [text]
    rw [chars, ofChars?, hexNumber?_hex, Option.map_some, UInt16.ofNat_toNat]
  | _ => rfl

/-- There is neither a blank nor a comma in an operand. -/
theorem plain_text (o : Operand) : ' ' ∉ o.text.toList ∧ ',' ∉ o.text.toList := by
  have hexadecimal (width n : Nat) : ' ' ∉ (hex width n).toList ∧ ',' ∉ (hex width n).toList := by
    rw [toList_hex]
    exact ⟨blank_notMem_lastDigits _ n, notMem_lastDigits (by decide)⟩
  cases o with
  | register x => simpa [text] using hexadecimal 1 x.toNat
  | address a => simpa [text] using hexadecimal 3 a.toNat
  | number n =>
    have chars : (number n).text.toList = Nat.toDigits 10 n.toNat := Nat.toList_repr
    have digits {c : Char} (found : c ∈ Nat.toDigits 10 n.toNat) : c.isDigit = true :=
      Nat.isDigit_of_mem_toDigits (by decide) (by decide) found
    rw [chars]
    exact ⟨fun blank => absurd (digits blank) (by decide),
      fun comma => absurd (digits comma) (by decide)⟩
  | _ => decide

end Operand

/-! ## Phrases -/

/-- A verb with operands. -/
structure Phrase where
  verb : String
  operands : List Operand
deriving DecidableEq

namespace Phrase

/-- Operands that come after others have a comma before them. -/
def appendOperand (text : String) (o : Operand) : String := text ++ ", " ++ o.text

/-- The text of a phrase. -/
def text (p : Phrase) : String :=
  match p.operands with
  | [] => p.verb
  | first :: others => others.foldl appendOperand (p.verb ++ " " ++ first.text)

/-- What lies between the blanks of a text, once the commas are left out. -/
def partsOf (text : String) : List (List Char) := (text.toList.filter (· != ',')).splitOn ' '

theorem filter_comma {chars : List Char} (plain : ',' ∉ chars) : chars.filter (· != ',') = chars :=
  List.filter_eq_self.2 fun _ found => bne_iff_ne.2 fun comma => plain (comma ▸ found)

/-- Without commas, each of the operands has a blank before it. -/
theorem filter_foldl (others : List Operand) (start : String) :
    (others.foldl appendOperand start).toList.filter (· != ',') =
      start.toList.filter (· != ',') ++ others.flatMap fun o => ' ' :: o.text.toList := by
  induction others generalizing start with
  | nil => simp
  | cons o later ih =>
    have added : (appendOperand start o).toList.filter (· != ',') =
        start.toList.filter (· != ',') ++ ' ' :: o.text.toList := by
      simp [appendOperand, filter_comma o.plain_text.2]
    rw [List.foldl_cons, ih, added, List.flatMap_cons, List.append_assoc]

/-- Blanks that are put before operands divide them. -/
theorem splitOn_flatMap (front : List Char) (plain : ' ' ∉ front) (operands : List Operand) :
    (front ++ operands.flatMap fun o => ' ' :: o.text.toList).splitOn ' ' =
      front :: operands.map fun o => o.text.toList := by
  induction operands generalizing front with
  | nil =>
    rw [List.flatMap_nil, List.append_nil]
    exact List.splitOn_eq_singleton plain
  | cons o later ih =>
    rw [List.flatMap_cons, List.cons_append, List.splitOn_append_cons_self_of_not_mem plain,
      ih _ o.plain_text.1, List.map_cons]

/-- **The parts of a phrase** are its verb and its operands. -/
theorem partsOf_text {p : Phrase} (plain : ' ' ∉ p.verb.toList ∧ ',' ∉ p.verb.toList) :
    partsOf p.text = p.verb.toList :: p.operands.map fun o => o.text.toList := by
  obtain ⟨verb, operands⟩ := p
  cases operands with
  | nil =>
    rw [partsOf, text, filter_comma plain.2]
    exact List.splitOn_eq_singleton plain.1
  | cons first others =>
    have start : (verb ++ " " ++ first.text).toList.filter (· != ',') =
        verb.toList ++ ' ' :: first.text.toList := by
      simp [filter_comma plain.2, filter_comma first.plain_text.2]
    rw [partsOf, text, filter_foldl, start, List.append_assoc]
    exact splitOn_flatMap verb.toList plain.1 (first :: others)

end Phrase

/-! ## Raw instructions -/

namespace RawInstruction

/-- The phrase that tells a raw instruction. -/
def phrase : RawInstruction → Phrase
  | .clearScreen => ⟨"CLS", []⟩
  | .ret => ⟨"RET", []⟩
  | .jump target => ⟨"JP", [.address target]⟩
  | .call target => ⟨"CALL", [.address target]⟩
  | .skip (.isByte x byte) => ⟨"SE", [.register x, .number byte]⟩
  | .skip (.isNotByte x byte) => ⟨"SNE", [.register x, .number byte]⟩
  | .skip (.same x y) => ⟨"SE", [.register x, .register y]⟩
  | .skip (.differ x y) => ⟨"SNE", [.register x, .register y]⟩
  | .skip (.keyDown x) => ⟨"SKP", [.register x]⟩
  | .skip (.keyUp x) => ⟨"SKNP", [.register x]⟩
  | .loadByte x byte => ⟨"LD", [.register x, .number byte]⟩
  | .addByte x byte => ⟨"ADD", [.register x, .number byte]⟩
  | .combine operation x y => ⟨operation.verb, [.register x, .register y]⟩
  | .shiftRight x => ⟨"SHR", [.register x]⟩
  | .shiftLeft x => ⟨"SHL", [.register x]⟩
  | .loadIndex target => ⟨"LD", [.index, .address target]⟩
  | .jumpOffset target => ⟨"JP", [.register 0, .address target]⟩
  | .random x mask => ⟨"RND", [.register x, .number mask]⟩
  | .draw x y rows => ⟨"DRW", [.register x, .register y, .number rows]⟩
  | .loadDelay x => ⟨"LD", [.register x, .delay]⟩
  | .awaitKey x => ⟨"LD", [.register x, .key]⟩
  | .setDelay x => ⟨"LD", [.delay, .register x]⟩
  | .setSound x => ⟨"LD", [.sound, .register x]⟩
  | .addIndex x => ⟨"ADD", [.index, .register x]⟩
  | .loadGlyph x => ⟨"LD", [.glyph, .register x]⟩
  | .storeDecimal x => ⟨"LD", [.decimal, .register x]⟩
  | .storeRegisters x => ⟨"LD", [.cells, .register x]⟩
  | .loadRegisters x => ⟨"LD", [.register x, .cells]⟩

/-- The assembly text of a raw instruction. -/
def mnemonic (raw : RawInstruction) : String := raw.phrase.text

/-- The raw instruction that a phrase tells. -/
def ofPhrase? (p : Phrase) : Option RawInstruction :=
  match p.verb, p.operands with
  | "CLS", [] => some .clearScreen
  | "RET", [] => some .ret
  | "JP", [.address target] => some (.jump target)
  | "CALL", [.address target] => some (.call target)
  | "SE", [.register x, .number byte] => some (.skip (.isByte x byte))
  | "SNE", [.register x, .number byte] => some (.skip (.isNotByte x byte))
  | "SE", [.register x, .register y] => some (.skip (.same x y))
  | "SNE", [.register x, .register y] => some (.skip (.differ x y))
  | "SKP", [.register x] => some (.skip (.keyDown x))
  | "SKNP", [.register x] => some (.skip (.keyUp x))
  | "LD", [.register x, .number byte] => some (.loadByte x byte)
  | "ADD", [.register x, .number byte] => some (.addByte x byte)
  | "LD", [.register x, .register y] => some (.combine .copy x y)
  | "OR", [.register x, .register y] => some (.combine .or x y)
  | "AND", [.register x, .register y] => some (.combine .and x y)
  | "XOR", [.register x, .register y] => some (.combine .xor x y)
  | "ADD", [.register x, .register y] => some (.combine .add x y)
  | "SUB", [.register x, .register y] => some (.combine .subtract x y)
  | "SUBN", [.register x, .register y] => some (.combine .subtractFrom x y)
  | "SHR", [.register x] => some (.shiftRight x)
  | "SHL", [.register x] => some (.shiftLeft x)
  | "LD", [.index, .address target] => some (.loadIndex target)
  | "JP", [.register _, .address target] => some (.jumpOffset target)
  | "RND", [.register x, .number mask] => some (.random x mask)
  | "DRW", [.register x, .register y, .number rows] => some (.draw x y rows)
  | "LD", [.register x, .delay] => some (.loadDelay x)
  | "LD", [.register x, .key] => some (.awaitKey x)
  | "LD", [.delay, .register x] => some (.setDelay x)
  | "LD", [.sound, .register x] => some (.setSound x)
  | "ADD", [.index, .register x] => some (.addIndex x)
  | "LD", [.glyph, .register x] => some (.loadGlyph x)
  | "LD", [.decimal, .register x] => some (.storeDecimal x)
  | "LD", [.cells, .register x] => some (.storeRegisters x)
  | "LD", [.register x, .cells] => some (.loadRegisters x)
  | _, _ => none

theorem ofPhrase?_phrase (raw : RawInstruction) : ofPhrase? raw.phrase = some raw := by
  cases raw with
  | skip test => cases test <;> rfl
  | combine operation x y => cases operation <;> rfl
  | _ => rfl

theorem plain_verb (raw : RawInstruction) :
    ' ' ∉ raw.phrase.verb.toList ∧ ',' ∉ raw.phrase.verb.toList := by
  cases raw with
  | skip test => cases test <;> simp [phrase]
  | combine operation x y => cases operation <;> simp [phrase, Operation.verb]
  | _ => simp [phrase]

/-- The raw instruction that a text tells. -/
def ofText? (text : String) : Option RawInstruction :=
  match Phrase.partsOf text with
  | [] => none
  | verb :: operands => do ofPhrase? ⟨String.ofList verb, ← operands.mapM Operand.ofChars?⟩

/-- **A mnemonic is read back.** -/
theorem ofText?_mnemonic (raw : RawInstruction) : ofText? raw.mnemonic = some raw := by
  have operands : (raw.phrase.operands.map fun o => o.text.toList).mapM Operand.ofChars? =
      some (raw.phrase.operands.map id) := mapM_map_eq_some fun o _ => o.ofChars?_text
  rw [ofText?, mnemonic, Phrase.partsOf_text raw.plain_verb]
  simp only [operands, List.map_id, String.ofList_toList]
  exact ofPhrase?_phrase raw

theorem mnemonic_inj {a b : RawInstruction} (h : a.mnemonic = b.mnemonic) : a = b := by
  have read := congrArg ofText? h
  rw [ofText?_mnemonic, ofText?_mnemonic] at read
  exact Option.some.inj read

end RawInstruction

/-! ## Instructions -/

namespace Instruction

/-- **The mnemonic of an instruction** is that of its raw form. -/
theorem mnemonic_raw (i : Instruction) : i.raw.mnemonic = i.mnemonic := by
  have register (x : Register) : (Operand.register (Register.raw x)).text = Register.text x := by
    rw [Operand.text, Register.toNat_raw x, Register.text]
  have first : (Operand.register 0).text = "v0" := by decide +kernel
  have rows (n : Fin 16) : (Operand.number (Register.raw n)).text = toString n.val :=
    congrArg toString (Register.toNat_raw n)
  cases i with
  | skip test =>
    cases test
    all_goals
      simp only [raw, Test.raw, RawInstruction.mnemonic, RawInstruction.phrase, Phrase.text,
        List.foldl_cons, List.foldl_nil, Phrase.appendOperand, register]
      rfl
  | _ =>
    simp only [raw, RawInstruction.mnemonic, RawInstruction.phrase, Phrase.text, List.foldl_cons,
      List.foldl_nil, Phrase.appendOperand, register, first, rows]
    rfl

theorem mnemonic_inj {i j : Instruction} (h : i.mnemonic = j.mnemonic) : i = j := by
  rw [← mnemonic_raw, ← mnemonic_raw] at h
  rw [← refine_raw i, RawInstruction.mnemonic_inj h, refine_raw]

end Instruction

end ChipEight
