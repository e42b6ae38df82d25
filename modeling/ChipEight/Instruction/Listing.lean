/-
  Listings — the assembly text of a whole program.

  The bytes are cut into words from an origin address on, two addresses a
  word, wrapping after the last address.  A word that a jump or call of the
  program names gets a label line before it.  A word that is no instruction
  is listed as data, and so is an odd byte at the end.

  * `words` are the words with their addresses, `targets` the addresses that
    the jumps and calls among them name, ascending and each once;
  * `lines` are the lines of the listing as data, `text` is their text.
-/
import ChipEight.Instruction.Mnemonic

namespace ChipEight.Listing

/-- A line of a listing. -/
inductive Line where
  /-- The mark before a branch target. -/
  | label (address : Address)
  /-- A word, as the instruction it stands for or as data. -/
  | word (address : Address) (word : Word)
  /-- The odd byte at the end of a program. -/
  | byte (address : Address) (byte : UInt8)
deriving DecidableEq

/-- The words of a program that starts at `origin`; an odd byte at the end is
    left out. -/
def words (origin : Address) : List UInt8 → List (Address × Word)
  | high :: low :: rest => (origin, Word.ofBytes high low) :: words (origin + 2) rest
  | _ => []

/-- The address that a word names as the target of a jump or call. -/
def branchTarget? (w : Word) : Option Address :=
  match Instruction.decode w with
  | some (.jump target) => some target
  | some (.call target) => some target
  | _ => none

/-- The branch targets of a program, ascending and each once. -/
def targets (origin : Address) (program : List UInt8) : List Address :=
  (((words origin program).filterMap fun w => branchTarget? w.2).mergeSort (· ≤ ·)).eraseReps

/-- The lines of the part of a program that starts at `origin`, with labels at
    the addresses `labels`. -/
def linesFrom (labels : List Address) (origin : Address) : List UInt8 → List Line
  | high :: low :: rest =>
    let line := Line.word origin (Word.ofBytes high low)
    let rest := linesFrom labels (origin + 2) rest
    if origin ∈ labels then .label origin :: line :: rest else line :: rest
  | [byte] => [.byte origin byte]
  | [] => []

/-- The lines of a listing. -/
def lines (origin : Address) (program : List UInt8) : List Line :=
  linesFrom (targets origin program) origin program

/-- The operation column of a word: its mnemonic, or the word as data. -/
def operationText (w : Word) : String :=
  match Instruction.decode w with
  | some instruction => instruction.mnemonic
  | none => "DW 0x" ++ w.text

/-- The text of a line. -/
def Line.text : Line → String
  | .label address => "L" ++ hex 3 address.toNat ++ ":"
  | .word address w => "0x" ++ hex 4 address.toNat ++ "  " ++ w.text ++ "  " ++ operationText w
  | .byte address b =>
    "0x" ++ hex 4 address.toNat ++ "  " ++ hex 2 b.toNat ++ "    DB 0x" ++ hex 2 b.toNat

/-- The text of a listing, a line feed after each line. -/
def text (origin : Address) (program : List UInt8) : String :=
  String.join ((lines origin program).map fun line => line.text ++ "\n")

end ChipEight.Listing
