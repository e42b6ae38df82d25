/-
  Printouts — the text of frames, and the frames read back from it.

  * `Frame.lines`: a line with the number of the frame and the keys that are down, the
    rows of the picture, and an empty line.  They are what is printed (`frameText_eq`);
  * `readFrame?` reads the lines of a frame up to the empty one (`readFrame?_body`), so
    all frames are read back from a printout (`readFrames?_printout`).
-/
import ChipEight.Panel.Printer
import ChipEight.Proofs.Machine.Dumps

namespace ChipEight

/-- What a frame tells: its number, the keys that are down, and the picture. -/
structure Frame where
  number : Nat
  keys : List Key
  picture : Screen

namespace Frame

/-! ## Lines -/

/-- The line above the picture. -/
def header (f : Frame) : String :=
  "frame " ++ toString f.number ++
    " (keys:" ++ String.join (f.keys.map fun k => " " ++ k.text) ++ ")"

example : header ⟨2, [lastDigit 5, lastDigit 12], .dark⟩ = "frame 2 (keys: k5 kc)" := by
  decide +kernel

/-- The lines up to the empty one. -/
def body (f : Frame) : List String := f.header :: (List.finRange 32).map f.picture.rowText

/-- The lines of a frame. -/
def lines (f : Frame) : List String := f.body ++ [""]

variable (f : Frame)

theorem unbroken_keyText (k : Key) : Unbroken (" " ++ k.text) := by
  revert k
  decide

theorem unbroken_header : Unbroken f.header := by
  have keys : Unbroken (String.join (f.keys.map fun k => " " ++ k.text)) := by
    intro broken
    rw [String.toList_join, List.flatMap_map] at broken
    obtain ⟨k, -, inside⟩ := List.mem_flatMap.1 broken
    exact unbroken_keyText k inside
  simp only [header, unbroken_append]
  exact ⟨⟨⟨⟨by decide, unbroken_toString _⟩, by decide⟩, keys⟩, by decide⟩

theorem unbroken_lines : ∀ line ∈ f.lines, Unbroken line := by
  intro line inside
  rcases List.mem_append.1 inside with inside | inside
  · rcases List.mem_cons.1 inside with rfl | row
    · exact f.unbroken_header
    · exact f.picture.text_lines.unbroken line row
  · rw [List.mem_singleton.1 inside]
    decide

/-- The text of frames, one after the other. -/
def printout (frames : List Frame) : String :=
  String.join ((frames.flatMap lines).map (· ++ "\n"))

theorem printout_cons (later : List Frame) :
    printout (f :: later) = printout [f] ++ printout later := by
  simp [printout]

/-- **A printout** consists of the lines of its frames. -/
theorem consistsOf_printout (frames : List Frame) :
    ConsistsOf (printout frames) (frames.flatMap lines) := by
  refine ⟨rfl, ?_⟩
  intro line inside
  obtain ⟨f, -, inside⟩ := List.mem_flatMap.1 inside
  exact f.unbroken_lines line inside

/-- **The text that a printer prints** is that of a frame. -/
theorem frameText_eq (number : Nat) (keypad : Keypad) (picture : Screen) :
    Printer.frameText number keypad picture =
      printout [⟨number, (List.finRange 16).filter keypad.isDown, picture⟩] := by
  rw [Printer.frameText, Keypad.text, Keypad.downKeys, picture.text_lines.joined]
  apply String.toList_inj.1
  simp [printout, lines, body, header, String.toList_join]

/-! ## Frames read back -/

/-- The keys that the end of a header tells. -/
def readKeys? : List Char → Option (List Key)
  | [')'] => some []
  | ' ' :: 'k' :: digit :: later => do
    let key ← hexValue? digit
    let keys ← readKeys? later
    return key :: keys
  | _ => none

/-- The number and the keys that a header tells. -/
def readHeader? (line : List Char) : Option (Nat × List Key) := do
  let rest := line.drop 6
  let keys ← readKeys? ((rest.dropWhile Char.isDigit).drop 7)
  return (Nat.ofDigitChars 10 (rest.takeWhile Char.isDigit) 0, keys)

/-- The frame that lines tell. -/
def readFrame? : List (List Char) → Option Frame
  | [] => none
  | header :: rows => do
    let (number, keys) ← readHeader? header
    let picture ← Screen.ofText? (String.join (rows.map fun row => String.ofList row ++ "\n"))
    return ⟨number, keys, picture⟩

/-- The frames that a printout tells, each up to an empty line. -/
def readFrames? (text : String) : Option (List Frame) :=
  (((linesOf text).splitOn []).dropLast).mapM readFrame?

/-- **Keys are read back.** -/
theorem readKeys?_text (keys : List Key) :
    readKeys? ((String.join (keys.map fun k => " " ++ k.text)).toList ++ [')']) = some keys := by
  induction keys with
  | nil => rfl
  | cons k later ih =>
    have digit : hexValue? (hexDigit k).toLower = some k := hexValue?_eq_some_iff.2 (.inr rfl)
    have first : (String.join ((k :: later).map fun k => " " ++ k.text)).toList =
        ' ' :: 'k' :: (hexDigit k).toLower ::
          (String.join (later.map fun k => " " ++ k.text)).toList := by
      simp [String.toList_join, Key.text]
    rw [first]
    simp only [List.cons_append, readKeys?, digit, ih]
    rfl

/-- **A header is read back.** -/
theorem readHeader?_header : readHeader? f.header.toList = some (f.number, f.keys) := by
  let keys := (String.join (f.keys.map fun k => " " ++ k.text)).toList ++ [')']
  have all : ∀ c ∈ Nat.toDigits 10 f.number, c.isDigit = true :=
    fun c => Nat.isDigit_of_mem_toDigits (by decide) (by decide)
  have rest : f.header.toList.drop 6 = Nat.toDigits 10 f.number ++ (" (keys:".toList ++ keys) := by
    simp [header, keys]
  have number : (" (keys:".toList ++ keys).takeWhile Char.isDigit = [] := rfl
  have after : (" (keys:".toList ++ keys).dropWhile Char.isDigit = " (keys:".toList ++ keys := rfl
  rw [readHeader?]
  simp only [rest, List.dropWhile_append_of_pos all, List.takeWhile_append_of_pos all, number,
    after, List.append_nil]
  rw [List.drop_left' (by rfl), readKeys?_text, Nat.ofDigitChars_toDigits (by decide) (by decide)]
  rfl

/-- **A frame is read back** from its lines. -/
theorem readFrame?_body : readFrame? (f.body.map String.toList) = some f := by
  have rows : String.join ((((List.finRange 32).map f.picture.rowText).map String.toList).map
      fun row => String.ofList row ++ "\n") = f.picture.text := by
    rw [f.picture.text_lines.joined, List.map_map]
    simp only [Function.comp_def, String.ofList_toList]
  rw [body, List.map_cons, readFrame?, readHeader?_header, rows, Screen.ofText?_text]
  rfl

/-- No line above the last one is empty. -/
theorem nil_notMem_body : [] ∉ f.body.map String.toList := by
  intro inside
  obtain ⟨line, inside, empty⟩ := List.mem_map.1 inside
  rcases List.mem_cons.1 inside with rfl | row
  · simp [header] at empty
  · obtain ⟨y, -, rfl⟩ := List.mem_map.1 row
    have length := f.picture.length_rowText y
    rw [← String.length_toList, empty] at length
    cases length

/-- **Frames are read back** from a printout. -/
theorem readFrames?_printout (frames : List Frame) :
    readFrames? (printout frames) = some frames := by
  have pieces : (frames.flatMap lines).map String.toList =
      frames.flatMap fun f => f.body.map String.toList ++ [[]] := by
    rw [List.map_flatMap]
    simp only [lines, List.map_append]
    rfl
  have read := mapM_map_eq_some (l := frames) fun f _ => f.readFrame?_body
  rw [readFrames?, (consistsOf_printout frames).linesOf, pieces,
    splitOn_flatMap_concat fun f _ => f.nil_notMem_body, List.dropLast_concat, read, List.map_id']

end Frame
end ChipEight
