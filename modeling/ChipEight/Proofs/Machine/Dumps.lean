/-
  Dumps read back.

  * `Screen.text_lines`: the picture is 32 lines of 64 characters, one for each pixel
    (`getElem?_rowText`), from which it is read back (`ofText?_text`); it has as many `#`
    as pixels are lit (`count_text`);
  * `Machine.dumpRows`: the bytes of a dump two by two, with their addresses, which are
    those of memory (`dumpRows_slice`); a line tells one of these rows (`readRow?_rowText`),
    so they are read back from the whole text (`readDump?_memoryText`), and with them the
    bytes, in order (`flatMap_dumpRows`).
-/
import Mathlib.Data.List.FinRange
import ChipEight.Machine.Dump
import ChipEight.Proofs.Text.Lines

namespace ChipEight

/-! ## The picture -/

namespace Screen

/-- The character of a pixel. -/
def pixelChar (pixel : Bool) : Char := if pixel then '#' else '.'

/-- The characters of a row. -/
def rowText (s : Screen) (y : Fin 32) : String := String.ofList ((s.row y).map pixelChar)

/-- The pixel that a character stands for. -/
def pixelOf? : Char → Option Bool
  | '#' => some true
  | '.' => some false
  | _ => none

/-- The picture that a text shows, row by row. -/
def ofText? (text : String) : Option Screen := do
  let rows ← (linesOf text).mapM (·.mapM pixelOf?)
  if size : rows.flatten.length = 2048 then some ⟨⟨rows.flatten.toArray, size⟩⟩ else none

variable (s : Screen)

theorem pixelOf?_pixelChar (pixel : Bool) : pixelOf? (pixelChar pixel) = some pixel := by
  cases pixel <;> rfl

theorem toList_rowText (y : Fin 32) : (s.rowText y).toList = (s.row y).map pixelChar :=
  String.toList_ofList

/-- **The text of a picture** consists of its 32 rows. -/
theorem text_lines : ConsistsOf s.text ((List.finRange 32).map s.rowText) where
  joined := by rw [List.map_map]; rfl
  unbroken := by
    refine List.forall_mem_map.2 fun y _ broken => ?_
    rw [toList_rowText] at broken
    obtain ⟨pixel, -, same⟩ := List.mem_map.1 broken
    revert pixel
    decide

/-- **A row** has 64 characters. -/
theorem length_rowText (y : Fin 32) : (s.rowText y).length = 64 := by
  rw [← String.length_toList, toList_rowText, List.length_map, row, List.length_map,
    List.length_finRange]

/-- **A character** tells whether its pixel is lit. -/
theorem getElem?_rowText (x : Fin 64) (y : Fin 32) :
    (s.rowText y).toList[x.val]? = some (pixelChar (s.lit (x, y))) := by
  simp [toList_rowText, row]

/-- The rows one after the other are all the pixels. -/
theorem flatten_rows : ((List.finRange 32).map s.row).flatten = s.pixels.toList := by
  have cells : s.pixels.toList = List.ofFn fun k : Fin (32 * 64) => s.pixels[k.val] := by
    rw [← Vector.toList_ofFn, Vector.ofFn_getElem]
  rw [cells, List.ofFn_mul, List.ofFn_eq_map]
  exact congrArg List.flatten (List.map_congr_left fun y _ => List.ofFn_eq_map.symm)

/-- **A picture is read back** from its text. -/
theorem ofText?_text : ofText? s.text = some s := by
  have rows : (linesOf s.text).mapM (·.mapM pixelOf?) = some ((List.finRange 32).map s.row) := by
    rw [s.text_lines.linesOf, List.map_map]
    refine mapM_map_eq_some fun y _ => ?_
    have read := mapM_map_eq_some (l := s.row y) fun pixel _ => pixelOf?_pixelChar pixel
    rwa [← toList_rowText, List.map_id'] at read
  have size : ((List.finRange 32).map s.row).flatten.length = 2048 := by
    rw [flatten_rows]
    exact Vector.length_toList
  have same : Vector.mk ((List.finRange 32).map s.row).flatten.toArray size = s.pixels :=
    Vector.toList_inj.1 s.flatten_rows
  rw [ofText?, rows, Option.bind_eq_bind, Option.bind_some, dif_pos size, same]

/-- **The number of lit pixels** is that of the `#` in the text. -/
theorem count_text : s.text.toList.count '#' = s.litCount := by
  have chars (y : Fin 32) : (s.rowText y ++ "\n").toList.count '#' = (s.row y).countP id := by
    have hash : (· == '#') ∘ pixelChar = id := funext fun pixel => by cases pixel <;> rfl
    have feed : "\n".toList.count '#' = 0 := by decide
    rw [String.toList_append, toList_rowText, List.count_append, feed, List.count, List.countP_map,
      hash, Nat.add_zero]
  rw [litCount, ← flatten_rows, List.countP_flatten, List.map_map, s.text_lines.joined,
    String.toList_join, List.flatMap_map, List.flatMap_map, List.count_flatMap]
  simp only [Function.comp_def, chars]

end Screen

/-! ## Memory -/

namespace Machine

/-- The bytes of a dump, two by two, with the addresses of the first ones. -/
def dumpRows (address : Nat) (bytes : List UInt8) : List (Nat × List UInt8) :=
  (List.range ((bytes.length + 1) / 2)).map fun i =>
    (address + 2 * i, (bytes.drop (2 * i)).take 2)

/-- The line that tells bytes and the address of the first one. -/
def rowText (row : Nat × List UInt8) : String :=
  hex 4 row.1 ++ ":" ++ String.join (row.2.map fun byte => " " ++ hex 2 byte.toNat)

/-- The bytes and the address that a line tells. -/
def readRow? (line : List Char) : Option (Nat × List UInt8) := do
  let address ← hexNumber? (line.take 4)
  let bytes ← hexBytes? ((line.drop 5).filter (· != ' '))
  return (address, bytes)

/-- The bytes that a dump tells, line by line, with the addresses of the first ones. -/
def readDump? (text : String) : Option (List (Nat × List UInt8)) := (linesOf text).mapM readRow?

theorem dumpRows_cons (address : Nat) (first second : UInt8) (rest : List UInt8) :
    dumpRows address (first :: second :: rest) =
      (address, [first, second]) :: dumpRows (address + 2) rest := by
  have rows : ((first :: second :: rest).length + 1) / 2 = (rest.length + 1) / 2 + 1 := by
    simp only [List.length_cons]
    omega
  rw [dumpRows, rows, List.range_succ_eq_map, List.map_cons, List.map_map, dumpRows]
  congr 1
  refine List.map_congr_left fun i _ => ?_
  simp only [Function.comp_apply, Nat.succ_eq_add_one, Nat.mul_add, Nat.mul_one, Nat.add_assoc,
    Nat.add_comm 2]
  rfl

theorem dumpRows_singleton (address : Nat) (byte : UInt8) :
    dumpRows address [byte] = [(address, [byte])] := by
  simp [dumpRows]

/-- **The lines of a dump** tell its rows. -/
theorem dumpLines_eq (address : Nat) (bytes : List UInt8) :
    dumpLines address bytes = (dumpRows address bytes).map rowText := by
  have colon (text : String) : ":" ++ (" " ++ text) = ": " ++ text :=
    String.append_assoc.symm
  fun_induction dumpLines address bytes with
  | case1 address first second rest ih =>
    rw [dumpRows_cons, List.map_cons, ← ih]
    simp [rowText, colon, String.append_assoc]
  | case2 address byte => simp [dumpRows_singleton, rowText, colon, String.append_assoc]
  | case3 address => rfl

/-- **The rows one after the other** are the bytes. -/
theorem flatMap_dumpRows (address : Nat) (bytes : List UInt8) :
    (dumpRows address bytes).flatMap Prod.snd = bytes := by
  fun_induction dumpLines address bytes with
  | case1 address first second rest ih => rw [dumpRows_cons, List.flatMap_cons, ih]; rfl
  | case2 => rw [dumpRows_singleton, List.flatMap_singleton]
  | case3 => rfl

/-- **The rows of a part of memory** are what is in memory at their addresses. -/
theorem dumpRows_slice (m : Memory) (start length : Nat) :
    dumpRows start (m.slice start length) =
      (List.range ((length + 1) / 2)).map fun i =>
        (start + 2 * i, m.slice (start + 2 * i) (min 2 (length - 2 * i))) := by
  have part (i : Nat) : ((m.slice start length).drop (2 * i)).take 2 =
      m.slice (start + 2 * i) (min 2 (length - 2 * i)) :=
    List.ext_getElem (by simp [Memory.slice]) fun k _ _ => by simp [Memory.slice, Nat.add_assoc]
  simp only [dumpRows, Memory.length_slice, part]

theorem toList_rowText (row : Nat × List UInt8) :
    (rowText row).toList =
      (hex 4 row.1).toList ++ ':' :: row.2.flatMap fun byte => ' ' :: lastDigits 2 byte.toNat := by
  have byte (byte : UInt8) : (hex 2 byte.toNat).toList = lastDigits 2 byte.toNat :=
    toList_hex_of_lt byte.toNat_lt
  simp [rowText, List.flatMap_map, byte]

theorem unbroken_rowText (row : Nat × List UInt8) : Unbroken (rowText row) := by
  have colon : Unbroken ":" := by decide
  refine unbroken_append.2 ⟨unbroken_append.2 ⟨unbroken_hex 4 row.1, colon⟩, fun broken => ?_⟩
  rw [String.toList_join, List.flatMap_map] at broken
  obtain ⟨byte, -, inside⟩ := List.mem_flatMap.1 broken
  have blank : Unbroken " " := by decide
  exact unbroken_append.2 ⟨blank, unbroken_hex 2 byte.toNat⟩ inside

/-- Bytes are read back from their digits, once the blanks are left out. -/
theorem hexBytes?_spaced (bytes : List UInt8) :
    hexBytes? ((bytes.flatMap fun byte => ' ' :: lastDigits 2 byte.toNat).filter (· != ' ')) =
      some bytes := by
  have digits (byte : UInt8) :
      (' ' :: lastDigits 2 byte.toNat).filter (· != ' ') = lastDigits 2 byte.toNat := by
    rw [List.filter_cons_of_neg (by decide)]
    refine List.filter_eq_self.2 fun c inside => bne_iff_ne.2 fun blank => ?_
    exact blank_notMem_lastDigits 2 byte.toNat (blank ▸ inside)
  simp only [List.filter_flatMap, digits]
  induction bytes with
  | nil => rfl
  | cons byte later ih => rw [List.flatMap_cons, hexBytes?_lastDigits, ih, Option.map_some]

/-- **A row is read back** from its line. -/
theorem readRow?_rowText {row : Nat × List UInt8} (small : row.1 < 65536) :
    readRow? (rowText row).toList = some row := by
  have four : (hex 4 row.1).toList = lastDigits 4 row.1 := toList_hex_of_lt small
  have length := length_lastDigits 4 row.1
  rw [readRow?, toList_rowText, List.take_left' (four ▸ length), hexNumber?_hex, four,
    List.drop_append, length, List.drop_eq_nil_of_le (by omega)]
  simp [hexBytes?_spaced]

example : rowText (0x2FE, [0x12, 0x0A]) = "02FE: 12 0A" := by decide +kernel

/-- **The rows of a dump are read back** from its text. -/
theorem readDump?_of_consistsOf {text : String} {rows : List (Nat × List UInt8)}
    (lines : ConsistsOf text (rows.map rowText)) (small : ∀ row ∈ rows, row.1 < 65536) :
    readDump? text = some rows := by
  have read : (rows.map fun row => (rowText row).toList).mapM readRow? = some (rows.map id) :=
    mapM_map_eq_some fun row inside => readRow?_rowText (small row inside)
  rw [List.map_id] at read
  rw [readDump?, lines.linesOf, List.map_map]
  exact read

/-- **Dumps are faithful.**  A picture is dumped as 32 lines of 64 characters, each of which
    tells whether its pixel is lit; the picture is read back from them, and there are as many
    `#` as pixels are lit.  Memory is dumped from the start of the program area on, as many
    bytes as asked for or as there are, two a line and one on an odd last line, under the
    address at which memory holds them; lines, addresses and bytes are read back from the
    text, and the bytes one after the other are those of memory. -/
theorem dumps_faithful :
    (∀ s : Screen,
      ConsistsOf s.text ((List.finRange 32).map s.rowText) ∧
        (∀ y, (s.rowText y).length = 64) ∧
        (∀ x y, (s.rowText y).toList[x.val]? = some (if s.lit (x, y) then '#' else '.')) ∧
        Screen.ofText? s.text = some s ∧ s.text.toList.count '#' = s.litCount) ∧
      ∀ (m : Machine) (count : Nat),
        let length := min count 3584
        let rows := (List.range ((length + 1) / 2)).map fun i =>
          (0x200 + 2 * i, m.memory.slice (0x200 + 2 * i) (min 2 (length - 2 * i)))
        ConsistsOf (m.memoryText count) (rows.map rowText) ∧
          readDump? (m.memoryText count) = some rows ∧
          rows.flatMap Prod.snd = m.memory.slice 0x200 length := by
  refine ⟨fun s => ⟨s.text_lines, s.length_rowText, s.getElem?_rowText, s.ofText?_text,
    s.count_text⟩, fun m count => ?_⟩
  intro length rows
  have cut : dumpRows 0x200 (m.memory.slice 0x200 length) = rows :=
    dumpRows_slice m.memory 0x200 length
  have lines : ConsistsOf (m.memoryText count) (rows.map rowText) := by
    refine ⟨?_, List.forall_mem_map.2 fun row _ => unbroken_rowText row⟩
    rw [← cut, ← dumpLines_eq]
    rfl
  refine ⟨lines, readDump?_of_consistsOf lines (List.forall_mem_map.2 fun i inside => ?_), ?_⟩
  · have below : i < (length + 1) / 2 := List.mem_range.1 inside
    have most : length ≤ 3584 := Nat.min_le_right count 3584
    show 0x200 + 2 * i < 65536
    omega
  · rw [← cut, flatMap_dumpRows]

end Machine

end ChipEight
