/-
  Memory as a store — a cell holds what was put there last.

  Memory is used at addresses that are words of 64 bits, so that the end of a range may
  be no such word.  A `Change` writes to memory and a `Query` reads from it; either has a
  range, and is refused exactly if the range ends outside memory.

  * `inWords` is how they are carried out with such words: with the sum of an address
    and a length checked, cells filled in place, and all the hazards of this
    (`Change.inWords_on`, `Query.inWords_on` say that none is met);
  * `Holds` is the reference: the byte of the last change that fits and covers the cell,
    or zero.  `byte_make` is the step and `byte_makeAll` the run;
  * `bounded_store` puts these together for every sequence of changes.
-/
import ChipEight.Proofs.Machine.HazardFree

namespace ChipEight.Memory

/-! ## Changes and queries -/

/-- What is done to memory. -/
inductive Change where
  | load (address : UInt64) (bytes : List UInt8)
  | write (address : UInt64) (byte : UInt8)
  | writeRange (address : UInt64) (bytes : List UInt8)
  | clear

namespace Change

def start : Change → Nat
  | .load address _ | .write address _ | .writeRange address _ => address.toNat
  | .clear => 0

def bytes : Change → List UInt8
  | .load _ bytes | .writeRange _ bytes => bytes
  | .write _ byte => [byte]
  | .clear => List.replicate memorySize 0

/-- The address at which a change ends. -/
def stop (c : Change) : Nat := c.start + c.bytes.length

/-- The byte that a change puts into a cell, if it fits and covers the cell. -/
def puts? (c : Change) (a : Nat) : Option UInt8 :=
  if c.stop ≤ memorySize ∧ c.start ≤ a then c.bytes[a - c.start]? else none

/-- The faults that changes are refused with. -/
inductive RefusedBy : Change → Fault → Prop
  | load {address bytes} : RefusedBy (.load address bytes) (.programTooLarge bytes.length)
  | write {address byte} : RefusedBy (.write address byte) (.outOfBounds address.toNat)
  | writeRange {address bytes} :
      RefusedBy (.writeRange address bytes) (.outOfBounds (max address.toNat memorySize))

/-- Memory after a change, unless it is refused. -/
def apply (m : Memory) : Change → Except Fault Memory
  | .load address bytes => m.load address.toNat bytes
  | .write address byte => m.write address.toNat byte
  | .writeRange address bytes => m.writeRange address.toNat bytes
  | .clear => .ok .zeros

end Change

/-- Make a change.  A change that is refused leaves memory as it is. -/
def make (m : Memory) (c : Change) : Except Fault Unit × Memory :=
  match c.apply m with
  | .ok after => (.ok (), after)
  | .error fault => (.error fault, m)

/-- Memory after a sequence of changes. -/
def makeAll (m : Memory) (changes : List Change) : Memory :=
  changes.foldl (fun m c => (m.make c).2) m

/-- What is asked of memory. -/
inductive Query where
  | read (address : UInt64)
  | readPair (address : UInt64)
  | readRange (address length : UInt64)

namespace Query

def start : Query → Nat
  | .read address | .readPair address | .readRange address _ => address.toNat

def length : Query → Nat
  | .read _ => 1
  | .readPair _ => 2
  | .readRange _ length => length.toNat

/-- The bytes that answer a query. -/
def answer (m : Memory) : Query → Except Fault (List UInt8)
  | .read address => do return [← m.read address.toNat]
  | .readPair address => do
    let (first, second) ← m.readPair address.toNat
    return [first, second]
  | .readRange address length => m.readRange address.toNat length.toNat

end Query

/-! ## In words -/

/-- The sum of two words of 64 bits. -/
def addWords (a b : Nat) : Except Hazard Nat :=
  if a + b < UInt64.size then .ok (a + b) else .error .overflow

/-- The end of a range, if there is such a word and it lies in memory. -/
def stop? (address length : Nat) : Option Nat :=
  (addWords address length).toOption.filter (· ≤ memorySize)

/-- Work on memory that comes to an answer or to a fault, unless it meets a hazard. -/
abbrev Work (α : Type) := ExceptT Fault (StateT Memory (Except Hazard)) α

namespace Work

variable {α β : Type}

def on (work : Work α) (m : Memory) : Except Hazard (Except Fault α × Memory) := work.run.run m

theorem get_bind (next : Memory → Work α) (m : Memory) : (get >>= next).on m = (next m).on m := rfl

theorem value_bind {x : Except Hazard α} {a : α} (there : x = .ok a) (next : α → Work β)
    (m : Memory) : ((liftM x : Work α) >>= next).on m = (next a).on m := by
  rw [there]
  rfl

end Work

/-- Fill the cells between two places with as many bytes. -/
def fill (start stop : Nat) (bytes : List UInt8) : Work Unit := do
  let m ← get
  let after ← m.fillBetween start stop bytes
  set after

def Change.inWords : Change → Work Unit
  | .load address bytes =>
    match stop? address.toNat bytes.length with
    | some stop => fill address.toNat stop bytes
    | none => throw (.programTooLarge bytes.length)
  | .write address byte => do
    let m ← get
    match m.cells[address.toNat]? with
    | some _ =>
      let cells ← replace m.cells address.toNat byte
      set (Memory.mk cells)
    | none => throw (.outOfBounds address.toNat)
  | .writeRange address bytes =>
    match stop? address.toNat bytes.length with
    | some stop => fill address.toNat stop bytes
    | none => throw (.outOfBounds (max address.toNat memorySize))
  | .clear => modify fun m => ⟨m.cells.map fun _ => 0⟩

/-- One byte, if its address is one of memory. -/
def cell (address : Nat) : Work UInt8 := do
  let m ← get
  match m.cells[address]? with
  | some byte => return byte
  | none => throw (.outOfBounds address)

def Query.inWords : Query → Work (List UInt8)
  | .read address => do return [← cell address.toNat]
  | .readPair address => do
    let first ← cell address.toNat
    let next ← addWords address.toNat 1
    let second ← cell next
    return [first, second]
  | .readRange address length =>
    match stop? address.toNat length.toNat with
    | some stop => do (← get).between address.toNat stop
    | none => throw (.outOfBounds (max address.toNat memorySize))

theorem stop?_of_le {address length : Nat} (inside : address + length ≤ memorySize) :
    stop? address length = some (address + length) := by
  have word : address + length < UInt64.size := Nat.lt_of_le_of_lt inside (by decide)
  simp [stop?, addWords, word, Except.toOption, inside]

theorem stop?_of_lt {address length : Nat} (outside : memorySize < address + length) :
    stop? address length = none := by
  rw [stop?, addWords]
  split
  · simpa [Except.toOption] using outside
  · rfl

theorem fill_on {start : Nat} {bytes : List UInt8} (inside : start + bytes.length ≤ memorySize)
    (m : Memory) :
    (fill start (start + bytes.length) bytes).on m = .ok (.ok (), m.overwrite start bytes) := by
  rw [fill, Work.get_bind, Work.value_bind (m.fillBetween_of_le inside)]
  rfl

theorem getElem?_cells (m : Memory) {a : Nat} (inside : a < memorySize) :
    m.cells[a]? = some (m.byte a) := by
  simp [byte, inside]

theorem getElem?_cells_of_le (m : Memory) {a : Nat} (outside : memorySize ≤ a) :
    m.cells[a]? = none := by
  simp [outside]

/-- Cells filled with zeros one by one are those of an empty memory. -/
theorem map_zero (m : Memory) : Memory.mk (m.cells.map fun _ => 0) = .zeros := by
  refine ext_byte fun a => ?_
  rw [byte_zeros]
  by_cases inside : a < memorySize
  · simp [byte, inside]
  · exact byte_of_le (Nat.le_of_not_lt inside)

namespace Change

/-- **In words**, a change meets no hazard, and does what is made of it. -/
theorem inWords_on (c : Change) (m : Memory) : c.inWords.on m = .ok (m.make c) := by
  cases c with
  | load address bytes =>
    by_cases inside : address.toNat + bytes.length ≤ memorySize
    · simp only [inWords, stop?_of_le inside, fill_on inside, make, apply, Memory.load, if_pos inside]
    · simp only [inWords, stop?_of_lt (Nat.lt_of_not_le inside), make, apply, Memory.load,
        if_neg inside]
      rfl
  | writeRange address bytes =>
    by_cases inside : address.toNat + bytes.length ≤ memorySize
    · simp only [inWords, stop?_of_le inside, fill_on inside, make, apply, writeRange_of_le inside]
    · have outside := Nat.lt_of_not_le inside
      simp only [inWords, stop?_of_lt outside, make, apply, writeRange_of_lt outside]
      rfl
  | write address byte =>
    rw [inWords, Work.get_bind]
    by_cases inside : address.toNat < memorySize
    · rw [getElem?_cells m inside, Work.value_bind (replace_of_lt inside byte)]
      have cells : m.cells.setIfInBounds address.toNat byte = m.cells.set address.toNat byte := by
        ext n
        simp [Vector.getElem_set, Vector.getElem_setIfInBounds]
      simp only [make, apply, Memory.write, if_pos inside, overwrite, cells]
      rfl
    · rw [getElem?_cells_of_le m (Nat.le_of_not_lt inside)]
      simp only [make, apply, Memory.write, if_neg inside]
      rfl
  | clear =>
    show Except.ok (Except.ok (), Memory.mk (m.cells.map fun _ => 0)) = _
    rw [map_zero]
    rfl

end Change

namespace Query

/-- Work that needs a cell goes on with its byte. -/
theorem cell_bind {α : Type} (address : Nat) (next : UInt8 → Work α) (m : Memory) :
    (cell address >>= next).on m =
      match m.read address with
      | .ok byte => (next byte).on m
      | .error fault => .ok (.error fault, m) := by
  rw [Memory.read]
  by_cases inside : address < memorySize
  · rw [if_pos inside]
    show ((match m.cells[address]? with
      | some byte => pure byte
      | none => throw (Fault.outOfBounds address) : Work UInt8) >>= next).on m = _
    rw [getElem?_cells m inside]
    rfl
  · rw [if_neg inside]
    show ((match m.cells[address]? with
      | some byte => pure byte
      | none => throw (Fault.outOfBounds address) : Work UInt8) >>= next).on m = _
    rw [getElem?_cells_of_le m (Nat.le_of_not_lt inside)]
    rfl

/-- **In words**, a query meets no hazard, and is answered as it should. -/
theorem inWords_on (q : Query) (m : Memory) : q.inWords.on m = .ok (q.answer m, m) := by
  cases q with
  | read address =>
    rw [inWords, cell_bind, answer]
    cases m.read address.toNat <;> rfl
  | readPair address =>
    rw [inWords, cell_bind, answer, Memory.readPair]
    cases first : m.read address.toNat with
    | error fault => rfl
    | ok high =>
      -- the address of a byte of memory is not the last word
      have inside : address.toNat < memorySize := (read_eq_ok_iff.1 first).1
      have word : address.toNat + 1 < UInt64.size := Nat.lt_of_le_of_lt inside (by decide)
      have next : addWords address.toNat 1 = .ok (address.toNat + 1) := if_pos word
      dsimp only
      rw [Work.value_bind next, cell_bind]
      cases second : m.read (address.toNat + 1) with
      | error fault => rfl
      | ok low => rfl
  | readRange address length =>
    by_cases inside : address.toNat + length.toNat ≤ memorySize
    · simp only [inWords, stop?_of_le inside, answer, readRange_of_le inside, Work.get_bind,
        m.between_of_le inside]
      rfl
    · have outside := Nat.lt_of_not_le inside
      simp only [inWords, stop?_of_lt outside, answer, readRange_of_lt outside]
      rfl

end Query

/-! ## Changes, one by one -/

namespace Change

variable {c : Change} {m after : Memory} {fault : Fault} {a : Nat} {byte : UInt8}

/-- An empty memory is one overwritten with zeros. -/
theorem overwrite_clear (m : Memory) : m.overwrite clear.start clear.bytes = .zeros := by
  have fits : clear.start + clear.bytes.length ≤ memorySize := by simp [start, bytes]
  refine ext_byte fun a => ?_
  rw [byte_overwrite m _ _ a fits, byte_zeros]
  by_cases inside : a < memorySize
  · simp [start, bytes, inside]
  · simp [start, bytes, inside, byte_of_le (Nat.le_of_not_lt inside)]

/-- **A change is made or refused** as its range says. -/
theorem apply_cases (c : Change) (m : Memory) :
    (c.stop ≤ memorySize ∧ c.apply m = .ok (m.overwrite c.start c.bytes)) ∨
      (memorySize < c.stop ∧ ∃ fault, c.RefusedBy fault ∧ c.apply m = .error fault) := by
  cases c with
  | load address bytes =>
    by_cases inside : address.toNat + bytes.length ≤ memorySize
    · exact .inl ⟨inside, if_pos inside⟩
    · exact .inr ⟨Nat.lt_of_not_le inside, _, .load, if_neg inside⟩
  | write address byte =>
    by_cases inside : address.toNat < memorySize
    · exact .inl ⟨inside, if_pos inside⟩
    · exact .inr ⟨Nat.lt_succ_of_le (Nat.le_of_not_lt inside), _, .write, if_neg inside⟩
  | writeRange address bytes =>
    by_cases inside : address.toNat + bytes.length ≤ memorySize
    · exact .inl ⟨inside, writeRange_of_le inside⟩
    · have outside := Nat.lt_of_not_le inside
      exact .inr ⟨outside, _, .writeRange, writeRange_of_lt outside⟩
  | clear =>
    refine .inl ⟨by simp [stop, start, bytes], ?_⟩
    rw [overwrite_clear, apply]

theorem RefusedBy.unique {other : Fault} (h : c.RefusedBy fault) (h' : c.RefusedBy other) :
    fault = other := by
  cases h <;> cases h' <;> rfl

/-- What a change leaves in a cell. -/
theorem byte_make (c : Change) (m : Memory) (a : Nat) :
    (m.make c).2.byte a = (c.puts? a).getD (m.byte a) := by
  rcases c.apply_cases m with ⟨fits, made⟩ | ⟨outside, fault, -, refused⟩
  · rw [make, made, byte_overwrite m _ _ a fits, puts?]
    by_cases above : c.start ≤ a
    · rw [if_pos above, if_pos ⟨fits, above⟩]
    · rw [if_neg above, if_neg fun h => above h.2]
      rfl
  · rw [make, refused, puts?, if_neg fun h => Nat.not_lt.2 h.1 outside]
    rfl

theorem make_eq_ok_iff : (m.make c).1 = .ok () ↔ c.stop ≤ memorySize := by
  rcases c.apply_cases m with ⟨fits, made⟩ | ⟨outside, fault, -, refused⟩
  · simp [make, made, fits]
  · simp [make, refused, outside]

theorem make_eq_error_iff :
    m.make c = (.error fault, after) ↔ memorySize < c.stop ∧ c.RefusedBy fault ∧ after = m := by
  rcases c.apply_cases m with ⟨fits, made⟩ | ⟨outside, other, by_, refused⟩
  · simp [make, made, Nat.not_lt.2 fits]
  · rw [make, refused]
    constructor
    · intro h
      cases h
      exact ⟨outside, by_, rfl⟩
    · rintro ⟨-, by', rfl⟩
      rw [by_.unique by']

end Change

/-! ## Sequences of changes -/

/-- The last of the changes that puts a byte into the cell puts this one there. -/
def PutLast (changes : List Change) (a : Nat) (byte : UInt8) : Prop :=
  ∃ before c later, changes = before ++ c :: later ∧ c.puts? a = some byte ∧
    ∀ d ∈ later, d.puts? a = none

/-- What a cell holds after changes of an empty memory. -/
def Holds (changes : List Change) (a : Nat) (byte : UInt8) : Prop :=
  PutLast changes a byte ∨ byte = 0 ∧ ∀ c ∈ changes, c.puts? a = none

/-- **A cell holds what was put there last**, or else what it held before. -/
theorem byte_makeAll {m : Memory} {changes : List Change} {a : Nat} {byte : UInt8} :
    (m.makeAll changes).byte a = byte ↔
      PutLast changes a byte ∨ byte = m.byte a ∧ ∀ c ∈ changes, c.puts? a = none := by
  induction changes generalizing m with
  | nil => simp [makeAll, PutLast, eq_comm]
  | cons c changes ih =>
    have next : m.makeAll (c :: changes) = (m.make c).2.makeAll changes := rfl
    rw [next, ih, c.byte_make, List.forall_mem_cons]
    constructor
    · rintro (⟨before, d, later, rfl, puts, still⟩ | ⟨same, still⟩)
      · exact .inl ⟨c :: before, d, later, rfl, puts, still⟩
      · cases puts : c.puts? a with
        | none => exact .inr ⟨by rw [same, puts]; rfl, rfl, still⟩
        | some put =>
          refine .inl ⟨[], c, changes, rfl, ?_, still⟩
          rw [same, puts]
          rfl
    · rintro (⟨_ | ⟨first, before⟩, d, later, split, puts, still⟩ | ⟨same, now, still⟩)
      · obtain ⟨rfl, rfl⟩ := List.cons.inj split
        exact .inr ⟨by rw [puts]; rfl, still⟩
      · obtain ⟨-, rfl⟩ := List.cons.inj split
        exact .inl ⟨before, d, later, rfl, puts, still⟩
      · exact .inr ⟨by rw [same, now]; rfl, still⟩

theorem holds_iff {changes : List Change} {a : Nat} {byte : UInt8} :
    (zeros.makeAll changes).byte a = byte ↔ Holds changes a byte := by
  rw [byte_makeAll, byte_zeros, Holds]

/-! ## Queries -/

theorem eq_slice_iff {m : Memory} {start length : Nat} {bytes : List UInt8} :
    bytes = m.slice start length ↔
      bytes.length = length ∧ ∀ n byte, bytes[n]? = some byte → m.byte (start + n) = byte := by
  constructor
  · rintro rfl
    refine ⟨m.length_slice start length, ?_⟩
    intro n byte there
    have inside : n < length := by
      have := (List.getElem?_eq_some_iff.1 there).1
      rwa [length_slice] at this
    rw [getElem?_slice m inside] at there
    exact Option.some.inj there
  · rintro ⟨rfl, cells⟩
    refine List.ext_getElem? fun n => ?_
    by_cases inside : n < bytes.length
    · have there := List.getElem?_eq_getElem inside
      rw [there, getElem?_slice m inside, cells n _ there]
    · have past := Nat.le_of_not_lt inside
      rw [List.getElem?_eq_none past, List.getElem?_eq_none (by rwa [length_slice])]

/-- **A query is answered** exactly if its range lies in memory, and by its cells. -/
theorem Query.answer_eq_ok_iff {q : Query} {m : Memory} {bytes : List UInt8} :
    q.answer m = .ok bytes ↔
      q.start + q.length ≤ memorySize ∧ bytes = m.slice q.start q.length := by
  cases q with
  | read address =>
    simp only [answer, bind_eq_ok_iff, read_eq_ok_iff]
    constructor
    · rintro ⟨byte, ⟨inside, rfl⟩, h⟩
      cases h
      exact ⟨inside, rfl⟩
    · rintro ⟨inside, rfl⟩
      exact ⟨_, ⟨inside, rfl⟩, rfl⟩
  | readPair address =>
    simp only [answer, Memory.readPair, bind_eq_ok_iff, read_eq_ok_iff]
    constructor
    · rintro ⟨_, ⟨first, ⟨-, rfl⟩, second, ⟨inside, rfl⟩, pair⟩, h⟩
      cases pair
      cases h
      exact ⟨inside, rfl⟩
    · rintro ⟨inside, rfl⟩
      exact ⟨_, ⟨_, ⟨Nat.lt_of_succ_lt inside, rfl⟩, _, ⟨inside, rfl⟩, rfl⟩, rfl⟩
  | readRange address length =>
    constructor
    · intro h
      exact readRange_spec h
    · rintro ⟨inside, rfl⟩
      exact readRange_of_le inside

/-- **Memory is a bounded store.**  Loads, writes of a byte or of a range, and clearances,
    at addresses that are words of 64 bits, follow one another in any way.  Each of them is
    refused exactly if its range ends outside memory, as a number and not as a word, and
    with the fault of its kind; then memory stays as it is.  Afterwards a cell holds the
    byte of the last one that fits and covers it, or zero.  Reads are answered exactly if
    their range lies in memory, and by these bytes.  In words, none of this meets a
    hazard. -/
theorem bounded_store (changes : List Change) :
    (∀ (m : Memory) (c : Change), c.inWords.on m = .ok (m.make c) ∧
      ((m.make c).1 = .ok () ↔ c.stop ≤ memorySize) ∧
      ∀ fault after, m.make c = (.error fault, after) ↔
        memorySize < c.stop ∧ c.RefusedBy fault ∧ after = m) ∧
    let m := zeros.makeAll changes
    (∀ a byte, m.cells[a]? = some byte ↔ a < memorySize ∧ Holds changes a byte) ∧
    ∀ q : Query, q.inWords.on m = .ok (q.answer m, m) ∧
      ∀ bytes, q.answer m = .ok bytes ↔
        q.start + q.length ≤ memorySize ∧ bytes.length = q.length ∧
          ∀ n byte, bytes[n]? = some byte → Holds changes (q.start + n) byte := by
  constructor
  · intro m c
    exact ⟨c.inWords_on m, Change.make_eq_ok_iff, fun _ _ => Change.make_eq_error_iff⟩
  intro m
  constructor
  · intro a byte
    rw [← holds_iff]
    by_cases inside : a < memorySize
    · rw [getElem?_cells m inside]
      simp [inside, m]
    · rw [getElem?_cells_of_le m (Nat.le_of_not_lt inside)]
      simp [inside]
  · intro q
    refine ⟨q.inWords_on m, fun bytes => ?_⟩
    simp only [Query.answer_eq_ok_iff, eq_slice_iff, ← holds_iff]
    rfl

-- the end of this range is no word
example : (zeros.make (.load 0xFFFFFFFFFFFFFFFF [7, 7])).1 = .error (.programTooLarge 2) := rfl

end ChipEight.Memory
