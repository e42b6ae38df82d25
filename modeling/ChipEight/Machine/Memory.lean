/-
  Memory — 4096 bytes behind checked reads and writes.

  `byte m a` is the view that the operations are described by: the byte at
  `a`, and zero outside memory (`byte_overwrite`).  A range is refused as a
  whole when any of it lies outside, so a refused write changes nothing; the
  refusal names the first byte outside.  Addresses are unbounded numbers here,
  so no sum of an address and a length wraps.
-/
import ChipEight.Fault

namespace ChipEight

/-- The number of bytes of memory. -/
def memorySize : Nat := 4096

/-- The address at which programs are loaded and started. -/
def programStart : Nat := 512

/-- The contents of memory. -/
structure Memory where
  cells : Vector UInt8 memorySize
deriving DecidableEq

namespace Memory

/-- Memory full of zeros. -/
def zeros : Memory := ⟨Vector.replicate memorySize 0⟩

/-- The byte at an address, zero outside memory. -/
def byte (m : Memory) (address : Nat) : UInt8 := m.cells[address]?.getD 0

/-- The bytes from an address on, zeros outside memory. -/
def slice (m : Memory) (address length : Nat) : List UInt8 :=
  (List.range' address length).map m.byte

/-- Put bytes into memory from an address on; those outside are dropped. -/
def overwrite (m : Memory) (address : Nat) : List UInt8 → Memory
  | [] => m
  | byte :: rest => overwrite ⟨m.cells.setIfInBounds address byte⟩ (address + 1) rest

/-! ## Checked access -/

/-- Read one byte. -/
def read (m : Memory) (address : Nat) : Except Fault UInt8 :=
  if address < memorySize then .ok (m.byte address) else .error (.outOfBounds address)

/-- Write one byte. -/
def write (m : Memory) (address : Nat) (byte : UInt8) : Except Fault Memory :=
  if address < memorySize then .ok (m.overwrite address [byte]) else .error (.outOfBounds address)

/-- Read two bytes, the first of them first. -/
def readPair (m : Memory) (address : Nat) : Except Fault (UInt8 × UInt8) := do
  let first ← m.read address
  let second ← m.read (address + 1)
  return (first, second)

/-- A range is accessible if it ends within memory. -/
def checkRange (address length : Nat) : Except Fault Unit :=
  if address + length ≤ memorySize then .ok ()
  else .error (.outOfBounds (max address memorySize))

/-- Read a range. -/
def readRange (m : Memory) (address length : Nat) : Except Fault (List UInt8) := do
  checkRange address length
  return m.slice address length

/-- Write a range. -/
def writeRange (m : Memory) (address : Nat) (bytes : List UInt8) : Except Fault Memory := do
  checkRange address bytes.length
  return m.overwrite address bytes

/-- Put a block of bytes into memory, reporting its size if it does not fit. -/
def load (m : Memory) (address : Nat) (bytes : List UInt8) : Except Fault Memory :=
  if address + bytes.length ≤ memorySize then .ok (m.overwrite address bytes)
  else .error (.programTooLarge bytes.length)

/-- A range that can be read lies in memory. -/
theorem readRange_spec {m : Memory} {address length : Nat} {bytes : List UInt8}
    (h : m.readRange address length = .ok bytes) :
    address + length ≤ memorySize ∧ bytes = m.slice address length := by
  rw [readRange, checkRange] at h
  split at h
  · next inside => exact ⟨inside, (Except.ok.inj h).symm⟩
  · cases h

theorem readRange_of_le {m : Memory} {address length : Nat} (inside : address + length ≤ memorySize) :
    m.readRange address length = .ok (m.slice address length) := by
  rw [readRange, checkRange, if_pos inside]
  rfl

theorem readRange_of_lt {m : Memory} {address length : Nat}
    (outside : memorySize < address + length) :
    m.readRange address length = .error (.outOfBounds (max address memorySize)) := by
  rw [readRange, checkRange, if_neg (Nat.not_le.2 outside)]
  rfl

theorem writeRange_of_le {m : Memory} {address : Nat} {bytes : List UInt8}
    (inside : address + bytes.length ≤ memorySize) :
    m.writeRange address bytes = .ok (m.overwrite address bytes) := by
  rw [writeRange, checkRange, if_pos inside]
  rfl

theorem writeRange_of_lt {m : Memory} {address : Nat} {bytes : List UInt8}
    (outside : memorySize < address + bytes.length) :
    m.writeRange address bytes = .error (.outOfBounds (max address memorySize)) := by
  rw [writeRange, checkRange, if_neg (Nat.not_le.2 outside)]
  rfl

/-- A range that can be written lies in memory. -/
theorem writeRange_spec {m after : Memory} {address : Nat} {bytes : List UInt8}
    (h : m.writeRange address bytes = .ok after) :
    address + bytes.length ≤ memorySize ∧ after = m.overwrite address bytes := by
  rw [writeRange, checkRange] at h
  split at h
  · next inside => exact ⟨inside, (Except.ok.inj h).symm⟩
  · cases h

theorem checkRange_error {address length : Nat} {fault : Fault}
    (h : checkRange address length = .error fault) :
    memorySize < address + length ∧ fault = .outOfBounds (max address memorySize) := by
  rw [checkRange] at h
  split at h
  · cases h
  · next outside => exact ⟨Nat.lt_of_not_le outside, (Except.error.inj h).symm⟩

theorem read_eq_ok_iff {m : Memory} {address : Nat} {value : UInt8} :
    m.read address = .ok value ↔ address < memorySize ∧ m.byte address = value := by
  unfold read
  split
  · next inside => simp [inside]
  · next outside => simp [outside]

theorem read_error {m : Memory} {address : Nat} {fault : Fault}
    (h : m.read address = .error fault) : fault = .outOfBounds address := by
  unfold read at h
  split at h
  · cases h
  · cases h
    rfl

/-- A range that cannot be read does not end within memory. -/
theorem readRange_error {m : Memory} {address length : Nat} {fault : Fault}
    (h : m.readRange address length = .error fault) :
    memorySize < address + length ∧ fault = .outOfBounds (max address memorySize) := by
  rw [readRange] at h
  cases check : checkRange address length with
  | error refused =>
    rw [check] at h
    cases h
    exact checkRange_error check
  | ok _ =>
    rw [check] at h
    cases h

/-- A range that cannot be written does not end within memory. -/
theorem writeRange_error {m : Memory} {address : Nat} {bytes : List UInt8} {fault : Fault}
    (h : m.writeRange address bytes = .error fault) :
    memorySize < address + bytes.length ∧ fault = .outOfBounds (max address memorySize) := by
  rw [writeRange] at h
  cases check : checkRange address bytes.length with
  | error refused =>
    rw [check] at h
    cases h
    exact checkRange_error check
  | ok _ =>
    rw [check] at h
    cases h

/-! ## The view after a write -/

theorem byte_zeros (address : Nat) : zeros.byte address = 0 := by
  simp only [byte, zeros, Vector.getElem?_replicate]
  split <;> rfl

/-- A write is seen at the addresses it covers, and nowhere else. -/
theorem byte_overwrite (m : Memory) (start : Nat) (bytes : List UInt8) (address : Nat)
    (fits : start + bytes.length ≤ memorySize) :
    (m.overwrite start bytes).byte address =
      if start ≤ address then (bytes[address - start]?).getD (m.byte address) else m.byte address := by
  induction bytes generalizing m start with
  | nil => simp [overwrite]
  | cons head rest ih =>
    simp only [List.length_cons] at fits
    rw [overwrite, ih _ _ (by omega)]
    by_cases here : start = address
    · subst here
      have inside : start < memorySize := by omega
      have past : ¬ start + 1 ≤ start := by omega
      simp [byte, inside, past]
    · simp only [byte, Vector.getElem?_setIfInBounds_ne here]
      by_cases below : start ≤ address
      · have next : start + 1 ≤ address := by omega
        have shift : address - start = (address - (start + 1)) + 1 := by omega
        simp [below, next, shift]
      · have next : ¬ start + 1 ≤ address := by omega
        simp [below, next]

theorem byte_overwrite_add {m : Memory} {start : Nat} {bytes : List UInt8}
    (fits : start + bytes.length ≤ memorySize) (n : Nat) :
    (m.overwrite start bytes).byte (start + n) = (bytes[n]?).getD (m.byte (start + n)) := by
  rw [byte_overwrite _ _ _ _ fits, if_pos (Nat.le_add_right _ _), Nat.add_sub_cancel_left]

/-- A write is not seen outside its range. -/
theorem byte_overwrite_of_outside {m : Memory} {start : Nat} {bytes : List UInt8} {address : Nat}
    (fits : start + bytes.length ≤ memorySize)
    (outside : address < start ∨ start + bytes.length ≤ address) :
    (m.overwrite start bytes).byte address = m.byte address := by
  rw [byte_overwrite _ _ _ _ fits]
  split
  · rw [List.getElem?_eq_none (by omega)]
    rfl
  · rfl

theorem byte_of_le {m : Memory} {address : Nat} (outside : memorySize ≤ address) :
    m.byte address = 0 := by
  simp [byte, outside]

/-- Memory is what is seen of it. -/
theorem ext_byte {m n : Memory} (same : ∀ a, m.byte a = n.byte a) : m = n := by
  obtain ⟨v⟩ := m
  obtain ⟨w⟩ := n
  congr 1
  refine Vector.ext fun a inside => ?_
  simpa [byte, inside] using same a

theorem length_slice (m : Memory) (address length : Nat) :
    (m.slice address length).length = length := by
  simp [slice]

theorem getElem?_slice (m : Memory) {address length n : Nat} (h : n < length) :
    (m.slice address length)[n]? = some (m.byte (address + n)) := by
  simp [slice, h]

end Memory

end ChipEight
