/-
  Hazards — what could end a step without a report.

  The machine is built of arrays, of sums and products in words of a fixed size,
  and of handlers that have arms for some instructions and not for others.  An
  index may lie outside its array, a result may not fit in its word, and an
  instruction may come to the wrong handler.  Here a step is written down with all
  these hazards:

  * `Hazardous` work comes to an answer or to a fault, unless it meets a hazard;
  * `element`, `addSizes`, `Memory.between` and their like are the accesses and
    the arithmetic that may go wrong;
  * `RawInstruction.dispatch` hands an instruction to its handler, and
    `Console.hazardousStep` is a step made of such work.
-/
import ChipEight.Proofs.Keypad.Presses
import ChipEight.Proofs.Machine.Raw
import ChipEight.Proofs.Machine.Step

namespace ChipEight

/-- What could end a step without a report. -/
inductive Hazard where
  /-- A handler has no arm for its instruction. -/
  | misrouted
  /-- An array has no place of this number. -/
  | outside (index size : Nat)
  /-- Some places of an array were to be filled with more or fewer values. -/
  | unequal (places values : Nat)
  /-- A result does not fit in its word. -/
  | overflow

/-- Work on a console that comes to an answer or to a fault, unless it meets a
    hazard. -/
abbrev Hazardous (α : Type) := ExceptT Fault (StateT Console (Except Hazard)) α

namespace Hazardous

variable {α β : Type}

/-- The answer or the fault, and the console as the work has left it. -/
def on (work : Hazardous α) (c : Console) : Except Hazard (Except Fault α × Console) :=
  work.run.run c

/-- The hazard of an instruction that comes to the wrong handler. -/
def misrouted : Hazardous α := liftM (Except.error Hazard.misrouted : Except Hazard α)

theorem get_bind (next : Console → Hazardous α) (c : Console) :
    (get >>= next).on c = (next c).on c := rfl

/-- Work goes on with a value that is there. -/
theorem value_bind {x : Except Hazard α} {a : α} (there : x = .ok a) (next : α → Hazardous β)
    (c : Console) : ((liftM x : Hazardous α) >>= next).on c = (next a).on c := by
  rw [there]
  rfl

theorem lift_ok_bind (a : α) (next : α → Hazardous β) (c : Console) :
    ((liftM (Except.ok a : Except Fault α) : Hazardous α) >>= next).on c = (next a).on c := rfl

/-- Work that needs a value which may be refused does as well as other work that
    needs it, if it does so once the value is at hand. -/
theorem lift_bind {x : Except Fault α} {next : α → Hazardous β} {plain : α → InPlace Console β}
    {c : Console} (goesOn : ∀ a, x = .ok a → (next a).on c = .ok ((plain a).on c)) :
    ((liftM x : Hazardous α) >>= next).on c =
      .ok (((liftM x : InPlace Console α) >>= plain).on c) := by
  cases x with
  | error fault => rfl
  | ok a => exact goesOn a rfl

end Hazardous

/-! ## Arrays and words -/

section
variable {α : Type} {n : Nat}

/-- The value at a place of an array. -/
def element (v : Vector α n) (i : Nat) : Except Hazard α :=
  if h : i < n then .ok v[i] else .error (.outside i n)

/-- Replace the value at a place of an array. -/
def replace (v : Vector α n) (i : Nat) (a : α) : Except Hazard (Vector α n) :=
  if h : i < n then .ok (v.set i a) else .error (.outside i n)

theorem element_of_lt {v : Vector α n} {i : Nat} (h : i < n) : element v i = .ok v[i] := dif_pos h

theorem replace_of_lt {v : Vector α n} {i : Nat} (h : i < n) (a : α) :
    replace v i a = .ok (v.set i a) := dif_pos h

end

/-- Sizes and places are words of at least thirty-two bits. -/
def sizeLimit : Nat := 4294967296

/-- The sum of two sizes. -/
def addSizes (a b : Nat) : Except Hazard Nat :=
  if a + b < sizeLimit then .ok (a + b) else .error .overflow

/-- The product of two sizes. -/
def mulSizes (a b : Nat) : Except Hazard Nat :=
  if a * b < sizeLimit then .ok (a * b) else .error .overflow

/-- The difference of two sizes. -/
def subSizes (a b : Nat) : Except Hazard Nat :=
  if b ≤ a then .ok (a - b) else .error .overflow

/-- The sum of two addresses. -/
def addAddresses (a b : Address) : Except Hazard Address :=
  if a.toNat + b.toNat < 65536 then .ok (a + b) else .error .overflow

/-- A bit of a byte, found by a shift. -/
def bitOf (byte : UInt8) (shift : Nat) : Except Hazard Bool :=
  if shift < 8 then .ok (byte.toNat.testBit shift) else .error .overflow

theorem addSizes_of_lt {a b : Nat} (h : a + b < sizeLimit) : addSizes a b = .ok (a + b) := if_pos h

theorem mulSizes_of_lt {a b : Nat} (h : a * b < sizeLimit) : mulSizes a b = .ok (a * b) := if_pos h

theorem subSizes_of_le {a b : Nat} (h : b ≤ a) : subSizes a b = .ok (a - b) := if_pos h

theorem addAddresses_of_lt {a b : Address} (h : a.toNat + b.toNat < 65536) :
    addAddresses a b = .ok (a + b) := if_pos h

theorem bitOf_of_lt {byte : UInt8} {shift : Nat} (h : shift < 8) :
    bitOf byte shift = .ok (byte.toNat.testBit shift) := if_pos h

/-! ## Registers -/

namespace Registers

/-- The content of the register that the low four bits of a byte name. -/
def read (r : Registers) (x : UInt8) : Except Hazard UInt8 := element r.v (x.toNat &&& 15)

/-- Change the register that the low four bits of a byte name. -/
def write (r : Registers) (x value : UInt8) : Except Hazard Registers := do
  return { r with v := ← replace r.v (x.toNat &&& 15) value }

/-- Write a flag into the last register. -/
def writeFlag (r : Registers) (flag : Bool) : Except Hazard Registers := do
  return { r with v := ← replace r.v 15 (if flag then 1 else 0) }

/-- The contents of the first registers. -/
def firstOnes (r : Registers) (count : Nat) : Except Hazard (List UInt8) :=
  if count ≤ 16 then .ok (r.v.toList.take count) else .error (.outside count 16)

/-- Fill the first registers with as many bytes. -/
def fillFirst (r : Registers) (count : Nat) (bytes : List UInt8) : Except Hazard Registers :=
  if count ≤ 16 then
    if bytes.length = count then .ok (r.fill bytes) else .error (.unequal count bytes.length)
  else .error (.outside count 16)

theorem val_registerOf (x : UInt8) : x.toNat &&& 15 = (registerOf x).val :=
  Nat.and_two_pow_sub_one_eq_mod x.toNat 4

theorem read_eq (r : Registers) (x : UInt8) : r.read x = .ok (r.get (registerOf x)) := by
  rw [read, val_registerOf, element_of_lt (registerOf x).isLt]
  rfl

theorem write_eq (r : Registers) (x value : UInt8) :
    r.write x value = .ok (r.set (registerOf x) value) := by
  rw [write, val_registerOf, replace_of_lt (registerOf x).isLt]
  rfl

theorem writeFlag_eq (r : Registers) (flag : Bool) : r.writeFlag flag = .ok (r.setFlag flag) := rfl

theorem firstOnes_of_le {r : Registers} {count : Nat} (h : count ≤ 16) :
    r.firstOnes count = .ok (r.v.toList.take count) := if_pos h

theorem fillFirst_of_le {r : Registers} {count : Nat} {bytes : List UInt8} (h : count ≤ 16)
    (length : bytes.length = count) : r.fillFirst count bytes = .ok (r.fill bytes) := by
  rw [fillFirst, if_pos h, if_pos length]

end Registers

/-! ## Memory -/

namespace Memory

/-- The bytes between two places of memory. -/
def between (m : Memory) (start stop : Nat) : Except Hazard (List UInt8) :=
  if start ≤ stop ∧ stop ≤ memorySize then .ok (m.slice start (stop - start))
  else .error (.outside stop memorySize)

/-- Fill the cells between two places of memory with as many bytes. -/
def fillBetween (m : Memory) (start stop : Nat) (bytes : List UInt8) : Except Hazard Memory :=
  if start ≤ stop ∧ stop ≤ memorySize then
    if bytes.length = stop - start then .ok (m.overwrite start bytes)
    else .error (.unequal (stop - start) bytes.length)
  else .error (.outside stop memorySize)

/-- Read a range. -/
def hazardousRead (m : Memory) (address length : Nat) : Hazardous (List UInt8) := do
  checkRange address length
  m.between address (address + length)

/-- Write a range. -/
def hazardousWrite (m : Memory) (address : Nat) (bytes : List UInt8) : Hazardous Memory := do
  checkRange address bytes.length
  m.fillBetween address (address + bytes.length) bytes

end Memory

/-! ## Call stack -/

namespace CallStack

/-- Enter a call. -/
def hazardousPush (s : CallStack) (address : Address) : Hazardous CallStack := do
  if room : s.depth < stackSize then
    let _ ← addSizes s.depth 1
    return ⟨s.frames.set s.depth address room, s.depth + 1, room⟩
  else throw .stackOverflow

/-- Leave the latest call. -/
def hazardousPop (s : CallStack) : Hazardous (Address × CallStack) := do
  if s.depth = 0 then throw .stackUnderflow
  let target ← element s.frames (s.depth - 1)
  return (target, ⟨s.frames, s.depth - 1, Nat.le_trans (Nat.sub_le _ _) s.depth_le⟩)

end CallStack

/-! ## Screen -/

namespace Screen

/-- Flip the pixel at coordinates on the torus, and tell whether it was lit. -/
def flipAt (s : Screen) (x y : Nat) : Except Hazard (Screen × Bool) := do
  let start ← mulSizes (y % screenHeight) screenWidth
  let place ← addSizes (x % screenWidth) start
  let lit ← element s.pixels place
  let pixels ← replace s.pixels place (!lit)
  return (⟨pixels⟩, lit)

/-- Draw one pixel of row `r` of a sprite. -/
def drawPixel (x y r : Nat) (row : UInt8) (picture : Screen × Bool) (column : Nat) :
    Except Hazard (Screen × Bool) := do
  let shift ← subSizes 7 column
  let covered ← bitOf row shift
  if covered then
    let left ← addSizes x column
    let top ← addSizes y r
    let (screen, lit) ← picture.1.flipAt left top
    return (screen, picture.2 || lit)
  else
    return picture

/-- Draw the numbered rows of a sprite, each from left to right. -/
def drawRows (x y : Nat) (picture : Screen × Bool) (rows : List (UInt8 × Nat)) :
    Except Hazard (Screen × Bool) :=
  rows.foldlM (fun picture row => (List.range 8).foldlM (drawPixel x y row.2 row.1) picture) picture

end Screen

/-! ## Handlers -/

/-- Change the registers. -/
def changeRegisters (f : Registers → Except Hazard Registers) : Hazardous Unit := do
  let c ← get
  let registers ← f c.machine.registers
  set (c.mapMachine ({ · with registers }))

/-- Change the machine. -/
def changeMachine (f : Machine → Machine) : Hazardous Unit := modify (·.mapMachine f)

/-- Write a result to a register, and then its flag, if it has one. -/
def writeResult (x : UInt8) (result : UInt8 × Option Bool) : Hazardous Unit := do
  changeRegisters (·.write x result.1)
  match result.2 with
  | some flag => changeRegisters (·.writeFlag flag)
  | none => return ()

/-- The key that a byte names is down. -/
def Keypad.hazardousNamesDown (p : Keypad) (byte : UInt8) : Except Hazard Bool :=
  match Key.ofNat? byte.toNat with
  | some k => element p.down k.val
  | none => return false

/-- The condition of a skip holds. -/
def RawTest.hazardousHolds (c : Console) : RawTest → Except Hazard Bool
  | .isByte x byte => do return (← c.machine.registers.read x) == byte
  | .isNotByte x byte => do return (← c.machine.registers.read x) != byte
  | .same x y => do return (← c.machine.registers.read x) == (← c.machine.registers.read y)
  | .differ x y => do return (← c.machine.registers.read x) != (← c.machine.registers.read y)
  | .keyDown x => do c.keypad.hazardousNamesDown (← c.machine.registers.read x)
  | .keyUp x => do return !(← c.keypad.hazardousNamesDown (← c.machine.registers.read x))

namespace RawInstruction

/-- The handler of control flow. -/
def controlFlow : RawInstruction → Hazardous Effect
  | .clearScreen => do
    changeMachine ({ · with screen := .dark })
    return .cleared
  | .ret => do
    let (target, stack) ← (← get).machine.stack.hazardousPop
    changeMachine ({ · with stack })
    changeMachine (·.jump target)
    return .jumped
  | .jump target => do
    changeMachine (·.jump target)
    return .jumped
  | .call target => do
    let m := (← get).machine
    let stack ← m.stack.hazardousPush m.registers.pc
    changeMachine ({ · with stack })
    changeMachine (·.jump target)
    return .jumped
  | _ => Hazardous.misrouted

/-- The handler of arithmetic. -/
def arithmetic : RawInstruction → Hazardous Unit
  | .combine operation x y => do
    let r := (← get).machine.registers
    writeResult x (operation.apply (← r.read x) (← r.read y))
  | .shiftRight x => do
    let value ← (← get).machine.registers.read x
    writeResult x (value >>> 1, some (value.toNat.testBit 0))
  | .shiftLeft x => do
    let value ← (← get).machine.registers.read x
    writeResult x (value <<< 1, some (value.toNat.testBit 7))
  | _ => Hazardous.misrouted

/-- The handler of sprites. -/
def drawSprite (x y rows : UInt8) : Hazardous Effect := do
  let m := (← get).machine
  let left ← m.registers.read x
  let top ← m.registers.read y
  let sprite ← m.memory.hazardousRead m.registers.i.toNat rows.toNat
  let (screen, erased) ← Screen.drawRows left.toNat top.toNat (m.screen, false) sprite.zipIdx
  changeMachine ({ · with screen })
  changeRegisters (·.writeFlag erased)
  return .drew

/-- The handler of all that is left. -/
def miscellaneous : RawInstruction → Hazardous Effect
  | .skip test => do
    let c ← get
    if ← test.hazardousHolds c then
      modify Console.advance
    return .plain
  | .loadByte x byte => do
    changeRegisters (·.write x byte)
    return .plain
  | .addByte x byte => do
    let value ← (← get).machine.registers.read x
    changeRegisters (·.write x (value + byte))
    return .plain
  | .loadIndex target => do
    changeMachine (·.mapRegisters ({ · with i := target }))
    return .plain
  | .jumpOffset target => do
    let offset ← (← get).machine.registers.read 0
    let sum ← addAddresses target offset.toUInt16
    changeMachine (·.jump sum)
    return .jumped
  | .random x mask => do
    let (byte, stream) := (← get).machine.random.next
    changeMachine ({ · with random := stream })
    changeRegisters (·.write x (mask &&& byte))
    return .plain
  | .loadDelay x => do
    let delay := (← get).machine.timers.delay
    changeRegisters (·.write x delay)
    return .plain
  | .awaitKey x => do
    modify fun c => { c with keypad := c.keypad.pollAll }
    changeMachine ({ · with status := .waiting (registerOf x) })
    return .awaiting
  | .setDelay x => do
    let value ← (← get).machine.registers.read x
    changeMachine fun m => { m with timers := { m.timers with delay := value } }
    return .plain
  | .setSound x => do
    let value ← (← get).machine.registers.read x
    changeMachine fun m => { m with timers := { m.timers with sound := value } }
    return .sounded
  | .addIndex x => do
    let value ← (← get).machine.registers.read x
    changeMachine (·.mapRegisters fun r => { r with i := r.i + value.toUInt16 })
    return .plain
  | .loadGlyph x => do
    let value ← (← get).machine.registers.read x
    let offset ← mulSizes value.toNat glyphHeight
    let place ← addSizes fontStart offset
    changeMachine (·.mapRegisters ({ · with i := UInt16.ofNat place }))
    return .plain
  | .storeDecimal x => do
    let m := (← get).machine
    let value ← m.registers.read x
    let memory ← m.memory.hazardousWrite m.registers.i.toNat (decimalDigits value)
    changeMachine ({ · with memory })
    return .plain
  | .storeRegisters x => do
    let m := (← get).machine
    let count ← addSizes x.toNat 1
    let bytes ← m.registers.firstOnes count
    let memory ← m.memory.hazardousWrite m.registers.i.toNat bytes
    changeMachine ({ · with memory })
    return .plain
  | .loadRegisters x => do
    let m := (← get).machine
    let count ← addSizes x.toNat 1
    let bytes ← m.memory.hazardousRead m.registers.i.toNat count
    changeRegisters (·.fillFirst count bytes)
    return .plain
  | _ => Hazardous.misrouted

/-- Hand an instruction to its handler. -/
def dispatch (raw : RawInstruction) : Hazardous Effect :=
  match raw with
  | .clearScreen | .ret | .jump _ | .call _ => raw.controlFlow
  | .combine .. | .shiftRight _ | .shiftLeft _ => do
    raw.arithmetic
    return .plain
  | .draw x y rows => drawSprite x y rows
  | _ => raw.miscellaneous

end RawInstruction

/-! ## Steps -/

/-- The word at the program counter. -/
def Machine.hazardousFetch (m : Machine) : Hazardous Word := do
  let high ← m.memory.read m.registers.pc.toNat
  let next ← addSizes m.registers.pc.toNat 1
  let low ← m.memory.read next
  return Word.ofBytes high low

namespace Console

/-- Ask the keypad for the press that the machine waits for. -/
def hazardousResume (x : UInt8) : Hazardous Effect := do
  let c ← get
  match c.keypad.poll with
  | some (key, keypad) =>
    set { c with keypad }
    changeRegisters (·.write x (UInt8.ofNat key.val))
    changeMachine ({ · with status := .running })
    return .plain
  | none => return .awaiting

/-- Fetch an instruction, move the program counter past it and hand it to its
    handler. -/
def hazardousExecuteNext : Hazardous Effect := do
  let m := (← get).machine
  let word ← m.hazardousFetch
  match RawInstruction.decode word with
  | some raw =>
    modify advance
    raw.dispatch
  | none => throw (.invalidInstruction word m.registers.pc)

/-- One step. -/
def hazardousStep (c : Console) : Except Hazard (Except Fault Effect × Console) :=
  match c.machine.status with
  | .running =>
    match hazardousExecuteNext.on c with
    | .ok (.error fault, after) => .ok (.error fault, after.halt fault)
    | .ok (.ok effect, after) => .ok (.ok effect, after)
    | .error hazard => .error hazard
  | .waiting x => (hazardousResume (UInt8.ofNat x.val)).on c
  | .halted _ => .ok (.ok .halted, c)

end Console

end ChipEight
