/-
  Steps — one instruction at a time on a console, the machine with its
  keypad.

  A step fetches the word at the program counter, decodes it, moves the
  program counter past it and carries it out.  The first fault halts the
  machine; from then on steps change nothing.  While the machine waits for a
  key, a step asks the keypad for a press and executes no instruction.

  * `Instruction.execute` is the meaning of an instruction: what it does to the
    console, in place, and what that amounts to;
  * `Console.step` is one step and `Console.run n` are at most `n` of them,
    up to a fault or until the machine has halted.
-/
import ChipEight.Instruction.Basic
import ChipEight.Keypad.Basic
import ChipEight.Machine.Basic

namespace ChipEight

/-- The machine with its keypad. -/
structure Console where
  machine : Machine
  keypad : Keypad
deriving DecidableEq

/-- What a step amounted to. -/
inductive Effect where
  /-- Nothing that concerns the outside. -/
  | plain
  /-- The program counter was set. -/
  | jumped
  /-- The screen was cleared. -/
  | cleared
  /-- A sprite was drawn. -/
  | drew
  /-- The sound timer was set. -/
  | sounded
  /-- The machine waits for a key. -/
  | awaiting
  /-- The machine has halted, and the step did nothing. -/
  | halted
deriving DecidableEq

namespace Machine

/-- Change the registers. -/
def mapRegisters (m : Machine) (f : Registers → Registers) : Machine :=
  { m with registers := f m.registers }

/-- The content of a byte register. -/
def get (m : Machine) (x : Register) : UInt8 := m.registers.get x

/-- Change a byte register. -/
def set (m : Machine) (x : Register) (value : UInt8) : Machine :=
  m.mapRegisters (·.set x value)

/-- Set the program counter. -/
def jump (m : Machine) (target : Address) : Machine := m.mapRegisters ({ · with pc := target })

/-- Move the program counter past one instruction. -/
def advance (m : Machine) : Machine := m.mapRegisters Registers.advance

/-- Stop because of a fault. -/
def halt (m : Machine) (fault : Fault) : Machine := { m with status := .halted fault }

/-- The word at the program counter. -/
def fetch (m : Machine) : Except Fault Word := do
  let (high, low) ← m.memory.readPair m.registers.pc.toNat
  return Word.ofBytes high low

/-- The instruction at the program counter. -/
def fetchInstruction (m : Machine) : Except Fault Instruction := do
  let word ← m.fetch
  match Instruction.decode word with
  | some instruction => return instruction
  | none => throw (.invalidInstruction word m.registers.pc)

end Machine

/-! ## The meaning of an instruction -/

/-- The register that is added to the target of a jump with an offset. -/
def offsetRegister : Register := lastDigit 0

/-- The result of an operation and, for arithmetic, its flag. -/
def Operation.apply (x y : UInt8) : Operation → UInt8 × Option Bool
  | .copy => (y, none)
  | .or => (x ||| y, none)
  | .and => (x &&& y, none)
  | .xor => (x ^^^ y, none)
  | .add => (x + y, some (256 ≤ x.toNat + y.toNat))
  | .subtract => (x - y, some (y.toNat ≤ x.toNat))
  | .subtractFrom => (y - x, some (x.toNat ≤ y.toNat))

/-- The key that a byte names is down; a byte above fifteen names none. -/
def Keypad.namesDown (p : Keypad) (byte : UInt8) : Bool :=
  match Key.ofNat? byte.toNat with
  | some k => p.isDown k
  | none => false

/-- The condition of a skip holds. -/
def Test.holds (m : Machine) (p : Keypad) : Test → Bool
  | .isByte x byte => m.get x == byte
  | .isNotByte x byte => m.get x != byte
  | .same x y => m.get x == m.get y
  | .differ x y => m.get x != m.get y
  | .keyDown x => p.namesDown (m.get x)
  | .keyUp x => !p.namesDown (m.get x)

/-- The three decimal digits of a byte. -/
def decimalDigits (byte : UInt8) : List UInt8 := [byte / 100, byte / 10 % 10, byte % 10]

/-- Write a result to a register, and then its flag, if it has one, to `VF`. -/
def Machine.setWithFlag (m : Machine) (x : Register) (result : UInt8 × Option Bool) : Machine :=
  let m := m.set x result.1
  match result.2 with
  | some flag => m.mapRegisters (·.setFlag flag)
  | none => m

namespace Console

/-- Change the machine. -/
def mapMachine (c : Console) (f : Machine → Machine) : Console :=
  { c with machine := f c.machine }

/-- Move the program counter past one instruction. -/
def advance (c : Console) : Console := c.mapMachine Machine.advance

/-- Stop because of a fault. -/
def halt (c : Console) (fault : Fault) : Console := c.mapMachine (·.halt fault)

/-- The machine as it is. -/
def theMachine : InPlace Console Machine := do return (← get).machine

/-- Change the machine in place. -/
def change (f : Machine → Machine) : InPlace Console Unit := modify (·.mapMachine f)

/-- Forget the presses made so far, in place. -/
def forgetPresses : InPlace Console Unit := modify fun c => { c with keypad := c.keypad.drain }

end Console

open Console in
/-- Carry out an instruction, the program counter being past it already. -/
def Instruction.execute : Instruction → InPlace Console Effect
  | .clearScreen => do
    change ({ · with screen := .dark })
    return .cleared
  | .ret => do
    let m ← theMachine
    let (target, stack) ← m.stack.pop
    change ({ · with stack })
    change (·.jump target)
    return .jumped
  | .jump target => do
    change (·.jump target)
    return .jumped
  | .call target => do
    let m ← theMachine
    let stack ← m.stack.push m.registers.pc
    change ({ · with stack })
    change (·.jump target)
    return .jumped
  | .skip test => do
    let c ← get
    if test.holds c.machine c.keypad then
      modify advance
    return .plain
  | .loadByte x byte => do
    change (·.set x byte)
    return .plain
  | .addByte x byte => do
    change fun m => m.set x (m.get x + byte)
    return .plain
  | .combine operation x y => do
    change fun m => m.setWithFlag x (operation.apply (m.get x) (m.get y))
    return .plain
  | .shiftRight x => do
    change fun m => m.setWithFlag x (m.get x >>> 1, some ((m.get x).toNat.testBit 0))
    return .plain
  | .shiftLeft x => do
    change fun m => m.setWithFlag x (m.get x <<< 1, some ((m.get x).toNat.testBit 7))
    return .plain
  | .loadIndex target => do
    change (·.mapRegisters ({ · with i := target }))
    return .plain
  | .jumpOffset target => do
    change fun m => m.jump (target + (m.get offsetRegister).toUInt16)
    return .jumped
  | .random x mask => do
    let m ← theMachine
    let (byte, stream) := m.random.next
    change ({ · with random := stream })
    change (·.set x (mask &&& byte))
    return .plain
  | .draw x y rows => do
    let m ← theMachine
    let sprite ← m.memory.readRange m.registers.i.toNat rows.val
    let (screen, erased) := m.screen.blit (m.get x).toNat (m.get y).toNat sprite
    change ({ · with screen })
    change (·.mapRegisters (·.setFlag erased))
    return .drew
  | .loadDelay x => do
    change fun m => m.set x m.timers.delay
    return .plain
  | .setDelay x => do
    change fun m => { m with timers := { m.timers with delay := m.get x } }
    return .plain
  | .setSound x => do
    change fun m => { m with timers := { m.timers with sound := m.get x } }
    return .sounded
  | .addIndex x => do
    change fun m => m.mapRegisters fun r => { r with i := r.i + (m.get x).toUInt16 }
    return .plain
  | .loadGlyph x => do
    let m ← theMachine
    let glyph := UInt16.ofNat (fontStart + (m.get x).toNat * glyphHeight)
    change (·.mapRegisters ({ · with i := glyph }))
    return .plain
  | .storeDecimal x => do
    let m ← theMachine
    let memory ← m.memory.writeRange m.registers.i.toNat (decimalDigits (m.get x))
    change ({ · with memory })
    return .plain
  | .storeRegisters x => do
    let m ← theMachine
    let memory ← m.memory.writeRange m.registers.i.toNat (m.registers.upTo x)
    change ({ · with memory })
    return .plain
  | .loadRegisters x => do
    let m ← theMachine
    let bytes ← m.memory.readRange m.registers.i.toNat (x.val + 1)
    change (·.mapRegisters (·.fill bytes))
    return .plain
  | .awaitKey x => do
    forgetPresses
    change ({ · with status := .waiting x })
    return .awaiting

/-! ## Steps -/

namespace Console

/-- One step of a machine that waits for a key. -/
def stepWaiting (c : Console) (x : Register) : Effect × Console :=
  match c.keypad.poll with
  | some (key, keypad) =>
    (.plain, ⟨{ c.machine.set x (UInt8.ofNat key.val) with status := .running }, keypad⟩)
  | none => (.awaiting, c)

/-- Fetch an instruction, move the program counter past it and carry it out. -/
def executeNext : InPlace Console Effect := do
  let m ← theMachine
  let instruction ← m.fetchInstruction
  modify advance
  instruction.execute

/-- One step of a machine that runs: the effect, or the fault that halts it. -/
def stepRunning (c : Console) : Except Fault Effect × Console :=
  match executeNext.on c with
  | (.error fault, after) => (.error fault, after.halt fault)
  | (.ok effect, after) => (.ok effect, after)

/-- One step. -/
def step (c : Console) : Except Fault Effect × Console :=
  match c.machine.status with
  | .running => c.stepRunning
  | .waiting x =>
    let (effect, after) := c.stepWaiting x
    (.ok effect, after)
  | .halted _ => (.ok .halted, c)

/-- At most `n` steps, up to a fault or until a step finds the machine halted;
    `last` is the answer if there are none. -/
def runFrom (last : Effect) : Nat → Console → Except Fault Effect × Console
  | 0, c => (.ok last, c)
  | n + 1, c =>
    match c.step with
    | (.error fault, after) => (.error fault, after)
    | (.ok .halted, after) => (.ok .halted, after)
    | (.ok effect, after) => runFrom effect n after

/-- At most `n` steps, up to a fault or until a step finds the machine halted.
    The answer is the fault, or the effect of the last step. -/
def run (n : Nat) (c : Console) : Except Fault Effect × Console := runFrom .plain n c

end Console

end ChipEight
