/-
  No step meets a hazard.

  Each access is in bounds, each result fits and each instruction comes to a
  handler that has an arm for it, for one of these reasons: a mask has cut the
  operand out, the operand is a byte, or a check came first.

  * `dispatch_on`: an instruction whose operands are in range meets no hazard and
    does what it stands for;
  * `step_meets_no_hazard`: nor does a step, whatever the machine holds and
    whatever it is doing.
-/
import ChipEight.Proofs.Failing
import ChipEight.Proofs.Machine.Hazards

namespace ChipEight

/-! ## Memory and call stack -/

theorem Memory.between_of_le (m : Memory) {address length : Nat}
    (inside : address + length ≤ memorySize) :
    m.between address (address + length) = .ok (m.slice address length) := by
  rw [between, if_pos ⟨Nat.le_add_right _ _, inside⟩, Nat.add_sub_cancel_left]

theorem Memory.fillBetween_of_le (m : Memory) {address : Nat} {bytes : List UInt8}
    (inside : address + bytes.length ≤ memorySize) :
    m.fillBetween address (address + bytes.length) bytes = .ok (m.overwrite address bytes) := by
  rw [fillBetween, if_pos ⟨Nat.le_add_right _ _, inside⟩, Nat.add_sub_cancel_left, if_pos rfl]

theorem Memory.hazardousRead_eq (m : Memory) (address length : Nat) :
    m.hazardousRead address length = liftM (m.readRange address length) := by
  rw [hazardousRead, readRange, checkRange]
  split
  · next room =>
    rw [m.between_of_le room]
    rfl
  · rfl

theorem Memory.length_of_readRange {m : Memory} {address length : Nat} {bytes : List UInt8}
    (h : m.readRange address length = .ok bytes) : bytes.length = length := by
  rw [(readRange_spec h).2]
  exact m.length_slice address length

theorem Memory.hazardousWrite_eq (m : Memory) (address : Nat) (bytes : List UInt8) :
    m.hazardousWrite address bytes = liftM (m.writeRange address bytes) := by
  rw [hazardousWrite, writeRange, checkRange]
  split
  · next room =>
    rw [m.fillBetween_of_le room]
    rfl
  · rfl

theorem CallStack.hazardousPush_eq (s : CallStack) (address : Address) :
    s.hazardousPush address = liftM (s.push address) := by
  rw [hazardousPush, push]
  split
  · next room =>
    have small : s.depth + 1 < sizeLimit := Nat.lt_of_le_of_lt room (by decide)
    rw [addSizes_of_lt small]
    rfl
  · rfl

theorem CallStack.hazardousPop_eq (s : CallStack) : s.hazardousPop = liftM s.pop := by
  obtain ⟨frames, depth, depth_le⟩ := s
  cases depth with
  | zero => rfl
  | succ depth =>
    have top : element frames depth = .ok frames[depth] := element_of_lt depth_le
    simp only [hazardousPop, if_neg (Nat.succ_ne_zero depth), Nat.add_sub_cancel, top]
    rfl

/-! ## Screen -/

namespace Screen

theorem flipAt_eq (s : Screen) (x y : Nat) :
    s.flipAt x y = .ok (s.toggle (Pixel.wrap x y), s.lit (Pixel.wrap x y)) := by
  have column : x % 64 < 64 := Nat.mod_lt _ (by decide)
  have row : y % 32 < 32 := Nat.mod_lt _ (by decide)
  have inside := (Pixel.wrap x y).index.isLt
  have start : mulSizes (y % screenHeight) screenWidth = .ok (y % 32 * 64) :=
    mulSizes_of_lt (by simp only [screenHeight, screenWidth, sizeLimit]; omega)
  have sum : x % 64 + y % 32 * 64 = (Pixel.wrap x y).index.val := Nat.add_comm _ _
  have place : addSizes (x % screenWidth) (y % 32 * 64) = .ok (Pixel.wrap x y).index.val := by
    rw [screenWidth, addSizes_of_lt (by rw [sum, sizeLimit]; omega), sum]
  rw [flipAt, start, ok_bind, place, ok_bind, element_of_lt inside, ok_bind,
    replace_of_lt inside, ok_bind]
  rfl

theorem toggleAll_append (s : Screen) (erased : Bool) (ps qs : List Pixel) :
    s.toggleAll erased (ps ++ qs) =
      (s.toggleAll erased ps).1.toggleAll (s.toggleAll erased ps).2 qs := by
  induction ps generalizing s erased with
  | nil => rfl
  | cons p ps ih => exact ih _ _

variable {x y r : Nat}

/-- The pixel of a column, if the row of a sprite covers it. -/
def columnPixel (x y : Nat) (row : UInt8) (column : Nat) : Option Pixel :=
  if row.toNat.testBit (7 - column) then some (Pixel.wrap (x + column) y) else none

theorem drawPixel_eq (left : x < 256) (top : y + r < sizeLimit) (row : UInt8)
    (picture : Screen × Bool) {column : Nat} (inRow : column < 8) :
    drawPixel x y r row picture column =
      .ok (picture.1.toggleAll picture.2 (columnPixel x (y + r) row column).toList) := by
  have shift : 7 - column < 8 := by omega
  have sum : x + column < sizeLimit := by rw [sizeLimit]; omega
  rw [drawPixel, subSizes_of_le (by omega), ok_bind, bitOf_of_lt shift, ok_bind, columnPixel]
  split
  · rw [addSizes_of_lt sum, ok_bind, addSizes_of_lt top, ok_bind, flipAt_eq]
    rfl
  · rfl

/-- The columns of a row are drawn from left to right. -/
theorem foldlM_drawPixel (left : x < 256) (top : y + r < sizeLimit) (row : UInt8)
    (picture : Screen × Bool) {columns : List Nat} (inRow : ∀ column ∈ columns, column < 8) :
    columns.foldlM (drawPixel x y r row) picture =
      .ok (picture.1.toggleAll picture.2 (columns.filterMap (columnPixel x (y + r) row))) := by
  induction columns generalizing picture with
  | nil => rfl
  | cons column columns ih =>
    obtain ⟨now, later⟩ := List.forall_mem_cons.1 inRow
    rw [List.foldlM_cons, drawPixel_eq left top row picture now, ok_bind, ih _ later,
      ← toggleAll_append]
    congr 3
    rw [List.filterMap_cons]
    cases columnPixel x (y + r) row column <;> rfl

theorem drawRows_eq (left : x < 256) (picture : Screen × Bool) {sprite : List UInt8}
    (top : y + r + sprite.length ≤ sizeLimit) :
    drawRows x y picture (sprite.zipIdx r) =
      .ok (picture.1.toggleAll picture.2 (spritePixels x (y + r) sprite)) := by
  induction sprite generalizing picture r with
  | nil => rfl
  | cons row rest ih =>
    rw [List.length_cons] at top
    have inRow : ∀ column ∈ List.range 8, column < 8 := fun _ h => List.mem_range.1 h
    have top' : y + r < sizeLimit := by omega
    have below := ih (picture.1.toggleAll picture.2 (rowPixels x (y + r) row)) (r := r + 1)
      (by omega)
    rw [drawRows] at below ⊢
    rw [List.zipIdx_cons, List.foldlM_cons, foldlM_drawPixel left top' row picture inRow, ok_bind,
      spritePixels, toggleAll_append]
    exact below

end Screen

/-! ## Handlers -/

section
variable {α : Type} {c : Console}

/-- Registers are changed as by a change that meets no hazard. -/
theorem changeRegisters_bind {f : Registers → Except Hazard Registers} (g : Registers → Registers)
    (same : f c.machine.registers = .ok (g c.machine.registers)) (next : Unit → Hazardous α) :
    (changeRegisters f >>= next).on c = (next ()).on (c.mapMachine (·.mapRegisters g)) := by
  simp only [changeRegisters, bind_assoc]
  rw [Hazardous.get_bind, Hazardous.value_bind same]
  rfl

theorem changeMachine_bind (f : Machine → Machine) (next : Unit → Hazardous α) :
    (changeMachine f >>= next).on c = (next ()).on (c.mapMachine f) := rfl

theorem read_bind (x : UInt8) (next : UInt8 → Hazardous α) (d : Console) :
    ((liftM (c.machine.registers.read x) : Hazardous UInt8) >>= next).on d =
      (next (c.machine.get (registerOf x))).on d :=
  Hazardous.value_bind (Registers.read_eq _ x) next d

theorem write_bind (x value : UInt8) (next : Unit → Hazardous α) :
    (changeRegisters (·.write x value) >>= next).on c =
      (next ()).on (c.mapMachine (·.set (registerOf x) value)) :=
  changeRegisters_bind (·.set (registerOf x) value) (Registers.write_eq _ x value) next

theorem writeFlag_bind (flag : Bool) (next : Unit → Hazardous α) :
    (changeRegisters (·.writeFlag flag) >>= next).on c =
      (next ()).on (c.mapMachine (·.mapRegisters (·.setFlag flag))) :=
  changeRegisters_bind (·.setFlag flag) (Registers.writeFlag_eq _ flag) next

theorem writeResult_bind (x : UInt8) (result : UInt8 × Option Bool) (next : Unit → Hazardous α) :
    (writeResult x result >>= next).on c =
      (next ()).on (c.mapMachine (·.setWithFlag (registerOf x) result)) := by
  obtain ⟨value, _ | flag⟩ := result
  · simp only [writeResult, bind_assoc]
    rw [write_bind]
    rfl
  · simp only [writeResult, bind_assoc]
    rw [write_bind, writeFlag_bind]
    rfl

end

theorem Keypad.hazardousNamesDown_eq (p : Keypad) (byte : UInt8) :
    p.hazardousNamesDown byte = .ok (p.namesDown byte) := by
  rw [hazardousNamesDown, namesDown]
  rcases Key.ofNat? byte.toNat with _ | k
  · rfl
  · exact element_of_lt k.isLt

theorem RawTest.hazardousHolds_eq (c : Console) (test : RawTest) :
    test.hazardousHolds c = .ok (test.refine.holds c.machine c.keypad) := by
  cases test with
  | keyDown x | keyUp x =>
    rw [hazardousHolds, Registers.read_eq, ok_bind, Keypad.hazardousNamesDown_eq]
    rfl
  | _ =>
    simp only [hazardousHolds, Registers.read_eq, ok_bind]
    rfl

namespace RawInstruction

variable {x : UInt8}

theorem drawSprite_on (x y : UInt8) {rows : UInt8} (few : rows.toNat < 16) (c : Console) :
    (drawSprite x y rows).on c = .ok ((draw x y rows).refine.execute.on c) := by
  have named : (lastDigit rows.toNat).val = rows.toNat := Nat.mod_eq_of_lt few
  simp only [drawSprite, Memory.hazardousRead_eq]
  rw [Hazardous.get_bind, read_bind, read_bind, refine, Instruction.execute,
    Console.theMachine_bind, named]
  refine Hazardous.lift_bind fun sprite read => ?_
  have length : sprite.length = rows.toNat := Memory.length_of_readRange read
  have left := (c.machine.get (registerOf x)).toNat_lt
  have top := (c.machine.get (registerOf y)).toNat_lt
  rw [Hazardous.value_bind (Screen.drawRows_eq left _ (by rw [sizeLimit]; omega))]
  rw [changeMachine_bind, writeFlag_bind]
  rfl

/-- A jump with an offset ends within sixteen bits. -/
theorem jumpOffset_on {target : Address} (near : target.toNat < 4096) (c : Console) :
    (jumpOffset target).miscellaneous.on c = .ok ((jumpOffset target).refine.execute.on c) := by
  have offset := (c.machine.get offsetRegister).toNat_lt
  have sum : target.toNat + (c.machine.get offsetRegister).toUInt16.toNat < 65536 := by
    rw [UInt8.toNat_toUInt16]
    omega
  rw [miscellaneous, Hazardous.get_bind, read_bind, show registerOf 0 = offsetRegister from rfl,
    Hazardous.value_bind (addAddresses_of_lt sum)]
  rfl

/-- The glyph of a byte has an address, even if the byte is no digit. -/
theorem loadGlyph_on (x : UInt8) (c : Console) :
    (loadGlyph x).miscellaneous.on c = .ok ((loadGlyph x).refine.execute.on c) := by
  have byte := (c.machine.get (registerOf x)).toNat_lt
  have product : (c.machine.get (registerOf x)).toNat * glyphHeight < sizeLimit := by
    rw [glyphHeight, sizeLimit]
    omega
  have sum : fontStart + (c.machine.get (registerOf x)).toNat * glyphHeight < sizeLimit := by
    rw [fontStart, Nat.zero_add]
    exact product
  rw [miscellaneous, Hazardous.get_bind, read_bind, Hazardous.value_bind (mulSizes_of_lt product),
    Hazardous.value_bind (addSizes_of_lt sum)]
  rfl

theorem storeRegisters_on (fits : x.toNat < 16) (c : Console) :
    (storeRegisters x).miscellaneous.on c = .ok ((storeRegisters x).refine.execute.on c) := by
  have small : x.toNat + 1 < sizeLimit := Nat.lt_of_le_of_lt fits (by decide)
  have named : (registerOf x).val = x.toNat := Nat.mod_eq_of_lt fits
  simp only [miscellaneous, Memory.hazardousWrite_eq]
  rw [Hazardous.get_bind, Hazardous.value_bind (addSizes_of_lt small),
    Hazardous.value_bind (Registers.firstOnes_of_le fits), refine, Instruction.execute,
    Console.theMachine_bind, Registers.upTo, named]
  exact Hazardous.lift_bind fun _ _ => rfl

theorem loadRegisters_on (fits : x.toNat < 16) (c : Console) :
    (loadRegisters x).miscellaneous.on c = .ok ((loadRegisters x).refine.execute.on c) := by
  have small : x.toNat + 1 < sizeLimit := Nat.lt_of_le_of_lt fits (by decide)
  have named : (registerOf x).val = x.toNat := Nat.mod_eq_of_lt fits
  simp only [miscellaneous, Memory.hazardousRead_eq]
  rw [Hazardous.get_bind, Hazardous.value_bind (addSizes_of_lt small), refine,
    Instruction.execute, Console.theMachine_bind, named]
  refine Hazardous.lift_bind fun bytes read => ?_
  have length : bytes.length = x.toNat + 1 := Memory.length_of_readRange read
  rw [changeRegisters_bind (·.fill bytes) (Registers.fillFirst_of_le fits length)]
  rfl

/-- **An instruction in range meets no hazard**, and does what it stands for. -/
theorem dispatch_on {raw : RawInstruction} (fits : raw.Fits) (c : Console) :
    raw.dispatch.on c = .ok (raw.refine.execute.on c) := by
  cases raw with
  | draw x y rows => exact drawSprite_on x y fits c
  | jumpOffset target => exact jumpOffset_on fits c
  | loadGlyph x => exact loadGlyph_on x c
  | storeRegisters x => exact storeRegisters_on fits c
  | loadRegisters x => exact loadRegisters_on fits c
  | ret =>
    simp only [dispatch, controlFlow, CallStack.hazardousPop_eq]
    rw [Hazardous.get_bind, refine, Instruction.execute, Console.theMachine_bind]
    exact Hazardous.lift_bind fun _ _ => rfl
  | call target =>
    simp only [dispatch, controlFlow, CallStack.hazardousPush_eq]
    rw [Hazardous.get_bind, refine, Instruction.execute, Console.theMachine_bind]
    exact Hazardous.lift_bind fun _ _ => rfl
  | storeDecimal x =>
    simp only [dispatch, miscellaneous, Memory.hazardousWrite_eq]
    rw [Hazardous.get_bind, read_bind, refine, Instruction.execute, Console.theMachine_bind]
    exact Hazardous.lift_bind fun _ _ => rfl
  | skip test =>
    simp only [dispatch, miscellaneous]
    rw [Hazardous.get_bind, Hazardous.value_bind (RawTest.hazardousHolds_eq c test), refine,
      Instruction.execute_skip]
    split <;> rfl
  | combine operation x y =>
    simp only [dispatch, arithmetic, bind_assoc]
    rw [Hazardous.get_bind, read_bind, read_bind, writeResult_bind]
    rfl
  | shiftRight x | shiftLeft x =>
    simp only [dispatch, arithmetic, bind_assoc]
    rw [Hazardous.get_bind, read_bind, writeResult_bind]
    rfl
  | addByte x byte =>
    simp only [dispatch, miscellaneous]
    rw [Hazardous.get_bind, read_bind, write_bind]
    rfl
  | loadByte x byte =>
    simp only [dispatch, miscellaneous]
    rw [write_bind]
    rfl
  | loadDelay x =>
    simp only [dispatch, miscellaneous]
    rw [Hazardous.get_bind, write_bind]
    rfl
  | random x mask =>
    simp only [dispatch, miscellaneous, refine, Instruction.execute]
    rw [Hazardous.get_bind, Console.theMachine_bind]
    rcases c.machine.random.next with ⟨byte, stream⟩
    simp only []
    rw [changeMachine_bind, write_bind]
    rfl
  | setDelay x | setSound x | addIndex x =>
    simp only [dispatch, miscellaneous]
    rw [Hazardous.get_bind, read_bind]
    rfl
  | awaitKey x =>
    simp only [dispatch, miscellaneous, Keypad.pollAll_eq_drain]
    rfl
  | clearScreen | jump | loadIndex => rfl

end RawInstruction

/-! ## Steps -/

theorem Machine.hazardousFetch_eq (m : Machine) : m.hazardousFetch = liftM m.fetch := by
  have bound := m.registers.pc.toNat_lt
  have small : m.registers.pc.toNat + 1 < sizeLimit := by rw [sizeLimit]; omega
  rw [hazardousFetch, fetch, Memory.readPair, addSizes_of_lt small]
  rcases m.memory.read m.registers.pc.toNat with fault | high
  · rfl
  · show (liftM (m.memory.read (m.registers.pc.toNat + 1)) >>= fun low =>
      pure (Word.ofBytes high low) : Hazardous Word) = _
    rcases m.memory.read (m.registers.pc.toNat + 1) with fault | low <;> rfl

namespace Console

theorem hazardousResume_on (c : Console) (x : UInt8) :
    (hazardousResume x).on c =
      .ok (.ok (c.stepWaiting (registerOf x)).1, (c.stepWaiting (registerOf x)).2) := by
  rw [hazardousResume, Hazardous.get_bind, stepWaiting]
  rcases c.keypad.poll with _ | ⟨key, keypad⟩
  · rfl
  · simp only [changeRegisters, Registers.write_eq]
    rfl

theorem hazardousExecuteNext_on (c : Console) :
    hazardousExecuteNext.on c = .ok (executeNext.on c) := by
  simp only [hazardousExecuteNext, Machine.hazardousFetch_eq]
  rw [Hazardous.get_bind]
  rcases fetch : c.machine.fetch with fault | word
  · rw [executeNext_of_error (Machine.fetchInstruction_of_error fetch)]
    rfl
  · have meaning := RawInstruction.map_refine_decode word
    rw [Hazardous.lift_ok_bind]
    rcases decoded : RawInstruction.decode word with _ | raw
    · have strange : c.machine.fetchInstruction =
          .error (.invalidInstruction word c.machine.registers.pc) := by
        rw [Machine.fetchInstruction_of_ok fetch, ← meaning, decoded]
        rfl
      rw [executeNext_of_error strange]
      rfl
    · have known : c.machine.fetchInstruction = .ok raw.refine := by
        rw [Machine.fetchInstruction_of_ok fetch, ← meaning, decoded]
        rfl
      rw [executeNext_of_ok known]
      exact RawInstruction.dispatch_on (RawInstruction.fits_of_decode decoded) c.advance

/-- **No step meets a hazard**, whatever the machine holds and whatever it is
    doing: it comes to the answer or the fault of `step`.  A wait for a key ends
    well, too, whatever byte names its register. -/
theorem step_meets_no_hazard (c : Console) :
    c.hazardousStep = .ok c.step ∧
      ∀ x : UInt8, (hazardousResume x).on c =
        .ok (.ok (c.stepWaiting (registerOf x)).1, (c.stepWaiting (registerOf x)).2) := by
  refine ⟨?_, c.hazardousResume_on⟩
  rw [hazardousStep, step]
  rcases c.machine.status with _ | x | fault
  · simp only [hazardousExecuteNext_on, stepRunning]
    rcases executeNext.on c with ⟨fault | effect, after⟩ <;> rfl
  · simp only [hazardousResume_on, registerOf_val]
  · rfl

end Console

end ChipEight
