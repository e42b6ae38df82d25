/-
  Calls and returns.

  A call puts its return address on top of the call stack, and until it is left,
  nothing gets at the addresses from there down.

  * `step_call`, `step_ret`: a call is refused when the stack is full and a return
    when it is empty, and otherwise they are carried out;
  * `CallStep` lists what a step can do to the call stack (`callStep_step`);
  * `take_keeps_or_leaves`: a turn keeps what lies at the bottom of the stack,
    unless it is the return that takes the last of it;
  * `after_keeps`: so turns keep it as long as the stack stays above it, and
    `calls_nest` is what this means for a call.
-/
import ChipEight.Proofs.Machine.Course
import ChipEight.Proofs.Machine.Turns

namespace ChipEight.Console

variable {c : Console}

/-! ## Carried out or refused -/

/-- **A call** is refused if the stack is full. -/
theorem step_call {target : Address} (call : c.upcoming = some (.call target)) :
    c.step.1 =
      if c.machine.stack.depth = stackSize then .error .stackOverflow else .ok .jumped := by
  rw [step_of_upcoming call, Instruction.execute, theMachine_bind]
  by_cases full : c.advance.machine.stack.depth = stackSize
  · rw [CallStack.push_of_full _ full]
    exact (if_pos full).symm
  · have room := Nat.lt_of_le_of_ne c.advance.machine.stack.depth_le full
    obtain ⟨stack, pushed⟩ := CallStack.push_of_lt c.advance.machine.registers.pc room
    rw [pushed]
    exact (if_neg full).symm

/-- **A return** is refused if the stack is empty. -/
theorem step_ret (ret : c.upcoming = some .ret) :
    c.step.1 = if c.machine.stack.depth = 0 then .error .stackUnderflow else .ok .jumped := by
  rw [step_of_upcoming ret, Instruction.execute, theMachine_bind]
  by_cases idle : c.advance.machine.stack.depth = 0
  · rw [CallStack.pop_of_empty idle]
    exact (if_pos idle).symm
  · obtain ⟨target, stack, popped⟩ := CallStack.pop_of_pos (Nat.pos_of_ne_zero idle)
    rw [popped]
    exact (if_neg idle).symm

/-! ## Steps and turns -/

/-- What a step can do to the call stack. -/
inductive CallStep (c after : Console) : Prop
  | keeps (same : after.machine.stack.bottomUp = c.machine.stack.bottomUp)
  | enters {target : Address} (call : c.upcoming = some (.call target))
      (pushed : after.machine.stack.bottomUp =
        c.machine.stack.bottomUp ++ [c.machine.registers.pc + 2])
  | leaves (ret : c.upcoming = some .ret)
      (popped : c.machine.stack.bottomUp =
        after.machine.stack.bottomUp ++ [after.machine.registers.pc])

theorem callStep_step (c : Console) : c.CallStep c.step.2 := by
  rcases step : c.step with ⟨result, after⟩
  cases step_spec step with
  | halted | waits | resumes | unfetched | refused => exact .keeps rfl
  | @executes i _ _ status fetch execute =>
    have upcoming := upcoming_eq_some.2 ⟨status, fetch⟩
    have course := Instruction.execute_course execute
    cases i with
    | call target => exact .enters upcoming (CallStack.bottomUp_push course.1)
    | ret => exact .leaves upcoming (CallStack.bottomUp_pop course)
    | _ => exact .keeps (congrArg CallStack.bottomUp course.1)

/-- A call that is carried out has its return address on top. -/
theorem bottomUp_step_call {target : Address} (call : c.upcoming = some (.call target))
    (entered : c.step.1 = .ok .jumped) :
    c.step.2.machine.stack.bottomUp =
      c.machine.stack.bottomUp ++ [c.machine.registers.pc + 2] := by
  rw [step_of_upcoming call] at entered ⊢
  rcases execute : (Instruction.call target).execute.on c.advance with ⟨fault | effect, after⟩
  · rw [execute] at entered
    cases entered
  · exact CallStack.bottomUp_push (Instruction.execute_course execute).1

/-- **A turn keeps what lies at the bottom** of the call stack, unless it is the
    return that takes the last of it. -/
theorem take_keeps_or_leaves {frames : List Address} {back : Address}
    (below : frames ++ [back] <+: c.machine.stack.bottomUp) (turn : Turn) :
    frames ++ [back] <+: (c.take turn).2.machine.stack.bottomUp ∨
      turn = .step ∧ c.upcoming = some .ret ∧ (c.take turn).2.machine.registers.pc = back ∧
        (c.take turn).2.machine.stack.bottomUp = frames := by
  cases turn with
  | tick | keys => exact .inl below
  | step =>
    cases c.callStep_step with
    | keeps same => exact .inl (by rw [take, same]; exact below)
    | enters call pushed =>
      left
      rw [take, pushed]
      exact below.trans (List.prefix_append _ _)
    | leaves ret popped =>
      rw [popped, List.prefix_concat_iff] at below
      rcases below with last | deeper
      · obtain ⟨frames, back⟩ := List.append_inj' last rfl
        exact .inr ⟨rfl, ret, (List.singleton_inj.1 back).symm, frames.symm⟩
      · exact .inl deeper

/-! ## Above a depth -/

/-- The call stack stays above a depth throughout turns. -/
def StaysAbove (depth : Nat) : Console → List Turn → Prop
  | c, [] => depth < c.machine.stack.depth
  | c, turn :: later =>
    depth < c.machine.stack.depth ∧ (c.take turn).2.StaysAbove depth later

instance StaysAbove.decidable (depth : Nat) :
    (c : Console) → (turns : List Turn) → Decidable (c.StaysAbove depth turns)
  | c, [] => inferInstanceAs (Decidable (depth < c.machine.stack.depth))
  | c, turn :: later =>
    have := decidable depth (c.take turn).2 later
    inferInstanceAs
      (Decidable (depth < c.machine.stack.depth ∧ (c.take turn).2.StaysAbove depth later))

theorem StaysAbove.lt {depth : Nat} {turns : List Turn} (above : c.StaysAbove depth turns) :
    depth < c.machine.stack.depth := by
  cases turns with
  | nil => exact above
  | cons turn later => exact above.1

/-- **Turns keep what lies at the bottom** of the call stack, as long as the stack
    stays above it. -/
theorem after_keeps {frames : List Address} {back : Address}
    (below : frames ++ [back] <+: c.machine.stack.bottomUp) {turns : List Turn}
    (above : c.StaysAbove frames.length turns) :
    frames ++ [back] <+: (c.after turns).machine.stack.bottomUp := by
  induction turns generalizing c with
  | nil => exact below
  | cons turn later ih =>
    obtain ⟨-, above⟩ := above
    rcases take_keeps_or_leaves below turn with keeps | ⟨-, -, -, left⟩
    · exact ih keeps above
    · have deep := above.lt
      rw [← CallStack.length_bottomUp, left] at deep
      exact absurd deep (Nat.lt_irrefl _)

/-- **Calls and returns nest.**  A call that is carried out puts its return
    address on top of the frames that were in use before, and these and that
    address stay where they are, whatever is done, as long as the stack stays above
    the old depth.  The turn that ends this is a step that carries out a return: it
    leads behind the call, and the stack is what it was before.  A call is refused
    exactly when sixteen calls are in progress, and a return exactly when there is
    none. -/
theorem calls_nest (c : Console) :
    (∀ target, c.upcoming = some (.call target) → c.step.1 = .ok .jumped →
      let frames := c.machine.stack.bottomUp
      let back := c.machine.registers.pc + 2
      back.toNat = c.machine.registers.pc.toNat + 2 ∧
        c.step.2.machine.stack.bottomUp = frames ++ [back] ∧
        ∀ turns, c.step.2.StaysAbove frames.length turns →
          let d := c.step.2.after turns
          frames ++ [back] <+: d.machine.stack.bottomUp ∧
            ∀ turn, (d.take turn).2.machine.stack.depth ≤ frames.length →
              turn = .step ∧ d.upcoming = some .ret ∧
                (d.take turn).2.machine.registers.pc = back ∧
                (d.take turn).2.machine.stack.bottomUp = frames) ∧
      (∀ target, c.upcoming = some (.call target) →
        c.step.1 = if c.machine.stack.depth = 16 then .error .stackOverflow else .ok .jumped) ∧
      (c.upcoming = some .ret →
        c.step.1 = if c.machine.stack.depth = 0 then .error .stackUnderflow else .ok .jumped) := by
  refine ⟨?_, fun target call => step_call call, fun ret => step_ret ret⟩
  intro target call entered frames back
  have found := (upcoming_eq_some.1 call).2
  have pushed : c.step.2.machine.stack.bottomUp = frames ++ [back] :=
    bottomUp_step_call call entered
  refine ⟨Machine.toNat_pc_advance found, pushed, ?_⟩
  intro turns above d
  have inside : frames ++ [back] <+: c.step.2.machine.stack.bottomUp :=
    pushed.symm ▸ List.prefix_rfl
  have below : frames ++ [back] <+: d.machine.stack.bottomUp := after_keeps inside above
  refine ⟨below, fun turn shallow => ?_⟩
  rcases take_keeps_or_leaves below turn with keeps | left
  · -- the return address is still there, so the stack is too deep
    have deep := keeps.length_le
    rw [CallStack.length_bottomUp, List.length_append, List.length_singleton] at deep
    omega
  · exact left

/-- A program with a routine that calls another one. -/
def nested : Console :=
  ⟨{ Machine.new 0 with
      memory := Memory.zeros.overwrite programStart
        [0x22, 0x04, 0x00, 0x00, 0x22, 0x08, 0x00, 0xEE, 0x00, 0xEE] }, .idle⟩

/-- The routine calls the other one, which returns to it, and then it returns. -/
theorem nested_returns :
    nested.step.2.machine.stack.bottomUp = [0x202] ∧
      nested.step.2.StaysAbove 0 [.step, .tick, .step] ∧
      let d := nested.step.2.after [.step, .tick, .step]
      [0x202] <+: d.machine.stack.bottomUp ∧ d.upcoming = some .ret ∧
        (d.take .step).2.machine.registers.pc = 0x202 ∧
        (d.take .step).2.machine.stack.bottomUp = [] := by
  have computed : nested.upcoming = some (.call 0x204) ∧
      nested.step.2.StaysAbove 0 [.step, .tick, .step] ∧
      ((nested.step.2.after [.step, .tick, .step]).take .step).2.machine.stack.depth ≤ 0 := by
    decide +kernel
  obtain ⟨call, above, shallow⟩ := computed
  have entered : nested.step.1 = .ok .jumped := by
    rw [step_call call]
    rfl
  have frames : nested.machine.stack.bottomUp = [] := rfl
  have back : nested.machine.registers.pc + 2 = 0x202 := rfl
  obtain ⟨-, pushed, nests⟩ := (calls_nest nested).1 0x204 call entered
  simp only [frames, back, List.length_nil, List.nil_append] at pushed nests
  obtain ⟨below, returns⟩ := nests _ above
  obtain ⟨-, ret, pc, stack⟩ := returns .step shallow
  exact ⟨pushed, above, below, ret, pc, stack⟩

end ChipEight.Console
