/-
  Machines without their timers.

  `untimed` forgets how far the timers have counted.  Only one instruction looks
  at a timer, the one that reads the delay timer; all others do the same to two
  machines that differ in nothing but their timers (`execute_untimed`), and so
  do steps (`step_untimed`).
-/
import ChipEight.Proofs.Machine.Hidden

namespace ChipEight

/-- The machine with its timers at rest. -/
def Machine.untimed (m : Machine) : Machine := { m with timers := .initial }

/-- The console with the timers of its machine at rest. -/
def Console.untimed (c : Console) : Console := { c with machine := c.machine.untimed }

/-- Two consoles that differ in nothing but the timers. -/
structure Console.SameBesidesTimers (c d : Console) : Prop where
  registers : c.machine.registers = d.machine.registers
  memory : c.machine.memory = d.machine.memory
  stack : c.machine.stack = d.machine.stack
  screen : c.machine.screen = d.machine.screen
  status : c.machine.status = d.machine.status
  random : c.machine.random = d.machine.random
  keypad : c.keypad = d.keypad

theorem Console.SameBesidesTimers.trans {c d e : Console} (h : c.SameBesidesTimers d)
    (h' : d.SameBesidesTimers e) : c.SameBesidesTimers e :=
  ⟨h.registers.trans h'.registers, h.memory.trans h'.memory, h.stack.trans h'.stack,
    h.screen.trans h'.screen, h.status.trans h'.status, h.random.trans h'.random,
    h.keypad.trans h'.keypad⟩

theorem Console.sameBesidesTimers_of_untimed {c d : Console} (h : c.untimed = d.untimed) :
    c.SameBesidesTimers d := by
  simp only [untimed, Machine.untimed, Console.mk.injEq, Machine.mk.injEq] at h
  obtain ⟨⟨registers, -, memory, stack, screen, status, random⟩, keypad⟩ := h
  exact ⟨registers, memory, stack, screen, status, random, keypad⟩

/-- The outcome of an instruction, without the timers. -/
def untimedOutcome (outcome : Except Fault Effect × Console) : Except Fault Effect × Console :=
  (outcome.1, outcome.2.untimed)

/-- **Instructions do not look at the timers**, but for the one that reads the
    delay timer. -/
theorem execute_untimed {i : Instruction} (h : ¬ i.ReadsDelay) (c : Console) :
    untimedOutcome (i.execute.on c.untimed) = untimedOutcome (i.execute.on c) := by
  have atRest : c.untimed = c.equip .initial c.machine.random := rfl
  rw [atRest, Instruction.execute_equip (fun reads => absurd reads h) fun _ => rfl,
    ← Instruction.random_execute]
  rfl

theorem execute_untimed_error {i : Instruction} {c after : Console} {fault : Fault}
    (h : ¬ i.ReadsDelay) (refused : i.execute.on c = (.error fault, after)) :
    i.execute.on c.untimed = (.error fault, c.untimed) := by
  have same := execute_untimed h c
  rw [refused] at same
  rcases outcome : i.execute.on c.untimed with ⟨result, after'⟩
  rw [outcome] at same
  obtain rfl : result = .error fault := congrArg Prod.fst same
  rw [Instruction.execute_error outcome]

theorem execute_untimed_ok {i : Instruction} {c after : Console} {effect : Effect}
    (h : ¬ i.ReadsDelay) (carriedOut : i.execute.on c = (.ok effect, after)) :
    ∃ after', i.execute.on c.untimed = (.ok effect, after') ∧ after'.untimed = after.untimed := by
  have same := execute_untimed h c
  rw [carriedOut] at same
  rcases outcome : i.execute.on c.untimed with ⟨result, after'⟩
  rw [outcome] at same
  obtain rfl : result = .ok effect := congrArg Prod.fst same
  exact ⟨after', rfl, congrArg Prod.snd same⟩

namespace Console

theorem upcoming_untimed (c : Console) : c.untimed.upcoming = c.upcoming := rfl

/-- **Steps do not look at the timers**, unless they have an instruction before
    them that does. -/
theorem step_untimed {c after : Console} {result : Except Fault Effect}
    (h : ∀ i, c.upcoming = some i → ¬ i.ReadsDelay) (step : c.step = (result, after)) :
    ∃ after', c.untimed.step = (result, after') ∧ after'.untimed = after.untimed := by
  cases step_spec step with
  | halted status => exact ⟨_, (StepsTo.halted (c := c.untimed) status).step_eq, rfl⟩
  | waits status press => exact ⟨_, (StepsTo.waits (c := c.untimed) status press).step_eq, rfl⟩
  | resumes status press => exact ⟨_, (StepsTo.resumes (c := c.untimed) status press).step_eq, rfl⟩
  | unfetched status fetch =>
    exact ⟨_, (StepsTo.unfetched (c := c.untimed) status fetch).step_eq, rfl⟩
  | refused status fetch execute =>
    have quiet := h _ (upcoming_eq_some.2 ⟨status, fetch⟩)
    exact ⟨_, (StepsTo.refused (c := c.untimed) status fetch
      (execute_untimed_error quiet execute)).step_eq, rfl⟩
  | executes status fetch execute =>
    have quiet := h _ (upcoming_eq_some.2 ⟨status, fetch⟩)
    obtain ⟨after', execute', same⟩ := execute_untimed_ok quiet execute
    exact ⟨_, (StepsTo.executes (c := c.untimed) status fetch execute').step_eq, same⟩

/-- Two consoles that differ in nothing but the timers step alike. -/
theorem step_of_untimed_eq {c d after : Console} {result : Except Fault Effect}
    (alike : c.untimed = d.untimed) (h : ∀ i, c.upcoming = some i → ¬ i.ReadsDelay)
    (step : c.step = (result, after)) :
    ∃ after', d.step = (result, after') ∧ after'.untimed = after.untimed := by
  have hd : ∀ i, d.upcoming = some i → ¬ i.ReadsDelay := by
    rw [← upcoming_untimed, ← alike]
    exact h
  obtain ⟨c', hc', sameC⟩ := step_untimed h step
  obtain ⟨result', d', hd'⟩ : ∃ result d', d.step = (result, d') := ⟨_, _, rfl⟩
  obtain ⟨d'', hd'', sameD⟩ := step_untimed hd hd'
  rw [← alike, hc'] at hd''
  cases hd''
  exact ⟨d', hd', sameD.symm.trans sameC⟩

end Console

end ChipEight
