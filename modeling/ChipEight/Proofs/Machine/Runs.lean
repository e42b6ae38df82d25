/-
  Runs and steps.

  A run of a console stops early, at a fault and at a step that finds the machine
  halted.  It might as well go on: a halted machine stays as it is.

  * `stepped n c` is the console `c` after `n` steps, whatever they come to;
  * `runFrom_add`: a run of `m + n` steps goes on where a run of `m` steps has come
    to, unless that was a fault;
  * `runFrom_eq_stepped`, `runFrom_eq_error_iff`: a run leaves what its steps leave, and
    comes to the fault that one of them comes to;
  * `runs_compose` puts these together.
-/
import ChipEight.Proofs.Machine.Step

namespace ChipEight

namespace Console

variable {c after : Console} {last : Effect} {fault : Fault}

/-! ## A run after another -/

/-- What comes after a run, unless it has come to a fault. -/
def thenRun (n : Nat) : Except Fault Effect × Console → Except Fault Effect × Console
  | (.error fault, after) => (.error fault, after)
  | (.ok effect, after) => runFrom effect n after

/-- A run of at least one step does not look at the answer for none. -/
theorem runFrom_of_pos {n : Nat} (some : 0 < n) (last last' : Effect) (c : Console) :
    runFrom last n c = runFrom last' n c := by
  cases n with
  | zero => cases some
  | succ n => rfl

theorem runFrom_self_of_halted (halted : c.machine.isHalted = true) (n : Nat) :
    runFrom .halted n c = (.ok .halted, c) := by
  cases n with
  | zero => rfl
  | succ n => exact runFrom_of_halted halted

/-- **Runs add up.** -/
theorem runFrom_add (last : Effect) (m n : Nat) (c : Console) :
    runFrom last (m + n) c = thenRun n (runFrom last m c) := by
  induction m generalizing c last with
  | zero =>
    rw [Nat.zero_add]
    rfl
  | succ m ih =>
    rw [Nat.succ_add]
    obtain halted | ⟨fault, after, step⟩ | ⟨effect, after, running, step⟩ := c.step_cases
    · rw [runFrom_of_halted halted, runFrom_of_halted halted]
      exact (runFrom_self_of_halted halted n).symm
    · rw [runFrom_of_error step, runFrom_of_error step]
      rfl
    · rw [runFrom_of_ok running step, runFrom_of_ok running step]
      exact ih effect after

/-! ## A run and its steps -/

/-- The console after `n` steps. -/
def stepped : Nat → Console → Console
  | 0, c => c
  | n + 1, c => stepped n c.step.2

theorem stepped_add (m n : Nat) (c : Console) : stepped (m + n) c = stepped n (stepped m c) := by
  induction m generalizing c with
  | zero => rw [Nat.zero_add, stepped]
  | succ m ih => rw [Nat.succ_add, stepped, stepped, ih]

theorem stepped_of_halted (halted : c.machine.isHalted = true) (n : Nat) : stepped n c = c := by
  induction n with
  | zero => rfl
  | succ n ih => rw [stepped, step_of_halted halted, ih]

/-- **A run leaves what its steps leave.** -/
theorem runFrom_eq_stepped (last : Effect) (n : Nat) (c : Console) :
    (runFrom last n c).2 = stepped n c := by
  induction n generalizing c last with
  | zero => rfl
  | succ n ih =>
    obtain halted | ⟨fault, after, step⟩ | ⟨effect, after, running, step⟩ := c.step_cases
    · rw [runFrom_of_halted halted, stepped_of_halted halted]
    · -- the machine has halted, and the steps that are left out would change nothing
      have stops : after.machine.isHalted = true :=
        Machine.isHalted_iff.2 ⟨fault, (step_error step).1⟩
      rw [runFrom_of_error step, stepped, step, stepped_of_halted stops]
    · rw [runFrom_of_ok running step, stepped, step, ih]

theorem step_ne_error_of_halted (halted : c.machine.isHalted = true) :
    c.step.1 ≠ .error fault := by
  rw [step_of_halted halted]
  exact nofun

/-- **A run comes to a fault** exactly if one of its steps does. -/
theorem runFrom_eq_error_iff (last : Effect) (n : Nat) (c : Console) :
    (runFrom last n c).1 = .error fault ↔ ∃ k < n, (stepped k c).step.1 = .error fault := by
  induction n generalizing c last with
  | zero => simp [runFrom]
  | succ n ih =>
    obtain halted | ⟨other, after, step⟩ | ⟨effect, after, running, step⟩ := c.step_cases
    · rw [runFrom_of_halted halted]
      simp [stepped_of_halted halted, step_ne_error_of_halted halted]
    · have stops : after.machine.isHalted = true :=
        Machine.isHalted_iff.2 ⟨other, (step_error step).1⟩
      rw [runFrom_of_error step, Nat.exists_lt_succ_left]
      simp [stepped, step, stepped_of_halted stops, step_ne_error_of_halted stops]
    · rw [runFrom_of_ok running step, ih, Nat.exists_lt_succ_left]
      simp [stepped, step]

/-- **Runs compose.**  A run of `m` steps and then one of `n` leave what a run of `m + n`
    steps leaves.  If the first comes to a fault, so does the long run, and it is the
    same fault; if not, the long run is answered as the second one, provided that this has
    a step at all.  A run of `n` steps leaves what `n` steps leave, and comes to a fault
    exactly if one of them does. -/
theorem runs_compose (c : Console) :
    (∀ m n,
      let first := c.run m
      let second := first.2.run n
      let whole := c.run (m + n)
      whole.2 = second.2 ∧
        (∀ fault, first.1 = .error fault → whole.1 = .error fault) ∧
        ((∀ fault, first.1 ≠ .error fault) → 1 ≤ n → whole.1 = second.1)) ∧
    ∀ n,
      (c.run n).2 = stepped n c ∧
        ∀ fault, (c.run n).1 = .error fault ↔ ∃ k < n, (stepped k c).step.1 = .error fault := by
  constructor
  · intro m n first second whole
    have cut : whole = thenRun n first := runFrom_add .plain m n c
    refine ⟨?_, fun fault refused => ?_, fun clean some => ?_⟩
    · have here : first.2 = stepped m c := runFrom_eq_stepped .plain m c
      have there : second.2 = stepped n first.2 := runFrom_eq_stepped .plain n first.2
      have total : whole.2 = stepped (m + n) c := runFrom_eq_stepped .plain (m + n) c
      rw [total, there, here, stepped_add]
    · rcases first with ⟨_, after⟩
      obtain rfl : _ = Except.error fault := refused
      rw [cut, thenRun]
    · rcases answered : first.1 with other | effect
      · exact absurd answered (clean other)
      · have goesOn : thenRun n first = runFrom effect n first.2 := by
          rw [← Prod.eta first, answered, thenRun]
        rw [cut, goesOn, runFrom_of_pos some effect .plain]
        rfl
  · intro n
    exact ⟨runFrom_eq_stepped .plain n c, fun fault => runFrom_eq_error_iff .plain n c⟩

end Console

end ChipEight
