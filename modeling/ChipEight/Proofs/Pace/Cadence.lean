/-
  The arithmetic of cadences.

  * `advance_add`: time may be passed in parts, no period is lost or gained;
  * `deadline n` is the time up to the end of the `n`th period from now.  It is
    the least time that completes `n` periods (`deadline_le_iff`), and that of
    the running period is `untilNext`;
  * `advance_of_lt`, `untilNext_advance`: before the running period is complete
    nothing happens but that its end comes nearer;
  * `dueAt frequency n` is the nanosecond at which the `n`th event of a frequency
    falls due.  A cadence at the beginning of a period has these for deadlines
    (`deadline_atStart`), and it completes its frequency each second
    (`advance_atStart`).
-/
import Mathlib.Algebra.Order.Floor.Div
import ChipEight.Pace.Cadence

namespace ChipEight

theorem nanosPerSecond_pos : 0 < nanosPerSecond := by decide

namespace Cadence

@[ext] theorem ext {c d : Cadence} (frequency : c.frequency = d.frequency)
    (phase : c.phase = d.phase) : c = d := by
  obtain ⟨f, p, hf, hp⟩ := c
  obtain ⟨g, q, hg, hq⟩ := d
  cases frequency
  cases phase
  rfl

@[simp] theorem advance_frequency (c : Cadence) (elapsed : Nat) :
    (c.advance elapsed).2.frequency = c.frequency := rfl

theorem advance_fst (c : Cadence) (elapsed : Nat) :
    (c.advance elapsed).1 = (c.phase + elapsed * c.frequency) / nanosPerSecond := rfl

theorem advance_phase (c : Cadence) (elapsed : Nat) :
    (c.advance elapsed).2.phase = (c.phase + elapsed * c.frequency) % nanosPerSecond := rfl

@[simp] theorem advance_zero (c : Cadence) : c.advance 0 = (0, c) := by
  have h := c.phase_lt
  ext
  · rw [advance_fst, Nat.zero_mul, Nat.add_zero, Nat.div_eq_of_lt h]
  · rfl
  · rw [advance_phase, Nat.zero_mul, Nat.add_zero, Nat.mod_eq_of_lt h]

/-- **Time may be passed in parts.** -/
theorem advance_add (c : Cadence) (a b : Nat) :
    c.advance (a + b) =
      ((c.advance a).1 + ((c.advance a).2.advance b).1, ((c.advance a).2.advance b).2) := by
  ext
  · simp only [advance_fst, advance_phase, advance_frequency, Nat.add_mul]
    generalize a * c.frequency = x
    generalize b * c.frequency = y
    unfold nanosPerSecond
    omega
  · rfl
  · simp only [advance_phase, advance_frequency, Nat.add_mul, Nat.mod_add_mod, Nat.add_assoc]

/-! ## Deadlines -/

/-- The nanoseconds after which the `n`th period from now is complete, the
    running one being the first. -/
def deadline (c : Cadence) (n : Nat) : Nat := (n * nanosPerSecond - c.phase) ⌈/⌉ c.frequency

theorem deadline_one (c : Cadence) : c.deadline 1 = c.untilNext := by
  rw [deadline, untilNext, Nat.one_mul, Nat.ceilDiv_eq_add_pred_div]

/-- **Deadlines are exact**: the `n`th is the least time that completes `n`
    periods. -/
theorem deadline_le_iff (c : Cadence) {n elapsed : Nat} :
    c.deadline n ≤ elapsed ↔ n ≤ (c.advance elapsed).1 := by
  rw [deadline, ceilDiv_le_iff_le_mul c.frequency_pos, advance_fst,
    Nat.le_div_iff_mul_le nanosPerSecond_pos, Nat.mul_comm elapsed]
  omega

theorem untilNext_le_iff (c : Cadence) {elapsed : Nat} :
    c.untilNext ≤ elapsed ↔ 0 < (c.advance elapsed).1 := by
  rw [← deadline_one, deadline_le_iff, Nat.one_le_iff_ne_zero, Nat.pos_iff_ne_zero]

theorem advance_of_lt {c : Cadence} {elapsed : Nat} (h : elapsed < c.untilNext) :
    (c.advance elapsed).1 = 0 := by
  exact Nat.eq_zero_of_not_pos (c.untilNext_le_iff.not.1 (Nat.not_le.2 h))

/-- The end of the running period comes nearer by the time that passes. -/
theorem untilNext_advance {c : Cadence} {elapsed : Nat} (h : elapsed < c.untilNext) :
    (c.advance elapsed).2.untilNext = c.untilNext - elapsed := by
  refine eq_of_forall_ge_iff fun later => ?_
  have both : (c.advance (elapsed + later)).1 = ((c.advance elapsed).2.advance later).1 := by
    rw [advance_add, advance_of_lt h, Nat.zero_add]
  rw [untilNext_le_iff, ← both, ← untilNext_le_iff]
  omega

/-- The period that completes between two counts is the one whose deadline lies
    there. -/
theorem deadline_eq {c : Cadence} {n elapsed : Nat} (before : (c.advance elapsed).1 < n)
    (after : n ≤ (c.advance (elapsed + 1)).1) : c.deadline n = elapsed + 1 := by
  have h₁ := c.deadline_le_iff.2 after
  have h₂ : ¬ c.deadline n ≤ elapsed := c.deadline_le_iff.not.2 (by omega)
  omega

/-! ## From the beginning of a period -/

/-- The nanosecond at which the `n`th event of a frequency falls due. -/
def dueAt (frequency n : Nat) : Nat := (n * nanosPerSecond) ⌈/⌉ frequency

example : dueAt 60 1 = 16666667 := rfl

theorem advance_atStart {c : Cadence} (h : c.phase = 0) (elapsed : Nat) :
    (c.advance elapsed).1 = c.frequency * elapsed / nanosPerSecond := by
  rw [advance_fst, h, Nat.zero_add, Nat.mul_comm]

theorem deadline_atStart {c : Cadence} (h : c.phase = 0) (n : Nat) :
    c.deadline n = dueAt c.frequency n := by
  rw [deadline, h, Nat.sub_zero, dueAt]

end Cadence

end ChipEight
