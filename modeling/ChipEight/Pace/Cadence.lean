/-
  Cadence — events at a fixed frequency, counted without drift.

  The phase is the part of the running period that has passed.  It is counted
  in nanoseconds times hertz, so that it is a whole number whatever the
  frequency, and a period is complete at `nanosPerSecond` of them.

  * `advance` lets time pass and counts the periods completed;
  * `untilNext` is the time up to the end of the running period, rounded up to
    whole nanoseconds; it is never zero (`untilNext_pos`).
-/
namespace ChipEight

/-- The number of nanoseconds of a second. -/
def nanosPerSecond : Nat := 1000000000

/-- A count of periods at a fixed frequency. -/
structure Cadence where
  /-- The number of periods of a second. -/
  frequency : Nat
  /-- The part of the running period that has passed. -/
  phase : Nat
  frequency_pos : 0 < frequency
  phase_lt : phase < nanosPerSecond
deriving DecidableEq

namespace Cadence

/-- At the beginning of a period. -/
def new (frequency : Nat) (frequency_pos : 0 < frequency) : Cadence :=
  ⟨frequency, 0, frequency_pos, by decide⟩

/-- Begin a period now. -/
def restart (c : Cadence) : Cadence := new c.frequency c.frequency_pos

/-- The nanoseconds after which the running period is complete. -/
def untilNext (c : Cadence) : Nat :=
  (nanosPerSecond - c.phase + c.frequency - 1) / c.frequency

/-- Let nanoseconds pass: the number of periods completed, and the cadence
    after them. -/
def advance (c : Cadence) (elapsed : Nat) : Nat × Cadence :=
  let total := c.phase + elapsed * c.frequency
  (total / nanosPerSecond,
    { c with phase := total % nanosPerSecond, phase_lt := Nat.mod_lt _ (by decide) })

theorem untilNext_pos (c : Cadence) : 0 < c.untilNext :=
  (Nat.le_div_iff_mul_le c.frequency_pos).2 (by have := c.phase_lt; omega)

end Cadence

/-- The whole nanoseconds of a period, zero for a frequency of zero. -/
def periodNanos (frequency : Nat) : Nat := nanosPerSecond / frequency

end ChipEight
