/-
  Deadlines — a cadence in words, for times of any length.

  `RawCadence.advance` stops where the periods of a time do not fit in their word.  Here
  they are cut down to it (`RawCadence.advanceCut`), and only a phase that overflows stands
  in the way of a time:

  * `advanceCut_raw` says what any time does in words: what it does to the cadence, with the
    periods modulo the word, if the phase has room for it (`HasRoom`), else it overflows;
  * no time up to the end of the running period loses anything (`advanceCut_of_le`), so
    that this end is the least time with a period (`isLeast_untilNext`);
  * where there is room for a sum of times there is room for the one and, after it, for the
    other (`HasRoom.left`, `HasRoom.right`), and words add up as the periods do
    (`exists_advanceCut_add`);
  * `deadlines_exact` is all this in one, for every cadence.
-/
import Mathlib.Order.Bounds.Defs
import ChipEight.Proofs.Pace.Words

namespace ChipEight

namespace RawCadence

/-- Let time pass, and cut the periods down to their word. -/
def advanceCut (c : RawCadence) (elapsed : Nat) : Except Mishap (Nat × RawCadence) := do
  let passed ← within wideLimit (elapsed * c.frequency)
  let total ← within wideLimit (c.phase + passed)
  return (total / nanosPerSecond % wordLimit, { c with phase := total % nanosPerSecond })

/-- Nothing is cut off periods that fit. -/
theorem advanceCut_of_advance {c : RawCadence} {elapsed : Nat} {after : Nat × RawCadence}
    (h : c.advance elapsed = .ok after) : c.advanceCut elapsed = .ok after := by
  obtain ⟨passed, hpassed, h⟩ := bind_eq_ok_iff.1 h
  obtain ⟨total, htotal, h⟩ := bind_eq_ok_iff.1 h
  obtain ⟨periods, hperiods, h⟩ := bind_eq_ok_iff.1 h
  obtain ⟨fits, rfl⟩ := within_eq_ok_iff.1 hperiods
  simp only [advanceCut]
  rw [hpassed, ok_bind, htotal, ok_bind, Nat.mod_eq_of_lt fits]
  exact h

-- a second that is about to end, and then the longest time: one period too many for a word
example : (⟨1, nanosPerSecond - 1⟩ : RawCadence).advanceCut (wordLimit * nanosPerSecond - 1) =
    .ok (0, ⟨1, nanosPerSecond - 2⟩) := rfl

end RawCadence

namespace Cadence

variable {c : Cadence} {a b elapsed : Nat}

/-! ## Any time -/

/-- The phase has room for a time, before the periods are taken off it. -/
def HasRoom (c : Cadence) (elapsed : Nat) : Prop := c.phase + elapsed * c.frequency < wideLimit

instance (c : Cadence) (elapsed : Nat) : Decidable (c.HasRoom elapsed) :=
  inferInstanceAs (Decidable (_ < _))

theorem HasRoom.left (h : c.HasRoom (a + b)) : c.HasRoom a := by
  unfold HasRoom at *
  rw [Nat.add_mul] at h
  omega

theorem HasRoom.right (h : c.HasRoom (a + b)) : (c.advance a).2.HasRoom b := by
  unfold HasRoom at *
  rw [Nat.add_mul, ← Nat.add_assoc] at h
  -- the first time leaves no more in the phase than it has put there
  have less : (c.advance a).2.phase ≤ c.phase + a * c.frequency := by
    rw [advance_phase]
    exact Nat.mod_le _ _
  exact Nat.lt_of_le_of_lt (Nat.add_le_add_right less _) h

/-- **Any time in words** does what it does to the cadence, but for what is cut off, or it
    overflows. -/
theorem advanceCut_raw (c : Cadence) (elapsed : Nat) :
    c.raw.advanceCut elapsed =
      if c.HasRoom elapsed then
        .ok ((c.advance elapsed).1 % wordLimit, (c.advance elapsed).2.raw)
      else .error .overflow := by
  simp only [RawCadence.advanceCut, raw]
  by_cases room : c.HasRoom elapsed
  · have passed : elapsed * c.frequency < wideLimit := by
      unfold HasRoom at room
      omega
    rw [if_pos room, within_of_lt passed, ok_bind, within_of_lt room]
    rfl
  · rw [if_neg room]
    rcases Nat.lt_or_ge (elapsed * c.frequency) wideLimit with passed | large
    · rw [within_of_lt passed, ok_bind, within_of_le (Nat.not_lt.1 room)]
      rfl
    · rw [within_of_le large]
      rfl

theorem HasRoom.advanceCut (h : c.HasRoom elapsed) :
    c.raw.advanceCut elapsed = .ok ((c.advance elapsed).1 % wordLimit, (c.advance elapsed).2.raw) := by
  rw [advanceCut_raw, if_pos h]

/-- **Time may be passed in parts**: the periods in words add up modulo the word. -/
theorem exists_advanceCut_add (h : c.HasRoom (a + b)) :
    ∃ first second whole,
      c.raw.advanceCut a = .ok (first, (c.advance a).2.raw) ∧
      (c.advance a).2.raw.advanceCut b = .ok (second, (c.advance (a + b)).2.raw) ∧
      c.raw.advanceCut (a + b) = .ok (whole, (c.advance (a + b)).2.raw) ∧
      whole = (first + second) % wordLimit := by
  have later : (c.advance a).2.raw.advanceCut b =
      .ok (((c.advance a).2.advance b).1 % wordLimit, (c.advance (a + b)).2.raw) := by
    rw [advance_add]
    exact h.right.advanceCut
  refine ⟨_, _, _, h.left.advanceCut, later, h.advanceCut, ?_⟩
  rw [advance_add]
  exact Nat.add_mod _ _ _

/-! ## Up to the end of the running period -/

theorem advanceCut_of_le (word : c.frequency < wordLimit) (h : elapsed ≤ c.untilNext) :
    c.raw.advanceCut elapsed = .ok ((c.advance elapsed).1, (c.advance elapsed).2.raw) :=
  RawCadence.advanceCut_of_advance (advance_raw_of_le word h)

theorem advanceCut_of_lt (word : c.frequency < wordLimit) (h : elapsed < c.untilNext) :
    c.raw.advanceCut elapsed = .ok (0, (c.advance elapsed).2.raw) := by
  rw [advanceCut_of_le word (Nat.le_of_lt h), advance_of_lt h]

/-- **The end of the running period is the least time with a period.** -/
theorem isLeast_untilNext (word : c.frequency < wordLimit) :
    IsLeast {elapsed | ∃ periods next,
      c.raw.advanceCut elapsed = .ok (periods, next) ∧ periods ≠ 0} c.untilNext := by
  constructor
  · have some : 0 < (c.advance c.untilNext).1 := c.untilNext_le_iff.1 (Nat.le_refl _)
    exact ⟨_, _, advanceCut_of_le word (Nat.le_refl _), Nat.ne_of_gt some⟩
  · rintro elapsed ⟨periods, next, passed, some⟩
    by_contra early
    rw [advanceCut_of_lt word (Nat.not_le.1 early)] at passed
    cases passed
    exact some rfl

/-- **Deadlines are exact, and time adds up.**  A cadence has a frequency that is not zero,
    here a word of 64 bits, and a phase of less than a period.  In words, its running period
    ends after at least a nanosecond, and this is the least time that has a period.  Any
    shorter time has none, and brings the end nearer by itself.  A time of any length does
    in words what it does to the cadence, with the periods modulo the word, unless the phase
    overflows.  If it does not for a sum of two times, these lead where their sum leads, one
    after the other.  Their periods are those of the sum as long as their own sum is a word,
    and in any case modulo the word. -/
theorem deadlines_exact (c : Cadence) (word : c.frequency < wordLimit) :
    (c.raw.untilNext = .ok c.untilNext ∧ 1 ≤ c.untilNext) ∧
    IsLeast {elapsed | ∃ periods next,
      c.raw.advanceCut elapsed = .ok (periods, next) ∧ periods ≠ 0} c.untilNext ∧
    (∀ elapsed < c.untilNext,
      c.raw.advanceCut elapsed = .ok (0, (c.advance elapsed).2.raw) ∧
      (c.advance elapsed).2.raw.untilNext = .ok (c.untilNext - elapsed)) ∧
    (∀ elapsed, c.raw.advanceCut elapsed =
      if c.phase + elapsed * c.frequency < wideLimit then
        .ok ((c.advance elapsed).1 % wordLimit, (c.advance elapsed).2.raw)
      else .error .overflow) ∧
    ∀ a b, c.phase + (a + b) * c.frequency < wideLimit →
      ∃ first second whole,
        c.raw.advanceCut a = .ok (first, (c.advance a).2.raw) ∧
        (c.advance a).2.raw.advanceCut b = .ok (second, (c.advance (a + b)).2.raw) ∧
        c.raw.advanceCut (a + b) = .ok (whole, (c.advance (a + b)).2.raw) ∧
        (first + second = whole ↔ first + second < wordLimit) ∧
        (first + second) % wordLimit = whole := by
  refine ⟨⟨untilNext_raw word, c.untilNext_pos⟩, isLeast_untilNext word, ?_, ?_, ?_⟩
  · intro elapsed early
    refine ⟨advanceCut_of_lt word early, ?_⟩
    have same : (c.advance elapsed).2.frequency < wordLimit := word
    rw [untilNext_raw same, untilNext_advance early]
  · exact c.advanceCut_raw
  · intro a b room
    obtain ⟨first, second, whole, ha, hb, hsum, rfl⟩ := exists_advanceCut_add room
    refine ⟨first, second, _, ha, hb, hsum, ?_, rfl⟩
    rw [eq_comm, Nat.mod_eq_iff_lt (by decide)]

/-- A second of the timers in two parts, of which the first ends a nanosecond before a tick
    is due. -/
theorem second_of_ticks_in_parts :
    60 < wordLimit ∧ 16666666 < 16666667 ∧ 20 + (16666666 + 983333334) * 60 < wideLimit ∧
      0 + 60 < wordLimit ∧
      (⟨60, 20⟩ : RawCadence).untilNext = .ok 16666667 ∧
      (⟨60, 20⟩ : RawCadence).advanceCut 16666666 = .ok (0, ⟨60, 999999980⟩) ∧
      (⟨60, 999999980⟩ : RawCadence).untilNext = .ok 1 ∧
      (⟨60, 999999980⟩ : RawCadence).advanceCut 983333334 = .ok (60, ⟨60, 20⟩) ∧
      (⟨60, 20⟩ : RawCadence).advanceCut (16666666 + 983333334) = .ok (0 + 60, ⟨60, 20⟩) := by
  have word : 60 < wordLimit := by decide
  have early : 16666666 < 16666667 := by decide
  have room : 20 + (16666666 + 983333334) * 60 < wideLimit := by decide
  have fits : 0 + 60 < wordLimit := by decide
  have later : (⟨60, 999999980⟩ : RawCadence).advanceCut 983333334 = .ok (60, ⟨60, 20⟩) := rfl
  obtain ⟨⟨due, -⟩, -, before, -, parts⟩ :=
    deadlines_exact ⟨60, 20, by decide, by decide⟩ word
  obtain ⟨none, near⟩ := before 16666666 early
  obtain ⟨first, second, whole, hfirst, hsecond, hsum, same, -⟩ := parts 16666666 983333334 room
  cases hfirst.symm.trans none
  cases hsecond.symm.trans later
  rw [← same.2 fits] at hsum
  exact ⟨word, early, room, fits, due, none, near, later, hsum⟩

end Cadence

end ChipEight
