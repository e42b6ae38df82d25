/-
  Clocks in words of a fixed size.

  A frequency is a word of 64 bits and a phase one of 128, times are counted in words of
  64 bits, and so are the periods completed.  Here a pacer is written down with all that
  may go wrong with such words, and without the bounds that a cadence carries:

  * `within`, `difference` and `quotient` are a result that has to fit, a difference that
    must not be negative and a quotient by a number that must not be zero: else there is a
    `Mishap`;
  * a `Lap` is a slice of the time of an update, with what falls due in it, and
    `RawPacer.update` notes the laps that it makes;
  * `phase_add_lt` is the bound on which all others rest: a slice ends no later than the
    running period, so that it completes this one and, at more than a period a
    nanosecond, those that end in the same nanosecond;
  * `update_raw`: from a reachable pacer, an update in words is that of the pacer;
  * `clocks_fit` says this of every state that updates in words lead to.
-/
import ChipEight.Proofs.Failing
import ChipEight.Proofs.Pace.History

namespace ChipEight

variable {δ : Type}

/-! ## Words -/

/-- What may go wrong with a word. -/
inductive Mishap where
  | overflow
  | underflow
  | zeroDivisor
  /-- A slice is empty, so that time does not go on. -/
  | stuck

/-- The numbers of 64 bits lie below this one. -/
def wordLimit : Nat := 18446744073709551616

/-- The numbers of 128 bits lie below this one. -/
def wideLimit : Nat := wordLimit * wordLimit

def within (limit n : Nat) : Except Mishap Nat := if n < limit then .ok n else .error .overflow

def difference (a b : Nat) : Except Mishap Nat := if b ≤ a then .ok (a - b) else .error .underflow

def quotient (a b : Nat) : Except Mishap Nat := if 0 < b then .ok (a / b) else .error .zeroDivisor

theorem within_of_lt {limit n : Nat} (h : n < limit) : within limit n = .ok n := if_pos h

theorem within_of_le {limit n : Nat} (h : limit ≤ n) : within limit n = .error .overflow :=
  if_neg (Nat.not_lt.2 h)

theorem within_eq_ok_iff {limit n m : Nat} : within limit n = .ok m ↔ n < limit ∧ n = m := by
  unfold within
  split <;> simp [*]

theorem difference_of_le {a b : Nat} (h : b ≤ a) : difference a b = .ok (a - b) := if_pos h

theorem quotient_of_pos {a b : Nat} (h : 0 < b) : quotient a b = .ok (a / b) := if_pos h

/-! ## Cadences and pacers in words

They do what cadences and pacers do, operation by operation, and stop at a mishap. -/

/-- A cadence in words. -/
structure RawCadence where
  /-- The number of periods of a second, a word of 64 bits. -/
  frequency : Nat
  /-- The part of the running period that has passed, a word of 128 bits. -/
  phase : Nat

namespace RawCadence

def new (frequency : Nat) : RawCadence := ⟨frequency, 0⟩

def restart (c : RawCadence) : RawCadence := { c with phase := 0 }

def untilNext (c : RawCadence) : Except Mishap Nat := do
  let remaining ← difference nanosPerSecond c.phase
  let sum ← within wideLimit (remaining + c.frequency)
  let roundedUp ← difference sum 1
  let nanos ← quotient roundedUp c.frequency
  within wordLimit nanos

def advance (c : RawCadence) (elapsed : Nat) : Except Mishap (Nat × RawCadence) := do
  let passed ← within wideLimit (elapsed * c.frequency)
  let total ← within wideLimit (c.phase + passed)
  let periods ← within wordLimit (total / nanosPerSecond)
  return (periods, { c with phase := total % nanosPerSecond })

end RawCadence

/-- A pacer in words. -/
structure RawPacer where
  cycles : RawCadence
  ticks : RawCadence
  isStepped : Bool
  pending : Nat

/-- A slice of the time of an update. -/
structure Lap where
  time : Nat
  cycles : Nat
  ticks : Nat
  /-- The pacer at the end of the slice. -/
  pacer : RawPacer

namespace RawPacer

def new (frequency : Nat) (stepped : Bool) : RawPacer :=
  ⟨.new frequency, .new timerFrequency, stepped, 0⟩

def askStep (p : RawPacer) : RawPacer := { p with pending := p.pending + 1 }

def reset (p : RawPacer) : RawPacer :=
  { p with cycles := p.cycles.restart, ticks := p.ticks.restart, pending := 0 }

/-- The next slice of the time that remains. -/
def lap (p : RawPacer) (remaining : Nat) : Except Mishap Lap := do
  let untilCycle ← p.cycles.untilNext
  let untilTick ← p.ticks.untilNext
  let time := min remaining (min untilCycle untilTick)
  let (dueCycles, cycles) ← p.cycles.advance time
  let (dueTicks, ticks) ← p.ticks.advance time
  return ⟨time, dueCycles, dueTicks, { p with cycles, ticks }⟩

variable [Panel δ]

def runClocked (p : RawPacer) (remaining : Nat) (e : Episode δ) :
    Except Mishap (List Lap × RawPacer × Episode δ) :=
  if remaining = 0 then .ok ([], p, e)
  else do
    let lap ← p.lap remaining
    let left ← difference remaining lap.time
    if left < remaining then
      let after := Nat.repeat .tick lap.ticks (Nat.repeat .cycle lap.cycles e)
      let (laps, last, final) ← lap.pacer.runClocked left after
      return (lap :: laps, last, final)
    else .error .stuck
termination_by remaining

def runStepped (p : RawPacer) (elapsed : Nat) (e : Episode δ) :
    Except Mishap (List Lap × RawPacer × Episode δ) := do
  let (dueTicks, ticks) ← p.ticks.advance elapsed
  return ([], { p with ticks, pending := 0 },
    Nat.repeat .tick dueTicks (Nat.repeat .cycle p.pending e))

def update (p : RawPacer) (console : Console) (panel : δ) (elapsed : Nat) :
    Except Mishap (List Lap × RawPacer × Episode δ) :=
  if p.isStepped then p.runStepped elapsed (.start console panel)
  else p.runClocked elapsed (.start console panel)

end RawPacer

def Cadence.raw (c : Cadence) : RawCadence := ⟨c.frequency, c.phase⟩

def Pacer.raw (p : Pacer) : RawPacer := ⟨p.cycles.raw, p.ticks.raw, p.isStepped, p.pending⟩

/-! ## Bounds -/

namespace Cadence

variable {c : Cadence} {elapsed : Nat}

theorem untilNext_le (c : Cadence) : c.untilNext ≤ nanosPerSecond := by
  have pos := c.frequency_pos
  refine Nat.div_le_of_le_mul ?_
  unfold nanosPerSecond
  omega

/-- **A slice ends no later than the running period**, up to the nanosecond. -/
theorem phase_add_lt (h : elapsed ≤ c.untilNext) :
    c.phase + elapsed * c.frequency < nanosPerSecond + c.frequency := by
  have phase_lt := c.phase_lt
  have pos := c.frequency_pos
  have slice : elapsed * c.frequency ≤ c.untilNext * c.frequency :=
    Nat.mul_le_mul_right c.frequency h
  have whole : c.untilNext * c.frequency ≤ nanosPerSecond - c.phase + c.frequency - 1 :=
    Nat.div_mul_le_self _ _
  omega

/-- At no more than a period a nanosecond, a slice completes the running one at most. -/
theorem periods_le_one (h : elapsed ≤ c.untilNext) (slow : c.frequency ≤ nanosPerSecond) :
    (c.advance elapsed).1 ≤ 1 := by
  have total := phase_add_lt h
  rw [advance_fst]
  refine Nat.le_of_lt_succ (Nat.div_lt_of_lt_mul ?_)
  omega

/-- **The end of the running period fits**, and so does all on the way to it. -/
theorem untilNext_raw (word : c.frequency < wordLimit) : c.raw.untilNext = .ok c.untilNext := by
  have phase_lt := c.phase_lt
  have pos := c.frequency_pos
  have sum : nanosPerSecond - c.phase + c.frequency < wideLimit := by
    unfold wideLimit wordLimit nanosPerSecond at *
    omega
  have roundedUp : 1 ≤ nanosPerSecond - c.phase + c.frequency := by omega
  have nanos : c.untilNext < wordLimit := Nat.lt_of_le_of_lt c.untilNext_le (by decide)
  simp only [RawCadence.untilNext, raw]
  rw [difference_of_le (Nat.le_of_lt phase_lt), ok_bind, within_of_lt sum, ok_bind,
    difference_of_le roundedUp, ok_bind, quotient_of_pos pos, ok_bind]
  exact within_of_lt nanos

/-- **Periods fit in their word** if the time does not complete too many of them, and then
    so does all on the way to them. -/
theorem advance_raw (few : c.phase + elapsed * c.frequency < wordLimit * nanosPerSecond) :
    c.raw.advance elapsed = .ok ((c.advance elapsed).1, (c.advance elapsed).2.raw) := by
  have wide : wordLimit * nanosPerSecond < wideLimit := by decide
  have passed : elapsed * c.frequency < wideLimit := by omega
  have total : c.phase + elapsed * c.frequency < wideLimit := by omega
  have periods : (c.phase + elapsed * c.frequency) / nanosPerSecond < wordLimit :=
    (Nat.div_lt_iff_lt_mul nanosPerSecond_pos).2 few
  simp only [RawCadence.advance, raw]
  rw [within_of_lt passed, ok_bind, within_of_lt total, ok_bind, within_of_lt periods, ok_bind]
  rfl

theorem advance_raw_of_le (word : c.frequency < wordLimit) (h : elapsed ≤ c.untilNext) :
    c.raw.advance elapsed = .ok ((c.advance elapsed).1, (c.advance elapsed).2.raw) := by
  refine advance_raw (Nat.lt_trans (phase_add_lt h) ?_)
  unfold wordLimit nanosPerSecond at *
  omega

-- a longer time may complete too many periods for a word
example : (RawCadence.new (wordLimit - 1)).advance (wordLimit - 1) = .error .overflow := rfl

end Cadence

/-! ## Updates -/

/-- What holds of a lap of a pacer with a frequency: time goes on, there is at most one tick,
    and at most one cycle if there is no more than one a nanosecond. -/
structure Lap.Fits (frequency : Nat) (lap : Lap) : Prop where
  time_pos : 0 < lap.time
  ticks_le : lap.ticks ≤ 1
  cycles_le : frequency ≤ nanosPerSecond → lap.cycles ≤ 1
  cycles_phase : lap.pacer.cycles.phase < nanosPerSecond
  ticks_phase : lap.pacer.ticks.phase < nanosPerSecond

namespace Pacer

def lapOf (p : Pacer) (time : Nat) : Lap :=
  ⟨time, (p.cycles.advance time).1, (p.ticks.advance time).1, (p.lapse time).raw⟩

/-- The frequencies of a pacer are words: that of its cycles is, and its ticks are those of
    the timers. -/
structure InWords (p : Pacer) : Prop where
  cycles_lt : p.cycles.frequency < wordLimit
  ticks_eq : p.ticks.frequency = timerFrequency

variable {p : Pacer} {remaining : Nat}

theorem InWords.lapse (h : p.InWords) (time : Nat) : (p.lapse time).InWords :=
  ⟨h.cycles_lt, h.ticks_eq⟩

theorem InWords.ticks_lt (h : p.InWords) : p.ticks.frequency < wordLimit := by
  rw [h.ticks_eq]
  decide

/-- **The next slice** meets no mishap. -/
theorem lap_raw (h : p.InWords) (remaining : Nat) :
    p.raw.lap remaining = .ok (p.lapOf (p.slice remaining)) := by
  obtain ⟨-, cycles, ticks⟩ := p.slice_le remaining
  simp only [RawPacer.lap, raw]
  rw [Cadence.untilNext_raw h.cycles_lt, ok_bind, Cadence.untilNext_raw h.ticks_lt, ok_bind]
  show (p.cycles.raw.advance (p.slice remaining) >>= _) = _
  rw [Cadence.advance_raw_of_le h.cycles_lt cycles, ok_bind]
  show (p.ticks.raw.advance (p.slice remaining) >>= _) = _
  rw [Cadence.advance_raw_of_le h.ticks_lt ticks, ok_bind]
  rfl

theorem lapOf_fits (h : p.InWords) (pos : 0 < remaining) :
    (p.lapOf (p.slice remaining)).Fits p.cycles.frequency := by
  obtain ⟨-, cycles, ticks⟩ := p.slice_le remaining
  have slow : p.ticks.frequency ≤ nanosPerSecond := by
    rw [h.ticks_eq]
    decide
  constructor
  · exact p.slice_pos pos
  · exact Cadence.periods_le_one ticks slow
  · exact Cadence.periods_le_one cycles
  · exact (p.cycles.advance _).2.phase_lt
  · exact (p.ticks.advance _).2.phase_lt

variable [Panel δ]

/-- **Slice by slice**, no mishap is met. -/
theorem runClocked_raw (h : p.InWords) (remaining : Nat) (e : Episode δ) :
    ∃ laps, p.raw.runClocked remaining e =
        .ok (laps, (p.runClocked remaining e).1.raw, (p.runClocked remaining e).2) ∧
      (∀ lap ∈ laps, lap.Fits p.cycles.frequency) ∧ (laps.map Lap.time).sum = remaining := by
  -- on the time that remains; a lap leaves less of it
  induction remaining using Nat.strong_induction_on generalizing p e with
  | _ remaining ih =>
    rw [runClocked, RawPacer.runClocked]
    by_cases none : remaining = 0
    · rw [dif_pos none, if_pos none]
      exact ⟨[], rfl, by simp, none.symm⟩
    · rw [dif_neg none, if_neg none]
      have pos : 0 < remaining := Nat.pos_of_ne_zero none
      have le := (p.slice_le remaining).1
      have less : remaining - p.slice remaining < remaining := by
        have := p.slice_pos pos
        omega
      obtain ⟨laps, run, fits, sum⟩ := ih (remaining - p.slice remaining) less
        (h.lapse (p.slice remaining)) (p.pass (p.slice remaining) e).2
      refine ⟨p.lapOf (p.slice remaining) :: laps, ?_, ?_, ?_⟩
      · rw [lap_raw h, ok_bind]
        show (difference remaining (p.slice remaining) >>= _) = _
        rw [difference_of_le le, ok_bind, if_pos less]
        show ((p.lapse (p.slice remaining)).raw.runClocked _ (p.pass (p.slice remaining) e).2 >>= _) = _
        rw [run]
        rfl
      · intro lap inside
        rcases List.mem_cons.1 inside with rfl | later
        · exact lapOf_fits h pos
        · exact fits lap later
      · rw [List.map_cons, List.sum_cons, sum]
        show p.slice remaining + (remaining - p.slice remaining) = remaining
        omega

/-- **All at once**, no mishap is met in a time that is a word. -/
theorem runStepped_raw (h : p.InWords) {elapsed : Nat} (short : elapsed < wordLimit)
    (e : Episode δ) :
    p.raw.runStepped elapsed e =
      .ok ([], (p.runStepped elapsed e).1.raw, (p.runStepped elapsed e).2) := by
  have few : p.ticks.phase + elapsed * p.ticks.frequency < wordLimit * nanosPerSecond := by
    have phase_lt := p.ticks.phase_lt
    rw [h.ticks_eq]
    unfold wordLimit nanosPerSecond timerFrequency at *
    omega
  simp only [RawPacer.runStepped, raw]
  rw [Cadence.advance_raw few, ok_bind]
  rfl

/-- **An update in words** is that of the pacer: it meets no mishap. -/
theorem update_raw (h : p.InWords) (console : Console) (panel : δ) {elapsed : Nat}
    (short : elapsed < wordLimit) :
    ∃ laps, p.raw.update console panel elapsed =
        .ok (laps, (p.update console panel elapsed).1.raw, (p.update console panel elapsed).2) ∧
      (∀ lap ∈ laps, lap.Fits p.cycles.frequency) ∧
      (p.isStepped = false → (laps.map Lap.time).sum = elapsed) := by
  have kind : p.raw.isStepped = p.isStepped := rfl
  rw [update, run, RawPacer.update, kind]
  cases stepped : p.isStepped with
  | true =>
    refine ⟨[], runStepped_raw h short _, by simp, ?_⟩
    intro clocked
    cases clocked
  | false =>
    obtain ⟨laps, run, fits, sum⟩ := runClocked_raw h elapsed (.start console panel)
    exact ⟨laps, run, fits, fun _ => sum⟩

theorem Reachable.inWords (h : p.Reachable) (word : p.cycles.frequency < wordLimit) : p.InWords :=
  ⟨word, h.ticks_frequency⟩

theorem update_frequency (p : Pacer) (console : Console) (panel : δ) (elapsed : Nat) :
    (p.update console panel elapsed).1.cycles.frequency = p.cycles.frequency := by
  rw [update_eq, after]
  split <;> rfl

end Pacer

/-! ## All states -/

namespace RawPacer

/-- The states of a pacer in words that was made with a frequency, and then used in any way,
    for times that are words. -/
inductive Reachable (frequency : Nat) : RawPacer → Prop
  | new (stepped : Bool) : Reachable frequency (.new frequency stepped)
  | askStep {p : RawPacer} (h : Reachable frequency p) : Reachable frequency p.askStep
  | reset {p : RawPacer} (h : Reachable frequency p) : Reachable frequency p.reset
  | update {p q : RawPacer} (h : Reachable frequency p) {δ : Type} [Panel δ] {console : Console}
      {panel : δ} {elapsed : Nat} (short : elapsed < wordLimit) {laps : List Lap} {e : Episode δ}
      (run : p.update console panel elapsed = .ok (laps, q, e)) : Reachable frequency q

theorem Reachable.exists_pacer {frequency : Nat} (pos : 0 < frequency)
    (word : frequency < wordLimit) {q : RawPacer} (h : q.Reachable frequency) :
    ∃ p : Pacer, p.Reachable ∧ p.cycles.frequency = frequency ∧ p.raw = q := by
  induction h with
  | new stepped => exact ⟨_, .new (Pacer.new_of_pos pos stepped), rfl, rfl⟩
  | askStep _ ih =>
    obtain ⟨p, reachable, same, rfl⟩ := ih
    exact ⟨p.askStep, reachable.askStep, same, rfl⟩
  | reset _ ih =>
    obtain ⟨p, reachable, same, rfl⟩ := ih
    exact ⟨p.reset, reachable.reset, same, rfl⟩
  | @update _ _ _ _ _ console panel elapsed short _ _ run ih =>
    obtain ⟨p, reachable, same, rfl⟩ := ih
    obtain ⟨laps, run', -, -⟩ :=
      Pacer.update_raw (reachable.inWords (same.symm ▸ word)) console panel short
    rw [run'] at run
    cases run
    refine ⟨_, reachable.update console panel elapsed, ?_, rfl⟩
    rw [Pacer.update_frequency, same]

end RawPacer

/-- **Clocks fit in their words.**  A pacer is made with a frequency that is a word of 64
    bits, whichever way its cycles are made, and its steps, resets and updates by times
    that are such words follow one another in any way.  Written down in words, it has no
    other states than the pacer, and in each of them the phases are less than a period.
    From there, an update in words meets no mishap: sums and products fit in 128 bits, what
    is cut down to 64 bits fits in these, and no difference is negative.  It does what the
    update of the pacer does.  A clocked one passes its time in slices that are not empty;
    each has one tick at most, and one cycle at most unless there is more than a cycle a
    nanosecond. -/
theorem clocks_fit {frequency : Nat} (pos : 0 < frequency) (word : frequency < wordLimit) :
    (∀ q : RawPacer, q.Reachable frequency →
      ∃ p : Pacer, p.Reachable ∧ p.cycles.frequency = frequency ∧ p.raw = q) ∧
    ∀ p : Pacer, p.Reachable → p.cycles.frequency = frequency →
      p.raw.cycles.phase < nanosPerSecond ∧ p.raw.ticks.phase < nanosPerSecond ∧
        ∀ {δ : Type} [Panel δ] (console : Console) (panel : δ) (elapsed : Nat),
          elapsed < wordLimit → ∃ laps,
            p.raw.update console panel elapsed =
              .ok (laps, (p.update console panel elapsed).1.raw,
                (p.update console panel elapsed).2) ∧
            (∀ lap ∈ laps, lap.Fits frequency) ∧
            (p.isStepped = false → (laps.map Lap.time).sum = elapsed) := by
  constructor
  · intro q reachable
    exact reachable.exists_pacer pos word
  · rintro p reachable rfl
    refine ⟨p.cycles.phase_lt, p.ticks.phase_lt, ?_⟩
    intro δ _ console panel elapsed short
    exact Pacer.update_raw (reachable.inWords word) console panel short

/-- The fastest clock, and the longest time. -/
theorem fastest_clock_fits :
    0 < wordLimit - 1 ∧ wordLimit - 1 < wordLimit ∧
      ∃ p : Pacer, Pacer.new (wordLimit - 1) false = .ok p ∧
        ∃ laps q e, p.raw.update ⟨.new 0, .idle⟩ Recorder.empty (wordLimit - 1) =
            .ok (laps, q, e) ∧
          (laps.map Lap.time).sum = wordLimit - 1 := by
  have pos : 0 < wordLimit - 1 := by decide
  have word : wordLimit - 1 < wordLimit := by decide
  have made := Pacer.new_of_pos pos false
  obtain ⟨-, -, fits⟩ := (clocks_fit pos word).2 _ (.new made) rfl
  obtain ⟨laps, run, -, sum⟩ := fits ⟨.new 0, .idle⟩ Recorder.empty (wordLimit - 1) word
  exact ⟨pos, word, _, made, laps, _, _, run, sum rfl⟩

end ChipEight
