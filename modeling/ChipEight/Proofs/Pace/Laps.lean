/-
  Laps — the loop of an update goes on, and comes to an end.

  * `RawPacer.Loops` is the loop of a clocked pacer in words: as long as time remains, it
    makes a lap and takes its time off.  Nothing in it keeps it from going on for ever, as
    it would with a lap that takes no time;
  * `Lap.Progress` says of the laps through a time that none is empty or too long, and that
    something falls due in each but the last, so that there are not many of them
    (`Progress.length_le`);
  * `lapOf_due`: a slice that ends before the time does is the running period of the cycles
    or of the ticks, and completes it;
  * `update_makes_progress`: from a reachable pacer the loop makes such laps, in one way
    only, and ends as the update does.
-/
import ChipEight.Proofs.Pace.Words

namespace ChipEight

variable {δ : Type}

/-! ## The loop -/

namespace RawPacer

variable [Panel δ]

/-- The loop of an update: while time remains, a lap is made and its time is taken off. -/
inductive Loops : RawPacer → Nat → Episode δ → List Lap → RawPacer → Episode δ → Prop
  | done {p : RawPacer} {e : Episode δ} : Loops p 0 e [] p e
  | next {p last : RawPacer} {remaining left : Nat} {e final : Episode δ} {lap : Lap}
      {later : List Lap} (time : 0 < remaining) (made : p.lap remaining = .ok lap)
      (taken : difference remaining lap.time = .ok left)
      (rest : Loops lap.pacer left
        (Nat.repeat .tick lap.ticks (Nat.repeat .cycle lap.cycles e)) later last final) :
      Loops p remaining e (lap :: later) last final

/-- The loop goes one way. -/
theorem Loops.unique {p last last' : RawPacer} {remaining : Nat} {e final final' : Episode δ}
    {laps laps' : List Lap} (h : Loops p remaining e laps last final)
    (h' : Loops p remaining e laps' last' final') :
    laps = laps' ∧ last = last' ∧ final = final' := by
  induction h generalizing laps' with
  | done =>
    cases h' with
    | done => exact ⟨rfl, rfl, rfl⟩
    | next time => cases time
  | next time made taken _ ih =>
    cases h' with
    | done => cases time
    | next _ made' taken' rest' =>
      cases made.symm.trans made'
      cases taken.symm.trans taken'
      obtain ⟨rfl, rfl, rfl⟩ := ih rest'
      exact ⟨rfl, rfl, rfl⟩

end RawPacer

/-! ## Progress -/

namespace Lap

/-- The laps through a time: each takes some of what remains of it, and a cycle or a tick
    falls due in each that is not the last. -/
inductive Progress : Nat → List Lap → Prop
  | nil : Progress 0 []
  | cons {remaining : Nat} {lap : Lap} {later : List Lap} (pos : 1 ≤ lap.time)
      (le : lap.time ≤ remaining) (due : later = [] ∨ 1 ≤ lap.cycles + lap.ticks)
      (rest : Progress (remaining - lap.time) later) : Progress remaining (lap :: later)

variable {remaining : Nat} {laps : List Lap}

theorem Progress.eq_nil (h : Progress 0 laps) : laps = [] := by
  cases h with
  | nil => rfl
  | cons pos le => omega

/-- **There are not many laps**: at most one more than what falls due in them. -/
theorem Progress.length_le (h : Progress remaining laps) :
    laps.length ≤ (laps.map Lap.cycles).sum + (laps.map Lap.ticks).sum + 1 := by
  induction h with
  | nil => exact Nat.zero_le _
  | cons _ _ due _ ih =>
    simp only [List.length_cons, List.map_cons, List.sum_cons]
    rcases due with rfl | some
    · exact Nat.le_add_left _ _
    · omega

end Lap

namespace Pacer

variable {p : Pacer} {remaining : Nat}

/-- **Something falls due** at the end of a slice that ends before the time does. -/
theorem lapOf_due (short : p.slice remaining < remaining) :
    1 ≤ (p.lapOf (p.slice remaining)).cycles + (p.lapOf (p.slice remaining)).ticks := by
  have ends : p.slice remaining = min p.cycles.untilNext p.ticks.untilNext := by
    unfold slice at short ⊢
    omega
  rcases Nat.le_total p.cycles.untilNext p.ticks.untilNext with first | first
  · have cycle : 0 < (p.cycles.advance (p.slice remaining)).1 := by
      rw [← Cadence.untilNext_le_iff, ends, Nat.min_eq_left first]
    exact Nat.le_add_right_of_le cycle
  · have tick : 0 < (p.ticks.advance (p.slice remaining)).1 := by
      rw [← Cadence.untilNext_le_iff, ends, Nat.min_eq_right first]
    exact Nat.le_add_left_of_le tick

variable [Panel δ]

/-- **The loop of a pacer comes to an end**, and makes progress until then. -/
theorem exists_loops (h : p.InWords) (remaining : Nat) (e : Episode δ) :
    ∃ laps, RawPacer.Loops p.raw remaining e laps (p.runClocked remaining e).1.raw
        (p.runClocked remaining e).2 ∧
      Lap.Progress remaining laps ∧
      (laps.map Lap.cycles).sum = (p.cycles.advance remaining).1 ∧
      (laps.map Lap.ticks).sum = (p.ticks.advance remaining).1 := by
  -- on the time that remains; a lap leaves less of it
  induction remaining using Nat.strong_induction_on generalizing p e with
  | _ remaining ih =>
    rw [runClocked]
    by_cases none : remaining = 0
    · subst none
      rw [dif_pos rfl, Cadence.advance_zero, Cadence.advance_zero]
      exact ⟨[], .done, .nil, rfl, rfl⟩
    · rw [dif_neg none]
      have some : 0 < remaining := Nat.pos_of_ne_zero none
      have pos : 0 < p.slice remaining := p.slice_pos some
      have le : p.slice remaining ≤ remaining := (p.slice_le remaining).1
      obtain ⟨later, loops, progress, cycles, ticks⟩ := ih (remaining - p.slice remaining)
        (Nat.sub_lt some pos) (h.lapse (p.slice remaining)) (p.pass (p.slice remaining) e).2
      have whole : remaining = p.slice remaining + (remaining - p.slice remaining) :=
        (Nat.add_sub_of_le le).symm
      refine ⟨p.lapOf (p.slice remaining) :: later, ?_, ?_, ?_, ?_⟩
      · exact .next some (lap_raw h remaining) (difference_of_le le) loops
      · refine .cons pos le ?_ progress
        rcases Nat.eq_or_lt_of_le le with last | short
        · rw [last, Nat.sub_self] at progress
          exact .inl progress.eq_nil
        · exact .inr (lapOf_due short)
      · rw [List.map_cons, List.sum_cons, cycles]
        conv_rhs => rw [whole, Cadence.advance_add]
        rfl
      · rw [List.map_cons, List.sum_cons, ticks]
        conv_rhs => rw [whole, Cadence.advance_add]
        rfl

/-- **An update makes progress.**  From a reachable clocked pacer, whatever the console, the
    panel and the time, the loop of an update comes to an end, in one way, and this is the
    update.  Each of its laps takes at least a nanosecond and at most the time that
    remains, and something falls due in each but the last.  All laps together have the
    cycles and the ticks that fall due in the time, so that there is at most one lap more
    than there are of these. -/
theorem update_makes_progress (reachable : p.Reachable) (word : p.cycles.frequency < wordLimit)
    (clocked : p.isStepped = false) (console : Console) (panel : δ) (elapsed : Nat) :
    ∃ laps,
      (∀ laps' last final,
        RawPacer.Loops p.raw elapsed (.start console panel) laps' last final ↔
          laps' = laps ∧ last = (p.update console panel elapsed).1.raw ∧
            final = (p.update console panel elapsed).2) ∧
      Lap.Progress elapsed laps ∧
      (laps.map Lap.cycles).sum = (p.cycles.advance elapsed).1 ∧
      (laps.map Lap.ticks).sum = (p.ticks.advance elapsed).1 ∧
      laps.length ≤ (p.cycles.advance elapsed).1 + (p.ticks.advance elapsed).1 + 1 := by
  obtain ⟨laps, loops, progress, cycles, ticks⟩ :=
    exists_loops (reachable.inWords word) elapsed (.start console panel)
  have few := progress.length_le
  rw [cycles, ticks] at few
  have update : p.update console panel elapsed = p.runClocked elapsed (.start console panel) := by
    rw [Pacer.update, run, clocked]
    rfl
  rw [update]
  refine ⟨laps, fun laps' last final => ⟨fun other => ?_, ?_⟩, progress, cycles, ticks, few⟩
  · exact other.unique loops
  · rintro ⟨rfl, rfl, rfl⟩
    exact loops

/-- The fastest clock, whose periods are far shorter than a nanosecond. -/
theorem fastest_clock_progresses :
    ∃ p : Pacer, p.Reachable ∧ p.cycles.frequency = wordLimit - 1 ∧ p.isStepped = false ∧
      p.cycles.frequency < wordLimit ∧
      ∃ laps, RawPacer.Loops p.raw 3 (.start ⟨.new 0, .idle⟩ Recorder.empty) laps
          (p.update ⟨.new 0, .idle⟩ Recorder.empty 3).1.raw
          (p.update ⟨.new 0, .idle⟩ Recorder.empty 3).2 ∧
        Lap.Progress 3 laps := by
  have pos : 0 < wordLimit - 1 := by decide
  have made := new_of_pos pos false
  have word : wordLimit - 1 < wordLimit := by decide
  obtain ⟨laps, loops, progress, -⟩ :=
    update_makes_progress (.new made) word rfl ⟨.new 0, .idle⟩ Recorder.empty 3
  exact ⟨_, .new made, rfl, rfl, word, laps, (loops _ _ _).2 ⟨rfl, rfl, rfl⟩, progress⟩

end Pacer

end ChipEight
