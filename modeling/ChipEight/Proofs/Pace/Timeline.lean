/-
  The timeline of a pacer — the events that passing time brings, in order.

  * `timeline p n` are the events of the next `n` nanoseconds of a clocked
    pacer, nanosecond by nanosecond, and `agenda p n` those of an update, of
    either kind of pacer;
  * `runClocked_eq`: the slices of a clocked pacer yield its timeline, whatever
    the panel, since a slice ends no later than the first event in it
    (`due_eq_timeline`); `update_eq` says the same of a whole update;
  * `cycles_before_tick`, `ticks_before_cycle`: on a timeline, a tick comes
    after the cycles with deadlines up to its own, and a cycle after the ticks
    with deadlines below its own.
-/
import ChipEight.Proofs.Pace.Cadence
import ChipEight.Proofs.Pace.Episode

namespace ChipEight

variable {δ : Type}

namespace Pacer

/-! ## Timelines -/

/-- A clocked pacer after nanoseconds. -/
def lapse (p : Pacer) (elapsed : Nat) : Pacer :=
  { p with cycles := (p.cycles.advance elapsed).2, ticks := (p.ticks.advance elapsed).2 }

/-- The events of nanoseconds that are passed in one slice. -/
def due (p : Pacer) (elapsed : Nat) : List Event :=
  List.replicate (p.cycles.advance elapsed).1 .cycle ++
    List.replicate (p.ticks.advance elapsed).1 .tick

/-- The events of the next `n` nanoseconds, nanosecond by nanosecond. -/
def timeline (p : Pacer) : Nat → List Event
  | 0 => []
  | n + 1 => p.due 1 ++ (p.lapse 1).timeline n

@[simp] theorem lapse_zero (p : Pacer) : p.lapse 0 = p := by simp [lapse]

@[simp] theorem due_zero (p : Pacer) : p.due 0 = [] := by simp [due]

theorem lapse_add (p : Pacer) (a b : Nat) : p.lapse (a + b) = (p.lapse a).lapse b := by
  simp only [lapse, Cadence.advance_add]

theorem timeline_add (p : Pacer) (a b : Nat) :
    p.timeline (a + b) = p.timeline a ++ (p.lapse a).timeline b := by
  induction a generalizing p with
  | zero => simp [timeline]
  | succ a ih =>
    have h : a + 1 + b = a + b + 1 := by omega
    rw [h, timeline, timeline, ih, ← lapse_add, Nat.add_comm 1 a, List.append_assoc]

@[simp] theorem timeline_one (p : Pacer) : p.timeline 1 = p.due 1 := by simp [timeline]

/-- Steps asked for have no place on a timeline. -/
theorem timeline_askStep (p : Pacer) (n : Nat) : p.askStep.timeline n = p.timeline n := by
  induction n generalizing p with
  | zero => rfl
  | succ n ih => exact congrArg (p.due 1 ++ ·) (ih (p.lapse 1))

/-- A slice that ends no later than the first event in it brings the events of
    its nanoseconds in their order. -/
theorem due_eq_timeline {p : Pacer} {n : Nat} (hc : n ≤ p.cycles.untilNext)
    (ht : n ≤ p.ticks.untilNext) : p.due n = p.timeline n := by
  induction n generalizing p with
  | zero => rw [due_zero, timeline]
  | succ n ih =>
    rcases Nat.eq_zero_or_pos n with rfl | pos
    · rw [Nat.zero_add, timeline_one]
    -- nothing is due in the first nanosecond, and the rest is a shorter slice
    · have hc₁ : 1 < p.cycles.untilNext := by omega
      have ht₁ : 1 < p.ticks.untilNext := by omega
      have hc₂ := Cadence.advance_of_lt hc₁
      have ht₂ := Cadence.advance_of_lt ht₁
      have first : p.due 1 = [] := by rw [due, hc₂, ht₂]; rfl
      have rest : (p.lapse 1).due n = (p.lapse 1).timeline n := by
        apply ih
        · show n ≤ (p.cycles.advance 1).2.untilNext
          rw [Cadence.untilNext_advance hc₁]
          omega
        · show n ≤ (p.ticks.advance 1).2.untilNext
          rw [Cadence.untilNext_advance ht₁]
          omega
      rw [timeline, first, List.nil_append, ← rest, Nat.add_comm n 1]
      simp only [due, lapse, Cadence.advance_add, hc₂, ht₂, Nat.zero_add]

theorem slice_le (p : Pacer) (remaining : Nat) :
    p.slice remaining ≤ remaining ∧ p.slice remaining ≤ p.cycles.untilNext ∧
      p.slice remaining ≤ p.ticks.untilNext := by
  unfold slice
  omega

section
variable [Panel δ]

theorem pass_eq (p : Pacer) (n : Nat) (e : Episode δ) :
    p.pass n e = (p.lapse n, e.performAll (p.due n)) := by
  simp only [due, Episode.performAll_append, ← Episode.repeat_perform]
  rfl

/-- **The slices of a clocked pacer yield its timeline.** -/
theorem runClocked_eq (p : Pacer) (n : Nat) (e : Episode δ) :
    p.runClocked n e = (p.lapse n, e.performAll (p.timeline n)) := by
  induction n using Nat.strong_induction_on generalizing p e with
  | _ n ih =>
    rw [runClocked]
    split
    · next h => rw [h, lapse_zero, timeline, Episode.performAll_nil]
    · next h =>
      obtain ⟨hn, hc, ht⟩ := p.slice_le n
      have pos := p.slice_pos (Nat.pos_of_ne_zero h)
      have whole : p.slice n + (n - p.slice n) = n := by omega
      rw [pass_eq]
      show (p.lapse _).runClocked _ _ = _
      rw [ih _ (by omega), due_eq_timeline hc ht, ← lapse_add, ← Episode.performAll_append,
        ← timeline_add, whole]

end

/-! ## The events of an update -/

/-- The events of an update. -/
def agenda (p : Pacer) (elapsed : Nat) : List Event :=
  if p.isStepped then
    List.replicate p.pending .cycle ++ List.replicate (p.ticks.advance elapsed).1 .tick
  else p.timeline elapsed

/-- The pacer after an update. -/
def after (p : Pacer) (elapsed : Nat) : Pacer :=
  if p.isStepped then { p with ticks := (p.ticks.advance elapsed).2, pending := 0 }
  else p.lapse elapsed

theorem agenda_stepped {p : Pacer} (h : p.isStepped = true) (elapsed : Nat) :
    p.agenda elapsed =
      List.replicate p.pending .cycle ++ List.replicate (p.ticks.advance elapsed).1 .tick :=
  if_pos h

theorem agenda_clocked {p : Pacer} (h : p.isStepped = false) (elapsed : Nat) :
    p.agenda elapsed = p.timeline elapsed := by simp [agenda, h]

theorem after_stepped {p : Pacer} (h : p.isStepped = true) (elapsed : Nat) :
    p.after elapsed = { p with ticks := (p.ticks.advance elapsed).2, pending := 0 } := if_pos h

theorem after_clocked {p : Pacer} (h : p.isStepped = false) (elapsed : Nat) :
    p.after elapsed = p.lapse elapsed := by simp [after, h]

@[simp] theorem after_isStepped (p : Pacer) (elapsed : Nat) :
    (p.after elapsed).isStepped = p.isStepped := by
  unfold after; split <;> rfl

@[simp] theorem after_ticks (p : Pacer) (elapsed : Nat) :
    (p.after elapsed).ticks = (p.ticks.advance elapsed).2 := by
  unfold after; split <;> rfl

theorem after_add (p : Pacer) (a b : Nat) : p.after (a + b) = (p.after a).after b := by
  have ha := p.after_isStepped a
  cases h : p.isStepped with
  | true =>
    rw [h] at ha
    rw [after_stepped h, after_stepped ha, after_stepped h, Cadence.advance_add]
  | false =>
    rw [h] at ha
    rw [after_clocked h, after_clocked ha, after_clocked h, lapse_add]

/-- The events of an update are those of its parts. -/
theorem agenda_add (p : Pacer) (a b : Nat) :
    p.agenda (a + b) = p.agenda a ++ (p.after a).agenda b := by
  have ha := p.after_isStepped a
  cases h : p.isStepped with
  | true =>
    rw [h] at ha
    rw [agenda_stepped h, agenda_stepped ha, agenda_stepped h, after_stepped h, Cadence.advance_add,
      List.replicate_zero, List.nil_append, List.append_assoc, List.replicate_append_replicate]
  | false =>
    rw [h] at ha
    rw [agenda_clocked h, agenda_clocked ha, agenda_clocked h, after_clocked h, timeline_add]

/-- **What an update does**: the pacer is where the time takes it, and the
    episode has gone through the events of the update. -/
theorem update_eq [Panel δ] (p : Pacer) (console : Console) (panel : δ) (elapsed : Nat) :
    p.update console panel elapsed =
      (p.after elapsed, (Episode.start console panel).performAll (p.agenda elapsed)) := by
  unfold update run after agenda
  split
  · simp only [Episode.performAll_append, ← Episode.repeat_perform]
    rfl
  · exact p.runClocked_eq elapsed _

/-! ## Counts -/

theorem cycles_due (p : Pacer) (n : Nat) : (p.due n).count .cycle = (p.cycles.advance n).1 := by
  simp [due, List.count_replicate]

theorem ticks_due (p : Pacer) (n : Nat) : (p.due n).count .tick = (p.ticks.advance n).1 := by
  simp [due, List.count_replicate]

/-- The cycles on a timeline are the periods of their cadence. -/
theorem cycles_timeline (p : Pacer) (n : Nat) :
    (p.timeline n).count .cycle = (p.cycles.advance n).1 := by
  induction n generalizing p with
  | zero => simp [timeline]
  | succ n ih =>
    rw [timeline, List.count_append, cycles_due, ih, Nat.add_comm n 1, Cadence.advance_add]
    rfl

/-- The ticks on a timeline are the periods of their cadence. -/
theorem ticks_timeline (p : Pacer) (n : Nat) :
    (p.timeline n).count .tick = (p.ticks.advance n).1 := by
  induction n generalizing p with
  | zero => simp [timeline]
  | succ n ih =>
    rw [timeline, List.count_append, ticks_due, ih, Nat.add_comm n 1, Cadence.advance_add]
    rfl

/-- An update ticks as its cadence says, whatever its cycles are made of. -/
theorem ticks_agenda (p : Pacer) (n : Nat) :
    (p.agenda n).count .tick = (p.ticks.advance n).1 := by
  unfold agenda
  split
  · simp [List.count_replicate]
  · exact p.ticks_timeline n

theorem keys_notMem_agenda (p : Pacer) (n : Nat) (keypad : Keypad) :
    .keys keypad ∉ p.agenda n := by
  have onTimeline : ∀ (n : Nat) (p : Pacer), Event.keys keypad ∉ p.timeline n := by
    intro n
    induction n with
    | zero => simp [timeline]
    | succ n ih => intro p; simp [timeline, due, List.mem_replicate, ih]
  unfold agenda
  split
  · simp [List.mem_replicate]
  · exact onTimeline n p

/-! ## The order of cycles and ticks -/

/-- In a slice the cycles come first. -/
theorem due_pairwise (p : Pacer) (n : Nat) :
    (p.due n).Pairwise fun x y => x = .tick → y ≠ .cycle := by
  rw [due, List.pairwise_append]
  refine ⟨List.pairwise_replicate.2 (Or.inr (by simp)),
    List.pairwise_replicate.2 (Or.inr (by simp)), ?_⟩
  intro x hx y hy
  simp [List.eq_of_mem_replicate hx]

/-- An event on a timeline falls due in some nanosecond: before it come the
    events up to that nanosecond, and those before it within the nanosecond. -/
theorem timeline_split {p : Pacer} {n : Nat} {event : Event} {before later : List Event}
    (h : p.timeline n = before ++ event :: later) :
    ∃ t earlier rest, before = p.timeline t ++ earlier ∧
      (p.lapse t).due 1 = earlier ++ event :: rest := by
  induction n generalizing later with
  | zero => simp [timeline] at h
  | succ n ih =>
    rw [timeline_add, timeline_one, List.append_eq_append_iff] at h
    rcases h with ⟨earlier, rfl, hdue⟩ | ⟨rest, hn, hdue⟩
    · exact ⟨n, earlier, later, rfl, hdue⟩
    · cases rest with
      | nil =>
        rw [List.append_nil] at hn
        exact ⟨n, [], later, by rw [hn, List.append_nil], hdue.symm⟩
      | cons _ rest =>
        obtain ⟨rfl, -⟩ := List.cons.inj hdue
        exact ih hn

/-- **The cycles before a tick** are those whose deadlines are up to its own. -/
theorem cycles_before_tick {p : Pacer} {n : Nat} {before later : List Event}
    (h : p.timeline n = before ++ .tick :: later) :
    before.count .cycle = (p.cycles.advance (p.ticks.deadline (before.count .tick + 1))).1 := by
  obtain ⟨t, earlier, rest, rfl, hdue⟩ := timeline_split h
  have hp := (p.lapse t).due_pairwise 1
  have hc := (p.lapse t).cycles_due 1
  have ht := (p.lapse t).ticks_due 1
  rw [hdue] at hp hc ht
  -- no cycle follows the tick within its nanosecond
  have none : rest.count .cycle = 0 := by
    rw [List.count_eq_zero]
    intro hmem
    exact (List.pairwise_cons.1 (List.pairwise_append.1 hp).2.1).1 _ hmem rfl rfl
  simp only [List.count_append, List.count_cons, none, lapse] at hc ht
  have at_t : p.ticks.deadline ((p.timeline t ++ earlier).count .tick + 1) = t + 1 := by
    refine Cadence.deadline_eq ?_ ?_ <;>
      simp only [List.count_append, ticks_timeline, Cadence.advance_add]
    · omega
    · simp at ht; omega
  rw [at_t, List.count_append, cycles_timeline, Cadence.advance_add]
  simp at hc ⊢
  omega

/-- **The ticks before a cycle** are those whose deadlines are below its own. -/
theorem ticks_before_cycle {p : Pacer} {n : Nat} {before later : List Event}
    (h : p.timeline n = before ++ .cycle :: later) :
    before.count .tick = (p.ticks.advance (p.cycles.deadline (before.count .cycle + 1) - 1)).1 := by
  obtain ⟨t, earlier, rest, rfl, hdue⟩ := timeline_split h
  have hp := (p.lapse t).due_pairwise 1
  have hc := (p.lapse t).cycles_due 1
  rw [hdue] at hp hc
  -- no tick precedes the cycle within its nanosecond
  have none : earlier.count .tick = 0 := by
    rw [List.count_eq_zero]
    intro hmem
    exact (List.pairwise_append.1 hp).2.2 _ hmem _ (List.mem_cons_self ..) rfl rfl
  simp only [List.count_append, List.count_cons, lapse] at hc
  have at_t : p.cycles.deadline ((p.timeline t ++ earlier).count .cycle + 1) = t + 1 := by
    refine Cadence.deadline_eq ?_ ?_ <;>
      simp only [List.count_append, cycles_timeline, Cadence.advance_add]
    · omega
    · simp at hc; omega
  rw [at_t, List.count_append, ticks_timeline, none, Nat.add_zero, Nat.add_sub_cancel]

end Pacer

end ChipEight
