/-
  Cadences without drift.

  From a fresh pacer on, the ticks that the updates report, and the pictures that
  the panel is shown, are sixty times the seconds that have passed, rounded down
  once and for all, and so are the cycles that are reported, unless the machine
  halts (`Rig.paced_without_drift`).  Neither how the time is cut nor what becomes
  of the machine has an influence.

  * a `Timer` is one of the two timers; `performAll_timer`: it counts down at each
    tick as long as no instruction sets it;
  * `result_of_running`: if the machine has not halted in the end, every update
    has succeeded.
-/
import ChipEight.Proofs.Machine.Hidden
import ChipEight.Proofs.Pace.Order

namespace ChipEight

/-! ## Timers -/

/-- One of the two timers. -/
inductive Timer where
  | delay | sound

/-- Where a timer stands. -/
def Timer.value (t : Timers) : Timer → UInt8
  | .delay => t.delay
  | .sound => t.sound

/-- The instruction sets the timer. -/
def Instruction.Sets (timer : Timer) : Instruction → Prop
  | .setDelay _ => timer = .delay
  | .setSound _ => timer = .sound
  | _ => False

namespace Timer

theorem value_tick (timer : Timer) (t : Timers) :
    timer.value t.tick = Timers.countDown (timer.value t) := by
  cases timer <;> rfl

theorem value_buzzerChange (timer : Timer) (t : Timers) :
    timer.value t.buzzerChange.2 = timer.value t := by
  cases timer <;> simp [value]

theorem value_timersAfter {timer : Timer} {i : Instruction} (h : ¬ i.Sets timer) (m : Machine) :
    timer.value (i.timersAfter m) = timer.value m.timers := by
  cases i with
  | setDelay x =>
    cases timer with
    | delay => exact absurd rfl h
    | sound => rfl
  | setSound x =>
    cases timer with
    | delay => rfl
    | sound => exact absurd rfl h
  | _ => rfl

end Timer

namespace Episode
variable {δ : Type} [Panel δ]

/-- Where a timer of an episode stands. -/
def timer (e : Episode δ) (timer : Timer) : UInt8 := timer.value e.console.machine.timers

/-- A cycle leaves a timer alone unless its instruction sets it. -/
theorem cycle_timer {e : Episode δ} {timer : Timer}
    (h : ∀ i, e.console.upcoming = some i → ¬ i.Sets timer) :
    e.cycle.timer timer = e.timer timer := by
  have kept {result : Except Fault Effect} {after : Console}
      (step : e.console.step = (result, after)) :
      timer.value after.machine.timers = e.timer timer := by
    rcases Console.step_timers step with eq | ⟨i, upcoming, eq⟩
    · rw [eq, Episode.timer]
    · rw [eq, Timer.value_timersAfter (h i upcoming), Episode.timer]
  obtain halted | ⟨fault, after, step⟩ | ⟨effect, after, running, step⟩ := e.console.step_cases
  · rw [cycle_of_halted halted]
  · rw [cycle_of_error step]
    exact kept step
  · rw [Episode.timer, (cycle_of_ok_fields running step).1, Machine.buzzerChange_snd,
      Timer.value_buzzerChange, kept step]

/-- **A timer counts down** at each tick, as long as no instruction sets it. -/
theorem performAll_timer {e : Episode δ} {timer : Timer} {events : List Event}
    (h : e.Avoids (·.Sets timer) events) :
    ((e.performAll events).timer timer).toNat = (e.timer timer).toNat - events.count .tick := by
  induction events generalizing e with
  | nil => rfl
  | cons event later ih =>
    rw [performAll_cons, ih h.2]
    cases event with
    | cycle => rw [perform, cycle_timer (h.1 rfl)]; simp
    | keys keypad => simp [perform, Episode.timer]
    | tick =>
      rw [perform, Episode.timer, tick_console, Machine.buzzerChange_snd, Timer.value_buzzerChange]
      rw [Machine.tick, Timer.value_tick, Timers.toNat_countDown, List.count_cons_self,
        Episode.timer]
      omega

end Episode

variable {δ : Type} [Panel δ]

/-! ## Counts of updates -/

/-- A clocked pacer offers cycles by the time alone. -/
theorem Pacer.AtStart.cycles_chronicle {frequency : Nat} {p : Pacer}
    (start : p.AtStart frequency false) (acts : List Act) :
    (p.chronicle acts).count .cycle = frequency * timeOf acts / nanosPerSecond := by
  rw [← (count_filter_isPaced _).1, chronicle_filter start.isStepped, cycles_timeline,
    Cadence.advance_atStart start.cycles_phase, start.cycles_frequency]

/-- If the machine has not halted in the end, every update has succeeded. -/
theorem Rig.result_of_running {r : Rig δ} {acts : List Act}
    (h : (r.story acts).console.machine.isHalted = false) :
    ∀ e ∈ r.episodes acts, e.result = .ok e.report := by
  induction acts generalizing r with
  | nil => simp [episodes]
  | cons act later ih =>
    cases act with
    | askStep => exact ih (r := r.serve .askStep) h
    | moveKeys keypad => exact ih (r := r.serve (.moveKeys keypad)) h
    | pass elapsed =>
      intro e he
      rw [story_pass] at h
      rcases List.mem_cons.1 he with rfl | he
      · -- a fault would have halted the machine, and it would have stayed halted
        have running : (r.serve (.pass elapsed)).console.machine.isHalted = false := by
          rw [Bool.eq_false_iff]
          intro halted
          have stays := (Episode.performAll_of_halted
            (e := Episode.start (r.serve (.pass elapsed)).console (r.serve (.pass elapsed)).panel)
            halted ((r.serve (.pass elapsed)).pacer.chronicle later)).1
          exact absurd (h.symm.trans stays) (by simp)
        have none : (r.pacer.update r.console r.panel elapsed).2.fault = none := by
          rw [serve] at running
          rw [Pacer.update_eq] at running ⊢
          rw [Episode.fault_performAll, Machine.fault?_eq_none.2 running, ite_self]
        rw [Episode.result, none]
      · exact ih (r := r.serve (.pass elapsed)) h e he

/-- **Cadences do not drift.**  Whatever acts are done to a rig with a fresh
    pacer, the ticks of all updates, which are the pictures that a recorder beside
    the panel sees, are those of the whole time at once.  So are the cycles of a
    clocked pacer, provided that the machine has not halted in the end, and then
    every update has succeeded.  A timer that no instruction sets from some event
    on ends up lower by the ticks from there, or at zero. -/
theorem Rig.paced_without_drift {frequency : Nat} {stepped : Bool} {p : Pacer}
    (fresh : p.Fresh frequency stepped) (console : Console) (panel : δ) (acts : List Act) :
    let rig := Rig.mk p console (panel, Recorder.empty)
    let start := Episode.start console (panel, Recorder.empty)
    let final := rig.serveAll acts
    let ticks := timerFrequency * timeOf acts / nanosPerSecond
    ((rig.episodes acts).map (·.report.ticks)).sum = ticks ∧
      final.panel.2.pictures.length = ticks ∧
      (stepped = false → final.console.machine.isHalted = false →
        (∀ e ∈ rig.episodes acts, e.result = .ok e.report) ∧
          ((rig.episodes acts).map (·.report.cycles)).sum =
            frequency * timeOf acts / nanosPerSecond) ∧
      (p.chronicle acts).count .tick = ticks ∧
      ∀ timer : Timer, ∀ before later, p.chronicle acts = before ++ later →
        (start.performAll before).Avoids (·.Sets timer) later →
          (timer.value final.console.machine.timers).toNat =
            ((start.performAll before).timer timer).toNat - later.count .tick := by
  intro rig start final ticks
  have atStart := fresh.atStart
  have hticks : (p.chronicle acts).count .tick = ticks := atStart.ticks_chronicle acts
  obtain ⟨hconsole, hpanel⟩ := rig.serveAll_eq acts
  refine ⟨?_, ?_, fun clocked running => ⟨?_, ?_⟩, hticks, fun timer before later h avoids => ?_⟩
  · rw [rig.sum_episodes acts Report.ticks rfl fun _ _ => rfl, story, Episode.ticks_performAll,
      ← hticks]
    exact Nat.zero_add _
  · have seen : final.panel.2.pictures = (rig.story acts).pictures :=
      congrArg (fun panel => panel.2.pictures) hpanel
    rw [seen, story, Episode.length_pictures, ← hticks]
    exact Nat.zero_add _
  · rw [hconsole] at running
    exact result_of_running running
  · subst clocked
    rw [hconsole] at running
    rw [rig.sum_episodes acts Report.cycles rfl fun _ _ => rfl, story,
      Episode.cycles_performAll running, ← atStart.cycles_chronicle acts]
    exact Nat.zero_add _
  · rw [hconsole, story]
    show ((start.performAll (p.chronicle acts)).timer timer).toNat = _
    rw [h, Episode.performAll_append, Episode.performAll_timer avoids]

/-- In a second at 700 hertz, a machine that waits for a press makes 700 cycles,
    and its delay timer goes down by 60. -/
theorem Rig.second_of_waiting :
    ∃ p : Pacer, p.Fresh 700 false ∧
      let machine := { Machine.new 0 with status := .waiting 0, timers := ⟨100, 0, false⟩ }
      let rig := Rig.mk p ⟨machine, .idle⟩ (Recorder.empty, Recorder.empty)
      let acts := [.pass 400000000, .pass 600000000]
      ((rig.episodes acts).map (·.report.cycles)).sum = 700 ∧
        (rig.serveAll acts).panel.2.pictures.length = 60 ∧
        (Timer.delay.value (rig.serveAll acts).console.machine.timers).toNat = 40 := by
  have fresh := Pacer.Fresh.new (Pacer.new_of_pos (show 0 < 700 by decide) false)
  refine ⟨_, fresh, ?_⟩
  intro machine rig acts
  obtain ⟨-, pictures, cycles, ticks, timers⟩ :=
    paced_without_drift fresh rig.console Recorder.empty acts
  have paced : ∀ keypad, .keys keypad ∉ rig.pacer.chronicle acts := by
    simp [acts, Pacer.chronicle, Pacer.keys_notMem_agenda]
  obtain ⟨waits, avoids⟩ := Episode.performAll_of_waiting
    (e := Episode.start rig.console rig.panel) rfl rfl paced
  have running : (rig.serveAll acts).console.machine.isHalted = false := by
    rw [(rig.serveAll_eq acts).1, Machine.isHalted, story, waits]
  have value := timers .delay [] (rig.pacer.chronicle acts) (List.nil_append _).symm (avoids _)
  rw [ticks] at value
  exact ⟨(cycles rfl running).2.trans (by decide), pictures.trans (by decide),
    value.trans (by decide)⟩

end ChipEight
