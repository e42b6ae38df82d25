/-
  The order of cycles and ticks.

  A fresh clocked pacer brings about its cycles and ticks in the order of the
  nanoseconds at which they fall due (`Cadence.dueAt`), cycles first when they
  fall together, whatever the updates are and whatever becomes of the machine.
  Since the frequencies are known, this order is known in closed form: it is the
  number of cycles before each tick and the number of ticks before each cycle
  (`Rig.order_of_events`).
-/
import ChipEight.Proofs.Pace.History
import ChipEight.Proofs.Panel.Recorder

namespace ChipEight

namespace Pacer

theorem count_filter_isPaced (events : List Event) :
    (events.filter Event.isPaced).count .cycle = events.count .cycle ∧
      (events.filter Event.isPaced).count .tick = events.count .tick :=
  ⟨List.count_filter rfl, List.count_filter rfl⟩

/-- The events of acts, without the keys that are moved between them. -/
theorem timeline_of_chronicle {p : Pacer} (clocked : p.isStepped = false) {acts : List Act}
    {before later : List Event} {event : Event} (paced : event.isPaced = true)
    (h : p.chronicle acts = before ++ event :: later) :
    p.timeline (timeOf acts) =
      before.filter Event.isPaced ++ event :: later.filter Event.isPaced := by
  rw [← chronicle_filter clocked, h, List.filter_append, List.filter_cons_of_pos paced]

variable {frequency : Nat} {p : Pacer} {acts : List Act} {before later : List Event}

theorem AtStart.cycles_before_tick (start : p.AtStart frequency false)
    (h : p.chronicle acts = before ++ .tick :: later) :
    before.count .cycle =
      frequency * Cadence.dueAt timerFrequency (before.count .tick + 1) / nanosPerSecond := by
  have split := timeline_of_chronicle start.isStepped rfl h
  have order := Pacer.cycles_before_tick split
  obtain ⟨cycles, ticks⟩ := count_filter_isPaced before
  rwa [cycles, ticks, Cadence.advance_atStart start.cycles_phase,
    Cadence.deadline_atStart start.ticks_phase, start.cycles_frequency, start.ticks_frequency]
    at order

theorem AtStart.ticks_before_cycle (start : p.AtStart frequency false)
    (h : p.chronicle acts = before ++ .cycle :: later) :
    before.count .tick =
      timerFrequency * (Cadence.dueAt frequency (before.count .cycle + 1) - 1)
        / nanosPerSecond := by
  have split := timeline_of_chronicle start.isStepped rfl h
  have order := Pacer.ticks_before_cycle split
  obtain ⟨cycles, ticks⟩ := count_filter_isPaced before
  rwa [cycles, ticks, Cadence.advance_atStart start.ticks_phase,
    Cadence.deadline_atStart start.cycles_phase, start.cycles_frequency, start.ticks_frequency]
    at order

/-- From the start, ticks are counted by the time alone. -/
theorem AtStart.ticks_chronicle {stepped : Bool} (start : p.AtStart frequency stepped)
    (acts : List Act) :
    (p.chronicle acts).count .tick = timerFrequency * timeOf acts / nanosPerSecond := by
  rw [Pacer.ticks_chronicle, Cadence.advance_atStart start.ticks_phase, start.ticks_frequency]

end Pacer

variable {δ : Type} [Panel δ]

/-- **Cycles and ticks come in the order in which they fall due.**  What acts do
    to a rig is what the events of their chronicle do, one after the other.  The
    `n`th tick comes after as many cycles as fall due up to its nanosecond, and a
    cycle after as many ticks as fall due before its own.  A recorder beside the
    panel sees one picture a tick, the screen as the events before it left it. -/
theorem Rig.order_of_events {frequency : Nat} {p : Pacer} (fresh : p.Fresh frequency false)
    (console : Console) (panel : δ) (acts : List Act) :
    let events := p.chronicle acts
    let start := Episode.start console (panel, Recorder.empty)
    let final := (Rig.mk p console (panel, Recorder.empty)).serveAll acts
    final.console = (start.performAll events).console ∧
      final.panel = (start.performAll events).panel ∧
      events.count .tick = timerFrequency * timeOf acts / nanosPerSecond ∧
      final.panel.2.pictures.length = events.count .tick ∧
      (∀ before later, events = before ++ .tick :: later →
        before.count .cycle =
            frequency * Cadence.dueAt timerFrequency (before.count .tick + 1) / nanosPerSecond ∧
          final.panel.2.pictures[before.count .tick]? =
            some (start.performAll before).console.machine.screen) ∧
      (∀ before later, events = before ++ .cycle :: later →
        before.count .tick =
          timerFrequency * (Cadence.dueAt frequency (before.count .cycle + 1) - 1)
            / nanosPerSecond) := by
  intro events start final
  have atStart := fresh.atStart
  obtain ⟨hconsole, hpanel⟩ :=
    (Rig.mk p console (panel, Recorder.empty)).serveAll_eq acts
  have hpictures : final.panel.2.pictures = (start.performAll events).pictures :=
    congrArg (fun panel => panel.2.pictures) hpanel
  refine ⟨hconsole, hpanel, atStart.ticks_chronicle acts, ?_, fun before later h => ⟨?_, ?_⟩,
    fun before later h => atStart.ticks_before_cycle h⟩
  · rw [hpictures, Episode.length_pictures]
    exact Nat.zero_add _
  · exact atStart.cycles_before_tick h
  · have shown := start.getElem?_pictures before later
    rw [← h, ← hpictures] at shown
    rw [← shown]
    congr 1
    exact (Nat.zero_add _).symm

/-- At 700 hertz, eleven cycles come before the first tick. -/
theorem Rig.order_at_700_hertz :
    ∃ p : Pacer, p.Fresh 700 false ∧
      let events := p.chronicle [.pass 10000000, .pass 10000000]
      events.count .tick = 1 ∧
        ∀ before later, events = before ++ .tick :: later →
          before.count .tick = 0 → before.count .cycle = 11 := by
  have fresh := Pacer.Fresh.new (Pacer.new_of_pos (show 0 < 700 by decide) false)
  obtain ⟨-, -, ticks, -, order, -⟩ := order_of_events fresh ⟨.new 0, .idle⟩ Recorder.empty
    [.pass 10000000, .pass 10000000]
  refine ⟨_, fresh, ticks, fun before later h first => ?_⟩
  rw [(order before later h).1, first]
  rfl

end ChipEight
