/-
  Updates that come to a fault.

  * `Episode.IdlesTo` says that an episode goes on with nothing but its ticks;
    an episode whose machine has halted does so (`idlesTo_performAll`);
  * `Rig.result_eq_error_iff`: an update fails if and only if it has halted the
    machine, and its fault is the one that the machine has halted with;
  * `Rig.idlesFor_of_halted`: an update of a halted machine succeeds with no cycle
    and all of its ticks, and `Pacer.owesNoStep_after`: no update leaves a step to
    be made;
  * `Rig.fault_in_updates`: so at most one update of a history fails, and what is
    left of it idles, as do all updates after it.  An update of a clocked pacer leaves the
    steps asked for counted (`Rig.step_left_pending`), which makes no difference.
-/
import ChipEight.Proofs.Pace.Drift
import ChipEight.Proofs.Pace.Refinement

namespace ChipEight

variable {δ : Type}

namespace Episode

/-! ## Idling -/

/-- An episode goes on to another one through a number of ticks, at which the
    timers count down and the panel is shown the same picture, and through
    nothing else. -/
structure IdlesTo (e later : Episode (δ × Recorder)) (ticks : Nat) : Prop where
  console : e.console.SameBesidesTimers later.console
  timers : ∀ timer, (later.timer timer).toNat = (e.timer timer).toNat - ticks
  pictures : later.pictures = e.pictures ++ List.replicate ticks e.console.machine.screen
  report : later.report = ⟨e.report.cycles, e.report.ticks + ticks⟩
  fault : later.fault = e.fault

namespace IdlesTo
variable {e e' e'' : Episode (δ × Recorder)} {m n : Nat}

theorem refl (e : Episode (δ × Recorder)) : e.IdlesTo e 0 where
  console := ⟨rfl, rfl, rfl, rfl, rfl, rfl, rfl⟩
  timers _ := rfl
  pictures := (List.append_nil _).symm
  report := rfl
  fault := rfl

theorem trans (h : e.IdlesTo e' m) (h' : e'.IdlesTo e'' n) : e.IdlesTo e'' (m + n) where
  console := h.console.trans h'.console
  timers timer := by
    rw [h'.timers, h.timers]
    omega
  pictures := by
    rw [h'.pictures, h.pictures, ← h.console.screen, List.append_assoc,
      List.replicate_append_replicate]
  report := by
    rw [h'.report, h.report, Nat.add_assoc]
  fault := h'.fault.trans h.fault

/-- A tick is idle, whatever the machine is doing. -/
theorem tick [Panel δ] (e : Episode (δ × Recorder)) : e.IdlesTo e.tick 1 where
  console := by
    rw [tick_console]
    exact ⟨rfl, rfl, rfl, rfl, rfl, rfl, rfl⟩
  timers timer := by
    rw [Episode.timer, tick_console, Machine.buzzerChange_snd, Timer.value_buzzerChange,
      Machine.tick, Timer.value_tick, Timers.toNat_countDown]
    rfl
  pictures := e.pictures_tick
  report := e.tick_report
  fault := e.tick_fault

end IdlesTo

variable [Panel δ]

/-- **A halted machine idles**, as long as its keys are left alone. -/
theorem idlesTo_performAll {e : Episode (δ × Recorder)} {events : List Event}
    (halted : e.console.machine.isHalted = true) (paced : ∀ keypad, .keys keypad ∉ events) :
    e.IdlesTo (e.performAll events) (events.count .tick) := by
  induction events generalizing e with
  | nil => exact .refl e
  | cons event later ih =>
    have pacedLater : ∀ keypad, .keys keypad ∉ later :=
      fun keypad h => paced keypad (List.mem_cons_of_mem _ h)
    have stays := (perform_of_halted halted event).1
    cases event with
    | cycle =>
      rw [perform, cycle_of_halted halted] at stays
      rw [performAll_cons, perform, cycle_of_halted halted, List.count_cons_of_ne (by decide)]
      exact ih halted pacedLater
    | tick =>
      rw [performAll_cons, List.count_cons_self, Nat.add_comm]
      exact (IdlesTo.tick e).trans (ih stays pacedLater)
    | keys keypad => exact absurd (List.mem_cons_self ..) (paced keypad)

/-! ## The cycle that comes to the fault -/

/-- A machine that has halted during an episode has done so in one of its cycles,
    and what follows the cycle is idle. -/
theorem exists_halting_cycle {e : Episode (δ × Recorder)} {events : List Event} {fault : Fault}
    (running : e.console.machine.isHalted = false) (paced : ∀ keypad, .keys keypad ∉ events)
    (halted : (e.performAll events).console.machine.status = .halted fault) :
    ∃ earlier rest, events = earlier ++ .cycle :: rest ∧
      (e.performAll earlier).console.machine.isHalted = false ∧
      (e.performAll earlier).cycle.console.machine.status = .halted fault ∧
      (e.performAll earlier).cycle.IdlesTo (e.performAll events) (rest.count .tick) := by
  induction events generalizing e with
  | nil =>
    cases (Machine.isHalted_iff.2 ⟨fault, halted⟩).symm.trans running
  | cons event later ih =>
    have pacedLater : ∀ keypad, .keys keypad ∉ later :=
      fun keypad h => paced keypad (List.mem_cons_of_mem _ h)
    cases next : (e.perform event).console.machine.isHalted with
    | false =>
      obtain ⟨earlier, rest, rfl, found⟩ := ih next pacedLater halted
      exact ⟨event :: earlier, rest, rfl, found⟩
    | true =>
      have idles := idlesTo_performAll next pacedLater
      -- neither ticks nor keys halt the machine
      cases event with
      | cycle => exact ⟨[], later, rfl, running, idles.console.status.trans halted, idles⟩
      | tick =>
        rw [perform, tick_console] at next
        cases next.symm.trans running
      | keys keypad => cases next.symm.trans running

end Episode

/-! ## Steps asked for -/

/-- A clocked pacer does not look at the steps asked for. -/
theorem Pacer.timeline_pending (p : Pacer) (pending n : Nat) :
    { p with pending }.timeline n = p.timeline n := by
  induction n generalizing p with
  | zero => rfl
  | succ n ih => rw [timeline, timeline]; exact congrArg _ (ih (p.lapse 1))

/-- Steps asked for of a clocked pacer make no difference, whatever is done
    next. -/
theorem Rig.episodes_pending [Panel δ] {p : Pacer} (clocked : p.isStepped = false) (pending : Nat)
    (console : Console) (panel : δ) (acts : List Act) :
    (Rig.mk { p with pending } console panel).episodes acts =
      (Rig.mk p console panel).episodes acts := by
  induction acts generalizing p pending console panel with
  | nil => rfl
  | cons act later ih =>
    cases act with
    | pass elapsed =>
      have same : { p with pending }.agenda elapsed = p.agenda elapsed := by
        rw [Pacer.agenda_clocked clocked, ← p.timeline_pending pending]
        exact Pacer.agenda_clocked (p := { p with pending }) clocked elapsed
      have next : { p with pending }.after elapsed = { p.after elapsed with pending } := by
        rw [Pacer.after_clocked clocked]
        exact Pacer.after_clocked (p := { p with pending }) clocked elapsed
      simp only [episodes, serve, Pacer.update_eq, same, next]
      rw [ih ((p.after_isStepped elapsed).trans clocked)]
    | askStep => exact ih (p := p.askStep) clocked (pending + 1) console panel
    | moveKeys keypad => exact ih clocked pending { console with keypad } panel

/-- No step that was asked for is still to be made. -/
structure Pacer.OwesNoStep (p : Pacer) : Prop where
  pending : p.isStepped = true → p.pending = 0
  /-- It makes no difference whether the steps asked for are forgotten. -/
  forgets : ∀ {δ : Type} [Panel δ] (console : Console) (panel : δ) (acts : List Act),
    (Rig.mk p console panel).episodes acts =
      (Rig.mk { p with pending := 0 } console panel).episodes acts

/-- **An update makes all steps asked for**, or makes none and will make none. -/
theorem Pacer.owesNoStep_after (p : Pacer) (elapsed : Nat) : (p.after elapsed).OwesNoStep := by
  cases stepped : p.isStepped with
  | true =>
    have consumed : (p.after elapsed).pending = 0 := by rw [after_stepped stepped]
    refine ⟨fun _ => consumed, fun console panel acts => ?_⟩
    rw [← consumed]
  | false =>
    have clocked : (p.after elapsed).isStepped = false := (p.after_isStepped elapsed).trans stepped
    refine ⟨fun stepped => ?_, fun console panel acts => ?_⟩
    · cases clocked.symm.trans stepped
    · exact (Rig.episodes_pending clocked 0 console panel acts).symm

namespace Rig
variable [Panel δ]

/-! ## Results -/

/-- The episode of an update. -/
def episode (r : Rig δ) (elapsed : Nat) : Episode δ :=
  (r.pacer.update r.console r.panel elapsed).2

theorem episode_eq (r : Rig δ) (elapsed : Nat) :
    r.episode elapsed = (Episode.start r.console r.panel).performAll (r.pacer.agenda elapsed) := by
  rw [episode, Pacer.update_eq]

/-- **An update moves no key.** -/
theorem down_episode (r : Rig δ) (elapsed : Nat) :
    (r.episode elapsed).console.keypad.down = r.console.keypad.down := by
  rw [episode_eq]
  exact Episode.down_performAll (r.pacer.keys_notMem_agenda elapsed)

/-- **Failures are halts**: an update fails if and only if the machine had not
    halted before it and has halted after it, and fails with the fault that the
    machine has halted with. -/
theorem result_eq_error_iff {r : Rig δ} {elapsed : Nat} {fault : Fault} :
    (r.episode elapsed).result = .error fault ↔
      r.console.machine.isHalted = false ∧
        (r.serve (.pass elapsed)).console.machine.status = .halted fault := by
  have same : (r.serve (.pass elapsed)).console = (r.episode elapsed).console := rfl
  have result : (r.episode elapsed).result = .error fault ↔
      (r.episode elapsed).fault = some fault := by
    unfold Episode.result
    cases (r.episode elapsed).fault <;> simp
  rw [result, same, episode_eq, Episode.fault_performAll, ← Machine.fault?_eq_some]
  cases r.console.machine.isHalted <;> simp

/-! ## Histories with a fault -/

/-- An update idles: it succeeds with no cycle and all of its ticks, and nothing
    else happens. -/
structure IdlesFor (r : Rig (δ × Recorder)) (elapsed : Nat) : Prop where
  result : (r.episode elapsed).result = .ok ⟨0, (r.pacer.ticks.advance elapsed).1⟩
  idles : (Episode.start r.console r.panel).IdlesTo (r.episode elapsed)
    (r.pacer.ticks.advance elapsed).1

variable {r : Rig (δ × Recorder)} {fault : Fault}

/-- **Updates of a halted machine idle.** -/
theorem idlesFor_of_halted (halted : r.console.machine.isHalted = true) (elapsed : Nat) :
    r.IdlesFor elapsed := by
  have idles := Episode.idlesTo_performAll (e := Episode.start r.console r.panel) halted
    (r.pacer.keys_notMem_agenda elapsed)
  rw [← episode_eq, Pacer.ticks_agenda] at idles
  refine ⟨?_, idles⟩
  rw [Episode.result, idles.fault, idles.report]
  simp [Episode.start]

/-- Whatever is done to a rig, its machine stays as it has halted. -/
theorem status_serve_of_halted (halted : r.console.machine.status = .halted fault) (act : Act) :
    (r.serve act).console.machine.status = .halted fault := by
  cases act with
  | pass elapsed =>
    have idles := idlesFor_of_halted (Machine.isHalted_iff.2 ⟨fault, halted⟩) elapsed
    exact idles.idles.console.status.symm.trans halted
  | askStep => exact halted
  | moveKeys keypad => exact halted

theorem status_serveAll_of_halted (halted : r.console.machine.status = .halted fault)
    (acts : List Act) : (r.serveAll acts).console.machine.status = .halted fault := by
  induction acts generalizing r with
  | nil => exact halted
  | cons act later ih => exact ih (status_serve_of_halted halted act)

/-- The updates that fail are none if the machine has halted already. -/
theorem countP_failures_of_halted (halted : r.console.machine.isHalted = true) (acts : List Act) :
    (r.episodes acts).countP (!·.result.isOk) = 0 := by
  induction acts generalizing r with
  | nil => rfl
  | cons act later ih =>
    obtain ⟨fault, status⟩ := Machine.isHalted_iff.1 halted
    have stays := Machine.isHalted_iff.2 ⟨fault, status_serve_of_halted status act⟩
    cases act with
    | pass elapsed =>
      have result := (idlesFor_of_halted halted elapsed).result
      rw [episodes, List.countP_cons_of_neg, ih stays]
      rw [← episode, result]
      simp [Except.isOk, Except.toBool]
    | askStep => exact ih stays
    | moveKeys keypad => exact ih stays

/-- **At most one update fails.** -/
theorem countP_failures_le (r : Rig (δ × Recorder)) (acts : List Act) :
    (r.episodes acts).countP (!·.result.isOk) ≤ 1 := by
  induction acts generalizing r with
  | nil => exact Nat.zero_le 1
  | cons act later ih =>
    cases act with
    | pass elapsed =>
      rw [episodes, List.countP_cons, ← episode]
      cases result : (r.episode elapsed).result with
      | error fault =>
        have halted := Machine.isHalted_iff.2 ⟨fault, (result_eq_error_iff.1 result).2⟩
        rw [countP_failures_of_halted halted later]
        exact Nat.le_refl 1
      | ok report => exact ih (r.serve (.pass elapsed))
    | askStep => exact ih (r.serve .askStep)
    | moveKeys keypad => exact ih (r.serve (.moveKeys keypad))

/-- **Faults in updates.**  Of the updates of a history, at most one fails.  Each
    makes all of its ticks, every tick with its picture, and leaves no step to be
    made; and it fails if and only if it has halted the machine, with the fault
    that the machine has halted with.  Once one has failed, what is left of it
    idles from the cycle that came to the fault on, and all later updates idle. -/
theorem fault_in_updates (r : Rig (δ × Recorder)) (acts : List Act) :
    (r.episodes acts).countP (!·.result.isOk) ≤ 1 ∧
      ∀ before elapsed later, acts = before ++ .pass elapsed :: later →
        let rig := r.serveAll before
        let next := rig.serve (.pass elapsed)
        let start := Episode.start rig.console rig.panel
        let e := rig.episode elapsed
        let due := (rig.pacer.ticks.advance elapsed).1
        e.report.ticks = due ∧
          e.pictures.length = start.pictures.length + due ∧
          next.pacer.OwesNoStep ∧
          ∀ fault,
            (e.result = .error fault ↔
              rig.console.machine.isHalted = false ∧
                next.console.machine.status = .halted fault) ∧
            (e.result = .error fault →
              (∃ earlier rest, rig.pacer.agenda elapsed = earlier ++ .cycle :: rest ∧
                let reached := start.performAll earlier
                reached.console.machine.isHalted = false ∧
                  reached.cycle.console.machine.status = .halted fault ∧
                  reached.cycle.IdlesTo e (rest.count .tick)) ∧
              ∀ meanwhile elapsed' rest, later = meanwhile ++ .pass elapsed' :: rest →
                (r.serveAll (before ++ .pass elapsed :: meanwhile)).IdlesFor elapsed') := by
  refine ⟨r.countP_failures_le acts, ?_⟩
  intro before elapsed later _ rig next start e due
  have he : e = start.performAll (rig.pacer.agenda elapsed) := rig.episode_eq elapsed
  have hnext : next.pacer = rig.pacer.after elapsed := by
    simp only [next, serve, Pacer.update_eq]
  have ticks : (rig.pacer.agenda elapsed).count .tick = due := rig.pacer.ticks_agenda elapsed
  refine ⟨?_, ?_, ?_, fun fault => ⟨result_eq_error_iff, fun failed => ?_⟩⟩
  · rw [he, Episode.ticks_performAll, ticks]
    exact Nat.zero_add due
  · rw [he, Episode.length_pictures, ticks]
  · rw [hnext]
    exact rig.pacer.owesNoStep_after elapsed
  · obtain ⟨running, halted⟩ := result_eq_error_iff.1 failed
    refine ⟨?_, fun meanwhile elapsed' rest _ => idlesFor_of_halted ?_ elapsed'⟩
    · have found : (start.performAll (rig.pacer.agenda elapsed)).console.machine.status =
          .halted fault := he ▸ halted
      rw [he]
      exact Episode.exists_halting_cycle running (rig.pacer.keys_notMem_agenda elapsed) found
    · have stays := status_serveAll_of_halted halted meanwhile
      refine Machine.isHalted_iff.2 ⟨fault, ?_⟩
      rw [serveAll, List.foldl_append, List.foldl_cons]
      exact stays

/-- A clocked rig with a machine that finds no instruction. -/
def astray : Rig Recorder := ⟨.eachNanosecond, ⟨.new 0, .idle⟩, .empty⟩

/-- **A clocked pacer counts steps and forgets none.**  Once the machine has halted, an
    update is successful and makes no cycle, and yet it leaves the step that was asked for
    counted. -/
theorem step_left_pending :
    Pacer.new 1000000000 false = .ok astray.pacer ∧
      (astray.episodes [.pass 1, .askStep, .pass 1]).map Episode.result =
        [.error (.invalidInstruction 0x0000 0x200), .ok ⟨0, 0⟩] ∧
      (astray.serveAll [.pass 1, .askStep, .pass 1]).pacer.pending = 1 := by
  refine ⟨rfl, ?_, ?_⟩
  · simp only [episodes, serve, Pacer.update_eq]
    decide +kernel
  · simp only [serveAll, List.foldl_cons, List.foldl_nil, serve, Pacer.update_eq]
    decide +kernel

end Rig

end ChipEight
