/-
  Updates refine plain runs.

  Cycles and ticks interleave in an update, and a plain run of the console makes
  steps and nothing else.  Unless the program looks at the delay timer, nobody
  can tell them apart by anything but the timers: an update that offers `n`
  cycles leaves what a run of `n` steps leaves, and has the same fault, if any
  (`Pacer.update_refines_run`).
-/
import ChipEight.Proofs.Machine.Untimed
import ChipEight.Proofs.Pace.Timeline

namespace ChipEight

/-! ## Episodes without the timers -/

namespace Episode
variable {δ : Type} [Panel δ] {e : Episode δ}

theorem tick_untimed (e : Episode δ) : e.tick.console.untimed = e.console.untimed := by
  rw [tick_console]
  rfl

/-- A halted machine keeps all but its timers, as long as its keys are left
    alone. -/
theorem performAll_untimed_of_halted {events : List Event}
    (halted : e.console.machine.isHalted = true) (paced : ∀ keypad, .keys keypad ∉ events) :
    (e.performAll events).console.untimed = e.console.untimed := by
  induction events generalizing e with
  | nil => rfl
  | cons event later ih =>
    have stays := (perform_of_halted halted event).1
    rw [performAll_cons, ih stays fun keypad h => paced keypad (List.mem_cons_of_mem _ h)]
    cases event with
    | cycle => rw [perform, cycle_of_halted halted]
    | tick => exact e.tick_untimed
    | keys keypad => exact absurd (List.mem_cons_self ..) (paced keypad)

/-- **An episode simulates a run** of as many steps as it has cycles, from a
    console that differs in nothing but the timers. -/
theorem performAll_runFrom {d : Console} {events : List Event}
    (alike : e.console.untimed = d.untimed) (avoids : e.Avoids Instruction.ReadsDelay events)
    (paced : ∀ keypad, .keys keypad ∉ events) (clean : e.fault = none) (last : Effect) :
    (e.performAll events).console.untimed = (d.runFrom last (events.count .cycle)).2.untimed ∧
      ∀ fault, (e.performAll events).fault = some fault ↔
        (d.runFrom last (events.count .cycle)).1 = .error fault := by
  induction events generalizing e d last with
  | nil => exact ⟨alike, fun fault => by simp [Console.runFrom, clean]⟩
  | cons event later ih =>
    have pacedLater : ∀ keypad, .keys keypad ∉ later :=
      fun keypad h => paced keypad (List.mem_cons_of_mem _ h)
    cases event with
    | keys keypad => exact absurd (List.mem_cons_self ..) (paced keypad)
    | tick =>
      have clean' : e.tick.fault = none := by rw [tick_fault, clean]
      have count : (Event.tick :: later).count .cycle = later.count .cycle := by simp
      rw [performAll_cons, count]
      exact ih (e.tick_untimed.trans alike) avoids.2 pacedLater clean' last
    | cycle =>
      have status : e.console.machine.isHalted = d.machine.isHalted :=
        congrArg (fun c => c.machine.isHalted) alike
      rw [performAll_cons, List.count_cons_self, perform]
      obtain halted | ⟨fault, after, step⟩ | ⟨effect, after, running, step⟩ := e.console.step_cases
      · rw [cycle_of_halted halted, Console.runFrom_of_halted (status ▸ halted)]
        have none := (performAll_of_halted halted later).2.trans clean
        have same := performAll_untimed_of_halted halted pacedLater
        exact ⟨same.trans alike, fun _ => by simp [none]⟩
      · -- the run ends here, and the episode goes on with ticks alone
        obtain ⟨after', step', same⟩ := Console.step_of_untimed_eq alike (avoids.1 rfl) step
        have stopped : e.cycle.console.machine.isHalted = true := by
          rw [cycle_of_error step]
          exact Machine.isHalted_iff.2 ⟨fault, (Console.step_error step).1⟩
        rw [Console.runFrom_of_error step', performAll_untimed_of_halted stopped pacedLater,
          (performAll_of_halted stopped later).2, cycle_of_error step]
        exact ⟨same.symm, fun _ => by simp⟩
      · obtain ⟨after', step', same⟩ := Console.step_of_untimed_eq alike (avoids.1 rfl) step
        obtain ⟨console, -, fault⟩ := cycle_of_ok_fields running step
        rw [Console.runFrom_of_ok (status ▸ running) step']
        refine ih ?_ avoids.2 pacedLater (fault.trans clean) effect
        rw [perform, console, same]
        rfl

end Episode

/-! ## Updates -/

/-- The number of cycles that an update offers. -/
def Pacer.offered (p : Pacer) (elapsed : Nat) : Nat :=
  if p.isStepped then p.pending else (p.cycles.advance elapsed).1

theorem Pacer.cycles_agenda (p : Pacer) (elapsed : Nat) :
    (p.agenda elapsed).count .cycle = p.offered elapsed := by
  unfold agenda offered
  split
  · simp [List.count_replicate]
  · exact p.cycles_timeline elapsed

/-- **Updates refine plain runs.** -/
theorem Pacer.update_refines_run {δ : Type} [Panel δ] (p : Pacer) (console : Console) (panel : δ)
    (elapsed : Nat)
    (avoids : (Episode.start console panel).Avoids Instruction.ReadsDelay (p.agenda elapsed)) :
    let updated := (p.update console panel elapsed).2
    let plain := console.run (p.offered elapsed)
    updated.console.SameBesidesTimers plain.2 ∧
      ∀ fault, updated.result = .error fault ↔ plain.1 = .error fault := by
  intro updated plain
  have hupdated : updated = (Episode.start console panel).performAll (p.agenda elapsed) :=
    congrArg Prod.snd (p.update_eq console panel elapsed)
  obtain ⟨alike, faults⟩ := Episode.performAll_runFrom (e := Episode.start console panel) rfl avoids
    (p.keys_notMem_agenda elapsed) rfl .plain
  rw [cycles_agenda, ← hupdated] at alike faults
  refine ⟨Console.sameBesidesTimers_of_untimed alike, fun fault => ?_⟩
  refine Iff.trans ?_ (faults fault)
  unfold Episode.result
  cases updated.fault <;> simp

/-- A pacer of a cycle a nanosecond whose next tick is a nanosecond ahead. -/
def Pacer.nearTick : Pacer where
  cycles := .new 1000000000 (by decide)
  ticks := ⟨60, 999999960, by decide, by decide⟩
  isStepped := false
  pending := 0

/-- A program that loads a register, sets the delay timer to it, and comes to a
    word that is no instruction. -/
def Console.loadsAndFaults : Console :=
  ⟨{ Machine.new 0 with
      memory := Memory.zeros.overwrite programStart [0x60, 0x05, 0xF0, 0x15, 0xFF, 0xFF] }, .idle⟩

/-- An update of three cycles and a tick comes to the fault that a run of three
    steps comes to. -/
theorem Pacer.update_refines_run_of_fault :
    let e := Episode.start Console.loadsAndFaults Recorder.empty
    let updated := (Pacer.nearTick.update Console.loadsAndFaults Recorder.empty 3).2
    let plain := Console.loadsAndFaults.run 3
    e.Avoids Instruction.ReadsDelay (Pacer.nearTick.agenda 3) ∧
      updated.console.SameBesidesTimers plain.2 ∧
      ∀ fault, updated.result = .error fault ↔ plain.1 = .error fault := by
  intro e updated plain
  have agenda : Pacer.nearTick.agenda 3 = [.cycle, .tick, .cycle, .cycle] := by decide
  have first : e.console.upcoming = some (.loadByte 0 5) := by decide +kernel
  have second : ((e.perform .cycle).perform .tick).console.upcoming = some (.setDelay 0) := by
    decide +kernel
  have third : (((e.perform .cycle).perform .tick).perform .cycle).console.upcoming = none := by
    decide +kernel
  have avoids : e.Avoids Instruction.ReadsDelay (Pacer.nearTick.agenda 3) := by
    rw [agenda]
    refine ⟨fun _ i h => ?_, nofun, fun _ i h => ?_, fun _ i h => ?_, trivial⟩
    · obtain rfl := Option.some.inj (first.symm.trans h)
      exact id
    · obtain rfl := Option.some.inj (second.symm.trans h)
      exact id
    · exact absurd (third.symm.trans h) (by simp)
  exact ⟨avoids, Pacer.update_refines_run _ _ _ _ avoids⟩

end ChipEight
