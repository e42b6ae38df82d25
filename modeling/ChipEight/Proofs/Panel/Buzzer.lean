/-
  What a speaker hears.

  A recorder beside the panel is a speaker that keeps the calls it receives.

  * `Episode.changes` are the changes of the buzzer, on or off, that events bring
    about, and `buzzes_performAll`: as long as the machine remembers what the
    buzzer does, each of them is heard once, and nothing else;
  * `isChain_changes` and `getLast_changes`: changes alternate, and the last one is
    what the buzzer does;
  * `Rig.buzzer_heard`: so it is on a rig with a program that was just installed, and
    `Rig.restart_not_heard`: a restart is not heard if the buzzer is on.
-/
import ChipEight.Proofs.Machine.Hidden
import ChipEight.Proofs.Machine.Loading
import ChipEight.Proofs.Pace.History
import ChipEight.Proofs.Pace.Refinement
import ChipEight.Proofs.Panel.Recorder

namespace ChipEight

variable {δ : Type}

/-- The call of the speaker that a signal is. -/
def Signal.buzz? : Signal → Option Bool
  | .buzz on => some on
  | _ => none

/-- The calls of the speaker, the earliest first. -/
def Recorder.buzzes (recorder : Recorder) : List Bool :=
  recorder.signals.toList.filterMap Signal.buzz?

/-! ## The timers under way -/

/-- A change is reported and remembered. -/
theorem Timers.buzzerChange_eq (t : Timers) :
    t.buzzerChange =
      (if t.buzzing = t.reported then none else some t.buzzing,
        { t with reported := t.buzzing }) := by
  unfold buzzerChange
  split
  · next same => rw [same]
  · rfl

namespace Episode

/-- The buzzer sounds. -/
def buzzing (e : Episode δ) : Bool := e.console.machine.timers.buzzing

/-- What was reported last. -/
def reported (e : Episode δ) : Bool := e.console.machine.timers.reported

variable [Panel δ]

/-- The changes of the buzzer that events bring about, the earliest first. -/
def changes : Episode δ → List Event → List Bool
  | _, [] => []
  | e, event :: later =>
    (if (e.perform event).buzzing = e.buzzing then [] else [(e.perform event).buzzing]) ++
      (e.perform event).changes later

theorem timers_signalBuzzer (e : Episode δ) :
    e.signalBuzzer.console.machine.timers =
      { e.console.machine.timers with reported := e.buzzing } := by
  rw [signalBuzzer_console]
  exact congrArg Prod.snd (Timers.buzzerChange_eq _)

theorem buzzing_signalBuzzer (e : Episode δ) : e.signalBuzzer.buzzing = e.buzzing := by
  rw [buzzing, timers_signalBuzzer]
  rfl

theorem reported_signalBuzzer (e : Episode δ) : e.signalBuzzer.reported = e.buzzing := by
  rw [reported, timers_signalBuzzer]

end Episode

/-! ## What is heard -/

namespace Episode

variable [Panel δ]

/-- The calls that the speaker of an episode has received. -/
def buzzes (e : Episode (δ × Recorder)) : List Bool := e.panel.2.buzzes

theorem buzzes_send (e : Episode (δ × Recorder)) (signal : Signal) :
    (e.send signal).buzzes = e.buzzes ++ signal.buzz?.toList :=
  e.filterMap_send Signal.buzz? signal

/-- The speaker is told what differs from what was reported. -/
theorem buzzes_signalBuzzer (e : Episode (δ × Recorder)) :
    e.signalBuzzer.buzzes =
      e.buzzes ++ if e.buzzing = e.reported then [] else [e.buzzing] := by
  have change : e.console.machine.buzzerChange.1 =
      if e.buzzing = e.reported then none else some e.buzzing :=
    congrArg Prod.fst (Timers.buzzerChange_eq _)
  split
  · next same =>
    rw [if_pos same] at change
    rw [signalBuzzer_of_none (Prod.ext change rfl), List.append_nil]
  · next differs =>
    rw [if_neg differs] at change
    rw [signalBuzzer_of_some (Prod.ext change rfl), buzzes_send]
    rfl

/-- What was reported is what the buzzer does, and from one episode to the other the
    speaker has been told of the change, if there is one. -/
structure Tells (e later : Episode (δ × Recorder)) : Prop where
  reported : later.reported = later.buzzing
  buzzes : later.buzzes = e.buzzes ++ if later.buzzing = e.buzzing then [] else [later.buzzing]

theorem tells_signalBuzzer {e now : Episode (δ × Recorder)} (h : e.reported = e.buzzing)
    (reported : now.reported = e.reported) (buzzes : now.buzzes = e.buzzes) :
    e.Tells now.signalBuzzer where
  reported := by rw [reported_signalBuzzer, buzzing_signalBuzzer]
  buzzes := by rw [buzzes_signalBuzzer, buzzing_signalBuzzer, buzzes, reported, h]

omit [Panel δ] in
/-- There is nothing to tell if the timers stay as they are. -/
theorem tells_of_timers {e now : Episode (δ × Recorder)} (h : e.reported = e.buzzing)
    (timers : now.console.machine.timers = e.console.machine.timers)
    (buzzes : now.buzzes = e.buzzes) : e.Tells now := by
  have buzzing : now.buzzing = e.buzzing := congrArg Timers.buzzing timers
  have reported : now.reported = e.reported := congrArg Timers.reported timers
  exact ⟨by rw [reported, h, buzzing], by rw [buzzes, if_pos buzzing, List.append_nil]⟩

/-- **An event tells the speaker** of the change that it brings about. -/
theorem tells_perform {e : Episode (δ × Recorder)} (h : e.reported = e.buzzing) (event : Event) :
    e.Tells (e.perform event) := by
  cases event with
  | keys => exact tells_of_timers h rfl rfl
  | tick =>
    have told : e.Tells ({ e.withMachine e.console.machine.tick with
        report.ticks := e.report.ticks + 1 } : Episode (δ × Recorder)).signalBuzzer :=
      tells_signalBuzzer h rfl rfl
    refine ⟨told.reported, ?_⟩
    rw [perform, tick, buzzes_send]
    exact (List.append_nil _).trans told.buzzes
  | cycle =>
    rw [perform]
    obtain halted | ⟨fault, after, step⟩ | ⟨effect, after, running, step⟩ := e.console.step_cases
    · rw [cycle_of_halted halted]
      exact tells_of_timers h rfl rfl
    · rw [cycle_of_error step]
      exact tells_of_timers h (Console.timers_of_error step)
        ((buzzes_send _ _).trans (List.append_nil _))
    · rw [cycle_of_ok running step]
      refine tells_signalBuzzer h ?_ ?_
      · split <;> exact Console.reported_step step
      · split
        · exact (buzzes_send _ .clear).trans (List.append_nil _)
        · rfl

/-! ## Runs -/

/-- **Changes alternate**, beginning with what the buzzer does. -/
theorem isChain_changes (e : Episode δ) (events : List Event) :
    (e.buzzing :: e.changes events).IsChain (· ≠ ·) := by
  induction events generalizing e with
  | nil => exact .singleton _
  | cons event later ih =>
    have rest := ih (e.perform event)
    rw [changes]
    split
    · next same => rwa [same] at rest
    · next differs => exact List.isChain_cons_cons.2 ⟨Ne.symm differs, rest⟩

/-- **The last change** is what the buzzer does. -/
theorem getLastD_changes (e : Episode δ) (events : List Event) :
    (e.changes events).getLastD e.buzzing = (e.performAll events).buzzing := by
  induction events generalizing e with
  | nil => rfl
  | cons event later ih =>
    have rest := ih (e.perform event)
    rw [changes, performAll_cons]
    split
    · next same => rwa [same] at rest
    · rwa [List.singleton_append, List.getLastD_cons]

/-- **The speaker hears the changes**, and nothing else. -/
theorem buzzes_performAll {e : Episode (δ × Recorder)} (h : e.reported = e.buzzing)
    (events : List Event) :
    (e.performAll events).buzzes = e.buzzes ++ e.changes events := by
  induction events generalizing e with
  | nil => exact (List.append_nil _).symm
  | cons event later ih =>
    obtain ⟨reported, buzzes⟩ := tells_perform h event
    rw [performAll_cons, ih reported, buzzes, changes, List.append_assoc]

end Episode

namespace Rig

variable [Panel δ]

/-- **From silence on**, the speaker of a rig hears the changes of the buzzer. -/
theorem heard_of_initial {r : Rig (δ × Recorder)} (silent : r.console.machine.timers = .initial)
    (acts : List Act) :
    let calls := (Episode.start r.console r.panel).changes (r.pacer.chronicle acts)
    (r.serveAll acts).panel.2.buzzes = r.panel.2.buzzes ++ calls ∧
      (false :: calls).IsChain (· ≠ ·) ∧
      calls.getLastD false = (r.serveAll acts).console.machine.timers.buzzing := by
  intro calls
  obtain ⟨console, panel⟩ := r.serveAll_eq acts
  have timers : (Episode.start r.console r.panel).console.machine.timers = .initial := silent
  have quiet : (Episode.start r.console r.panel).buzzing = false := by
    rw [Episode.buzzing, timers]
    rfl
  refine ⟨?_, ?_, ?_⟩
  · rw [panel]
    exact Episode.buzzes_performAll (by rw [quiet, Episode.reported, timers]; rfl) _
  · rw [← quiet]
    exact Episode.isChain_changes _ _
  · rw [console, ← quiet]
    exact Episode.getLastD_changes _ _

/-- **The speaker hears the buzzer.**  On a machine with a program that was just
    installed, whatever time passes, whichever steps are asked for and whichever keys
    are moved, the speaker receives one call for each change of the buzzer that a
    cycle or a tick brings about; the calls alternate, beginning with one that
    switches the buzzer on, and the last of them says whether the sound timer
    runs. -/
theorem buzzer_heard {m machine : Machine} {program : List UInt8}
    (installed : (Machine.install program).on m = (.ok (), machine)) (p : Pacer)
    (keypad : Keypad) (panel : δ) (acts : List Act) :
    let start := Episode.start ⟨machine, keypad⟩ (panel, Recorder.empty)
    let final := (Rig.mk p ⟨machine, keypad⟩ (panel, Recorder.empty)).serveAll acts
    let calls := final.panel.2.buzzes
    final.console = (start.performAll (p.chronicle acts)).console ∧
      calls = start.changes (p.chronicle acts) ∧
      (false :: calls).IsChain (· ≠ ·) ∧
      calls.getLastD false = (final.console.machine.timers.sound != 0) := by
  intro start final calls
  have silent : machine.timers = .initial := Machine.timers_install installed
  obtain ⟨heard, alternate, last⟩ :=
    heard_of_initial (r := ⟨p, ⟨machine, keypad⟩, (panel, Recorder.empty)⟩) silent acts
  have same : calls = start.changes (p.chronicle acts) := heard
  rw [same]
  exact ⟨(serveAll_eq _ acts).1, rfl, alternate, last⟩

/-- A program that sets the sound timer and stops it at once. -/
def beep : List UInt8 := [0x60, 0x01, 0xF0, 0x18, 0x60, 0x00, 0xF0, 0x18]

/-- Both calls are heard, though they come in one update. -/
theorem beep_heard :
    ∃ machine, (Machine.install beep).on (Machine.new 0) = (.ok (), machine) ∧
      let rig := Rig.mk Pacer.nearTick ⟨machine, .idle⟩ (Recorder.empty, Recorder.empty)
      let final := rig.serveAll [.pass 5]
      final.panel.2.buzzes = [true, false] ∧ final.console.machine.timers.sound = 0 := by
  have fits : beep.length ≤ maxProgramSize := by decide
  have installed := Machine.install_of_fits fits (Machine.new 0)
  refine ⟨_, installed, ?_⟩
  intro rig final
  obtain ⟨-, calls, -, last⟩ :=
    buzzer_heard installed Pacer.nearTick .idle Recorder.empty [.pass 5]
  have events : Pacer.nearTick.chronicle [.pass 5] =
      [.cycle, .tick, .cycle, .cycle, .cycle, .cycle] := by decide
  have heard : final.panel.2.buzzes = [true, false] := by
    refine calls.trans ?_
    rw [events]
    decide +kernel
  have stopped : false = (final.console.machine.timers.sound != 0) := by
    rw [← last]
    exact (congrArg (·.getLastD false) heard).symm
  exact ⟨heard, by simpa using stopped⟩

end Rig

/-! ## Restarts -/

/-- A program is put at its beginning: the one in memory, or a new one. -/
inductive Machine.Restarts (m : Machine) : Machine → Prop
  | reset : Restarts m m.reset
  | install {program : List UInt8} {machine : Machine}
      (installed : (Machine.install program).on m = (.ok (), machine)) : Restarts m machine

theorem Machine.Restarts.timers {m machine : Machine} (h : m.Restarts machine) :
    machine.timers = .initial := by
  cases h with
  | reset => rfl
  | install installed => exact timers_install installed

namespace Rig

variable [Panel δ]

/-- **A restart is not heard.**  The machine forgets that the buzzer was switched on,
    and the speaker is not told.  So either it receives no call from then on, and its
    last one is still the one that switched it on, while the sound timer stands; or
    the next call switches it on a second time, and only then do the calls follow the
    sound timer again. -/
theorem restart_not_heard {r : Rig (δ × Recorder)} {machine : Machine}
    (restart : r.console.machine.Restarts machine)
    (on : r.panel.2.buzzes.getLast? = some true) (acts : List Act) :
    let final := (Rig.mk r.pacer ⟨machine, r.console.keypad⟩ r.panel).serveAll acts
    let calls := final.panel.2.buzzes
    let sound := final.console.machine.timers.sound
    calls = r.panel.2.buzzes ∧ calls.getLast? = some true ∧ sound = 0 ∨
      ∃ more, calls = r.panel.2.buzzes ++ true :: more ∧
        (true :: more).getLastD false = (sound != 0) := by
  intro final calls sound
  obtain ⟨heard, alternate, last⟩ :=
    heard_of_initial (r := ⟨r.pacer, ⟨machine, r.console.keypad⟩, r.panel⟩) restart.timers acts
  generalize (Episode.start (Console.mk machine r.console.keypad) r.panel).changes
    (r.pacer.chronicle acts) = later at heard alternate last
  cases later with
  | nil =>
    have same : calls = r.panel.2.buzzes := heard.trans (List.append_nil _)
    have stands : false = (sound != 0) := last
    exact .inl ⟨same, same ▸ on, by simpa using stands⟩
  | cons first more =>
    -- the calls after the restart alternate as if the buzzer were off
    have differs : false ≠ first := (List.isChain_cons_cons.1 alternate).1
    obtain rfl : first = true := by simpa using differs.symm
    exact .inr ⟨more, heard, last⟩

/-- A program that sets the sound timer and goes around in a circle. -/
def drone : List UInt8 := [0x60, 0x02, 0xF0, 0x18, 0x12, 0x04]

/-- A rig with this program, at its beginning. -/
def silent : Rig (Recorder × Recorder) :=
  ⟨Pacer.nearTick, ⟨Machine.loaded drone (Machine.new 0).random, .idle⟩, (.empty, .empty)⟩

/-- The rig after an update that switches the buzzer on. -/
def droning : Rig (Recorder × Recorder) := silent.serveAll [.pass 3]

/-- The buzzer stays on after a reset and one more cycle. -/
theorem droning_on :
    let final := (Rig.mk droning.pacer ⟨droning.console.machine.reset, droning.console.keypad⟩
      droning.panel).serveAll [.pass 1]
    final.panel.2.buzzes.getLast? = some true ∧ final.console.machine.timers.sound = 0 := by
  intro final
  have on : droning.panel.2.buzzes = [true] := by
    refine (heard_of_initial rfl [.pass 3]).1.trans ?_
    decide +kernel
  have pacer : droning.pacer = Pacer.nearTick.after 3 :=
    congrArg Prod.fst (Pacer.nearTick.update_eq silent.console silent.panel 3)
  have console : droning.console = (silent.story [.pass 3]).console := (silent.serveAll_eq _).1
  -- a cycle of the program that starts again does not change the buzzer
  have quiet : (Episode.start (Console.mk droning.console.machine.reset droning.console.keypad)
      droning.panel).changes (droning.pacer.chronicle [.pass 1]) = [] := by
    rw [pacer, console]
    decide +kernel
  have kept : final.panel.2.buzzes = [true] := by
    refine (heard_of_initial rfl [.pass 1]).1.trans ?_
    rw [quiet, on]
    rfl
  rcases restart_not_heard (r := droning) .reset (by rw [on]; rfl) [.pass 1] with
    ⟨-, last, stands⟩ | ⟨more, heard, -⟩
  · exact ⟨last, stands⟩
  · have twice := heard.symm.trans kept
    rw [on] at twice
    cases twice

end Rig

end ChipEight
