/-
  Episodes as runs of events.

  * an `Event` is what happens to a console under way, and `perform` is what it
    does to an episode;
  * `tick_console` is what a tick leaves;
  * `performAll_induction`: what every event preserves, episodes preserve;
  * `performAll_eq_followedBy`: an episode that goes on is the episode so far
    followed by one that starts where it stands; counts add up, and what the
    machine does owes nothing to them;
  * `fault_performAll`: the fault of an episode is the one that halted the
    machine during it;
  * `performAll_of_waiting`: a machine that waits for a press waits on;
  * `ticks_performAll`, `cycles_performAll`: ticks are counted one by one, and so
    are the cycles of a machine that does not halt.
-/
import ChipEight.Pace.Pacer
import ChipEight.Proofs.Machine.Step

namespace ChipEight

variable {δ : Type} [Panel δ]

/-! ## Events -/

/-- What happens to a console under way. -/
inductive Event where
  /-- The machine is offered a cycle. -/
  | cycle
  /-- The timers count down, and the panel shows the picture. -/
  | tick
  /-- Someone moves keys or asks for presses, which leaves the keypad as it is
      here. -/
  | keys (keypad : Keypad)
deriving DecidableEq

namespace Episode

/-- What an event does to an episode. -/
def perform (e : Episode δ) : Event → Episode δ
  | .cycle => e.cycle
  | .tick => e.tick
  | .keys keypad => { e with console := { e.console with keypad } }

/-- One event after the other. -/
def performAll (e : Episode δ) (events : List Event) : Episode δ := events.foldl perform e

@[simp] theorem performAll_nil (e : Episode δ) : e.performAll [] = e := rfl

@[simp] theorem performAll_cons (e : Episode δ) (event : Event) (later : List Event) :
    e.performAll (event :: later) = (e.perform event).performAll later := rfl

@[simp] theorem performAll_append (e : Episode δ) (earlier later : List Event) :
    e.performAll (earlier ++ later) = (e.performAll earlier).performAll later :=
  List.foldl_append

/-- What every event preserves, episodes preserve. -/
theorem performAll_induction {P : Episode δ → Prop} (step : ∀ e event, P e → P (e.perform event))
    {e : Episode δ} (h : P e) (events : List Event) : P (e.performAll events) := by
  induction events generalizing e with
  | nil => exact h
  | cons event later ih => exact ih (step e event h)

/-- Repeating an event is performing copies of it. -/
theorem repeat_perform (e : Episode δ) (event : Event) (n : Nat) :
    Nat.repeat (perform · event) n e = e.performAll (List.replicate n event) := by
  induction n with
  | zero => rfl
  | succ n ih => rw [Nat.repeat, ih, List.replicate_succ', performAll_append]; rfl

/-- No cycle among the events carries out an instruction of a kind. -/
def Avoids (kind : Instruction → Prop) (e : Episode δ) : List Event → Prop
  | [] => True
  | event :: later =>
    (event = .cycle → ∀ i, e.console.upcoming = some i → ¬ kind i) ∧
      (e.perform event).Avoids kind later

/-! ## Signals -/

@[simp] theorem send_console (e : Episode δ) (signal : Signal) :
    (e.send signal).console = e.console := rfl

@[simp] theorem send_report (e : Episode δ) (signal : Signal) :
    (e.send signal).report = e.report := rfl

@[simp] theorem send_fault (e : Episode δ) (signal : Signal) :
    (e.send signal).fault = e.fault := rfl

theorem signalBuzzer_of_none {e : Episode δ} {machine : Machine}
    (h : e.console.machine.buzzerChange = (none, machine)) : e.signalBuzzer = e := by
  rw [signalBuzzer, h]

theorem signalBuzzer_of_some {e : Episode δ} {machine : Machine} {on : Bool}
    (h : e.console.machine.buzzerChange = (some on, machine)) :
    e.signalBuzzer = (e.withMachine machine).send (.buzz on) := by
  rw [signalBuzzer, h]

@[simp] theorem signalBuzzer_console (e : Episode δ) :
    e.signalBuzzer.console = { e.console with machine := e.console.machine.buzzerChange.2 } := by
  unfold signalBuzzer
  split
  · next h => rw [send_console, h]; rfl
  · next h => rw [Machine.buzzerChange_of_none (congrArg Prod.fst h)]

@[simp] theorem signalBuzzer_report (e : Episode δ) : e.signalBuzzer.report = e.report := by
  unfold signalBuzzer; split <;> rfl

@[simp] theorem signalBuzzer_fault (e : Episode δ) : e.signalBuzzer.fault = e.fault := by
  unfold signalBuzzer; split <;> rfl

/-! ## A cycle and a tick -/

section
variable {e : Episode δ} {after : Console}

theorem cycle_of_halted (h : e.console.machine.isHalted = true) : e.cycle = e := if_pos h

theorem cycle_of_error {fault : Fault} (h : e.console.step = (.error fault, after)) :
    e.cycle =
      { e with console := after, fault := some fault }.send
        (.halt after.machine.registers.pc fault) := by
  have running := (Console.step_error h).2
  simp [cycle, running, h]

theorem cycle_of_ok {effect : Effect} (running : e.console.machine.isHalted = false)
    (h : e.console.step = (.ok effect, after)) :
    e.cycle =
      let e := { e with console := after, report.cycles := e.report.cycles + 1 }
      (if effect = .cleared then e.send .clear else e).signalBuzzer := by
  simp [cycle, running, h]

/-- A cycle that succeeds leaves what the step does, with the buzzer reported. -/
theorem cycle_of_ok_fields {effect : Effect} (running : e.console.machine.isHalted = false)
    (h : e.console.step = (.ok effect, after)) :
    e.cycle.console = { after with machine := after.machine.buzzerChange.2 } ∧
      e.cycle.report = { e.report with cycles := e.report.cycles + 1 } ∧
      e.cycle.fault = e.fault := by
  rw [cycle_of_ok running h]
  dsimp only
  split <;> simp

end

theorem tick_console (e : Episode δ) :
    e.tick.console = { e.console with machine := e.console.machine.tick.buzzerChange.2 } := by
  simp [tick, withMachine]

@[simp] theorem tick_report (e : Episode δ) :
    e.tick.report = { e.report with ticks := e.report.ticks + 1 } := by
  simp [tick, withMachine]

@[simp] theorem tick_fault (e : Episode δ) : e.tick.fault = e.fault := by
  simp [tick, withMachine]

/-- A cycle counts no tick. -/
theorem ticks_cycle (e : Episode δ) : e.cycle.report.ticks = e.report.ticks := by
  obtain halted | ⟨fault, after, step⟩ | ⟨effect, after, running, step⟩ := e.console.step_cases
  · rw [cycle_of_halted halted]
  · rw [cycle_of_error step, send_report]
  · rw [(cycle_of_ok_fields running step).2.1]

/-- A cycle moves no key. -/
theorem down_cycle (e : Episode δ) : e.cycle.console.keypad.down = e.console.keypad.down := by
  obtain halted | ⟨fault, after, step⟩ | ⟨effect, after, running, step⟩ := e.console.step_cases
  · rw [cycle_of_halted halted]
  · rw [cycle_of_error step]
    exact Console.down_step step
  · have same : after.keypad.down = e.console.keypad.down := Console.down_step step
    rw [(cycle_of_ok_fields running step).1, same]

/-- The fault of an episode stays that of its machine. -/
theorem fault_perform {e : Episode δ} (agrees : e.fault = e.console.machine.fault?)
    (event : Event) : (e.perform event).fault = (e.perform event).console.machine.fault? := by
  cases event with
  | keys => exact agrees
  | tick => rw [perform, tick_fault, tick_console, agrees]; rfl
  | cycle =>
    rw [perform]
    obtain halted | ⟨fault, after, step⟩ | ⟨effect, after, running, step⟩ := e.console.step_cases
    · rw [cycle_of_halted halted, agrees]
    · rw [cycle_of_error step]
      exact (Machine.fault?_eq_some.2 (Console.step_error step).1).symm
    · have still := Machine.fault?_eq_none.2 (Console.step_ok step running).2
      obtain ⟨console, -, fault⟩ := cycle_of_ok_fields running step
      rw [fault, console, agrees, Machine.fault?_eq_none.2 running]
      exact still.symm

/-- An episode whose machine has halted has its fault already. -/
theorem perform_of_halted {e : Episode δ} (h : e.console.machine.isHalted = true) (event : Event) :
    (e.perform event).console.machine.isHalted = true ∧ (e.perform event).fault = e.fault := by
  cases event with
  | cycle => rw [perform, cycle_of_halted h]; exact ⟨h, rfl⟩
  | tick => rw [perform, tick_console, tick_fault]; exact ⟨h, rfl⟩
  | keys => exact ⟨h, rfl⟩

/-- A halted machine stays so, and no fault is added. -/
theorem performAll_of_halted {e : Episode δ} (h : e.console.machine.isHalted = true)
    (events : List Event) :
    (e.performAll events).console.machine.isHalted = true ∧
      (e.performAll events).fault = e.fault := by
  refine performAll_induction (P := fun e' => e'.console.machine.isHalted = true ∧
    e'.fault = e.fault) ?_ ⟨h, rfl⟩ events
  rintro e' event ⟨halted, same⟩
  obtain ⟨stays, kept⟩ := perform_of_halted halted event
  exact ⟨stays, kept.trans same⟩

/-- A machine that waits for a press waits on, as long as its keys are left
    alone. -/
theorem performAll_of_waiting {e : Episode δ} {x : Register} {events : List Event}
    (status : e.console.machine.status = .waiting x) (press : e.console.keypad.poll = none)
    (paced : ∀ keypad, .keys keypad ∉ events) :
    (e.performAll events).console.machine.status = .waiting x ∧
      ∀ kind, e.Avoids kind events := by
  induction events generalizing e with
  | nil => exact ⟨status, fun _ => trivial⟩
  | cons event later ih =>
    have idle : e.console.upcoming = none := by simp [Console.upcoming, status]
    have stays : (e.perform event).console.machine.status = .waiting x ∧
        (e.perform event).console.keypad.poll = none := by
      cases event with
      | keys keypad => exact absurd (List.mem_cons_self ..) (paced keypad)
      | tick => rw [perform, tick_console]; exact ⟨status, press⟩
      | cycle =>
        have running : e.console.machine.isHalted = false := by simp [Machine.isHalted, status]
        have step := (Console.StepsTo.waits status press).step_eq
        rw [perform, (cycle_of_ok_fields running step).1]
        exact ⟨status, press⟩
    obtain ⟨waits, avoids⟩ := ih stays.1 stays.2 fun keypad h =>
      paced keypad (List.mem_cons_of_mem _ h)
    refine ⟨waits, fun kind => ⟨fun _ i h => ?_, avoids kind⟩⟩
    rw [idle] at h
    cases h

/-- Keys stay as they are, as long as no one moves them. -/
theorem down_performAll {e : Episode δ} {events : List Event}
    (paced : ∀ keypad, .keys keypad ∉ events) :
    (e.performAll events).console.keypad.down = e.console.keypad.down := by
  induction events generalizing e with
  | nil => rfl
  | cons event later ih =>
    have same : (e.perform event).console.keypad.down = e.console.keypad.down := by
      cases event with
      | cycle => exact e.down_cycle
      | tick => rw [perform, tick_console]
      | keys keypad => exact absurd (List.mem_cons_self ..) (paced keypad)
    rw [performAll_cons, ← same]
    exact ih fun keypad inside => paced keypad (List.mem_cons_of_mem _ inside)

/-! ## Episodes in parts -/

instance : Add Report := ⟨fun r s => ⟨r.cycles + s.cycles, r.ticks + s.ticks⟩⟩

omit [Panel δ] in
/-- An episode that goes on as another one did. -/
def followedBy (e later : Episode δ) : Episode δ :=
  ⟨later.console, later.panel, e.report + later.report, later.fault.or e.fault⟩

omit [Panel δ] in
theorem followedBy_start (e : Episode δ) : e.followedBy (start e.console e.panel) = e := rfl

theorem signalBuzzer_followedBy (e later : Episode δ) :
    (e.followedBy later).signalBuzzer = e.followedBy later.signalBuzzer := by
  rcases h : later.console.machine.buzzerChange with ⟨_ | on, machine⟩
  · have h' : (e.followedBy later).console.machine.buzzerChange = (none, machine) := h
    rw [signalBuzzer_of_none h, signalBuzzer_of_none h']
  · have h' : (e.followedBy later).console.machine.buzzerChange = (some on, machine) := h
    rw [signalBuzzer_of_some h, signalBuzzer_of_some h']
    rfl

theorem cycle_followedBy (e later : Episode δ) :
    (e.followedBy later).cycle = e.followedBy later.cycle := by
  have same : (e.followedBy later).console = later.console := rfl
  obtain halted | ⟨fault, after, step⟩ | ⟨effect, after, running, step⟩ := later.console.step_cases
  · rw [cycle_of_halted halted, cycle_of_halted (same ▸ halted)]
  · rw [cycle_of_error step, cycle_of_error (same ▸ step)]
    rfl
  · rw [cycle_of_ok running step, cycle_of_ok (same ▸ running) (same ▸ step)]
    dsimp only
    rw [← signalBuzzer_followedBy]
    congr 1
    split <;> rfl

theorem tick_followedBy (e later : Episode δ) :
    (e.followedBy later).tick = e.followedBy later.tick :=
  congrArg (fun e : Episode δ => e.send (.draw e.console.machine.screen))
    (e.signalBuzzer_followedBy { later.withMachine later.console.machine.tick with
      report.ticks := later.report.ticks + 1 })

/-- **What an episode did before has no influence on how it goes on.** -/
theorem performAll_followedBy (e later : Episode δ) (events : List Event) :
    (e.followedBy later).performAll events = e.followedBy (later.performAll events) := by
  induction events generalizing later with
  | nil => rfl
  | cons event events ih =>
    have h : (e.followedBy later).perform event = e.followedBy (later.perform event) := by
      cases event with
      | cycle => exact e.cycle_followedBy later
      | tick => exact e.tick_followedBy later
      | keys => rfl
    rw [performAll_cons, h, ih, performAll_cons]

/-- An episode that goes on is followed by one that starts where it stands. -/
theorem performAll_eq_followedBy (e : Episode δ) (events : List Event) :
    e.performAll events = e.followedBy ((start e.console e.panel).performAll events) := by
  rw [← performAll_followedBy, followedBy_start]

/-! ## The fault of an episode -/

/-- **A fault is that of the machine.**  An episode that starts with a machine
    that has not halted has the fault that has halted it since, and one that
    starts with a halted machine has none. -/
theorem fault_performAll (console : Console) (panel : δ) (events : List Event) :
    ((start console panel).performAll events).fault =
      if console.machine.isHalted then none
      else ((start console panel).performAll events).console.machine.fault? := by
  cases halted : console.machine.isHalted with
  | true => exact (performAll_of_halted (e := start console panel) halted events).2
  | false =>
    have agrees : none = console.machine.fault? := (Machine.fault?_eq_none.2 halted).symm
    exact performAll_induction (P := fun e => e.fault = e.console.machine.fault?)
      (fun _ event agrees => fault_perform agrees event) agrees events

/-! ## Counts -/

theorem ticks_performAll (e : Episode δ) (events : List Event) :
    (e.performAll events).report.ticks = e.report.ticks + events.count .tick := by
  induction events generalizing e with
  | nil => rfl
  | cons event events ih =>
    rw [performAll_cons, ih]
    cases event with
    | cycle => rw [perform, ticks_cycle]; simp
    | tick => rw [perform, tick_report]; simp; omega
    | keys => simp [perform]

/-- A machine that has not halted in the end has made every cycle it was
    offered. -/
theorem cycles_performAll {e : Episode δ} {events : List Event}
    (h : (e.performAll events).console.machine.isHalted = false) :
    (e.performAll events).report.cycles = e.report.cycles + events.count .cycle := by
  induction events generalizing e with
  | nil => rfl
  | cons event events ih =>
    have counts := ih h
    have next : (e.perform event).console.machine.isHalted = false := by
      rw [Bool.eq_false_iff]
      intro halted
      rw [performAll_cons, (performAll_of_halted halted events).1] at h
      exact absurd h (by simp)
    rw [performAll_cons, counts]
    cases event with
    | tick => rw [perform, tick_report]; simp
    | keys => simp [perform]
    | cycle =>
      have made : e.cycle.report.cycles = e.report.cycles + 1 := by
        obtain halted | ⟨fault, after, step⟩ | ⟨effect, after, running, step⟩ := e.console.step_cases
        · rw [perform, cycle_of_halted halted, halted] at next
          exact absurd next (by simp)
        · have stopped := Machine.isHalted_iff.2 ⟨fault, (Console.step_error step).1⟩
          rw [perform, cycle_of_error step, send_console, stopped] at next
          exact absurd next (by simp)
        · rw [(cycle_of_ok_fields running step).2.1]
      rw [perform, made, List.count_cons_self]
      omega

end Episode

end ChipEight
