/-
  Cabinets — machines that are built in with a device.

  A cabinet makes the steps of a console, but it asks its device where a console asks its
  keypad, and its device is told what a panel is told.

  * `Cabinet.step_console`: with a lawful device, a step of a cabinet is one of the console
    that has the device's keypad;
  * a `Stint` is a cabinet under way.  With a panel that its device mirrors it is an
    episode, and its cycles and ticks are those of the episode (`Stint.episode_cycle`,
    `Stint.episode_tick`);
  * `Pacer.run_image`: what cycles and ticks agree on, the loops of a pacer agree on.
-/
import ChipEight.Proofs.Machine.Hidden
import ChipEight.Proofs.Pace.Episode
import ChipEight.Proofs.Panel.Devices

namespace ChipEight

variable {δ ε : Type} [Device δ]

/-! ## Cabinets -/

/-- A machine with its device. -/
structure Cabinet (δ : Type) where
  machine : Machine
  device : δ

namespace Cabinet

/-- The machine with the keypad of its device. -/
def console (c : Cabinet δ) : Console := ⟨c.machine, Device.keypad c.device⟩

/-- Move the program counter past one instruction. -/
def advance (c : Cabinet δ) : Cabinet δ := { c with machine := c.machine.advance }

/-- Stop because of a fault. -/
def halt (c : Cabinet δ) (fault : Fault) : Cabinet δ := { c with machine := c.machine.halt fault }

/-- Carry out an instruction, the program counter being past it already. -/
def execute (c : Cabinet δ) : Instruction → Except Fault Effect × Cabinet δ
  | .skip (.keyDown x) =>
    (.ok .plain, if Device.namesDown c.device (c.machine.get x) then c.advance else c)
  | .skip (.keyUp x) =>
    (.ok .plain, if !Device.namesDown c.device (c.machine.get x) then c.advance else c)
  | .awaitKey x =>
    (.ok .awaiting, ⟨{ c.machine with status := .waiting x }, Device.drain c.device⟩)
  | i =>
    -- the keyboard is not asked, so any keypad will do
    let (result, after) := i.execute.on ⟨c.machine, .idle⟩
    (result, { c with machine := after.machine })

/-- One step of a machine that runs. -/
def stepRunning (c : Cabinet δ) : Except Fault Effect × Cabinet δ :=
  match c.machine.fetchInstruction with
  | .error fault => (.error fault, c.halt fault)
  | .ok i =>
    match c.advance.execute i with
    | (.error fault, after) => (.error fault, after.halt fault)
    | (.ok effect, after) => (.ok effect, after)

/-- One step of a machine that waits for a key. -/
def stepWaiting (c : Cabinet δ) (x : Register) : Effect × Cabinet δ :=
  match Device.poll c.device with
  | (some key, device) =>
    (.plain, ⟨{ c.machine.set x (UInt8.ofNat key.val) with status := .running }, device⟩)
  | (none, device) => (.awaiting, { c with device })

/-- One step. -/
def step (c : Cabinet δ) : Except Fault Effect × Cabinet δ :=
  match c.machine.status with
  | .running => c.stepRunning
  | .waiting x =>
    let (effect, after) := c.stepWaiting x
    (.ok effect, after)
  | .halted _ => (.ok .halted, c)

/-! ### Steps of the console -/

theorem console_advance (c : Cabinet δ) : c.advance.console = c.console.advance := rfl

theorem execute_of_not_asksKeypad {i : Instruction} (h : ¬ i.AsksKeypad) (c : Cabinet δ) :
    c.execute i =
      ((i.execute.on ⟨c.machine, .idle⟩).1,
        { c with machine := (i.execute.on ⟨c.machine, .idle⟩).2.machine }) := by
  cases i with
  | skip test =>
    cases test with
    | keyDown | keyUp => exact absurd trivial h
    | _ => rfl
  | awaitKey => exact absurd trivial h
  | _ => rfl

section
variable [Device.Lawful δ] (c : Cabinet δ)

/-- **An instruction** does to a cabinet what it does to the console. -/
theorem execute_console (i : Instruction) :
    i.execute.on c.console = ((c.execute i).1, (c.execute i).2.console) := by
  by_cases asks : i.AsksKeypad
  · cases i with
    | skip test =>
      rw [Instruction.execute_skip]
      cases test with
      | keyDown x | keyUp x =>
        simp only [execute, Test.holds, Device.namesDown_eq, apply_ite console]
        rfl
      | _ => exact asks.elim
    | awaitKey x =>
      simp only [execute, console, Device.keypad_drain]
      rfl
    | _ => exact asks.elim
  · rw [execute_of_not_asksKeypad asks]
    exact Instruction.execute_withKeypad asks ⟨c.machine, .idle⟩ (Device.keypad c.device)

theorem stepRunning_console :
    c.console.stepRunning = (c.stepRunning.1, c.stepRunning.2.console) := by
  cases fetch : c.machine.fetchInstruction with
  | error fault =>
    have found : c.console.machine.fetchInstruction = .error fault := fetch
    simp only [stepRunning, Console.stepRunning, fetch, Console.executeNext_of_error found]
    rfl
  | ok i =>
    have found : c.console.machine.fetchInstruction = .ok i := fetch
    have execute := c.advance.execute_console i
    simp only [stepRunning, Console.stepRunning, fetch, Console.executeNext_of_ok found,
      ← console_advance, execute]
    rcases c.advance.execute i with ⟨fault | effect, after⟩ <;> rfl

theorem stepWaiting_console (x : Register) :
    c.console.stepWaiting x = ((c.stepWaiting x).1, (c.stepWaiting x).2.console) := by
  have law := Device.Lawful.poll_eq c.device
  rcases answer : Device.poll c.device with ⟨press, device⟩
  rw [answer, Keypad.use] at law
  cases asked : (Device.keypad c.device).poll with
  | none =>
    rw [asked] at law
    obtain ⟨rfl, same⟩ := Prod.mk.inj law
    have none : c.console.keypad.poll = none := asked
    simp only [Console.stepWaiting, stepWaiting, answer, none]
    exact congrArg (fun keypad => (Effect.awaiting, Console.mk c.machine keypad)) same.symm
  | some found =>
    rw [asked] at law
    obtain ⟨rfl, same⟩ := Prod.mk.inj law
    have some : c.console.keypad.poll = some found := asked
    simp only [Console.stepWaiting, stepWaiting, answer, some]
    exact congrArg (fun keypad => (Effect.plain, Console.mk _ keypad)) same.symm

/-- **A step of a cabinet** is a step of its console. -/
theorem step_console : c.console.step = (c.step.1, c.step.2.console) := by
  have status : c.console.machine.status = c.machine.status := rfl
  cases doing : c.machine.status with
  | running =>
    rw [Console.step, status, doing, step, doing]
    exact c.stepRunning_console
  | waiting x =>
    simp only [Console.step, status, doing, step, c.stepWaiting_console x]
  | halted fault => rw [Console.step, status, doing, step, doing]

end

section
variable [Panel ε] {panel : δ → ε} (mirrors : Device.Mirrors panel) (c : Cabinet δ)
include mirrors

theorem panel_execute (i : Instruction) : panel (c.execute i).2.device = panel c.device := by
  unfold execute
  split
  · dsimp only
    split <;> rfl
  · dsimp only
    split <;> rfl
  · exact mirrors.drain c.device
  · rfl

theorem panel_stepRunning : panel c.stepRunning.2.device = panel c.device := by
  unfold stepRunning
  split
  · rfl
  · next i _ =>
    have same := panel_execute mirrors c.advance i
    split
    · next answer => exact (answer ▸ same :)
    · next answer => exact (answer ▸ same :)

theorem panel_stepWaiting (x : Register) : panel (c.stepWaiting x).2.device = panel c.device := by
  have same := mirrors.poll c.device
  unfold stepWaiting
  split
  · next answer => exact (answer ▸ same :)
  · next answer => exact (answer ▸ same :)

/-- **A step does not concern the panel.** -/
theorem panel_step : panel c.step.2.device = panel c.device := by
  unfold step
  split
  · exact panel_stepRunning mirrors c
  · exact panel_stepWaiting mirrors c _
  · rfl

end

end Cabinet

/-! ## Cabinets under way -/

/-- A cabinet under way. -/
structure Stint (δ : Type) where
  cabinet : Cabinet δ
  /-- The cycles and ticks so far. -/
  report : Report
  /-- The fault that occurred last. -/
  fault : Option Fault

namespace Stint

/-- Nothing has happened yet. -/
def start (cabinet : Cabinet δ) : Stint δ := ⟨cabinet, ⟨0, 0⟩, none⟩

/-- The fault, or the counts if there was none. -/
def result (s : Stint δ) : Except Fault Report :=
  match s.fault with
  | some fault => .error fault
  | none => .ok s.report

/-- Tell the device something. -/
def tell (s : Stint δ) (call : δ → δ) : Stint δ :=
  { s with cabinet.device := call s.cabinet.device }

/-- Tell the device of a change of the buzzer. -/
def signalBuzzer (s : Stint δ) : Stint δ :=
  match s.cabinet.machine.buzzerChange with
  | (some on, machine) => { s with cabinet.machine := machine }.tell (Device.buzz on)
  | (none, _) => s

/-- One cycle: a step of the machine, unless it has halted. -/
def cycle (s : Stint δ) : Stint δ :=
  if s.cabinet.machine.isHalted then s
  else
    match s.cabinet.step with
    | (.error fault, cabinet) => { s with cabinet, fault := some fault }
    | (.ok effect, cabinet) =>
      let s := { s with cabinet, report.cycles := s.report.cycles + 1 }
      (if effect = .cleared then s.tell Device.clear else s).signalBuzzer

/-- One tick of the timers, after which the device shows the picture. -/
def tick (s : Stint δ) : Stint δ :=
  let s := { s with
    cabinet.machine := s.cabinet.machine.tick
    report.ticks := s.report.ticks + 1 }
  let s := s.signalBuzzer
  s.tell (Device.draw s.cabinet.machine.screen)

instance : Driven (Stint δ) := ⟨cycle, tick⟩

/-- The episode of the console with a panel. -/
def episode (panel : δ → ε) (s : Stint δ) : Episode ε :=
  ⟨s.cabinet.console, panel s.cabinet.device, s.report, s.fault⟩

section
variable [Device.Lawful δ] [Panel ε] {panel : δ → ε} (mirrors : Device.Mirrors panel) (s : Stint δ)
include mirrors

theorem episode_clear : (s.tell Device.clear).episode panel = (s.episode panel).send .clear := by
  simp only [episode, tell, Episode.send, Cabinet.console, Device.Lawful.keypad_clear,
    mirrors.clear]

theorem episode_draw (picture : Screen) :
    (s.tell (Device.draw picture)).episode panel = (s.episode panel).send (.draw picture) := by
  simp only [episode, tell, Episode.send, Cabinet.console, Device.Lawful.keypad_draw,
    mirrors.draw]

theorem episode_buzz (on : Bool) :
    (s.tell (Device.buzz on)).episode panel = (s.episode panel).send (.buzz on) := by
  simp only [episode, tell, Episode.send, Cabinet.console, Device.Lawful.keypad_buzz,
    mirrors.buzz]

theorem episode_signalBuzzer :
    s.signalBuzzer.episode panel = (s.episode panel).signalBuzzer := by
  rcases change : s.cabinet.machine.buzzerChange with ⟨_ | on, machine⟩
  · rw [Episode.signalBuzzer_of_none (e := s.episode panel) change, signalBuzzer, change]
  · rw [Episode.signalBuzzer_of_some (e := s.episode panel) change, signalBuzzer, change]
    exact episode_buzz mirrors _ on

/-- **A cycle of a cabinet** is one of the episode. -/
theorem episode_cycle : s.cycle.episode panel = (s.episode panel).cycle := by
  have same := s.cabinet.panel_step mirrors
  have step : (s.episode panel).console.step = _ := s.cabinet.step_console
  by_cases halted : s.cabinet.machine.isHalted = true
  · rw [cycle, if_pos halted]
    exact (Episode.cycle_of_halted (e := s.episode panel) halted).symm
  · rw [cycle, if_neg halted]
    rcases made : s.cabinet.step with ⟨fault | effect, after⟩
    · rw [made] at step same
      -- the panel is told of the halt, and takes no notice
      have unmoved := mirrors.halt after.device after.machine.registers.pc fault
      rw [same] at unmoved
      rw [Episode.cycle_of_error step, episode, same]
      exact congrArg (Episode.mk after.console · s.report (some fault)) unmoved.symm
    · rw [made] at step same
      have next : { s with cabinet := after, report.cycles := s.report.cycles + 1 }.episode panel =
          { s.episode panel with
            console := after.console
            report.cycles := s.report.cycles + 1 } := by
        rw [episode, same]
        rfl
      rw [Episode.cycle_of_ok (Bool.not_eq_true _ ▸ halted) step, episode_signalBuzzer mirrors]
      split
      · rw [episode_clear mirrors, next]
        rfl
      · rw [next]
        rfl

/-- **A tick of a cabinet** is one of the episode. -/
theorem episode_tick : s.tick.episode panel = (s.episode panel).tick := by
  rw [tick, episode_draw mirrors]
  exact congrArg (fun e : Episode ε => e.send (.draw e.console.machine.screen))
    (episode_signalBuzzer mirrors _)

end

end Stint

/-! ## Pacers -/

/-- What one time agrees on, many times agree on. -/
theorem repeat_image {σ τ : Type} {f : σ → τ} {g : σ → σ} {h : τ → τ}
    (once : ∀ s, f (g s) = h (f s)) (n : Nat) (s : σ) :
    f (Nat.repeat g n s) = Nat.repeat h n (f s) := by
  induction n with
  | zero => rfl
  | succ n ih => rw [Nat.repeat, once, ih, Nat.repeat]

namespace Pacer

section
variable {σ τ : Type} [Driven σ] [Driven τ] {f : σ → τ}
  (cycle : ∀ s, f (Driven.cycle s) = Driven.cycle (f s))
  (tick : ∀ s, f (Driven.tick s) = Driven.tick (f s))
include cycle tick

theorem pass_image (p : Pacer) (slice : Nat) (s : σ) :
    p.pass slice (f s) = ((p.pass slice s).1, f (p.pass slice s).2) := by
  simp only [pass, repeat_image tick, repeat_image cycle]

theorem runClocked_image (p : Pacer) (remaining : Nat) (s : σ) :
    p.runClocked remaining (f s) =
      ((p.runClocked remaining s).1, f (p.runClocked remaining s).2) := by
  fun_induction runClocked p remaining s with
  | case1 p s => rw [runClocked]; rfl
  | case2 p remaining s some pos next after passed ih =>
    rw [runClocked, dif_neg some, pass_image cycle tick, passed]
    exact ih

/-- **What cycles and ticks agree on, a pacer agrees on.** -/
theorem run_image (p : Pacer) (elapsed : Nat) (s : σ) :
    p.run elapsed (f s) = ((p.run elapsed s).1, f (p.run elapsed s).2) := by
  unfold run
  split
  · simp only [runStepped, repeat_image tick, repeat_image cycle]
  · exact runClocked_image cycle tick p elapsed s

end

end Pacer

end ChipEight
