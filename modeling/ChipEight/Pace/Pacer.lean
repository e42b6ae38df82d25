/-
  Pacer — drives a console, or anything else that makes cycles and ticks, as time
  passes.

  Two cadences run: cycles, in which the machine makes a step, and timer
  ticks, sixty a second.  Time is passed in slices that end where the next
  cycle or tick falls due, so that both happen in the order they fall due,
  cycles first when they fall together.  A stepped pacer makes a cycle for
  every step that was asked for instead, and all of them before its ticks.

  * an `Episode` is a console with its panel under way: what one cycle and one
    tick do to it, the cycles and ticks counted so far, and the fault that
    occurred, if one did;
  * a cycle of a halted machine is skipped and a cycle that faults is not
    counted, but ticks go on;
  * `Pacer.update` lets time pass.  Slices are never empty
    (`Pacer.slice_pos`), so the pacer comes to the end of the time.
-/
import ChipEight.Pace.Cadence
import ChipEight.Panel.Basic

namespace ChipEight

variable {δ : Type}

/-- What a pacer drives. -/
class Driven (σ : Type) where
  /-- One cycle. -/
  cycle : σ → σ
  /-- One tick of the timers. -/
  tick : σ → σ

/-! ## Episodes -/

/-- The numbers of cycles and ticks of an update. -/
structure Report where
  cycles : Nat
  ticks : Nat
deriving DecidableEq

/-- A console and its panel under way. -/
structure Episode (δ : Type) where
  console : Console
  panel : δ
  /-- The cycles and ticks so far. -/
  report : Report
  /-- The fault that occurred last. -/
  fault : Option Fault

namespace Episode

/-- Nothing has happened yet. -/
def start (console : Console) (panel : δ) : Episode δ := ⟨console, panel, ⟨0, 0⟩, none⟩

/-- The fault, or the counts if there was none. -/
def result (e : Episode δ) : Except Fault Report :=
  match e.fault with
  | some fault => .error fault
  | none => .ok e.report

/-- Replace the machine. -/
def withMachine (e : Episode δ) (machine : Machine) : Episode δ :=
  { e with console := { e.console with machine } }

variable [Panel δ]

/-- Send a signal to the panel. -/
def send (e : Episode δ) (signal : Signal) : Episode δ :=
  { e with panel := Panel.receive e.console.keypad signal e.panel }

/-- Tell the panel of a change of the buzzer. -/
def signalBuzzer (e : Episode δ) : Episode δ :=
  match e.console.machine.buzzerChange with
  | (some on, machine) => (e.withMachine machine).send (.buzz on)
  | (none, _) => e

/-- One cycle: a step of the machine, unless it has halted. -/
def cycle (e : Episode δ) : Episode δ :=
  if e.console.machine.isHalted then e
  else
    match e.console.step with
    | (.error fault, console) =>
      { e with console, fault := some fault }.send
        (.halt console.machine.registers.pc fault)
    | (.ok effect, console) =>
      let e := { e with console, report.cycles := e.report.cycles + 1 }
      (if effect = .cleared then e.send .clear else e).signalBuzzer

/-- One tick of the timers, after which the panel shows the picture. -/
def tick (e : Episode δ) : Episode δ :=
  let e := { e.withMachine e.console.machine.tick with report.ticks := e.report.ticks + 1 }
  let e := e.signalBuzzer
  e.send (.draw e.console.machine.screen)

instance : Driven (Episode δ) := ⟨cycle, tick⟩

end Episode

/-! ## Pacers -/

/-- The cadences of a console. -/
structure Pacer where
  cycles : Cadence
  ticks : Cadence
  /-- Cycles are made of the steps asked for, not of the time that passes. -/
  isStepped : Bool
  /-- The steps asked for that are still to be made; a clocked pacer counts them
      and makes none. -/
  pending : Nat
deriving DecidableEq

/-- The frequency of cycles if none is asked for, in hertz. -/
def defaultFrequency : Nat := 700

namespace Pacer

/-- A pacer at the beginning of its periods; a frequency of zero is refused. -/
def new (frequency : Nat) (stepped : Bool) : Except Fault Pacer :=
  if frequency_pos : 0 < frequency then
    .ok {
      cycles := .new frequency frequency_pos
      ticks := .new timerFrequency (by decide)
      isStepped := stepped
      pending := 0 }
  else .error (.invalidSettings "clock frequency must be non-zero")

/-- Ask for a step. -/
def askStep (p : Pacer) : Pacer := { p with pending := p.pending + 1 }

/-- Begin the periods now and forget the steps asked for. -/
def reset (p : Pacer) : Pacer :=
  { p with cycles := p.cycles.restart, ticks := p.ticks.restart, pending := 0 }

/-- The time up to the next event, or all the time that remains if that is
    less. -/
def slice (p : Pacer) (remaining : Nat) : Nat :=
  min remaining (min p.cycles.untilNext p.ticks.untilNext)

theorem slice_pos (p : Pacer) {remaining : Nat} (h : 0 < remaining) : 0 < p.slice remaining := by
  have := p.cycles.untilNext_pos
  have := p.ticks.untilNext_pos
  unfold slice
  omega

section
variable {σ : Type} [Driven σ]

/-- Let a slice of time pass and do what falls due at its end. -/
def pass (p : Pacer) (slice : Nat) (s : σ) : Pacer × σ :=
  let (dueCycles, cycles) := p.cycles.advance slice
  let (dueTicks, ticks) := p.ticks.advance slice
  ({ p with cycles, ticks }, Nat.repeat Driven.tick dueTicks (Nat.repeat Driven.cycle dueCycles s))

/-- Let time pass, slice by slice. -/
def runClocked (p : Pacer) (remaining : Nat) (s : σ) : Pacer × σ :=
  if h : remaining = 0 then (p, s)
  else
    have : 0 < p.slice remaining := p.slice_pos (Nat.pos_of_ne_zero h)
    let (next, after) := p.pass (p.slice remaining) s
    next.runClocked (remaining - p.slice remaining) after
termination_by remaining
decreasing_by omega

/-- Make the steps asked for, and the ticks of the time that passes. -/
def runStepped (p : Pacer) (elapsed : Nat) (s : σ) : Pacer × σ :=
  let (dueTicks, ticks) := p.ticks.advance elapsed
  ({ p with ticks, pending := 0 },
    Nat.repeat Driven.tick dueTicks (Nat.repeat Driven.cycle p.pending s))

/-- Let time pass for what is driven. -/
def run (p : Pacer) (elapsed : Nat) (s : σ) : Pacer × σ :=
  if p.isStepped then p.runStepped elapsed s else p.runClocked elapsed s

end

/-- Let time pass for a console and its panel. -/
def update [Panel δ] (p : Pacer) (console : Console) (panel : δ) (elapsed : Nat) : Pacer × Episode δ :=
  p.run elapsed (.start console panel)

end Pacer

end ChipEight
