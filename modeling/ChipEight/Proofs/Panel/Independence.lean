/-
  What is connected to a console has no influence.

  A panel is told what happens and is asked nothing.  A device is asked for keys and
  presses, but those of a lawful device are its keypad's, so the rest goes on alike with
  any of them.

  * `Episode.Alike`: two episodes differ in nothing but their panels, which may be of
    different types.  Events keep this (`Alike.performAll`), also where a panel is
    told something in the middle of a cycle or a tick;
  * `Rig.trace` are the replies to operations, each with the pacer and the console
    after it, and `Rig.Alike.trace` says that they are the same with any two panels;
  * a `Booth` is a pacer with the cabinet that it drives.  With a lawful device it
    answers operations as the rig does that has the device's keypad (`operate_rig`);
  * `Booth.devices_unseen` puts these together for recordings and teletypes.
-/
import ChipEight.Proofs.Pace.Faults
import ChipEight.Proofs.Panel.Cabinets

namespace ChipEight

variable {δ ε : Type} [Panel δ] [Panel ε]

/-! ## Episodes -/

namespace Episode

omit [Panel δ] [Panel ε] in
/-- Two episodes that differ in nothing but their panels. -/
structure Alike (e : Episode δ) (f : Episode ε) : Prop where
  console : e.console = f.console
  report : e.report = f.report
  fault : e.fault = f.fault

namespace Alike
variable {e : Episode δ} {f : Episode ε}

omit [Panel δ] [Panel ε] in
theorem start (console : Console) (panel : δ) (panel' : ε) :
    (Episode.start console panel).Alike (Episode.start console panel') :=
  ⟨rfl, rfl, rfl⟩

omit [Panel δ] [Panel ε] in
theorem result (h : e.Alike f) : e.result = f.result := by
  rw [Episode.result, Episode.result, h.fault, h.report]

theorem cycle (h : e.Alike f) : e.cycle.Alike f.cycle := by
  obtain halted | ⟨fault, after, step⟩ | ⟨effect, after, running, step⟩ := e.console.step_cases
  · rw [cycle_of_halted halted, cycle_of_halted (h.console ▸ halted)]
    exact h
  · -- the panels are told of the fault
    rw [cycle_of_error step, cycle_of_error (h.console ▸ step)]
    exact ⟨rfl, h.report, rfl⟩
  · obtain ⟨console, report, fault⟩ := cycle_of_ok_fields running step
    obtain ⟨console', report', fault'⟩ :=
      cycle_of_ok_fields (e := f) (h.console ▸ running) (h.console ▸ step)
    exact
      { console := console.trans console'.symm
        report := by rw [report, report', h.report]
        fault := by rw [fault, fault', h.fault] }

theorem tick (h : e.Alike f) : e.tick.Alike f.tick where
  console := by rw [tick_console, tick_console, h.console]
  report := by rw [tick_report, tick_report, h.report]
  fault := by rw [tick_fault, tick_fault, h.fault]

theorem perform (h : e.Alike f) (event : Event) : (e.perform event).Alike (f.perform event) := by
  cases event with
  | cycle => exact h.cycle
  | tick => exact h.tick
  | keys keypad =>
    exact ⟨congrArg (fun c : Console => { c with keypad }) h.console, h.report, h.fault⟩

/-- **Events keep episodes alike.** -/
theorem performAll (h : e.Alike f) (events : List Event) :
    (e.performAll events).Alike (f.performAll events) := by
  induction events generalizing e f with
  | nil => exact h
  | cons event later ih => exact ih (h.perform event)

end Alike

end Episode

/-! ## Operations -/

namespace Rig

/-- What is done to a rig. -/
inductive Operation where
  /-- Time passes. -/
  | update (elapsed : Nat)
  /-- A step is asked for. -/
  | askStep
  /-- The keypad is used. -/
  | keys (use : Keypad.Use)

/-- What an operation is answered by. -/
inductive Reply where
  /-- The result of the update. -/
  | updated (result : Except Fault Report)
  /-- Nothing is said about a step that is asked for. -/
  | asked
  /-- The press that was asked for, if there was one. -/
  | used (press : Option Key)

/-- The reply to an operation, and the rig after it. -/
def operate (r : Rig δ) : Operation → Reply × Rig δ
  | .update elapsed => (.updated (r.episode elapsed).result, r.serve (.pass elapsed))
  | .askStep => (.asked, r.serve .askStep)
  | .keys use =>
    (.used (r.console.keypad.use use).1, r.serve (.moveKeys (r.console.keypad.use use).2))

/-- The replies to operations, each with the pacer and the console after the
    operation. -/
def trace : Rig δ → List Operation → List (Reply × Pacer × Console)
  | _, [] => []
  | r, operation :: later =>
    let answer := r.operate operation
    (answer.1, answer.2.pacer, answer.2.console) :: answer.2.trace later

/-- The rig after operations. -/
def after (r : Rig δ) (operations : List Operation) : Rig δ :=
  operations.foldl (fun r operation => (r.operate operation).2) r

omit [Panel δ] [Panel ε] in
/-- Two rigs that differ in nothing but their panels. -/
structure Alike (r : Rig δ) (s : Rig ε) : Prop where
  pacer : r.pacer = s.pacer
  console : r.console = s.console

namespace Alike
variable {r : Rig δ} {s : Rig ε}

theorem episode (h : r.Alike s) (elapsed : Nat) : (r.episode elapsed).Alike (s.episode elapsed) := by
  rw [episode_eq, episode_eq, h.pacer, h.console]
  exact (Episode.Alike.start s.console r.panel s.panel).performAll _

theorem serve_pass (h : r.Alike s) (elapsed : Nat) :
    (r.serve (.pass elapsed)).Alike (s.serve (.pass elapsed)) where
  pacer := by rw [serve_pass_pacer, serve_pass_pacer, h.pacer]
  console := (h.episode elapsed).console

/-- **An operation** is answered alike, and leaves the rigs alike. -/
theorem operate (h : r.Alike s) (operation : Operation) :
    (r.operate operation).1 = (s.operate operation).1 ∧
      (r.operate operation).2.Alike (s.operate operation).2 := by
  cases operation with
  | update elapsed =>
    exact ⟨congrArg Reply.updated (h.episode elapsed).result, h.serve_pass elapsed⟩
  | askStep => exact ⟨rfl, congrArg Pacer.askStep h.pacer, h.console⟩
  | keys use =>
    refine ⟨congrArg (fun c : Console => Reply.used (c.keypad.use use).1) h.console, h.pacer, ?_⟩
    exact congrArg (fun c : Console => { c with keypad := (c.keypad.use use).2 }) h.console

/-- **Panels have no influence** on the replies to operations, nor on the pacer, the
    machine and the keypad after each of them. -/
theorem trace (h : r.Alike s) (operations : List Operation) :
    r.trace operations = s.trace operations := by
  induction operations generalizing r s with
  | nil => rfl
  | cons operation later ih =>
    obtain ⟨replies, next⟩ := h.operate operation
    simp only [Rig.trace]
    rw [replies, next.pacer, next.console, ih next]

end Alike

end Rig

/-! ## Booths -/

/-- A pacer with the cabinet that it drives. -/
structure Booth (δ : Type) where
  pacer : Pacer
  cabinet : Cabinet δ

namespace Booth

section
variable {δ ε : Type} [Device δ]

/-- The reply to an operation, and the booth after it. -/
def operate (b : Booth δ) : Rig.Operation → Rig.Reply × Booth δ
  | .update elapsed =>
    let (pacer, s) := b.pacer.run elapsed (Stint.start b.cabinet)
    (.updated s.result, ⟨pacer, s.cabinet⟩)
  | .askStep => (.asked, { b with pacer := b.pacer.askStep })
  | .keys use =>
    let (press, keypad) := (Device.keypad b.cabinet.device).use use
    (.used press, { b with cabinet.device := Device.setKeypad keypad b.cabinet.device })

/-- The replies to operations, each with the pacer, the machine and the keypad of the
    device after the operation. -/
def trace : Booth δ → List Rig.Operation → List (Rig.Reply × Pacer × Console)
  | _, [] => []
  | b, operation :: later =>
    let answer := b.operate operation
    (answer.1, answer.2.pacer, answer.2.cabinet.console) :: answer.2.trace later

/-- The booth after operations. -/
def after (b : Booth δ) (operations : List Rig.Operation) : Booth δ :=
  operations.foldl (fun b operation => (b.operate operation).2) b

/-- The rig of the console with a panel. -/
def rig (panel : δ → ε) (b : Booth δ) : Rig ε :=
  ⟨b.pacer, b.cabinet.console, panel b.cabinet.device⟩

variable [Device.Lawful δ] [Panel ε] {panel : δ → ε} (mirrors : Device.Mirrors panel)
  (b : Booth δ)
include mirrors

/-- **An operation on a booth** is one on the rig. -/
theorem operate_rig (operation : Rig.Operation) :
    (b.rig panel).operate operation =
      ((b.operate operation).1, (b.operate operation).2.rig panel) := by
  cases operation with
  | update elapsed =>
    have run := Pacer.run_image (f := Stint.episode panel) (Stint.episode_cycle mirrors)
      (Stint.episode_tick mirrors) b.pacer elapsed (Stint.start b.cabinet)
    have update : (b.rig panel).pacer.update (b.rig panel).console (b.rig panel).panel elapsed = _ :=
      run
    rw [Rig.operate, Rig.episode, Rig.serve, update]
    rfl
  | askStep => rfl
  | keys use =>
    simp only [operate, rig, Cabinet.console, Device.Lawful.keypad_setKeypad, mirrors.setKeypad]
    rfl

theorem after_rig (operations : List Rig.Operation) :
    (b.rig panel).after operations = (b.after operations).rig panel := by
  induction operations generalizing b with
  | nil => rfl
  | cons operation later ih =>
    rw [Rig.after, List.foldl_cons, operate_rig mirrors]
    exact ih _

/-- **Operations on a booth** are answered as those on the rig, and leave the same behind. -/
theorem trace_rig (operations : List Rig.Operation) :
    (b.rig panel).trace operations = b.trace operations := by
  induction operations generalizing b with
  | nil => rfl
  | cons operation later ih =>
    rw [Rig.trace, operate_rig mirrors]
    exact congrArg _ (ih _)

end

/-- **No device is noticed.**  Take any pacer, machine, keypad and operations.  With a
    teletype that prints pictures, with one that does not, with a teletype whose writer
    fails at every attempt, or keeps or fails as it likes, and whatever was printed
    before: operations are answered as with a recording, and each leaves the pacer, the
    machine and the keypad as it does with a recording.  This is also what a rig answers
    whose console has this keypad, whatever its panel, and its printers print what the
    teletypes do. -/
theorem devices_unseen (p : Pacer) (machine : Machine) (keypad : Keypad)
    (operations : List Rig.Operation) :
    let recorded := (Booth.mk p ⟨machine, Recording.new keypad⟩).trace operations
    let paper renders := Booth.mk p ⟨machine, Teletype.new (Paper.mk "") keypad renders⟩
    let jammed renders := Booth.mk p ⟨machine, Teletype.new JammedPaper.mk keypad renders⟩
    let rig {ζ : Type} (panel : ζ) := Rig.mk p ⟨machine, keypad⟩ panel
    (∀ renders, (paper renders).trace operations = recorded) ∧
      (∀ renders, (jammed renders).trace operations = recorded) ∧
      (∀ {ω : Type} [Writer ω] (out : ω) renders shown frames,
        (Booth.mk p ⟨machine, Teletype.mk out keypad renders shown frames⟩).trace operations =
          recorded) ∧
      (∀ calls, (Booth.mk p ⟨machine, Recording.mk keypad calls⟩).trace operations = recorded) ∧
      (∀ {ζ : Type} [Panel ζ] (panel : ζ), (rig panel).trace operations = recorded) ∧
      ∀ renders,
        ((paper renders).after operations).cabinet.device.printer =
            ((rig (Printer.new renders)).after operations).panel ∧
          ((jammed renders).after operations).cabinet.device.jammedPrinter =
            ((rig (Printer.newJammed renders)).after operations).panel := by
  intro recorded paper jammed rig
  have unseen {δ : Type} [Device δ] [Device.Lawful δ] (device : δ)
      (same : Device.keypad device = keypad) :
      (Booth.mk p ⟨machine, device⟩).trace operations = (rig ()).trace operations := by
    rw [← trace_rig Device.mirrors_nothing, Booth.rig, Cabinet.console, same]
  have record : recorded = (rig ()).trace operations := unseen _ rfl
  rw [record]
  refine ⟨fun renders => unseen _ rfl, fun renders => unseen _ rfl, fun out _ _ _ => unseen _ rfl,
    fun calls => unseen _ rfl, fun panel => ?_, fun renders => ⟨?_, ?_⟩⟩
  · have alike : (rig panel).Alike (rig ()) := ⟨rfl, rfl⟩
    exact alike.trace operations
  · have after := after_rig Teletype.mirrors_printer (paper renders) operations
    exact (congrArg Rig.panel after).symm
  · have after := after_rig Teletype.mirrors_jammedPrinter (jammed renders) operations
    exact (congrArg Rig.panel after).symm

end Booth

end ChipEight
