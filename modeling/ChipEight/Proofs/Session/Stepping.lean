/-
  Sessions that step through a program.

  Every line that is entered brings one update, with one step asked for.

  * `Entry.ofLine_eq_cycle`: a line names a key if it is the key's digit, with white space
    around it;
  * `Console.Offers` is a console with that key moved down, and `Console.MovesOnTo` what
    the update makes of it: one step, unless the machine has halted, and then ticks;
  * `Stepping.Ready` is what holds at a prompt.  A line that makes a cycle keeps it
    (`Stepping.Ready.cycle`), and so do the lines of a session (`Session.ready_converse`);
  * `Session.steps_as_prompted` puts these together for every session.
-/
import ChipEight.Proofs.Pace.Stepped
import ChipEight.Proofs.Panel.Frames
import ChipEight.Proofs.Session.Prompts
import ChipEight.Proofs.Session.Starting

namespace ChipEight

/-! ## Entries -/

namespace Entry

/-- A line is the digit of a key, in either case, with white space around it. -/
def Names (line : String) (k : Key) : Prop :=
  trimmed line = String.singleton (hexDigit k) ∨
    trimmed line = String.singleton (hexDigit k).toLower

theorem ofLine_eq_quit {line : String} (h : trimmed line = "q") : ofLine line = .quit := if_pos h

/-- **A line that does not end the session** asks for a cycle with the key that it
    names. -/
theorem ofLine_eq_cycle {line : String} (h : trimmed line ≠ "q") :
    ∃ key, ofLine line = .cycle key ∧ ∀ k, key = some k ↔ Names line k := by
  have one {c d : Char} {text : String} (single : text.toList = [c]) :
      text = String.singleton d ↔ c = d := by
    rw [← String.toList_inj, single, String.toList_singleton, List.cons.injEq]
    simp
  unfold ofLine Names
  simp only [if_neg h]
  split
  · next c single =>
    refine ⟨_, rfl, fun k => ?_⟩
    rw [hexValue?_eq_some_iff, one single, one single]
  · next several =>
    refine ⟨_, rfl, fun k => ?_⟩
    simp only [reduceCtorEq, false_iff, not_or]
    constructor <;> intro single
    · exact several _ (by rw [single, String.toList_singleton])
    · exact several _ (by rw [single, String.toList_singleton])

end Entry

/-! ## Terminals -/

namespace Terminal

theorem jammed_receive (keypad : Keypad) (signal : Signal) (terminal : Terminal) :
    (Panel.receive keypad signal terminal).printer.jammed = terminal.printer.jammed := by
  cases signal with
  | halt address fault => exact Printer.jammed_print _ _
  | draw picture => exact Printer.jammed_display
  | clear | buzz => rfl

end Terminal

namespace Episode

theorem jammed_signalBuzzer (e : Episode Terminal) :
    e.signalBuzzer.panel.printer.jammed = e.panel.printer.jammed := by
  unfold signalBuzzer
  split
  · exact Terminal.jammed_receive _ _ _
  · rfl

/-- A terminal that prints goes on printing. -/
theorem jammed_performAll (e : Episode Terminal) (events : List Event) :
    (e.performAll events).panel.printer.jammed = e.panel.printer.jammed := by
  refine performAll_induction (P := fun e' : Episode Terminal =>
    e'.panel.printer.jammed = e.panel.printer.jammed) ?_ rfl events
  intro e' event same
  rw [← same]
  cases event with
  | keys keypad => rfl
  | tick => exact (Terminal.jammed_receive _ _ _).trans (jammed_signalBuzzer _)
  | cycle =>
    rw [perform]
    obtain halted | ⟨fault, after, step⟩ | ⟨effect, after, running, step⟩ := e'.console.step_cases
    · rw [cycle_of_halted halted]
    · rw [cycle_of_error step]
      exact Terminal.jammed_receive _ _ _
    · rw [cycle_of_ok running step]
      dsimp only
      rw [jammed_signalBuzzer]
      split
      · exact Terminal.jammed_receive _ _ _
      · rfl

end Episode

/-! ## One cycle -/

/-- The step that a cycle makes of a console, if its machine has not halted. -/
def Console.cycled (c : Console) : Console := if c.machine.isHalted then c else c.step.2

namespace Episode
variable {δ : Type} [Panel δ]

/-- A cycle makes its step, and may report the buzzer. -/
theorem console_cycle (e : Episode δ) :
    e.cycle.console = e.console.cycled ∨
      e.cycle.console =
        { e.console.cycled with machine := e.console.cycled.machine.buzzerChange.2 } := by
  unfold Console.cycled
  obtain halted | ⟨fault, after, step⟩ | ⟨effect, after, running, step⟩ := e.console.step_cases
  · rw [cycle_of_halted halted, if_pos halted]
    exact .inl rfl
  · rw [cycle_of_error step, if_neg (by simp [(Console.step_error step).2]), step]
    exact .inl rfl
  · rw [(cycle_of_ok_fields running step).1, if_neg (by simp [running]), step]
    exact .inr rfl

theorem cycle_untimed (e : Episode δ) : e.cycle.console.untimed = e.console.cycled.untimed := by
  rcases e.console_cycle with same | same
  · rw [same]
  · rw [same]
    rfl

theorem timer_cycle (e : Episode δ) (timer : Timer) :
    e.cycle.timer timer = timer.value e.console.cycled.machine.timers := by
  rcases e.console_cycle with same | same
  · rw [Episode.timer, same]
  · rw [Episode.timer, same, Machine.buzzerChange_snd, Timer.value_buzzerChange]

theorem ticks_untimed (e : Episode δ) (n : Nat) :
    (e.performAll (List.replicate n .tick)).console.untimed = e.console.untimed := by
  induction n generalizing e with
  | zero => rfl
  | succ n ih => rw [List.replicate_succ, performAll_cons, ih, perform, tick_untimed]

theorem avoids_ticks (kind : Instruction → Prop) (e : Episode δ) (n : Nat) :
    e.Avoids kind (List.replicate n .tick) := by
  induction n generalizing e with
  | zero => trivial
  | succ n ih => exact ⟨nofun, ih _⟩

end Episode

/-! ## Keys -/

namespace Console

/-- Move the key that was named, if one was. -/
def hold (c : Console) (key : Option Key) (down : Bool) : Console :=
  match key with
  | some k => { c with keypad := c.keypad.set k down }
  | none => c

/-- A console is another one with the key that was named held down, and its press
    queued. -/
structure Offers (c : Console) (key : Option Key) (offered : Console) : Prop where
  machine : offered.machine = c.machine
  down : ∀ k, offered.keypad.isDown k = true ↔ key = some k
  presses : offered.keypad.presses =
    key.elim c.keypad.presses (Keypad.enqueue c.keypad.presses)

variable {c : Console}

theorem offers_hold (up : ∀ k, c.keypad.isDown k = false) (key : Option Key) :
    c.Offers key (c.hold key true) := by
  cases key with
  | none => exact ⟨rfl, fun k => by simp [hold, up], rfl⟩
  | some k =>
    refine ⟨rfl, fun j => ?_, ?_⟩
    · simp [hold, Keypad.isDown_set, up]
    · simp [hold, Keypad.set, up]

/-- There is one console that another one with a key held down is. -/
theorem Offers.unique {key : Option Key} {offered other : Console} (h : c.Offers key offered)
    (h' : c.Offers key other) : offered = other := by
  obtain ⟨m, ⟨down, presses⟩⟩ := offered
  obtain ⟨m', ⟨down', presses'⟩⟩ := other
  have machine : m = m' := h.machine.trans h'.machine.symm
  have queue : presses = presses' := h.presses.trans h'.presses.symm
  have keys : down = down' := by
    refine Vector.ext fun k inside => ?_
    rw [Bool.eq_iff_iff]
    exact (h.down ⟨k, inside⟩).trans (h'.down ⟨k, inside⟩).symm
  rw [machine, queue, keys]

theorem machine_hold (c : Console) (key : Option Key) (down : Bool) :
    (c.hold key down).machine = c.machine := by
  cases key <;> rfl

theorem presses_release (c : Console) (key : Option Key) :
    (c.hold key false).keypad.presses = c.keypad.presses := by
  cases key <;> rfl

/-- No key is down when the only one that was is let go. -/
theorem isDown_release {key : Option Key} (down : ∀ k, c.keypad.isDown k = true ↔ key = some k)
    (k : Key) : (c.hold key false).keypad.isDown k = false := by
  cases key with
  | none =>
    rw [hold, Bool.eq_false_iff, Ne, down]
    nofun
  | some j =>
    rw [hold, Keypad.isDown_set]
    by_cases same : j = k
    · rw [if_pos same]
    · rw [if_neg same, Bool.eq_false_iff]
      intro other
      exact same (Option.some.inj ((down k).1 other))

/-- What a console has become when one cycle was made and a number of ticks, and the
    key was let go. -/
structure MovesOnTo (c : Console) (ticks : Nat) (next : Console) : Prop where
  machine : next.machine.untimed = c.cycled.machine.untimed
  timers : ∀ timer : Timer, (timer.value next.machine.timers).toNat =
    (timer.value c.cycled.machine.timers).toNat - ticks
  presses : next.keypad.presses = c.cycled.keypad.presses
  up : ∀ k, next.keypad.isDown k = false

theorem down_cycled (c : Console) : c.cycled.keypad.down = c.keypad.down := by
  unfold cycled
  split
  · rfl
  · exact down_step rfl

end Console

/-! ## What holds at a prompt -/

namespace Stepping

/-- A session is ready for a line: no step is left to be made, no key is down, and its
    terminal prints. -/
structure Ready (s : Stepping) : Prop where
  stepped : s.pacer.isStepped = true
  pending : s.pacer.pending = 0
  up : ∀ k, s.console.keypad.isDown k = false
  prints : s.terminal.printer.jammed = false

variable {s : Stepping}

/-- The episode of the update that a line brings. -/
def episode (s : Stepping) (key : Option Key) (elapsed : Nat) : Episode Terminal :=
  (Rig.mk s.pacer.askStep (s.console.hold key true) s.terminal).episode elapsed

/-- The pacer, the console and the terminal after a cycle. -/
theorem cycle_fields (s : Stepping) (key : Option Key) (elapsed : Nat) :
    let e := s.episode key elapsed
    (s.cycle key elapsed).pacer = s.pacer.askStep.after elapsed ∧
      (s.cycle key elapsed).console = e.console.hold key false ∧
      (s.cycle key elapsed).terminal =
        match e.fault with
        | some fault => e.panel.print (errorLine "chip8" fault.message)
        | none => e.panel := by
  intro e
  let update := s.pacer.askStep.update (s.console.hold key true) s.terminal elapsed
  have pacer : update.1 = s.pacer.askStep.after elapsed := by
    rw [show update = _ from Pacer.update_eq _ _ _ _]
  have cycle : s.cycle key elapsed =
      match e.fault with
      | some fault => (Stepping.mk update.1 (e.console.hold key false) e.panel).print
          (errorLine "chip8" fault.message)
      | none => Stepping.mk update.1 (e.console.hold key false) e.panel := by
    cases key <;> rfl
  rw [cycle, pacer]
  cases e.fault with
  | some fault => exact ⟨rfl, rfl, rfl⟩
  | none => exact ⟨rfl, rfl, rfl⟩

namespace Ready

theorem episode_eq (h : s.Ready) (key : Option Key) (elapsed : Nat) :
    s.episode key elapsed =
      ((Episode.start (s.console.hold key true) s.terminal).cycle).performAll
        (List.replicate (s.pacer.ticks.advance elapsed).1 .tick) := by
  have agenda : s.pacer.askStep.agenda elapsed =
      .cycle :: List.replicate (s.pacer.ticks.advance elapsed).1 .tick := by
    rw [Pacer.agenda_stepped (p := s.pacer.askStep) h.stepped]
    show List.replicate (s.pacer.pending + 1) _ ++ _ = _
    rw [h.pending]
    rfl
  rw [episode, Rig.episode_eq, agenda]
  rfl

/-- **A line makes one cycle** of the console with its key held down. -/
theorem movesOn (h : s.Ready) (key : Option Key) (elapsed : Nat) :
    (s.console.hold key true).MovesOnTo (s.pacer.ticks.advance elapsed).1
      ((s.episode key elapsed).console.hold key false) := by
  let offered := s.console.hold key true
  let cycled := (Episode.start offered s.terminal).cycle
  let due := (s.pacer.ticks.advance elapsed).1
  have same : (s.episode key elapsed).console.untimed = offered.cycled.untimed := by
    rw [h.episode_eq, Episode.ticks_untimed]
    exact Episode.cycle_untimed (Episode.start offered s.terminal)
  have keypad : (s.episode key elapsed).console.keypad = offered.cycled.keypad :=
    (Console.sameBesidesTimers_of_untimed same).keypad
  refine ⟨?_, fun timer => ?_, ?_, ?_⟩
  · rw [Console.machine_hold]
    exact congrArg (fun c : Console => c.machine) same
  · have counted := Episode.performAll_timer (cycled.avoids_ticks (·.Sets timer) due)
    rw [List.count_replicate_self, Episode.timer_cycle, ← h.episode_eq key elapsed] at counted
    rw [Console.machine_hold]
    exact counted
  · rw [Console.presses_release, keypad]
  · refine Console.isDown_release fun k => ?_
    rw [keypad, Keypad.isDown, Console.down_cycled]
    exact (Console.offers_hold h.up key).down k

theorem prints_episode (h : s.Ready) (key : Option Key) (elapsed : Nat) :
    (s.episode key elapsed).panel.printer.jammed = false := by
  rw [episode, Rig.episode_eq, Episode.jammed_performAll]
  exact h.prints

/-- **A line that makes a cycle** leaves the session ready for the next one. -/
theorem cycle (h : s.Ready) (key : Option Key) (elapsed : Nat) : (s.cycle key elapsed).Ready := by
  have next := h.movesOn key elapsed
  have prints := h.prints_episode key elapsed
  obtain ⟨pacer, console, terminal⟩ := s.cycle_fields key elapsed
  refine ⟨?_, ?_, ?_, ?_⟩
  · rw [pacer, Pacer.after_isStepped]
    exact h.stepped
  · rw [pacer, Pacer.after_stepped (p := s.pacer.askStep) h.stepped]
  · rw [console]
    exact next.up
  · rw [terminal]
    split
    · rw [Terminal.print, Printer.jammed_print]
      exact prints
    · exact prints

/-- A cycle that faults is reported. -/
theorem output_of_fault (h : s.Ready) {key : Option Key} {fault : Fault}
    (faults : (s.console.hold key true).step.1 = .error fault) (elapsed : Nat) :
    ∃ text, (s.cycle key elapsed).terminal.printer.output =
      text ++ errorLine "chip8" fault.message := by
  have reported : (s.episode key elapsed).fault = some fault := by
    let first := Episode.start (s.console.hold key true) s.terminal
    obtain ⟨after, step⟩ : ∃ after, first.console.step = (.error fault, after) :=
      ⟨_, Prod.ext faults rfl⟩
    have cycled := Episode.cycle_of_error step
    have halted : first.cycle.console.machine.isHalted = true := by
      rw [cycled]
      exact Machine.isHalted_iff.2 ⟨fault, (Console.step_error step).1⟩
    rw [h.episode_eq, (Episode.performAll_of_halted halted _).2, cycled]
    rfl
  obtain ⟨-, -, terminal⟩ := s.cycle_fields key elapsed
  have prints := h.prints_episode key elapsed
  rw [terminal, reported]
  refine ⟨(s.episode key elapsed).panel.printer.output, ?_⟩
  simp [Terminal.print, Printer.print, prints]

end Ready

end Stepping

/-! ## Sessions -/

namespace Session

variable {s : Stepping} {line : String}

theorem prompted_eq (prints : s.terminal.printer.jammed = false) :
    ∃ terminal : Terminal, terminal.printer.jammed = false ∧
      prompted s = (s.terminal.printer.output ++ s.promptText, .stepping { s with terminal }) := by
  refine ⟨((s.print s.promptText).terminal.takeOutput).2, ?_, ?_⟩
  · simp [Terminal.takeOutput, Printer.takeOutput, Stepping.print, Terminal.print,
      Printer.jammed_print, prints]
  · simp [prompted, Terminal.takeOutput, Printer.takeOutput, Stepping.print, Terminal.print,
      Printer.print, prints]

theorem fromUTF8?_toUTF8 (text : String) : String.fromUTF8? text.toUTF8 = some text := by
  simp only [String.fromUTF8?, String.toUTF8_eq_toByteArray, dif_pos text.isValidUTF8]
  rfl

theorem isEmpty_toUTF8 {text : String} : text.toUTF8.isEmpty = true ↔ text = "" := by
  rw [ByteArray.isEmpty, beq_iff_eq]
  simp

theorem enter_of_end (h : line = "" ∨ trimmed line = "q") (elapsed : Nat) :
    (Session.stepping s).enter line.toUTF8 elapsed = ("", .ended success) := by
  unfold enter
  by_cases empty : line = ""
  · simp only [if_pos (isEmpty_toUTF8.2 empty)]
  · have quit := Entry.ofLine_eq_quit (h.resolve_left empty)
    simp only [if_neg (isEmpty_toUTF8.not.2 empty), fromUTF8?_toUTF8, quit]

theorem enter_of_line (nonempty : line ≠ "") (goesOn : trimmed line ≠ "q") :
    ∃ key, (∀ k, key = some k ↔ Entry.Names line k) ∧ ∀ s elapsed,
      (Session.stepping s).enter line.toUTF8 elapsed = prompted (s.cycle key elapsed) := by
  obtain ⟨key, entry, names⟩ := Entry.ofLine_eq_cycle goesOn
  refine ⟨key, names, fun s elapsed => ?_⟩
  simp only [enter, if_neg (isEmpty_toUTF8.not.2 nonempty), fromUTF8?_toUTF8, entry]

/-- The last of the answers when lines are entered after an answer, each some time after
    the one before. -/
def converse (answer : String × Session) (lines : List (String × Nat)) : String × Session :=
  lines.foldl (fun answer (line, elapsed) => answer.2.enter line.toUTF8 elapsed) answer

/-- **Lines leave a session ready** for the next one, with its prompt shown. -/
theorem ready_converse (ready : s.Ready) {before : List (String × Nat)}
    (entered : ∀ entry ∈ before, entry.1 ≠ "" ∧ trimmed entry.1 ≠ "q") :
    ∃ now : Stepping, now.Ready ∧ ∃ earlier,
      converse (prompted s) before = (earlier ++ now.promptText, .stepping now) := by
  induction before generalizing s with
  | nil =>
    obtain ⟨terminal, prints, shown⟩ := prompted_eq ready.prints
    exact ⟨{ s with terminal }, { ready with prints }, _, shown⟩
  | cons entry later ih =>
    obtain ⟨line, elapsed⟩ := entry
    obtain ⟨⟨nonempty, goesOn⟩, rest⟩ := List.forall_mem_cons.1 entered
    obtain ⟨terminal, prints, shown⟩ := prompted_eq ready.prints
    obtain ⟨key, -, answer⟩ := enter_of_line nonempty goesOn
    have now : Stepping.Ready { s with terminal } := { ready with prints }
    have first : converse (prompted s) ((line, elapsed) :: later) =
        converse (prompted (Stepping.cycle { s with terminal } key elapsed)) later := by
      rw [← answer, converse, List.foldl_cons, shown]
      rfl
    rw [first]
    exact ih (now.cycle key elapsed) rest

/-- **A session steps as its prompts say.**  However many lines have been entered, the
    last thing that is shown is the registers and a prompt, and no key is down.  An empty
    line, which is the end of the input, and a line that is `q` end the session.  With any
    other line, the key that it names is moved down, which queues its press; then one step
    is made, the one that the prompt has announced, or none if the machine has halted; then
    the timers count down for the time that has passed, and the key is let go, so that no
    key is down at the next prompt.  A step that comes to a fault is reported before it. -/
theorem steps_as_prompted {settings : Settings} {chance : UInt64} {program : List UInt8}
    {state : Stepping} (started : Stepping.start settings chance program = .ok state)
    {before : List (String × Nat)}
    (entered : ∀ entry ∈ before, entry.1 ≠ "" ∧ trimmed entry.1 ≠ "q") :
    ∃ now earlier,
      let prompt := now.console.machine.prompt.text
      converse (prompted state) before =
          (earlier ++ now.console.machine.registersText ++ "\n" ++ prompt ++ "\n",
            .stepping now) ∧
        (∀ k, now.console.keypad.isDown k = false) ∧
        ∀ line elapsed,
          let answer := (Session.stepping now).enter line.toUTF8 elapsed
          (line = "" ∨ trimmed line = "q" → answer = ("", .ended success)) ∧
            (line ≠ "" → trimmed line ≠ "q" →
              ∃ key offered shown next,
                (∀ k, key = some k ↔ Entry.Names line k) ∧
                  now.console.Offers key offered ∧
                  offered.StepsAsShown prompt ∧
                  offered.MovesOnTo (now.pacer.ticks.advance elapsed).1 next.console ∧
                  answer = (shown ++ next.promptText, .stepping next) ∧
                  ∀ fault, offered.step.1 = .error fault →
                    ∃ text, shown = text ++ errorLine "chip8" fault.message) := by
  obtain ⟨console, stepped, pending, terminal⟩ := Stepping.start_spec started
  have ready : state.Ready := by
    refine ⟨stepped, pending, fun k => ?_, ?_⟩
    · rw [console]
      simp [Keypad.isDown, Keypad.idle]
    · rw [terminal]
      rfl
  obtain ⟨now, ready, earlier, shown⟩ := ready_converse ready entered
  refine ⟨now, earlier, ?_, ready.up, ?_⟩
  · rw [shown, Stepping.promptText]
    simp only [String.append_assoc]
  · intro line elapsed answer
    refine ⟨fun ends => enter_of_end ends elapsed, fun nonempty goesOn => ?_⟩
    obtain ⟨key, names, cycles⟩ := enter_of_line nonempty goesOn
    have offers := Console.offers_hold ready.up key
    obtain ⟨terminal, -, prompts⟩ := prompted_eq (ready.cycle key elapsed).prints
    refine ⟨key, now.console.hold key true, (now.cycle key elapsed).terminal.printer.output,
      { now.cycle key elapsed with terminal }, names, offers, ?_, ?_, ?_, ?_⟩
    · have announced := (now.console.hold key true).stepsAsShown_of_prompt
      rwa [offers.machine] at announced
    · rw [(now.cycle_fields key elapsed).2.1]
      exact ready.movesOn key elapsed
    · exact (cycles now elapsed).trans prompts
    · intro fault faults
      exact ready.output_of_fault faults elapsed

/-- A line with a key makes the step that was announced, with the key down: it skips a word.
    The press stays queued, and at the next prompt no key is down. -/
theorem prompted_after_key :
    ∃ state, Stepping.start .default 0 [0xE0, 0x9E] = .ok state ∧
      (∀ entry ∈ [(" 0\n", 0)], entry.1 ≠ "" ∧ trimmed entry.1 ≠ "q") ∧
      (∃ earlier first, converse (prompted state) [] =
        (earlier ++ "next: 0x0200  E09E  SKP v0\n", .stepping first)) ∧
      ∃ earlier now, converse (prompted state) [(" 0\n", 0)] =
          (earlier ++ "next: 0x0204  0000  (invalid)\n", .stepping now) ∧
        now.console.keypad.presses = [0] ∧ ∀ k, now.console.keypad.isDown k = false := by
  have starts : (Stepping.start .default 0 [0xE0, 0x9E]).toOption.isSome := by decide +kernel
  obtain ⟨state, found⟩ := Option.isSome_iff_exists.1 starts
  have started := eq_ok_of_toOption found
  have entered : ∀ entry ∈ [(" 0\n", 0)], entry.1 ≠ "" ∧ trimmed entry.1 ≠ "q" := by
    decide +kernel
  let console : Console := ⟨Machine.loaded [0xE0, 0x9E] (Machine.new 0).random, .idle⟩
  let offered := console.hold (some 0) true
  obtain ⟨first, earlier, shown, up, lines⟩ := steps_as_prompted started (List.forall_mem_nil _)
  have session : (prompted state).2 = .stepping first := congrArg Prod.snd shown
  have same : first.console = console := by
    cases session
    exact (Stepping.start_spec started).1
  obtain ⟨key, given, text, next, names, offers, -, moves, answer, -⟩ :=
    (lines " 0\n" 0).2 (by decide) (by decide +kernel)
  obtain rfl : key = some 0 := (names 0).2 (.inl (by decide +kernel))
  rw [same] at offers
  obtain rfl : given = offered := offers.unique (Console.offers_hold (by decide) (some 0))
  obtain ⟨now, before, shown', up', -⟩ := steps_as_prompted started entered
  have prompts : converse (prompted state) [(" 0\n", 0)] =
      (text ++ next.promptText, .stepping next) := by
    rw [← answer, ← session]
    rfl
  obtain rfl : now = next := by
    rw [prompts] at shown'
    injection congrArg Prod.snd shown' with same
    exact same.symm
  have announced : first.console.machine.prompt.text = "next: 0x0200  E09E  SKP v0" := by
    rw [same]
    decide +kernel
  have stepped : now.console.machine.prompt.text = "next: 0x0204  0000  (invalid)" := by
    have prompt : now.console.machine.untimed.prompt = offered.cycled.machine.untimed.prompt :=
      congrArg Machine.prompt moves.machine
    have untimed (m : Machine) : m.untimed.prompt = m.prompt := rfl
    rw [← untimed, prompt]
    decide +kernel
  refine ⟨state, started, entered,
    ⟨earlier ++ first.console.machine.registersText ++ "\n", first, ?_⟩,
    before ++ now.console.machine.registersText ++ "\n", now, ?_, ?_, up'⟩
  · rw [shown, announced, String.append_assoc]
    rfl
  · rw [shown', stepped, String.append_assoc]
    rfl
  · rw [moves.presses]
    decide +kernel

end Session

end ChipEight
