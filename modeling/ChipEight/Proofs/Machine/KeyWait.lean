/-
  Waiting for a key.

  A machine that waits for a key makes no progress until a key that was up goes
  down; then the next step takes the oldest press, and the one after it goes on
  behind the instruction.

  * `moves` are the key moves among turns; `OnlyMoves` are the turns that do
    nothing else with the keypad;
  * `StillWaits` is what holds all the while: moves reach the keypad, and nothing
    but the timers changes in the machine.  It is kept by turns without strokes
    (`stillWaits_of_quiet`) and by turns without steps (`stillWaits_of_no_step`);
  * `key_wait`: so the wait is ended by the next step after a stroke, and by no
    other.
-/
import ChipEight.Proofs.Keypad.Presses
import ChipEight.Proofs.Machine.Course
import ChipEight.Proofs.Machine.Turns

namespace ChipEight

/-! ## Moves among turns -/

namespace Turn

/-- The move of a key, if a turn makes one. -/
def move? : Turn → Option Keypad.KeyMove
  | .keys (.set k down) => some (k, down)
  | _ => none

/-- The keypad is not used except for moving keys. -/
def OnlyMoves : Turn → Prop
  | .keys .poll | .keys .clear => False
  | _ => True

/-- The key moves among turns. -/
def moves (turns : List Turn) : List Keypad.KeyMove := turns.filterMap move?

theorem moves_cons (turn : Turn) (later : List Turn) :
    moves (turn :: later) = turn.move?.toList ++ moves later := by
  rw [moves, List.filterMap_cons]
  cases turn.move? <;> rfl

theorem moves_append (earlier later : List Turn) :
    moves (earlier ++ later) = moves earlier ++ moves later := List.filterMap_append

end Turn

namespace Console

open Turn (moves)

/-! ## While the machine waits -/

/-- A console that has been waiting since it was `d`, while keys were moved. -/
structure StillWaits (d : Console) (moves : List Keypad.KeyMove) (e : Console) : Prop where
  machine : e.machine = { d.machine with timers := e.machine.timers }
  keypad : e.keypad = d.keypad.moveAll moves

variable {c d e f : Console} {x : Register}

theorem StillWaits.trans {earlier later : List Keypad.KeyMove} (first : d.StillWaits earlier e)
    (second : e.StillWaits later f) : d.StillWaits (earlier ++ later) f := by
  constructor
  · rw [second.machine, first.machine]
  · rw [second.keypad, first.keypad, Keypad.moveAll_append]

/-- A step that finds no press leaves the machine waiting. -/
theorem step_of_no_press (status : d.machine.status = .waiting x) (none : d.keypad.presses = []) :
    d.step = (.ok .awaiting, d) := by
  have press : d.keypad.poll = .none := by rw [Keypad.poll, none]
  exact (StepsTo.waits status press).step_eq

/-- A step that finds a press ends the wait. -/
theorem step_of_press {k : Key} {others : List Key} (status : d.machine.status = .waiting x)
    (some : d.keypad.presses = k :: others) :
    d.step = (.ok .plain,
      ⟨{ d.machine.set x (UInt8.ofNat k.val) with status := .running },
        { d.keypad with presses := others }⟩) := by
  have press : d.keypad.poll = .some (k, { d.keypad with presses := others }) := by
    rw [Keypad.poll, some]
  exact (StepsTo.resumes status press).step_eq

/-- A turn leaves the machine waiting, unless it is a step that finds a press. -/
theorem stillWaits_take {turn : Turn} (onlyMoves : turn.OnlyMoves)
    (step : turn = .step → d.step = (.ok .awaiting, d)) :
    d.StillWaits turn.move?.toList (d.take turn).2 := by
  match turn with
  | .step =>
    rw [take, step rfl]
    exact ⟨rfl, rfl⟩
  | .tick => exact ⟨rfl, rfl⟩
  | .keys (.set k down) => exact ⟨rfl, rfl⟩

/-- **Turns without strokes** leave the machine waiting. -/
theorem stillWaits_of_quiet {turns : List Turn} (status : d.machine.status = .waiting x)
    (none : d.keypad.presses = []) (onlyMoves : ∀ turn ∈ turns, turn.OnlyMoves)
    (quiet : d.keypad.strokes (moves turns) = []) :
    d.StillWaits (moves turns) (d.after turns) := by
  induction turns generalizing d with
  | nil => exact ⟨rfl, rfl⟩
  | cons turn later ih =>
    obtain ⟨now, onlyMoves⟩ := List.forall_mem_cons.1 onlyMoves
    rw [Turn.moves_cons, Keypad.strokes_append] at quiet
    obtain ⟨quietNow, quiet⟩ := List.append_eq_nil_iff.1 quiet
    have first := stillWaits_take now fun _ => step_of_no_press status none
    rw [Turn.moves_cons, after_cons]
    refine first.trans (ih ?_ ?_ onlyMoves ?_)
    · rw [first.machine]
      exact status
    · rw [first.keypad, Keypad.presses_moveAll_of_empty none, quietNow]
      rfl
    · rw [first.keypad]
      exact quiet

/-- **Turns without steps** leave the machine waiting. -/
theorem stillWaits_of_no_step {turns : List Turn} (onlyMoves : ∀ turn ∈ turns, turn.OnlyMoves)
    (noStep : .step ∉ turns) : d.StillWaits (moves turns) (d.after turns) := by
  induction turns generalizing d with
  | nil => exact ⟨rfl, rfl⟩
  | cons turn later ih =>
    obtain ⟨now, onlyMoves⟩ := List.forall_mem_cons.1 onlyMoves
    obtain ⟨notStep, noStep⟩ := not_or.1 (mt List.mem_cons.2 noStep)
    rw [Turn.moves_cons, after_cons]
    exact (stillWaits_take now fun same => absurd same.symm notStep).trans (ih onlyMoves noStep)

/-! ## From the beginning of the wait -/

/-- The console when the wait begins: the presses made before are forgotten. -/
def waiting (c : Console) (x : Register) : Console where
  machine := { c.machine.advance with status := .waiting x }
  keypad := c.keypad.drain

theorem step_awaitKey (await : c.upcoming = some (.awaitKey x)) :
    c.step = (.ok .awaiting, c.waiting x) := by
  rw [step_of_upcoming await]
  rfl

theorem strokes_waiting (c : Console) (x : Register) (moves : List Keypad.KeyMove) :
    (c.waiting x).keypad.strokes moves = c.keypad.strokes moves :=
  Keypad.strokes_congr (show (c.waiting x).keypad.down = c.keypad.down from rfl) moves

/-- **The machine still waits** if no step has come after a stroke. -/
theorem stillWaits_after {quiet rest : List Turn}
    (onlyMoves : ∀ turn ∈ quiet ++ rest, turn.OnlyMoves)
    (none : c.keypad.strokes (moves quiet) = []) (noStep : .step ∉ rest) :
    (c.waiting x).StillWaits (moves (quiet ++ rest)) ((c.waiting x).after (quiet ++ rest)) := by
  obtain ⟨first, second⟩ := List.forall_mem_append.1 onlyMoves
  rw [← c.strokes_waiting x] at none
  have calm := stillWaits_of_quiet rfl rfl first none
  rw [after_append, Turn.moves_append]
  exact calm.trans (stillWaits_of_no_step second noStep)

section
variable {moves : List Keypad.KeyMove} (waits : (c.waiting x).StillWaits moves e)
include waits

theorem status_of_stillWaits : e.machine.status = .waiting x := by
  rw [waits.machine]
  rfl

/-- The queue holds the strokes since the wait has begun, as far as there is room
    for them. -/
theorem presses_of_stillWaits : e.keypad.presses = Keypad.latest (c.keypad.strokes moves) := by
  rw [waits.keypad, Keypad.presses_moveAll_of_empty rfl, strokes_waiting]

/-- Without strokes, a step changes nothing. -/
theorem step_of_no_stroke (none : c.keypad.strokes moves = []) : e.step = (.ok .awaiting, e) := by
  refine step_of_no_press (status_of_stillWaits waits) ?_
  rw [presses_of_stillWaits waits, none]
  rfl

/-- With strokes, a step takes the oldest press there is. -/
theorem step_of_stroke (some : c.keypad.strokes moves ≠ []) :
    ∃ k others, Keypad.latest (c.keypad.strokes moves) = k :: others ∧
      e.keypad.presses = k :: others ∧
      e.step = (.ok .plain,
        ⟨{ e.machine.set x (UInt8.ofNat k.val) with status := .running },
          { e.keypad with presses := others }⟩) := by
  obtain ⟨k, others, oldest⟩ := List.exists_cons_of_ne_nil (Keypad.latest_ne_nil some)
  have presses : e.keypad.presses = k :: others := by
    rw [presses_of_stillWaits waits, oldest]
  exact ⟨k, others, oldest, presses, step_of_press (status_of_stillWaits waits) presses⟩

end

/-! ## The wait -/

/-- **A wait is ended by a new press, and only by that.**  The instruction forgets
    the presses made before, which takes as many questions as there are presses.
    Then, whatever keys are moved and however often the timers are counted down:
    until a key that was up goes down, each step finds the machine waiting and
    changes nothing.  The next step after that executes no instruction: it takes the
    oldest press of the latest sixteen, puts its key into the register and leaves
    the program counter behind the instruction.  If the key was held down at first,
    it has come up since. -/
theorem key_wait (await : c.upcoming = some (.awaitKey x)) :
    let d := c.waiting x
    c.step = (.ok .awaiting, d) ∧
      (c.keypad.polled c.keypad.presses.length = d.keypad ∧ d.keypad.poll = none ∧
        ∀ n < c.keypad.presses.length, (c.keypad.polled n).poll.isSome) ∧
      (∀ quiet, (∀ turn ∈ quiet, turn.OnlyMoves) → c.keypad.strokes (moves quiet) = [] →
        let e := d.after quiet
        e.machine = { d.machine with timers := e.machine.timers } ∧
          e.step = (.ok .awaiting, e)) ∧
      ∀ quiet rest, (∀ turn ∈ quiet ++ rest, turn.OnlyMoves) →
        c.keypad.strokes (moves quiet) = [] → .step ∉ rest →
        c.keypad.strokes (moves (quiet ++ rest)) ≠ [] →
          let e := d.after (quiet ++ rest)
          e.machine = { d.machine with timers := e.machine.timers } ∧
            ∃ k others,
              Keypad.latest (c.keypad.strokes (moves (quiet ++ rest))) = k :: others ∧
                e.keypad.presses = k :: others ∧
                e.step = (.ok .plain,
                  ⟨{ e.machine.set x (UInt8.ofNat k.val) with status := .running },
                    { e.keypad with presses := others }⟩) ∧
                e.step.2.machine.registers.pc.toNat = c.machine.registers.pc.toNat + 2 ∧
                ∃ before later, moves (quiet ++ rest) = before ++ (k, true) :: later ∧
                  (c.keypad.isDown k = true → (k, false) ∈ before) := by
  intro d
  refine ⟨step_awaitKey await, ⟨?_, rfl, ?_⟩, ?_, ?_⟩
  · rw [Keypad.polled_eq, List.drop_length]
    rfl
  · intro n remain
    rw [Keypad.poll_polled_isSome]
    exact decide_eq_true remain
  · intro quiet onlyMoves none e
    rw [← List.append_nil quiet] at onlyMoves
    have waits : d.StillWaits (moves quiet) e := by
      simpa using stillWaits_after onlyMoves none List.not_mem_nil
    exact ⟨waits.machine, step_of_no_stroke waits none⟩
  · intro quiet rest onlyMoves none noStep some e
    have waits : d.StillWaits (moves (quiet ++ rest)) e := stillWaits_after onlyMoves none noStep
    obtain ⟨k, others, oldest, presses, step⟩ := step_of_stroke waits some
    refine ⟨waits.machine, k, others, oldest, presses, step, ?_, ?_⟩
    · have pc : e.machine.registers.pc = c.machine.advance.registers.pc := by
        rw [waits.machine]
        rfl
      rw [step, ← Machine.toNat_pc_advance (upcoming_eq_some.1 await).2, ← pc]
      rfl
    · exact Keypad.mem_strokes (Keypad.mem_of_latest_eq_cons oldest)

/-- A program that waits for a key, while key 3 is held down and a press of key 7 has
    not been asked for. -/
def expectant : Console where
  machine :=
    { Machine.new 0 with memory := Memory.zeros.overwrite programStart [0xF5, 0x0A] }
  keypad := ((Keypad.idle.press (lastDigit 7)).release (lastDigit 7)).press (lastDigit 3)

/-- Key 3 ends the wait when it has come up and gone down again. -/
theorem expectant_takes_new_press :
    let d := expectant.waiting 5
    let quiet : List Turn := [.step, .keys (.set 3 true), .tick, .step, .keys (.set 3 false)]
    let rest : List Turn := [.keys (.set 3 true), .keys (.set 9 true), .tick]
    expectant.upcoming = some (.awaitKey 5) ∧
      (d.after quiet).step = (.ok .awaiting, d.after quiet) ∧
      (d.after (quiet ++ rest)).step.1 = .ok .plain ∧
      (d.after (quiet ++ rest)).step.2.machine.get 5 = 3 ∧
      (d.after (quiet ++ rest)).step.2.keypad.presses = [9] := by
  intro d quiet rest
  have await : expectant.upcoming = some (.awaitKey 5) := by decide +kernel
  obtain ⟨-, -, calm, ends⟩ := key_wait await
  have onlyMoves : ∀ turn ∈ quiet ++ rest, turn.OnlyMoves := by simp [quiet, rest, Turn.OnlyMoves]
  have none : expectant.keypad.strokes (moves quiet) = [] := by decide
  have strokes : expectant.keypad.strokes (moves (quiet ++ rest)) = [3, 9] := by decide
  have noStep : Turn.step ∉ rest := by simp [rest]
  obtain ⟨-, k, others, oldest, -, step, -⟩ :=
    ends quiet rest onlyMoves none noStep (by rw [strokes]; nofun)
  rw [strokes] at oldest
  obtain ⟨rfl, rfl⟩ := List.cons.inj (show [3, 9] = k :: others from oldest)
  refine ⟨await, (calm quiet (List.forall_mem_append.1 onlyMoves).1 none).2, ?_, ?_, ?_⟩
  · rw [step]
  · rw [step]
    exact (Registers.get_set _ _ _ _).trans (if_pos rfl)
  · rw [step]

end Console

end ChipEight
