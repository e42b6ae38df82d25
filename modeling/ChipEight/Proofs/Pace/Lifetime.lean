/-
  The random stream over a lifetime.

  A machine draws its random bytes from one stream, from power-up on.

  * `draws` says of a console that its next step carries out a word `CXNN`;
    `random_step`: such a step takes one word of the stream, with any mask, and
    the other ones leave the stream alone, whether they come to a fault, wait for
    a key or find the machine halted;
  * a `Happening` is a deed, an update by any pacer with any panel, or another
    keypad, and `steps` are the consoles that steps are made from during a life;
  * `Keystream.Serves`: consoles draw from a stream one after the other, each
    where the one before it has left it; what happens to a console serves those
    of its steps that draw (`serves_stepsIn`), and so does a life (`serves_steps`);
  * `one_stream_for_life` tells what each draw yields.
-/
import ChipEight.Proofs.Instruction.Formats
import ChipEight.Proofs.Machine.Course
import ChipEight.Proofs.Machine.Faults
import ChipEight.Proofs.Pace.Timeline

namespace ChipEight

/-! ## Steps that draw -/

namespace Console

variable {c : Console}

/-- The machine runs, and the word at the program counter is `CXNN`. -/
def draws (c : Console) : Bool :=
  match c.machine.status, c.machine.fetch with
  | .running, .ok word => word.group.val == 0xC
  | _, _ => false

theorem draws_iff :
    c.draws = true ↔
      c.machine.status = .running ∧ ∃ w, c.machine.fetch = .ok w ∧ w.group.val = 0xC := by
  unfold draws
  split
  · next status fetch => simp [status, fetch]
  · next other =>
    simp only [Bool.false_eq_true, false_iff, not_and, not_exists]
    exact fun status w fetch => absurd fetch (other w status)

theorem upcoming_of_draws {w : Word} (status : c.machine.status = .running)
    (fetch : c.machine.fetch = .ok w) (group : w.group.val = 0xC) :
    c.upcoming = some (.random w.x w.byte) :=
  upcoming_of_standsFor status fetch (.random group)

/-- The steps that draw are those with an instruction before them that draws. -/
theorem draws_iff_upcoming : c.draws = true ↔ ∃ i, c.upcoming = some i ∧ i.DrawsRandom := by
  rw [draws_iff]
  constructor
  · rintro ⟨status, w, fetch, group⟩
    exact ⟨_, upcoming_of_draws status fetch group, trivial⟩
  · rintro ⟨i, upcoming, drawing⟩
    obtain ⟨status, found⟩ := upcoming_eq_some.1 upcoming
    obtain ⟨w, fetch, decode⟩ := Machine.fetch_of_fetchInstruction found
    refine ⟨status, w, fetch, ?_⟩
    cases Word.standsFor_of_decode decode with
    | random group => exact group
    | _ => cases drawing

theorem random_step_of_upcoming {i : Instruction} (h : c.upcoming = some i) :
    c.step.2.machine.random = i.randomAfter c.machine.random := by
  have drawn := i.random_execute c.advance
  rw [step_of_upcoming h]
  rcases execute : i.execute.on c.advance with ⟨fault | effect, after⟩
  all_goals
    rw [execute] at drawn
    exact drawn

theorem random_step_of_none (h : c.upcoming = none) :
    c.step.2.machine.random = c.machine.random := by
  rcases step : c.step with ⟨result, after⟩
  cases step_spec step with
  | halted | waits | resumes | unfetched => rfl
  | refused status found | executes status found =>
    rw [upcoming_eq_some.2 ⟨status, found⟩] at h
    cases h

/-- **A step takes one word of the stream** if it carries out `CXNN`, and none
    otherwise. -/
theorem random_step (c : Console) :
    c.step.2.machine.random =
      if c.draws then c.machine.random.next.2 else c.machine.random := by
  cases upcoming : c.upcoming with
  | none =>
    have still : ¬ c.draws = true := by simp [draws_iff_upcoming, upcoming]
    rw [random_step_of_none upcoming, if_neg still]
  | some i =>
    rw [random_step_of_upcoming upcoming]
    split
    · next drawing =>
      obtain ⟨j, same, drawing⟩ := draws_iff_upcoming.1 drawing
      obtain rfl := Option.some.inj (upcoming.symm.trans same)
      cases i with
      | random => rfl
      | _ => cases drawing
    · next still =>
      exact Instruction.randomAfter_of_not
        (fun drawing => still (draws_iff_upcoming.2 ⟨i, upcoming, drawing⟩)) _

/-- **What a draw yields**: the register of the word holds its mask and the next
    byte of the stream, combined bit by bit. -/
theorem step_of_draws (h : c.draws = true) :
    ∃ w, c.machine.fetch = .ok w ∧ w.group.val = 0xC ∧ c.step.1 = .ok .plain ∧
      c.step.2.machine.get w.x = w.byte &&& c.machine.random.next.1 := by
  obtain ⟨status, w, fetch, group⟩ := draws_iff.1 h
  have step := step_of_upcoming (upcoming_of_draws status fetch group)
  refine ⟨w, fetch, group, by rw [step]; rfl, ?_⟩
  rw [step]
  exact (Registers.get_set _ w.x w.x _).trans (if_pos rfl)

end Console

/-! ## Draws one after the other -/

namespace Keystream

/-- The stream with `n` more words drawn. -/
def skip (stream : Keystream) (n : Nat) : Keystream := { stream with drawn := stream.drawn + n }

theorem skip_next (stream : Keystream) (n : Nat) : stream.next.2.skip n = stream.skip (n + 1) := by
  simp only [skip, next, Nat.add_assoc, Nat.add_comm 1 n]

/-- The consoles draw from a stream one after the other, each where the one before
    it has left it, and the last one leaves it as given. -/
inductive Serves : Keystream → List Console → Keystream → Prop
  | none (stream : Keystream) : Serves stream [] stream
  | draw {c : Console} {later : List Console} {after : Keystream}
      (rest : Serves c.machine.random.next.2 later after) :
      Serves c.machine.random (c :: later) after

namespace Serves
variable {stream middle after : Keystream} {consoles later : List Console}

theorem append (h : Serves stream consoles middle) (h' : Serves middle later after) :
    Serves stream (consoles ++ later) after := by
  induction h with
  | none => exact h'
  | draw _ ih => exact .draw (ih h')

theorem after_eq (h : Serves stream consoles after) : after = stream.skip consoles.length := by
  induction h with
  | none => rfl
  | draw _ ih => rw [ih, skip_next, List.length_cons]

/-- **The draws are numbered**: each finds as many words drawn as there are draws
    before it. -/
theorem random_eq (h : Serves stream consoles after) {k : Nat} {d : Console}
    (here : consoles[k]? = some d) : d.machine.random = stream.skip k := by
  induction h generalizing k with
  | none => cases here
  | draw _ ih =>
    cases k with
    | zero => obtain rfl := Option.some.inj here; rfl
    | succ k => rw [ih here, skip_next]

end Serves

end Keystream

/-! ## Runs and episodes -/

namespace Console

/-- A step serves itself, if it draws. -/
theorem serves_step (c : Console) :
    c.machine.random.Serves ([c].filter draws) c.step.2.machine.random := by
  rw [random_step]
  split
  · next drawing =>
    rw [List.filter_cons_of_pos drawing]
    exact .draw (.none _)
  · next still =>
    rw [List.filter_cons_of_neg still]
    exact .none _

/-- The consoles that the steps of a plain run are made from. -/
def stepsOfRun : Nat → Console → List Console
  | 0, _ => []
  | n + 1, c =>
    c ::
      match c.step with
      | (.error _, _) => []
      | (.ok .halted, _) => []
      | (.ok _, after) => stepsOfRun n after

theorem stepsOfRun_of_ok {c after : Console} {effect : Effect} {n : Nat}
    (running : c.machine.isHalted = false) (h : c.step = (.ok effect, after)) :
    stepsOfRun (n + 1) c = [c] ++ stepsOfRun n after := by
  have goesOn := (step_ok h running).1
  rw [stepsOfRun, h]
  cases effect <;> first | rfl | exact absurd rfl goesOn

theorem serves_stepsOfRun (c : Console) (last : Effect) (n : Nat) :
    c.machine.random.Serves ((stepsOfRun n c).filter draws)
      (runFrom last n c).2.machine.random := by
  induction n generalizing c last with
  | zero => exact .none _
  | succ n ih =>
    have now := c.serves_step
    obtain halted | ⟨fault, after, step⟩ | ⟨effect, after, running, step⟩ := c.step_cases
    · have step := step_of_halted halted
      rw [step] at now
      rw [runFrom_of_halted halted, stepsOfRun, step]
      exact now
    · rw [step] at now
      rw [runFrom_of_error step, stepsOfRun, step]
      exact now
    · rw [step] at now
      rw [runFrom_of_ok running step, stepsOfRun_of_ok running step, List.filter_append]
      exact now.append (ih after effect)

end Console

namespace Episode

variable {δ : Type} [Panel δ]

/-- The consoles that the cycles among events make their steps from. -/
def steps : Episode δ → List Event → List Console
  | _, [] => []
  | e, .cycle :: later =>
    (if e.console.machine.isHalted then [] else [e.console]) ++ e.cycle.steps later
  | e, event :: later => (e.perform event).steps later

theorem serves_cycle (e : Episode δ) :
    e.console.machine.random.Serves
      ((if e.console.machine.isHalted then [] else [e.console]).filter Console.draws)
      e.cycle.console.machine.random := by
  have made := e.console.serves_step
  obtain halted | ⟨fault, after, step⟩ | ⟨effect, after, running, step⟩ := e.console.step_cases
  · rw [cycle_of_halted halted, if_pos halted]
    exact .none _
  · rw [step] at made
    rw [cycle_of_error step, (Console.step_error step).2]
    exact made
  · rw [step] at made
    rw [(cycle_of_ok_fields running step).1, running]
    exact made

theorem serves_steps (e : Episode δ) (events : List Event) :
    e.console.machine.random.Serves ((e.steps events).filter Console.draws)
      (e.performAll events).console.machine.random := by
  induction events generalizing e with
  | nil => exact .none _
  | cons event later ih =>
    cases event with
    | cycle =>
      rw [steps, List.filter_append]
      exact e.serves_cycle.append (ih e.cycle)
    | tick =>
      -- a tick leaves the stream alone
      have same : (e.perform .tick).console.machine.random = e.console.machine.random := by
        rw [perform, tick_console]
        rfl
      have rest := ih (e.perform .tick)
      rwa [same] at rest
    | keys keypad => exact ih (e.perform (.keys keypad))

end Episode

/-! ## Lives -/

/-- What happens to a console. -/
inductive Happening : Type 1 where
  /-- Something is done to it. -/
  | deed (deed : Console.Deed)
  /-- A pacer lets time pass on it, with a panel. -/
  | update {δ : Type} [Panel δ] (pacer : Pacer) (panel : δ) (elapsed : Nat)
  /-- It gets another keypad. -/
  | plugIn (keypad : Keypad)

namespace Console

/-- The console after something has happened to it. -/
def undergo (c : Console) : Happening → Console
  | .deed deed => c.perform deed
  | @Happening.update _ _ pacer panel elapsed => (pacer.update c panel elapsed).2.console
  | .plugIn keypad => { c with keypad }

/-- The consoles that steps are made from when something happens. -/
def stepsIn (c : Console) : Happening → List Console
  | .deed (.turn .step) => [c]
  | .deed (.run n) => stepsOfRun n c
  | @Happening.update _ _ pacer panel elapsed => (Episode.start c panel).steps (pacer.agenda elapsed)
  | .deed _ | .plugIn _ => []

/-- The console after a life. -/
def live (c : Console) (life : List Happening) : Console := life.foldl undergo c

/-- The consoles that steps are made from during a life, in order. -/
def steps : Console → List Happening → List Console
  | _, [] => []
  | c, happening :: later => c.stepsIn happening ++ (c.undergo happening).steps later

/-- A new program finds the stream where the one before it has left it. -/
theorem random_perform_install (c : Console) (program : List UInt8) :
    (c.perform (.install program)).machine.random = c.machine.random := by
  rcases Nat.lt_or_ge maxProgramSize program.length with large | fits
  · rw [perform, mapMachine, Machine.install_of_tooLarge large]
  · rw [perform, mapMachine, Machine.install_of_fits fits]
    rfl

/-- **What happens to a console** serves the steps that draw, and does nothing else
    to the stream. -/
theorem serves_stepsIn (c : Console) (happening : Happening) :
    c.machine.random.Serves ((c.stepsIn happening).filter draws)
      (c.undergo happening).machine.random := by
  cases happening with
  | plugIn keypad => exact .none _
  | update pacer panel elapsed =>
    rw [undergo, Pacer.update_eq]
    exact (Episode.start c panel).serves_steps _
  | deed deed =>
    cases deed with
    | turn turn =>
      cases turn with
      | step => exact c.serves_step
      | tick | keys => exact .none _
    | run n => exact c.serves_stepsOfRun .plain n
    | askBuzzer | edit | reset => exact .none _
    | loadFont glyphs =>
      obtain ⟨memory, same⟩ := c.perform_loadFont glyphs
      rw [undergo, same]
      exact .none _
    | install program =>
      rw [undergo, random_perform_install]
      exact .none _

theorem serves_steps (c : Console) (life : List Happening) :
    c.machine.random.Serves ((c.steps life).filter draws) (c.live life).machine.random := by
  induction life generalizing c with
  | nil => exact .none _
  | cons happening later ih =>
    rw [steps, List.filter_append]
    exact (c.serves_stepsIn happening).append (ih (c.undergo happening))

/-- **One stream for a lifetime.**  Whatever happens to a console that starts with
    the machine of a seed, as many words of the stream of that seed have been drawn
    as there were steps that carried out a word `CXNN`; and these steps, numbered
    from zero, have put the low byte of the word of the stream with their own number
    to their register, masked with `NN`. -/
theorem one_stream_for_life (seed : UInt64) (keypad : Keypad) (life : List Happening) :
    let c : Console := ⟨.new seed, keypad⟩
    let drawing := (c.steps life).filter draws
    (c.live life).machine.random = ⟨seed, drawing.length⟩ ∧
      ∀ k d, drawing[k]? = some d →
        d.machine.status = .running ∧
          ∃ w, d.machine.fetch = .ok w ∧ w.group.val = 0xC ∧ d.step.1 = .ok .plain ∧
            d.step.2.machine.get w.x = w.byte &&& (Keystream.word seed k).toUInt8 := by
  intro c drawing
  have serves : (Keystream.ofSeed seed).Serves drawing _ := c.serves_steps life
  have skipped (n : Nat) : (Keystream.ofSeed seed).skip n = ⟨seed, n⟩ := by
    rw [Keystream.skip, Keystream.ofSeed, Nat.zero_add]
  refine ⟨serves.after_eq.trans (skipped _), fun k d here => ?_⟩
  have draw : d.draws = true := (List.mem_filter.1 (List.mem_of_getElem? here)).2
  obtain ⟨w, fetch, group, plain, value⟩ := step_of_draws draw
  rw [serves.random_eq here, skipped] at value
  exact ⟨(draws_iff.1 draw).1, w, fetch, group, plain, value⟩

/-- A mask of zero takes a word of the stream too, and a fault and a new program
    do not. -/
example :
    let life : List Happening := [.deed (.install [0xC0, 0x00]), .deed (.run 2),
      .deed (.install [0xC1, 0xFF]), .deed (.turn .step)]
    let machine := ((Console.mk (.new 0) .idle).live life).machine
    machine.random = ⟨0, 2⟩ ∧ machine.get 1 = 0xB2 := by
  decide +kernel

end Console

end ChipEight
