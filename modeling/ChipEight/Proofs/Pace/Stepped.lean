/-
  Steps that are asked for.

  A stepped pacer makes cycles of the steps that it was asked for, all of them in
  the next update, and time brings it nothing but ticks.

  * `stepsAsked` counts the steps that acts ask for.  Those that were made and those
    that are still to be made add up to it (`cycles_add_pending`), and after an
    update none is still to be made, so the cycles so far are the steps asked for
    before the last update (`cycles_of_last_pass`);
  * `idlesTo_episode`: an update makes the steps that are to be made, and from there
    on it idles, however long it takes;
  * `isHalted_serveAll`: updates that all succeed do not halt the machine, so they
    count all of their cycles (`Rig.steps_as_asked`).
-/
import ChipEight.Proofs.Pace.Faults

namespace ChipEight

variable {δ : Type}

/-! ## Counting steps -/

/-- Time passes in the act. -/
def Act.isPass : Act → Bool
  | .pass _ => true
  | _ => false

/-- The act asks for a step. -/
def Act.isAsk : Act → Bool
  | .askStep => true
  | _ => false

/-- The number of steps that acts ask for. -/
def stepsAsked (acts : List Act) : Nat := acts.countP Act.isAsk

@[simp] theorem stepsAsked_pass (elapsed : Nat) (later : List Act) :
    stepsAsked (.pass elapsed :: later) = stepsAsked later := rfl

@[simp] theorem stepsAsked_askStep (later : List Act) :
    stepsAsked (.askStep :: later) = stepsAsked later + 1 := List.countP_cons_of_pos rfl

@[simp] theorem stepsAsked_moveKeys (keypad : Keypad) (later : List Act) :
    stepsAsked (.moveKeys keypad :: later) = stepsAsked later := rfl

/-- Nothing but an update offers the machine a cycle. -/
theorem Pacer.cycles_chronicle_of_untimed (p : Pacer) {acts : List Act}
    (untimed : ∀ act ∈ acts, act.isPass = false) : (p.chronicle acts).count .cycle = 0 := by
  induction acts generalizing p with
  | nil => rfl
  | cons act later ih =>
    obtain ⟨now, rest⟩ := List.forall_mem_cons.1 untimed
    cases act with
    | pass elapsed => cases now
    | askStep => exact ih p.askStep rest
    | moveKeys keypad => rw [chronicle, List.count_cons_of_ne (by simp), ih p rest]

namespace Rig

section
variable [Panel δ]

@[simp] theorem isStepped_serveAll (r : Rig δ) (acts : List Act) :
    (r.serveAll acts).pacer.isStepped = r.pacer.isStepped := by
  induction acts generalizing r with
  | nil => rfl
  | cons act later ih =>
    refine (ih (r.serve act)).trans ?_
    cases act with
    | pass elapsed => rw [serve_pass_pacer, Pacer.after_isStepped]
    | askStep | moveKeys => rfl

theorem chronicle_append (r : Rig δ) (earlier later : List Act) :
    r.pacer.chronicle (earlier ++ later) =
      r.pacer.chronicle earlier ++ (r.serveAll earlier).pacer.chronicle later := by
  induction earlier generalizing r with
  | nil => rfl
  | cons act earlier ih =>
    have rest := ih (r.serve act)
    cases act with
    | pass elapsed =>
      rw [serve_pass_pacer] at rest
      rw [List.cons_append, Pacer.chronicle, rest, Pacer.chronicle, List.append_assoc]
      rfl
    | askStep => exact rest
    | moveKeys keypad => exact congrArg (.keys keypad :: ·) rest

end

section
variable [Panel δ] {r : Rig δ}

/-- An update of a stepped pacer makes the steps that were to be made, and leaves
    none. -/
theorem pending_serve_pass (stepped : r.pacer.isStepped = true) (elapsed : Nat) :
    (r.pacer.agenda elapsed).count .cycle = r.pacer.pending ∧
      (r.serve (.pass elapsed)).pacer.pending = 0 := by
  constructor
  · rw [Pacer.cycles_agenda, Pacer.offered, if_pos stepped]
  · rw [serve_pass_pacer]
    exact (r.pacer.owesNoStep_after elapsed).pending ((Pacer.after_isStepped _ _).trans stepped)

/-- **No step is lost, and none is made twice**: those that were made and those
    that are still to be made are those that were to be made at first and those
    that were asked for. -/
theorem cycles_add_pending (stepped : r.pacer.isStepped = true) (acts : List Act) :
    (r.pacer.chronicle acts).count .cycle + (r.serveAll acts).pacer.pending =
      r.pacer.pending + stepsAsked acts := by
  induction acts generalizing r with
  | nil => exact Nat.add_comm 0 _
  | cons act later ih =>
    cases act with
    | pass elapsed =>
      obtain ⟨made, none⟩ := pending_serve_pass stepped elapsed
      have rest := ih (r := r.serve (.pass elapsed))
        (by rw [serve_pass_pacer, Pacer.after_isStepped, stepped])
      rw [none, serve_pass_pacer] at rest
      rw [Pacer.chronicle, List.count_append, made, stepsAsked_pass, Nat.add_assoc]
      exact congrArg (r.pacer.pending + ·) (rest.trans (Nat.zero_add _))
    | askStep =>
      have rest := ih (r := r.serve .askStep) stepped
      rw [stepsAsked_askStep]
      exact rest.trans (Nat.succ_add_eq_add_succ _ _)
    | moveKeys keypad =>
      have rest := ih (r := r.serve (.moveKeys keypad)) stepped
      rw [Pacer.chronicle, List.count_cons_of_ne (by simp), stepsAsked_moveKeys]
      exact rest

/-- **The cycles so far** are the steps that were asked for before the last
    update. -/
theorem cycles_of_last_pass (stepped : r.pacer.isStepped = true) (before : List Act)
    (elapsed : Nat) {later : List Act} (untimed : ∀ act ∈ later, act.isPass = false) :
    (r.pacer.chronicle (before ++ .pass elapsed :: later)).count .cycle =
      r.pacer.pending + stepsAsked before := by
  have stays : (r.serveAll before).pacer.isStepped = true := by rw [isStepped_serveAll, stepped]
  have none := Pacer.cycles_chronicle_of_untimed ((r.serveAll before).pacer.after elapsed) untimed
  rw [chronicle_append, Pacer.chronicle, List.count_append, List.count_append,
    (pending_serve_pass stays elapsed).1, none, Nat.add_zero]
  exact cycles_add_pending stepped before

/-- Updates that all succeed do not halt the machine. -/
theorem isHalted_serveAll {acts : List Act} (running : r.console.machine.isHalted = false)
    (succeed : ∀ e ∈ r.episodes acts, e.result.isOk = true) :
    (r.serveAll acts).console.machine.isHalted = false := by
  induction acts generalizing r with
  | nil => exact running
  | cons act later ih =>
    cases act with
    | askStep => exact ih (r := r.serve .askStep) running succeed
    | moveKeys keypad => exact ih (r := r.serve (.moveKeys keypad)) running succeed
    | pass elapsed =>
      obtain ⟨now, succeed⟩ := List.forall_mem_cons.1 succeed
      refine ih (r := r.serve (.pass elapsed)) ?_ succeed
      rw [Bool.eq_false_iff]
      intro halted
      obtain ⟨fault, status⟩ := Machine.isHalted_iff.1 halted
      have failed : (r.episode elapsed).result = .error fault :=
        result_eq_error_iff.2 ⟨running, status⟩
      rw [← episode, failed] at now
      cases now

end

end Rig

/-! ## What time brings -/

variable [Panel δ]

/-- Ticks are idle, however many they are. -/
theorem Episode.idlesTo_ticks (e : Episode (δ × Recorder)) (n : Nat) :
    e.IdlesTo (e.performAll (List.replicate n .tick)) n := by
  induction n with
  | zero => exact .refl e
  | succ n ih =>
    rw [List.replicate_succ', performAll_append]
    exact ih.trans (IdlesTo.tick _)

namespace Rig

/-- **Time brings nothing but ticks**: once an update of a stepped pacer has made the
    steps that were to be made, it idles. -/
theorem idlesTo_episode {r : Rig (δ × Recorder)} (stepped : r.pacer.isStepped = true)
    (elapsed : Nat) :
    ((Episode.start r.console r.panel).performAll
        (List.replicate r.pacer.pending .cycle)).IdlesTo
      (r.episode elapsed) (r.pacer.ticks.advance elapsed).1 := by
  rw [episode_eq, Pacer.agenda_stepped stepped, Episode.performAll_append]
  exact Episode.idlesTo_ticks _ _

/-- **Steps are made as they are asked for.**  Whatever acts are done to a rig with a
    fresh stepped pacer, they amount to the events of their chronicle, one after the
    other.  The cycles among these are as many as the steps that were asked for
    before the last update, and none if there was no update.  At each update, the
    cycles so far and the steps still to be made are as many as the steps asked for;
    the update makes these steps, leaves none, and does nothing else but tick.  As
    long as the updates succeed and the machine has not halted before, the counts of
    cycles in their results add up to the number of cycles. -/
theorem steps_as_asked {frequency : Nat} {p : Pacer} (fresh : p.Fresh frequency true)
    (console : Console) (panel : δ × Recorder) (acts : List Act) :
    let rig := Rig.mk p console panel
    let events := p.chronicle acts
    (rig.serveAll acts).console = ((Episode.start console panel).performAll events).console ∧
      (rig.serveAll acts).panel = ((Episode.start console panel).performAll events).panel ∧
      ((∀ act ∈ acts, act.isPass = false) → events.count .cycle = 0) ∧
      (∀ before elapsed later, acts = before ++ .pass elapsed :: later →
        ((∀ act ∈ later, act.isPass = false) → events.count .cycle = stepsAsked before) ∧
          let now := rig.serveAll before
          (p.chronicle before).count .cycle + now.pacer.pending = stepsAsked before ∧
            ((Episode.start now.console now.panel).performAll
                (List.replicate now.pacer.pending .cycle)).IdlesTo
              (now.episode elapsed) (now.pacer.ticks.advance elapsed).1 ∧
            (now.serve (.pass elapsed)).pacer.pending = 0) ∧
      (console.machine.isHalted = false →
        (∀ e ∈ rig.episodes acts, e.result.isOk = true) →
          (∀ e ∈ rig.episodes acts, e.result = .ok e.report) ∧
            ((rig.episodes acts).map (·.report.cycles)).sum = events.count .cycle) := by
  intro rig events
  obtain ⟨sameConsole, samePanel⟩ := rig.serveAll_eq acts
  have none : p.pending = 0 := fresh.atStart.pending
  have stepped : rig.pacer.isStepped = true := fresh.atStart.isStepped
  refine ⟨sameConsole, samePanel, fun untimed => p.cycles_chronicle_of_untimed untimed, ?_, ?_⟩
  · intro before elapsed later split
    have stays : (rig.serveAll before).pacer.isStepped = true := by
      rw [isStepped_serveAll, stepped]
    refine ⟨fun untimed => ?_, ?_, idlesTo_episode stays elapsed,
      (pending_serve_pass stays elapsed).2⟩
    · have made := cycles_of_last_pass stepped before elapsed untimed
      rw [← split] at made
      rw [made, none, Nat.zero_add]
    · have balance := cycles_add_pending stepped before
      rwa [show rig.pacer.pending = 0 from none, Nat.zero_add] at balance
  · intro running succeed
    have goesOn : (rig.story acts).console.machine.isHalted = false :=
      sameConsole ▸ isHalted_serveAll running succeed
    refine ⟨result_of_running goesOn, ?_⟩
    rw [rig.sum_episodes acts Report.cycles rfl fun _ _ => rfl, story,
      Episode.cycles_performAll goesOn]
    exact Nat.zero_add _

/-- Of three steps two are made, in an update that takes no time. -/
theorem two_of_three_steps :
    ∃ p : Pacer, p.Fresh 700 true ∧
      let machine := { Machine.new 0 with
        memory := Memory.zeros.overwrite programStart [0x12, 0x00] }
      let rig := Rig.mk p ⟨machine, .idle⟩ (Recorder.empty, Recorder.empty)
      let acts := [.pass 50000000, .askStep, .askStep, .pass 0, .askStep]
      (p.chronicle acts).count .cycle = 2 ∧
        ((rig.episodes acts).map (·.report.cycles)).sum = 2 := by
  have fresh := Pacer.Fresh.new (Pacer.new_of_pos (show 0 < 700 by decide) true)
  refine ⟨_, fresh, ?_⟩
  intro machine rig acts
  obtain ⟨-, -, -, counts, sums⟩ := steps_as_asked fresh rig.console rig.panel acts
  have untimed : ∀ act ∈ [Act.askStep], act.isPass = false := by decide
  have cycles : (rig.pacer.chronicle acts).count .cycle = 2 :=
    (counts [.pass 50000000, .askStep, .askStep] 0 [.askStep] rfl).1 untimed
  have succeed : ∀ e ∈ rig.episodes acts, e.result.isOk = true := by decide +kernel
  exact ⟨cycles, (sums rfl succeed).2.trans cycles⟩

end Rig

end ChipEight
