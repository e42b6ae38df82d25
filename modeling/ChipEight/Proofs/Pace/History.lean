/-
  Histories — updates one after another, and what is done between them.

  * a `Rig` is a pacer with the console and the panel that it drives; an `Act`
    lets time pass on it, asks it for a step or moves its keys;
  * `chronicle` are the events of a list of acts and `story` is the one episode
    that they make up.  The rig ends up as this episode does (`serveAll_eq`),
    and the counts of the updates add up to those of the episode
    (`sum_episodes`);
  * `ticks_chronicle`: ticks are counted by the time that passes, and
    `chronicle_filter`: the events of a clocked pacer are those on its timeline,
    however the time is cut;
  * `Reachable` are the pacers that a program can get hold of, and `Fresh` those
    that were just made or reset; a fresh pacer is at the beginning of both its
    periods (`Fresh.atStart`).
-/
import ChipEight.Proofs.Pace.Timeline

namespace ChipEight

variable {δ : Type}

/-! ## Acts -/

/-- A pacer with the console and the panel that it drives. -/
structure Rig (δ : Type) where
  pacer : Pacer
  console : Console
  panel : δ

/-- What is done to a rig. -/
inductive Act where
  /-- Time passes. -/
  | pass (elapsed : Nat)
  /-- A step is asked for. -/
  | askStep
  /-- Keys are moved, or presses are asked for, which leaves the keypad as it is
      here. -/
  | moveKeys (keypad : Keypad)

/-- The time that an act takes. -/
def Act.elapsed : Act → Nat
  | .pass elapsed => elapsed
  | .askStep => 0
  | .moveKeys _ => 0

/-- The time that acts take. -/
def timeOf (acts : List Act) : Nat := (acts.map Act.elapsed).sum

@[simp] theorem timeOf_nil : timeOf [] = 0 := rfl

@[simp] theorem timeOf_cons (act : Act) (later : List Act) :
    timeOf (act :: later) = act.elapsed + timeOf later := by
  simp [timeOf]

/-- An event that a pacer brings about. -/
def Event.isPaced : Event → Bool
  | .keys _ => false
  | _ => true

namespace Pacer

/-- The events of acts. -/
def chronicle : Pacer → List Act → List Event
  | _, [] => []
  | p, .pass elapsed :: later => p.agenda elapsed ++ (p.after elapsed).chronicle later
  | p, .askStep :: later => p.askStep.chronicle later
  | p, .moveKeys keypad :: later => .keys keypad :: p.chronicle later

/-- **Ticks are counted by the time**, whatever else is done meanwhile. -/
theorem ticks_chronicle (p : Pacer) (acts : List Act) :
    (p.chronicle acts).count .tick = (p.ticks.advance (timeOf acts)).1 := by
  induction acts generalizing p with
  | nil => simp [chronicle]
  | cons act later ih =>
    cases act with
    | pass elapsed =>
      rw [chronicle, List.count_append, ticks_agenda, ih, after_ticks, timeOf_cons,
        Cadence.advance_add]
      rfl
    | askStep => simp [chronicle, ih, Act.elapsed, askStep]
    | moveKeys keypad => simp [chronicle, ih, Act.elapsed]

theorem agenda_filter (p : Pacer) (elapsed : Nat) :
    (p.agenda elapsed).filter Event.isPaced = p.agenda elapsed := by
  rw [List.filter_eq_self]
  intro event h
  cases event with
  | keys keypad => exact absurd h (p.keys_notMem_agenda elapsed keypad)
  | _ => rfl

/-- **The events of a clocked pacer are those on its timeline**, however the time
    is cut. -/
theorem chronicle_filter {p : Pacer} (clocked : p.isStepped = false) (acts : List Act) :
    (p.chronicle acts).filter Event.isPaced = p.timeline (timeOf acts) := by
  induction acts generalizing p with
  | nil => rfl
  | cons act later ih =>
    cases act with
    | pass elapsed =>
      rw [chronicle, List.filter_append, agenda_filter, ih (by rw [after_isStepped, clocked]),
        agenda_clocked clocked, after_clocked clocked, timeOf_cons, timeline_add]
      rfl
    | askStep =>
      rw [chronicle, ih (p := p.askStep) clocked, timeline_askStep, timeOf_cons, Act.elapsed,
        Nat.zero_add]
    | moveKeys keypad =>
      rw [chronicle, timeOf_cons, Act.elapsed, Nat.zero_add]
      exact ih clocked

end Pacer

/-! ## Rigs -/

namespace Rig
variable [Panel δ]

/-- What an act does to a rig. -/
def serve (r : Rig δ) : Act → Rig δ
  | .pass elapsed =>
    let (pacer, e) := r.pacer.update r.console r.panel elapsed
    ⟨pacer, e.console, e.panel⟩
  | .askStep => { r with pacer := r.pacer.askStep }
  | .moveKeys keypad => { r with console := { r.console with keypad } }

theorem serve_pass_pacer (r : Rig δ) (elapsed : Nat) :
    (r.serve (.pass elapsed)).pacer = r.pacer.after elapsed := by
  rw [serve, Pacer.update_eq]

/-- One act after the other. -/
def serveAll (r : Rig δ) (acts : List Act) : Rig δ := acts.foldl serve r

/-- The episodes of the updates among acts. -/
def episodes : Rig δ → List Act → List (Episode δ)
  | _, [] => []
  | r, .pass elapsed :: later =>
    (r.pacer.update r.console r.panel elapsed).2 :: (r.serve (.pass elapsed)).episodes later
  | r, act :: later => (r.serve act).episodes later

/-- The one episode that acts make up. -/
def story (r : Rig δ) (acts : List Act) : Episode δ :=
  (Episode.start r.console r.panel).performAll (r.pacer.chronicle acts)

theorem story_pass (r : Rig δ) (elapsed : Nat) (later : List Act) :
    r.story (.pass elapsed :: later) =
      (r.pacer.update r.console r.panel elapsed).2.followedBy
        ((r.serve (.pass elapsed)).story later) := by
  rw [story, Pacer.chronicle, Episode.performAll_append, Episode.performAll_eq_followedBy, story,
    serve, Pacer.update_eq]

/-- **The rig ends up as the episode does.** -/
theorem serveAll_eq (r : Rig δ) (acts : List Act) :
    (r.serveAll acts).console = (r.story acts).console ∧
      (r.serveAll acts).panel = (r.story acts).panel := by
  induction acts generalizing r with
  | nil => exact ⟨rfl, rfl⟩
  | cons act later ih =>
    cases act with
    | pass elapsed => rw [story_pass]; exact ih (r.serve (.pass elapsed))
    | askStep => exact ih (r.serve .askStep)
    | moveKeys keypad => exact ih (r.serve (.moveKeys keypad))

/-- **Counts add up**: what the updates report, one by one, is what the whole
    episode does. -/
theorem sum_episodes (r : Rig δ) (acts : List Act) (count : Report → Nat)
    (none : count ⟨0, 0⟩ = 0) (add : ∀ a b, count (a + b) = count a + count b) :
    ((r.episodes acts).map (count ·.report)).sum = count (r.story acts).report := by
  induction acts generalizing r with
  | nil => exact none.symm
  | cons act later ih =>
    cases act with
    | pass elapsed =>
      rw [episodes, List.map_cons, List.sum_cons, ih, story_pass, ← add]
      rfl
    | askStep => exact ih (r.serve .askStep)
    | moveKeys keypad => exact ih (r.serve (.moveKeys keypad))

end Rig

/-! ## Pacers that a program can get hold of -/

namespace Pacer

/-- A pacer that was made, and then used in any way. -/
inductive Reachable : Pacer → Prop
  | new {frequency : Nat} {stepped : Bool} {p : Pacer} (made : new frequency stepped = .ok p) :
      Reachable p
  | askStep {p : Pacer} (h : Reachable p) : Reachable p.askStep
  | reset {p : Pacer} (h : Reachable p) : Reachable p.reset
  | update {p : Pacer} (h : Reachable p) {δ : Type} [Panel δ] (console : Console) (panel : δ)
      (elapsed : Nat) : Reachable (p.update console panel elapsed).1

/-- A pacer of a frequency and a kind that was just made or reset. -/
inductive Fresh (frequency : Nat) (stepped : Bool) : Pacer → Prop
  | new {p : Pacer} (made : new frequency stepped = .ok p) : Fresh frequency stepped p
  | reset {p : Pacer} (h : Reachable p) (cycles : p.cycles.frequency = frequency)
      (kind : p.isStepped = stepped) : Fresh frequency stepped p.reset

/-- A pacer at the beginning of both its periods. -/
structure AtStart (frequency : Nat) (stepped : Bool) (p : Pacer) : Prop where
  cycles_frequency : p.cycles.frequency = frequency
  cycles_phase : p.cycles.phase = 0
  ticks_frequency : p.ticks.frequency = timerFrequency
  ticks_phase : p.ticks.phase = 0
  isStepped : p.isStepped = stepped
  pending : p.pending = 0

theorem new_of_pos {frequency : Nat} (pos : 0 < frequency) (stepped : Bool) :
    new frequency stepped =
      .ok ⟨.new frequency pos, .new timerFrequency (by decide), stepped, 0⟩ := dif_pos pos

theorem timerFrequency_pos : 0 < timerFrequency := by decide

/-- A clocked pacer of a cycle each nanosecond, at the beginning of its periods. -/
def eachNanosecond : Pacer :=
  ⟨.new nanosPerSecond nanosPerSecond_pos, .new timerFrequency timerFrequency_pos, false, 0⟩

theorem atStart_of_new {frequency : Nat} {stepped : Bool} {p : Pacer}
    (made : new frequency stepped = .ok p) : p.AtStart frequency stepped := by
  unfold new at made
  split at made
  · cases made
    exact ⟨rfl, rfl, rfl, rfl, rfl, rfl⟩
  · cases made

theorem Reachable.ticks_frequency {p : Pacer} (h : p.Reachable) :
    p.ticks.frequency = timerFrequency := by
  induction h with
  | new made => exact (atStart_of_new made).ticks_frequency
  | askStep _ ih => exact ih
  | reset _ ih => exact ih
  | update _ console panel elapsed ih =>
    rw [update_eq, after_ticks]
    exact ih

theorem Fresh.atStart {frequency : Nat} {stepped : Bool} {p : Pacer}
    (h : p.Fresh frequency stepped) : p.AtStart frequency stepped := by
  cases h with
  | new made => exact atStart_of_new made
  | reset h cycles kind => exact ⟨cycles, rfl, h.ticks_frequency, rfl, kind, rfl⟩

end Pacer

end ChipEight
