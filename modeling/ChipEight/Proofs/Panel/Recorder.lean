/-
  What a recorder has seen.

  Two panels on one line are a panel, so a recorder can be put beside any other
  panel.  It sees one picture at each tick and none between:

  * `length_pictures` counts them;
  * `getElem?_pictures`: the picture of a tick is the screen as the events before
    the tick have left it.
-/
import ChipEight.Proofs.Pace.Episode

namespace ChipEight

/-- Two panels on one line: both receive every signal. -/
instance {α β : Type} [Panel α] [Panel β] : Panel (α × β) where
  receive keypad signal panels :=
    (Panel.receive keypad signal panels.1, Panel.receive keypad signal panels.2)

/-- The picture that a signal shows. -/
def Signal.picture? : Signal → Option Screen
  | .draw picture => some picture
  | _ => none

/-- The pictures that were shown, the earliest first. -/
def Recorder.pictures (recorder : Recorder) : List Screen :=
  recorder.signals.toList.filterMap Signal.picture?

@[simp] theorem Recorder.pictures_empty : Recorder.empty.pictures = [] := rfl

namespace Episode

variable {δ : Type} [Panel δ] (e : Episode (δ × Recorder))

/-- What is made of the signals is made of each of them. -/
theorem filterMap_send {α : Type} (f : Signal → Option α) (signal : Signal) :
    (e.send signal).panel.2.signals.toList.filterMap f =
      e.panel.2.signals.toList.filterMap f ++ (f signal).toList := by
  simp only [send, Panel.receive, Array.toList_push, List.filterMap_append]
  cases h : f signal <;> simp [h]

/-- The pictures that the recorder of an episode has seen. -/
def pictures : List Screen := e.panel.2.pictures

theorem pictures_send (signal : Signal) :
    (e.send signal).pictures = e.pictures ++ signal.picture?.toList :=
  e.filterMap_send Signal.picture? signal

@[simp] theorem pictures_signalBuzzer : e.signalBuzzer.pictures = e.pictures := by
  rcases h : e.console.machine.buzzerChange with ⟨_ | on, machine⟩
  · rw [signalBuzzer_of_none h]
  · rw [signalBuzzer_of_some h, pictures_send]
    exact List.append_nil _

theorem pictures_cycle : e.cycle.pictures = e.pictures := by
  obtain halted | ⟨fault, after, step⟩ | ⟨effect, after, running, step⟩ := e.console.step_cases
  · rw [cycle_of_halted halted]
  · rw [cycle_of_error step, pictures_send]
    exact List.append_nil _
  · rw [cycle_of_ok running step, pictures_signalBuzzer]
    split
    · rw [pictures_send]
      exact List.append_nil _
    · rfl

/-- **A tick shows the picture once**, as it is. -/
theorem pictures_tick : e.tick.pictures = e.pictures ++ [e.console.machine.screen] := by
  rw [tick, pictures_send, pictures_signalBuzzer, signalBuzzer_console]
  rfl

theorem pictures_perform (event : Event) :
    (e.perform event).pictures =
      e.pictures ++ if event = .tick then [e.console.machine.screen] else [] := by
  cases event with
  | cycle => rw [perform, pictures_cycle]; simp
  | tick => rw [perform, pictures_tick]; simp
  | keys => rw [if_neg (by simp), List.append_nil]; rfl

theorem length_pictures (events : List Event) :
    (e.performAll events).pictures.length = e.pictures.length + events.count .tick := by
  induction events generalizing e with
  | nil => rfl
  | cons event events ih =>
    rw [performAll_cons, ih, pictures_perform]
    cases event with
    | tick => simp; omega
    | _ => simp

/-- Pictures that were shown stay so. -/
theorem pictures_isPrefix (events : List Event) :
    e.pictures <+: (e.performAll events).pictures := by
  refine performAll_induction (P := fun e' => e.pictures <+: e'.pictures) ?_ List.prefix_rfl events
  intro e' event shown
  rw [pictures_perform]
  exact shown.trans (List.prefix_append _ _)

/-- **The picture of a tick** is the screen as the events before it have left
    it. -/
theorem getElem?_pictures (before later : List Event) :
    (e.performAll (before ++ .tick :: later)).pictures[e.pictures.length + before.count .tick]? =
      some (e.performAll before).console.machine.screen := by
  obtain ⟨rest, shown⟩ := ((e.performAll before).perform .tick).pictures_isPrefix later
  rw [performAll_append, performAll_cons, ← shown, perform, pictures_tick, ← length_pictures,
    List.append_assoc, List.getElem?_append_right (Nat.le_refl _), Nat.sub_self]
  rfl

end Episode

end ChipEight
