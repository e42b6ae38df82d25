/-
  Turns — what is done to a console by hand, in any order.

  A turn makes a step, counts the timers down or uses the keypad, and is
  answered: a step by its result, and someone who asks for a press by the press.

  * `trace` are the answers to turns and the consoles after them, and `after` is
    the console after all of them;
  * `Avoids`: no step among the turns carries out an instruction of a kind;
  * `trace_withRandom`: turns that draw no random byte are answered alike with
    every random stream.
-/
import ChipEight.Proofs.Machine.Hidden

namespace ChipEight

/-! ## The keypad -/

/-- What is done with a keypad. -/
inductive Keypad.Use where
  /-- Move a key down or up. -/
  | set (k : Key) (down : Bool)
  /-- Ask for the oldest press. -/
  | poll
  /-- Move all keys up and forget the presses. -/
  | clear

/-- The press that was asked for, if there was one, and the keypad after the
    use. -/
def Keypad.use (p : Keypad) : Use → Option Key × Keypad
  | .set k down => (none, p.set k down)
  | .poll =>
    match p.poll with
    | some (k, rest) => (some k, rest)
    | none => (none, p)
  | .clear => (none, .idle)

/-! ## Turns -/

/-- What is done to a console. -/
inductive Turn where
  /-- Make a step. -/
  | step
  /-- Count the timers down. -/
  | tick
  /-- Use the keypad. -/
  | keys (use : Keypad.Use)

/-- What a turn is answered by. -/
inductive Answer where
  /-- The result of the step. -/
  | stepped (result : Except Fault Effect)
  /-- The timers have nothing to say. -/
  | ticked
  /-- The press that was asked for, if there was one. -/
  | used (press : Option Key)

/-- The fault that a step came to. -/
def Answer.fault? : Answer → Option Fault
  | .stepped (.error fault) => some fault
  | _ => none

theorem Answer.fault?_stepped {result : Except Fault Effect} {fault : Fault} :
    (stepped result).fault? = some fault ↔ result = .error fault := by
  cases result <;> simp [fault?]

namespace Console

/-- The answer to a turn, and the console after it. -/
def take (c : Console) : Turn → Answer × Console
  | .step => (.stepped c.step.1, c.step.2)
  | .tick => (.ticked, c.mapMachine Machine.tick)
  | .keys use => (.used (c.keypad.use use).1, { c with keypad := (c.keypad.use use).2 })

/-- The answers to turns, each with the console after the turn. -/
def trace : Console → List Turn → List (Answer × Console)
  | _, [] => []
  | c, turn :: later => c.take turn :: (c.take turn).2.trace later

/-- The console after turns. -/
def after (c : Console) (turns : List Turn) : Console :=
  turns.foldl (fun c turn => (c.take turn).2) c

/-- The answers to turns. -/
def answers (c : Console) (turns : List Turn) : List Answer := (c.trace turns).map Prod.fst

/-- The faults that the steps among turns came to. -/
def faults (c : Console) (turns : List Turn) : List Fault :=
  (c.answers turns).filterMap Answer.fault?

/-- No step among the turns carries out an instruction of a kind. -/
def Avoids (kind : Instruction → Prop) : Console → List Turn → Prop
  | _, [] => True
  | c, turn :: later =>
    (turn = .step → ∀ i, c.upcoming = some i → ¬ kind i) ∧ (c.take turn).2.Avoids kind later

@[simp] theorem after_nil (c : Console) : c.after [] = c := rfl

@[simp] theorem after_cons (c : Console) (turn : Turn) (later : List Turn) :
    c.after (turn :: later) = (c.take turn).2.after later := rfl

@[simp] theorem after_append (c : Console) (earlier later : List Turn) :
    c.after (earlier ++ later) = (c.after earlier).after later :=
  List.foldl_append

@[simp] theorem answers_nil (c : Console) : c.answers [] = [] := rfl

@[simp] theorem answers_cons (c : Console) (turn : Turn) (later : List Turn) :
    c.answers (turn :: later) = (c.take turn).1 :: (c.take turn).2.answers later := rfl

theorem faults_cons (c : Console) (turn : Turn) (later : List Turn) :
    c.faults (turn :: later) = (c.take turn).1.fault?.toList ++ (c.take turn).2.faults later := by
  rw [faults, answers_cons, List.filterMap_cons]
  cases (c.take turn).1.fault? <;> rfl

/-! ## Another random stream -/

theorem take_withRandom {c : Console} {turn : Turn}
    (h : turn = .step → ∀ i, c.upcoming = some i → ¬ i.DrawsRandom) (random : Keystream) :
    (c.withRandom random).take turn = ((c.take turn).1, (c.take turn).2.withRandom random) := by
  cases turn with
  | step => rw [take, step_withRandom (h rfl)]; rfl
  | tick => rfl
  | keys use => rfl

/-- **Turns that draw no random byte** are answered alike with every random
    stream, and leave the same in everything else. -/
theorem trace_withRandom {c : Console} {turns : List Turn}
    (h : c.Avoids Instruction.DrawsRandom turns) (random : Keystream) :
    (c.withRandom random).trace turns =
      (c.trace turns).map fun (answer, d) => (answer, d.withRandom random) := by
  induction turns generalizing c with
  | nil => rfl
  | cons turn later ih =>
    rw [trace, trace, take_withRandom h.1, ih h.2]
    rfl

end Console

end ChipEight
