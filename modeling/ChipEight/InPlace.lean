/-
  Work in place — what is done to a state step by step, up to a fault.

  A fault ends the work but undoes none of it: `on` yields the state as the
  work has left it, whether it has come to an answer or to a fault.  Only work
  that is refused before it has done anything leaves the state as it was
  (`lift_bind_eq_error`).
-/
import ChipEight.Fault

namespace ChipEight

/-- Work on a state `σ` that answers an `α`, or comes to a fault. -/
abbrev InPlace (σ α : Type) := ExceptT Fault (StateM σ) α

namespace InPlace

variable {σ α β : Type}

/-- The answer or the fault, and the state as the work has left it. -/
def on (work : InPlace σ α) (state : σ) : Except Fault α × σ := (work.run.run state).run

theorem get_bind (next : σ → InPlace σ β) (s : σ) : (get >>= next).on s = (next s).on s := rfl

theorem modify_bind (f : σ → σ) (next : Unit → InPlace σ β) (s : σ) :
    (modify f >>= next).on s = (next ()).on (f s) := rfl

theorem set_bind (s' : σ) (next : Unit → InPlace σ β) (s : σ) :
    (set s' >>= next).on s = (next ()).on s' := rfl

variable {x : Except Fault α} {next : α → InPlace σ β} {s t : σ}

/-- Work that needs a value goes on with the value. -/
theorem lift_bind_eq_ok {b : β} :
    ((liftM x : InPlace σ α) >>= next).on s = (.ok b, t) ↔
      ∃ a, x = .ok a ∧ (next a).on s = (.ok b, t) := by
  cases x with
  | error fault =>
    constructor
    · intro h
      cases h
    · rintro ⟨a, h, -⟩
      cases h
  | ok a =>
    constructor
    · intro h
      exact ⟨a, rfl, h⟩
    · rintro ⟨_, same, h⟩
      cases same
      exact h

/-- Work that needs a value comes to a fault if there is none, and then it has
    done nothing, or later on. -/
theorem lift_bind_eq_error {fault : Fault} :
    ((liftM x : InPlace σ α) >>= next).on s = (.error fault, t) ↔
      (x = .error fault ∧ t = s) ∨ ∃ a, x = .ok a ∧ (next a).on s = (.error fault, t) := by
  cases x with
  | error fault =>
    constructor
    · intro h
      cases h
      exact .inl ⟨rfl, rfl⟩
    · rintro (⟨same, rfl⟩ | ⟨a, h, -⟩)
      · cases same
        rfl
      · cases h
  | ok a =>
    constructor
    · intro h
      exact .inr ⟨a, rfl, h⟩
    · rintro (⟨h, -⟩ | ⟨_, same, h⟩)
      · cases h
      · cases same
        exact h

/-- Work that needs a value does the same from a state and from its image, if it
    does so once the value is at hand. -/
theorem lift_bind_image {f : σ → σ} (image : t = f s)
    (goesOn : ∀ a, (next a).on t = (((next a).on s).1, f ((next a).on s).2)) :
    ((liftM x : InPlace σ α) >>= next).on t =
      ((((liftM x : InPlace σ α) >>= next).on s).1,
        f (((liftM x : InPlace σ α) >>= next).on s).2) := by
  cases x with
  | error fault => exact congrArg _ image
  | ok a => exact goesOn a

end InPlace

end ChipEight
