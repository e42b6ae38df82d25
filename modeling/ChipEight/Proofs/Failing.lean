/-
  Work that may fail, and that needs nothing else.

  * `bind_eq_ok_iff`, `bind_eq_error_iff`: work goes on with the value that is there, and
    fails at once if there is none;
  * `mapM_eq_error_iff`: work on a list fails as the first of its elements does that fails.
-/
namespace ChipEight

variable {α β ε : Type}

theorem ok_bind (a : α) (next : α → Except ε β) : (Except.ok a >>= next) = next a := rfl

theorem eq_ok_of_toOption {x : Except ε α} {a : α} (h : x.toOption = some a) : x = .ok a := by
  cases x with
  | error e => cases h
  | ok b => cases h; rfl

theorem bind_eq_ok_iff {x : Except ε α} {next : α → Except ε β} {b : β} :
    x >>= next = .ok b ↔ ∃ a, x = .ok a ∧ next a = .ok b := by
  cases x with
  | error e =>
    constructor
    · intro h
      cases h
    · rintro ⟨_, h, -⟩
      cases h
  | ok a =>
    constructor
    · intro h
      exact ⟨a, rfl, h⟩
    · rintro ⟨_, same, h⟩
      cases same
      exact h

theorem bind_eq_error_iff {x : Except ε α} {next : α → Except ε β} {e : ε} :
    x >>= next = .error e ↔ x = .error e ∨ ∃ a, x = .ok a ∧ next a = .error e := by
  cases x with
  | error e' =>
    constructor
    · intro h
      cases h
      exact .inl rfl
    · rintro (same | ⟨_, h, -⟩)
      · cases same
        rfl
      · cases h
  | ok a =>
    constructor
    · intro h
      exact .inr ⟨a, rfl, h⟩
    · rintro (h | ⟨_, same, h⟩)
      · cases h
      · cases same
        exact h

/-- Another report of what goes wrong makes no difference to what goes well. -/
theorem mapError_eq_ok_iff {ε' : Type} {report : ε → ε'} {x : Except ε α} {a : α} :
    x.mapError report = .ok a ↔ x = .ok a := by
  cases x with
  | error e => constructor <;> intro h <;> cases h
  | ok b =>
    constructor
    · intro h
      cases h
      rfl
    · intro h
      cases h
      rfl

variable {f : α → Except ε β}

/-- Work on a list fails as the first of its elements does that fails. -/
theorem mapM_eq_error_iff {e : ε} {l : List α} :
    l.mapM f = .error e ↔
      ∃ before a later, l = before ++ a :: later ∧ (∀ b ∈ before, ∃ y, f b = .ok y) ∧
        f a = .error e := by
  induction l with
  | nil => simp [pure, Except.pure]
  | cons a l ih =>
    rw [List.mapM_cons, bind_eq_error_iff]
    constructor
    · rintro (first | ⟨y, fine, h⟩)
      · exact ⟨[], a, l, rfl, by simp, first⟩
      · obtain rest | ⟨_, -, h⟩ := bind_eq_error_iff.1 h
        · obtain ⟨before, b, later, rfl, before_fine, fails⟩ := ih.1 rest
          exact ⟨a :: before, b, later, rfl,
            List.forall_mem_cons.2 ⟨⟨y, fine⟩, before_fine⟩, fails⟩
        · cases h
    · rintro ⟨_ | ⟨b, before⟩, c, later, split, fine, fails⟩
      · obtain ⟨rfl, rfl⟩ := List.cons.inj split
        exact .inl fails
      · obtain ⟨rfl, rfl⟩ := List.cons.inj split
        obtain ⟨⟨y, first⟩, fine⟩ := List.forall_mem_cons.1 fine
        exact .inr ⟨y, first, bind_eq_error_iff.2 (.inl (ih.2 ⟨before, c, later, rfl, fine, fails⟩))⟩

theorem exists_mapM_eq_ok {l : List α} (h : ∀ a ∈ l, ∃ y, f a = .ok y) :
    ∃ ys, l.mapM f = .ok ys := by
  cases all : l.mapM f with
  | error e =>
    obtain ⟨before, a, later, rfl, -, fails⟩ := mapM_eq_error_iff.1 all
    obtain ⟨y, fine⟩ := h a (by simp)
    rw [fails] at fine
    cases fine
  | ok ys => exact ⟨ys, rfl⟩

theorem exists_of_mapM_eq_ok {l : List α} {ys : List β} (h : l.mapM f = .ok ys) :
    ∀ a ∈ l, ∃ y, f a = .ok y := by
  induction l generalizing ys with
  | nil => simp
  | cons a l ih =>
    rw [List.mapM_cons] at h
    obtain ⟨y, first, h⟩ := bind_eq_ok_iff.1 h
    obtain ⟨others, rest, -⟩ := bind_eq_ok_iff.1 h
    exact List.forall_mem_cons.2 ⟨⟨y, first⟩, ih rest⟩

end ChipEight
