/-
  Replaying a script.

  The moves of a list of presses are numbered in the order of the presses, two a press,
  the way down first.  A cue is a move with its number, and a schedule lists all cues in
  the order in which they are made: by their times, and by their numbers at one time.

  * `ofPresses_eq_error_iff`: the script of a list of presses fails as the first press
    without a span does;
  * `exists_schedule`: otherwise it holds the moves of a schedule;
  * `newlyDue` are the cues that a call makes if it is exact, and `appliedBy` those that
    calls have made up to now.  `Stands` says that a script is where calls have left it,
    and `Stands.apply` that the next call makes what is newly due;
  * `apply_apply`: two calls in a row do as much as the later of them;
  * `replay_exact` puts these together for every history of calls and uses of the
    keypad.
-/
import Mathlib.Data.List.Induction
import ChipEight.Keypad.Script
import ChipEight.Proofs.Failing
import ChipEight.Proofs.Machine.Turns

namespace ChipEight

/-! ## The moves of a press -/

namespace Press

theorem moves_of_span {press : Press} {down up : Nat} (h : press.span = .ok (down, up)) :
    press.moves = .ok [⟨down, press.key, true⟩, ⟨up, press.key, false⟩] := by
  rw [moves, h]
  rfl

theorem moves_eq_error_iff {press : Press} {fault : SettingFault} :
    press.moves = .error fault ↔ press.span = .error fault := by
  rcases span : press.span with other | ⟨down, up⟩
  · rw [moves, span]
    constructor <;> intro h <;> cases h <;> rfl
  · rw [moves_of_span span]
    constructor <;> intro h <;> cases h

theorem exists_moves_iff {press : Press} :
    (∃ moves, press.moves = .ok moves) ↔ ∃ span, press.span = .ok span := by
  rcases span : press.span with fault | ⟨down, up⟩
  · rw [moves_eq_error_iff.2 span]
    simp
  · rw [moves_of_span span]
    simp

theorem exists_span_of_toOption {presses : List Press}
    (h : ∀ press ∈ presses, press.span.toOption.isSome) :
    ∀ press ∈ presses, ∃ span, press.span = .ok span := by
  intro press inside
  obtain ⟨span, found⟩ := Option.isSome_iff_exists.1 (h press inside)
  exact ⟨span, eq_ok_of_toOption found⟩

/-- A key comes up no earlier than it goes down. -/
theorem down_le_up {press : Press} {down up : Nat} (h : press.span = .ok (down, up)) :
    down ≤ up := by
  obtain ⟨start, -, h⟩ := bind_eq_ok_iff.1 h
  obtain ⟨hold, -, h⟩ := bind_eq_ok_iff.1 h
  split at h
  · cases h
    exact Nat.le_add_right _ _
  · cases h

end Press

namespace Script

/-- **The script of a list of presses fails** as the first press without a span does. -/
theorem ofPresses_eq_error_iff {presses : List Press} {fault : SettingFault} :
    ofPresses presses = .error fault ↔
      ∃ before press later, presses = before ++ press :: later ∧
        (∀ p ∈ before, ∃ span, p.span = .ok span) ∧ press.span = .error fault := by
  simp only [← Press.exists_moves_iff, ← Press.moves_eq_error_iff]
  rw [← mapM_eq_error_iff, ofPresses, bind_eq_error_iff]
  constructor
  · rintro (h | ⟨_, -, h⟩)
    · exact h
    · cases h
  · exact .inl

/-! ## Cues -/

/-- The move with a number: those of a list of presses are numbered in the order of the
    presses, two a press, the way down first. -/
def moveAt? (presses : List Press) (n : Nat) : Option Move := do
  let press ← presses[n / 2]?
  let (down, up) ← press.span.toOption
  return if n % 2 = 0 then ⟨down, press.key, true⟩ else ⟨up, press.key, false⟩

theorem moveAt?_eq_some_iff {presses : List Press} {n : Nat} {move : Move} :
    moveAt? presses n = some move ↔ ∃ press down up, presses[n / 2]? = some press ∧
      press.span = .ok (down, up) ∧
      move = if n % 2 = 0 then ⟨down, press.key, true⟩ else ⟨up, press.key, false⟩ := by
  constructor
  · intro h
    obtain ⟨press, there, h⟩ := Option.bind_eq_some_iff.1 h
    obtain ⟨⟨down, up⟩, span, h⟩ := Option.bind_eq_some_iff.1 h
    exact ⟨press, down, up, there, eq_ok_of_toOption span, (Option.some.inj h).symm⟩
  · rintro ⟨press, down, up, there, span, rfl⟩
    simp [moveAt?, there, span, Except.toOption]

/-- A move with its number. -/
abbrev Cue := Move × Nat

/-- A cue comes before those of later times, and before those of its own time with higher
    numbers. -/
def Cue.Before (a b : Cue) : Prop :=
  a.1.time < b.1.time ∨ a.1.time = b.1.time ∧ a.2 < b.2

/-- All moves of a list of presses, in the order in which they are made. -/
structure Schedule (presses : List Press) (cues : List Cue) : Prop where
  mem_iff : ∀ move n, (move, n) ∈ cues ↔ moveAt? presses n = some move
  ordered : cues.Pairwise Cue.Before

theorem moveAt?_zero {press : Press} {presses : List Press} {down up : Nat}
    (h : press.span = .ok (down, up)) :
    moveAt? (press :: presses) 0 = some ⟨down, press.key, true⟩ :=
  moveAt?_eq_some_iff.2 ⟨press, down, up, rfl, h, rfl⟩

theorem moveAt?_one {press : Press} {presses : List Press} {down up : Nat}
    (h : press.span = .ok (down, up)) :
    moveAt? (press :: presses) 1 = some ⟨up, press.key, false⟩ :=
  moveAt?_eq_some_iff.2 ⟨press, down, up, rfl, h, rfl⟩

theorem moveAt?_add_two (press : Press) (presses : List Press) (n : Nat) :
    moveAt? (press :: presses) (n + 2) = moveAt? presses n := by
  have half : (n + 2) / 2 = n / 2 + 1 := by omega
  rw [moveAt?, moveAt?, half, List.getElem?_cons_succ, Nat.add_mod_right]

/-- The moves of a list of presses, one press after the other. -/
theorem getElem?_flatten_moves {presses : List Press} {moves : List (List Move)}
    (h : presses.mapM Press.moves = .ok moves) (n : Nat) :
    moves.flatten[n]? = moveAt? presses n := by
  induction presses generalizing moves n with
  | nil =>
    cases h
    simp [moveAt?]
  | cons press presses ih =>
    rw [List.mapM_cons] at h
    obtain ⟨both, first, h⟩ := bind_eq_ok_iff.1 h
    obtain ⟨others, rest, h⟩ := bind_eq_ok_iff.1 h
    cases h
    obtain ⟨⟨down, up⟩, span⟩ := Press.exists_moves_iff.1 ⟨both, first⟩
    rw [Press.moves_of_span span] at first
    cases first
    match n with
    | 0 => rw [moveAt?_zero span]; rfl
    | 1 => rw [moveAt?_one span]; rfl
    | n + 2 =>
      rw [moveAt?_add_two]
      exact ih rest n

theorem time_le_total (a b : Move) : (decide (a.time ≤ b.time) || decide (b.time ≤ a.time)) = true := by
  rw [Bool.or_eq_true, decide_eq_true_eq, decide_eq_true_eq]
  exact Nat.le_total _ _

theorem time_le_trans (a b c : Move) (hab : decide (a.time ≤ b.time) = true)
    (hbc : decide (b.time ≤ c.time) = true) : decide (a.time ≤ c.time) = true := by
  rw [decide_eq_true_eq] at *
  exact Nat.le_trans hab hbc

theorem Cue.before_of_zipIdxLE {a b : Cue}
    (h : List.zipIdxLE (fun a b => decide (a.time ≤ b.time)) a b = true) (other : a.2 ≠ b.2) :
    Cue.Before a b := by
  simp only [List.zipIdxLE, decide_eq_true_eq] at h
  rw [Cue.Before]
  split at h
  · split at h
    · simp only [decide_eq_true_eq] at h
      omega
    · omega
  · cases h

/-- Numbered moves, sorted by their times, are in order. -/
theorem pairwise_before (moves : List Move) :
    (moves.zipIdx.mergeSort (List.zipIdxLE fun a b => a.time ≤ b.time)).Pairwise Cue.Before := by
  have sorted := List.pairwise_mergeSort (List.zipIdxLE_trans time_le_trans)
    (List.zipIdxLE_total time_le_total) moves.zipIdx
  -- no number is given twice
  have numbers : ((moves.zipIdx.mergeSort
      (List.zipIdxLE fun a b => a.time ≤ b.time)).map Prod.snd).Nodup := by
    refine ((List.mergeSort_perm _ _).map Prod.snd).nodup_iff.2 ?_
    rw [List.zipIdx_map_snd]
    exact List.nodup_range'
  exact (sorted.and (List.pairwise_map.1 numbers)).imp
    fun ⟨le, other⟩ => Cue.before_of_zipIdxLE le other

/-- **A script holds the moves of a schedule.** -/
theorem exists_schedule {presses : List Press} (h : ∀ press ∈ presses, ∃ span, press.span = .ok span) :
    ∃ script cues, ofPresses presses = .ok script ∧ Schedule presses cues ∧
      script.pending = cues.map Prod.fst := by
  obtain ⟨moves, all⟩ := exists_mapM_eq_ok fun press inside =>
    Press.exists_moves_iff.2 (h press inside)
  refine ⟨⟨sortMoves moves.flatten, sorted_sortMoves _⟩,
    moves.flatten.zipIdx.mergeSort (List.zipIdxLE fun a b => a.time ≤ b.time), ?_, ⟨?_, ?_⟩, ?_⟩
  · rw [ofPresses, all]
    rfl
  · intro move n
    rw [List.mem_mergeSort, List.mem_zipIdx_iff_getElem?, getElem?_flatten_moves all]
  · exact pairwise_before _
  · exact List.mergeSort_zipIdx.symm

/-- Presses of which there is a script all have a span. -/
theorem exists_span_of_ofPresses {presses : List Press} {script : Script}
    (h : ofPresses presses = .ok script) : ∀ press ∈ presses, ∃ span, press.span = .ok span := by
  obtain ⟨moves, all, -⟩ := bind_eq_ok_iff.1 h
  intro press inside
  exact Press.exists_moves_iff.1 (exists_of_mapM_eq_ok all press inside)

/-! ## Calls -/

/-- What is done with a script and a keypad. -/
inductive Use where
  /-- Make the moves that are due at a time. -/
  | apply (elapsed : Nat)
  /-- Use the keypad. -/
  | keys (use : Keypad.Use)

/-- The script and the keypad after a use. -/
def useOn (state : Script × Keypad) : Use → Script × Keypad
  | .apply elapsed => state.1.apply elapsed state.2
  | .keys use => (state.1, (state.2.use use).2)

/-- The script and the keypad after uses. -/
def useAll (script : Script) (keypad : Keypad) (uses : List Use) : Script × Keypad :=
  uses.foldl useOn (script, keypad)

/-- The time of a use that makes moves. -/
def Use.time? : Use → Option Nat
  | .apply elapsed => some elapsed
  | .keys _ => none

/-- The times of the calls among uses. -/
def timesOf (uses : List Use) : List Nat := uses.filterMap Use.time?

/-- The cues that are due by a time and have not been applied. -/
def newlyDue (cues applied : List Cue) (elapsed : Nat) : List Cue :=
  cues.filter fun cue => cue.1.time ≤ elapsed ∧ cue ∉ applied

/-- The cues that have been applied when each of several calls has applied what was newly
    due. -/
def appliedBy (cues : List Cue) (times : List Nat) : List Cue :=
  times.foldl (fun applied elapsed => applied ++ newlyDue cues applied elapsed) []

/-- A script is where calls have left it: it holds the cues that have not been applied. -/
def Stands (cues applied : List Cue) (script : Script) : Prop :=
  ∃ rest, cues = applied ++ rest ∧ script.pending = rest.map Prod.fst

theorem Cue.Before.time_le {a b : Cue} (h : Cue.Before a b) : a.1.time ≤ b.1.time := by
  rcases h with earlier | ⟨same, -⟩
  · exact Nat.le_of_lt earlier
  · exact Nat.le_of_eq same

theorem Cue.Before.asymm {a b : Cue} (h : Cue.Before a b) : ¬ Cue.Before b a := by
  unfold Cue.Before at *
  omega

/-- What is taken from the front of a sorted list is all that is small. -/
theorem takeWhile_eq_filter {α : Type} {p : α → Bool} {l : List α}
    (h : l.Pairwise fun a b => p b = true → p a = true) : l.takeWhile p = l.filter p := by
  induction l with
  | nil => rfl
  | cons a l ih =>
    obtain ⟨first, rest⟩ := List.pairwise_cons.1 h
    by_cases small : p a = true
    · rw [List.takeWhile_cons_of_pos small, List.filter_cons_of_pos small, ih rest]
    · have none : l.filter p = [] := by
        rw [List.filter_eq_nil_iff]
        intro b inside
        exact fun also => small (first b inside also)
      rw [List.takeWhile_cons_of_neg small, List.filter_cons_of_neg small, none]

/-- What is newly due stands at the front of what has not been applied. -/
theorem newlyDue_append {applied rest : List Cue}
    (ordered : (applied ++ rest).Pairwise Cue.Before) (elapsed : Nat) :
    newlyDue (applied ++ rest) applied elapsed =
      rest.takeWhile fun cue => cue.1.time ≤ elapsed := by
  obtain ⟨-, later, across⟩ := List.pairwise_append.1 ordered
  have fresh : ∀ cue ∈ rest, cue ∉ applied := by
    intro cue inside also
    have before := across cue also cue inside
    exact before.asymm before
  have none : newlyDue applied applied elapsed = [] := by
    rw [newlyDue, List.filter_eq_nil_iff]
    intro cue inside
    simp [inside]
  have sorted : rest.Pairwise fun a b =>
      decide (b.1.time ≤ elapsed) = true → decide (a.1.time ≤ elapsed) = true := by
    refine later.imp fun before due => ?_
    rw [decide_eq_true_eq] at *
    exact Nat.le_trans before.time_le due
  rw [newlyDue, List.filter_append, ← newlyDue, none, List.nil_append, takeWhile_eq_filter sorted]
  refine List.filter_congr fun cue inside => ?_
  simp [fresh cue inside]

/-- **A call makes what is newly due**, and the script is where this call has left it. -/
theorem Stands.apply {cues applied : List Cue} {script : Script}
    (h : Stands cues applied script) (ordered : cues.Pairwise Cue.Before) (elapsed : Nat)
    (keypad : Keypad) :
    let made := newlyDue cues applied elapsed
    let after := script.apply elapsed keypad
    Stands cues (applied ++ made) after.1 ∧
      script.pending = made.map Prod.fst ++ after.1.pending ∧
      after.2 = (made.map Prod.fst).foldl Move.apply keypad := by
  intro made after
  obtain ⟨rest, rfl, pending⟩ := h
  have front : made = rest.takeWhile fun cue => cue.1.time ≤ elapsed :=
    newlyDue_append ordered elapsed
  have taken : script.pending.takeWhile (isDue elapsed) = made.map Prod.fst := by
    rw [pending, List.takeWhile_map, front]
    rfl
  have left : after.1.pending =
      (rest.dropWhile fun cue => cue.1.time ≤ elapsed).map Prod.fst := by
    show script.pending.dropWhile (isDue elapsed) = _
    rw [pending, List.dropWhile_map]
    rfl
  refine ⟨⟨_, ?_, left⟩, ?_, ?_⟩
  · rw [List.append_assoc, front, List.takeWhile_append_dropWhile]
  · rw [← taken]
    exact List.takeWhile_append_dropWhile.symm
  · rw [← taken]
    rfl

theorem appliedBy_concat (cues : List Cue) (times : List Nat) (elapsed : Nat) :
    appliedBy cues (times ++ [elapsed]) =
      appliedBy cues times ++ newlyDue cues (appliedBy cues times) elapsed := by
  rw [appliedBy, List.foldl_append]
  rfl

/-- After uses, a script is where the calls among them have left it. -/
theorem stands_useAll {cues : List Cue} {script : Script} (pending : script.pending = cues.map Prod.fst)
    (ordered : cues.Pairwise Cue.Before) (keypad : Keypad) (uses : List Use) :
    Stands cues (appliedBy cues (timesOf uses)) (script.useAll keypad uses).1 := by
  induction uses using List.reverseRecOn with
  | nil => exact ⟨cues, rfl, pending⟩
  | append_singleton uses use ih =>
    have last : script.useAll keypad (uses ++ [use]) = useOn (script.useAll keypad uses) use := by
      rw [useAll, List.foldl_append]
      rfl
    rw [last]
    cases use with
    | apply elapsed =>
      have times : timesOf (uses ++ [.apply elapsed]) = timesOf uses ++ [elapsed] := by
        simp [timesOf, Use.time?]
      rw [times, appliedBy_concat]
      exact (ih.apply ordered elapsed _).1
    | keys use =>
      have times : timesOf (uses ++ [.keys use]) = timesOf uses := by
        simp [timesOf, Use.time?]
      rw [times]
      exact ih

theorem timesOf_map_apply (times : List Nat) : timesOf (times.map .apply) = times := by
  rw [timesOf, List.filterMap_map]
  exact List.filterMap_some

/-! ## Calls in a row -/

@[ext] theorem ext {s t : Script} (h : s.pending = t.pending) : s = t := by
  cases s
  cases t
  cases h
  rfl

/-- What is not taken from the front of a list is not taken by a smaller call either. -/
theorem takeWhile_dropWhile_of_imp {α : Type} {p q : α → Bool} (h : ∀ a, p a = true → q a = true)
    (l : List α) : (l.dropWhile q).takeWhile p = [] ∧ (l.dropWhile q).dropWhile p = l.dropWhile q := by
  induction l with
  | nil => exact ⟨rfl, rfl⟩
  | cons a l ih =>
    by_cases large : q a = true
    · rw [List.dropWhile_cons_of_pos large]
      exact ih
    · have small : ¬ p a = true := fun also => large (h a also)
      rw [List.dropWhile_cons_of_neg large, List.takeWhile_cons_of_neg small,
        List.dropWhile_cons_of_neg small]
      exact ⟨rfl, rfl⟩

/-- What is taken from the front of a list in two parts is taken by the larger call. -/
theorem takeWhile_append_of_imp {α : Type} {p q : α → Bool} (h : ∀ a, p a = true → q a = true)
    (l : List α) : l.takeWhile p ++ (l.dropWhile p).takeWhile q = l.takeWhile q ∧
      (l.dropWhile p).dropWhile q = l.dropWhile q := by
  induction l with
  | nil => exact ⟨rfl, rfl⟩
  | cons a l ih =>
    by_cases small : p a = true
    · rw [List.takeWhile_cons_of_pos small, List.dropWhile_cons_of_pos small,
        List.takeWhile_cons_of_pos (h a small), List.dropWhile_cons_of_pos (h a small),
        List.cons_append, ih.1, ih.2]
      exact ⟨rfl, rfl⟩
    · rw [List.takeWhile_cons_of_neg small, List.dropWhile_cons_of_neg small, List.nil_append]
      exact ⟨rfl, rfl⟩

/-- **Two calls in a row** do as much as the later of them. -/
theorem apply_apply (script : Script) (a b : Nat) (keypad : Keypad) :
    (script.apply a keypad).1.apply b (script.apply a keypad).2 =
      script.apply (max a b) keypad := by
  have imp {a b : Nat} (h : a ≤ b) (move : Move) (due : isDue a move = true) :
      isDue b move = true := by
    simp only [isDue, decide_eq_true_eq] at *
    exact Nat.le_trans due h
  rcases Nat.le_total a b with earlier | later
  · obtain ⟨taken, left⟩ := takeWhile_append_of_imp (imp earlier) script.pending
    rw [Nat.max_eq_right earlier]
    refine Prod.ext (ext left) ?_
    show List.foldl Move.apply (List.foldl Move.apply keypad _)
      ((script.pending.dropWhile (isDue a)).takeWhile (isDue b)) = _
    rw [← List.foldl_append, taken]
    rfl
  · obtain ⟨taken, left⟩ := takeWhile_dropWhile_of_imp (imp later) script.pending
    rw [Nat.max_eq_left later]
    refine Prod.ext (ext left) ?_
    show List.foldl Move.apply _ ((script.pending.dropWhile (isDue a)).takeWhile (isDue b)) = _
    rw [taken]
    rfl

/-- **Calls in a row** do as much as the latest of them. -/
theorem useAll_map_apply (script : Script) (keypad : Keypad) {times : List Nat} {latest : Nat}
    (h : times.max? = some latest) :
    script.useAll keypad (times.map .apply) = script.apply latest keypad := by
  cases times with
  | nil => cases h
  | cons first others =>
    rw [List.max?_cons'] at h
    obtain rfl := Option.some.inj h
    clear h
    induction others generalizing first with
    | nil => rfl
    | cons second others ih =>
      rw [List.foldl_cons, ← ih]
      show List.foldl useOn ((script.apply first keypad).1.apply second (script.apply first keypad).2) _ = _
      rw [apply_apply]
      rfl

/-! ## The replay -/

/-- Of two members in order, the first comes before the second. -/
theorem pair_sublist {cues : List Cue} (ordered : cues.Pairwise Cue.Before) {a b : Cue}
    (ha : a ∈ cues) (hb : b ∈ cues) (before : Cue.Before a b) : [a, b].Sublist cues := by
  induction cues with
  | nil => cases ha
  | cons first cues ih =>
    obtain ⟨front, rest⟩ := List.pairwise_cons.1 ordered
    rcases List.mem_cons.1 ha with rfl | inside
    · rcases List.mem_cons.1 hb with rfl | behind
      · exact absurd before before.asymm
      · exact (List.singleton_sublist.2 behind).cons_cons _
    · rcases List.mem_cons.1 hb with rfl | behind
      · exact absurd before (front a inside).asymm
      · exact (ih rest inside behind).cons _

namespace Schedule

variable {presses : List Press} {cues : List Cue} {i : Nat} {press : Press} {down up : Nat}

theorem down_mem (h : Schedule presses cues) (there : presses[i]? = some press)
    (span : press.span = .ok (down, up)) : ((⟨down, press.key, true⟩, 2 * i) : Cue) ∈ cues := by
  have half : 2 * i / 2 = i := by omega
  rw [h.mem_iff, moveAt?_eq_some_iff, half]
  exact ⟨press, down, up, there, span, by simp⟩

theorem up_mem (h : Schedule presses cues) (there : presses[i]? = some press)
    (span : press.span = .ok (down, up)) : ((⟨up, press.key, false⟩, 2 * i + 1) : Cue) ∈ cues := by
  have half : (2 * i + 1) / 2 = i := by omega
  have odd : (2 * i + 1) % 2 = 1 := by omega
  rw [h.mem_iff, moveAt?_eq_some_iff, half]
  exact ⟨press, down, up, there, span, by simp [odd]⟩

/-- Of a press, the way down comes before the way up. -/
theorem down_before_up (h : Schedule presses cues) (there : presses[i]? = some press)
    (span : press.span = .ok (down, up)) :
    [(⟨down, press.key, true⟩, 2 * i), (⟨up, press.key, false⟩, 2 * i + 1)].Sublist cues := by
  refine pair_sublist h.ordered (h.down_mem there span) (h.up_mem there span) ?_
  rcases Nat.lt_or_eq_of_le (Press.down_le_up span) with earlier | same
  · exact .inl earlier
  · exact .inr ⟨same, Nat.lt_succ_self _⟩

end Schedule

/-- **The replay is exact.**  The script of a list of presses fails as the first press
    without a span does.  If all have one, the script makes the moves of a schedule: those
    of each press, its way down before its way up, in the order of their times, and moves
    of one time in the order of the presses.  However calls and uses of the keypad follow
    one another, a call makes the moves that are due by its time and that no call before
    it has made, in this order; together, the calls make a first part of the schedule.
    Calls in a row do what the latest of them would do. -/
theorem replay_exact (presses : List Press) :
    (∀ fault, ofPresses presses = .error fault ↔
      ∃ before press later, presses = before ++ press :: later ∧
        (∀ p ∈ before, ∃ span, p.span = .ok span) ∧ press.span = .error fault) ∧
    ((∀ press ∈ presses, ∃ span, press.span = .ok span) →
      ∃ script cues, ofPresses presses = .ok script ∧ Schedule presses cues ∧
        (∀ i press down up, presses[i]? = some press → press.span = .ok (down, up) →
          [(⟨down, press.key, true⟩, 2 * i), (⟨up, press.key, false⟩, 2 * i + 1)].Sublist cues) ∧
        (∀ times, appliedBy cues times <+: cues) ∧
        (∀ keypad uses elapsed,
          let state := script.useAll keypad uses
          let made := newlyDue cues (appliedBy cues (timesOf uses)) elapsed
          let after := state.1.apply elapsed state.2
          state.1.pending = made.map Prod.fst ++ after.1.pending ∧
            after.2 = (made.map Prod.fst).foldl Move.apply state.2) ∧
        ∀ keypad (times : List Nat) latest, times.max? = some latest →
          script.useAll keypad (times.map .apply) = script.apply latest keypad) := by
  refine ⟨fun fault => ofPresses_eq_error_iff, ?_⟩
  intro valid
  obtain ⟨script, cues, made, schedule, pending⟩ := exists_schedule valid
  refine ⟨script, cues, made, schedule, ?_, ?_, ?_, ?_⟩
  · intro i press down up there span
    exact schedule.down_before_up there span
  · intro times
    obtain ⟨rest, split, -⟩ :=
      stands_useAll pending schedule.ordered .idle (times.map .apply)
    rw [timesOf_map_apply] at split
    exact ⟨rest, split.symm⟩
  · intro keypad uses elapsed
    have stands := stands_useAll pending schedule.ordered keypad uses
    exact (stands.apply schedule.ordered elapsed _).2
  · intro keypad times latest h
    exact script.useAll_map_apply keypad h

/-- A tap of a key, where a press of it that is listed later ends. -/
def tapAndHold : List Press :=
  [⟨.ofDecimal false 2 0, lastDigit 5, .ofDecimal false 0 0⟩,
    ⟨.ofDecimal false 1 0, lastDigit 5, .ofDecimal false 1 0⟩]

/-- A call at the first second does nothing after one at the second. -/
theorem tapAndHold_replayed :
    (∀ press ∈ tapAndHold, ∃ span, press.span = .ok span) ∧
      [2000000000, 1000000000].max? = some 2000000000 ∧
      ∃ script, ofPresses tapAndHold = .ok script ∧
        script.useAll .idle [.apply 2000000000, .apply 1000000000] =
          script.apply 2000000000 .idle := by
  have valid : ∀ press ∈ tapAndHold, ∃ span, press.span = .ok span :=
    Press.exists_span_of_toOption (by decide +kernel)
  have latest : [2000000000, 1000000000].max? = some 2000000000 := rfl
  obtain ⟨script, cues, made, -, -, -, -, row⟩ := (replay_exact tapAndHold).2 valid
  exact ⟨valid, latest, script, made, row .idle _ _ latest⟩

end Script

end ChipEight
