/-
  How long scripted keys are held.

  A key has one bit, whatever has moved it down: the presses of a key are not counted,
  and the first release lets it go.

  * `LeftDown`: moves leave a key down.  `isDown_foldl_apply` says that they do so if the
    key has been moved down since it was last let go;
  * `Held` says this of a list of presses, and `isDown_apply_iff` that a script does it;
  * `held_until_released` puts this together for every list of presses, up to presses
    that touch, and compares it with `Covered`, the times at which some press of the key
    has gone down and not come up: they are the same where presses of the key are apart;
  * `released_early`: they are not where presses overlap.
-/
import ChipEight.Proofs.Keypad.Replay

namespace ChipEight.Script

/-! ## The last move of a key -/

/-- Among moves, some one takes the key down after all that let it go. -/
def LeftDown (cues : List Cue) (k : Key) : Prop :=
  ∃ cue ∈ cues, cue.1.key = k ∧ cue.1.down = true ∧
    ∀ other ∈ cues, other.1.key = k → other.1.down = false → Cue.Before other cue

section
variable {cues : List Cue} {last : Cue} {k : Key}

/-- The last move of the key decides. -/
theorem leftDown_concat_of_key (before : ∀ cue ∈ cues, Cue.Before cue last)
    (same : last.1.key = k) : LeftDown (cues ++ [last]) k ↔ last.1.down = true := by
  constructor
  · rintro ⟨cue, inside, -, down, since⟩
    by_contra up
    have released := since last (by simp) same (Bool.eq_false_iff.2 up)
    rcases List.mem_append.1 inside with inside | inside
    · exact released.asymm (before cue inside)
    · rw [List.mem_singleton.1 inside] at released
      exact released.asymm released
  · intro down
    refine ⟨last, by simp, same, down, ?_⟩
    intro other inside _ up
    rcases List.mem_append.1 inside with inside | inside
    · exact before other inside
    · rw [List.mem_singleton.1 inside, down] at up
      cases up

theorem leftDown_concat_of_ne (differs : last.1.key ≠ k) :
    LeftDown (cues ++ [last]) k ↔ LeftDown cues k := by
  have key {cue : Cue} (inside : cue ∈ cues ++ [last]) (same : cue.1.key = k) : cue ∈ cues := by
    rcases List.mem_append.1 inside with inside | inside
    · exact inside
    · rw [List.mem_singleton.1 inside] at same
      exact absurd same differs
  constructor
  · rintro ⟨cue, inside, same, down, since⟩
    refine ⟨cue, key inside same, same, down, ?_⟩
    intro other also
    exact since other (List.mem_append_left _ also)
  · rintro ⟨cue, inside, same, down, since⟩
    refine ⟨cue, List.mem_append_left _ inside, same, down, ?_⟩
    intro other also other_key
    exact since other (key also other_key) other_key

end

/-- **After moves in order**, a key is down if it has been moved down since it was last
    let go. -/
theorem isDown_foldl_apply {cues : List Cue} (ordered : cues.Pairwise Cue.Before) (k : Key) :
    ((cues.map Prod.fst).foldl Move.apply .idle).isDown k = true ↔ LeftDown cues k := by
  induction cues using List.reverseRecOn with
  | nil =>
    have up : Keypad.idle.isDown k = false := by
      simp [Keypad.isDown, Keypad.idle]
    simp [up, LeftDown]
  | append_singleton cues last ih =>
    obtain ⟨earlier, -, across⟩ := List.pairwise_append.1 ordered
    have before : ∀ cue ∈ cues, Cue.Before cue last := by
      intro cue inside
      exact across cue inside last (List.mem_singleton.2 rfl)
    rw [List.map_append, List.foldl_append]
    show (((cues.map Prod.fst).foldl Move.apply .idle).set last.1.key last.1.down).isDown k = true ↔ _
    rw [Keypad.isDown_set]
    by_cases same : last.1.key = k
    · rw [if_pos same, leftDown_concat_of_key before same]
    · rw [if_neg same, leftDown_concat_of_ne same, ih earlier]

/-! ## Presses of a key -/

/-- The press with a number is one of the key, from one time to another. -/
def PressOf (presses : List Press) (k : Key) (i down up : Nat) : Prop :=
  ∃ press, presses[i]? = some press ∧ press.key = k ∧ press.span = .ok (down, up)

/-- At a time, some press of the key has gone down and not come up. -/
def Covered (presses : List Press) (k : Key) (elapsed : Nat) : Prop :=
  ∃ i down up, PressOf presses k i down up ∧ down ≤ elapsed ∧ elapsed < up

/-- At a time, some press of the key has gone down and not come up, and whatever has let
    the key go did so before: at an earlier time, or at the same time and further up in
    the list. -/
def Held (presses : List Press) (k : Key) (elapsed : Nat) : Prop :=
  ∃ i down up, PressOf presses k i down up ∧ down ≤ elapsed ∧ elapsed < up ∧
    ∀ j start release, PressOf presses k j start release → release ≤ elapsed →
      release < down ∨ release = down ∧ j < i

/-- At a time, some press of the key has gone down and not come up, and the times at which
    the key has been let go are related to the one at which that press went down. -/
def HeldAfter (related : Nat → Nat → Prop) (presses : List Press) (k : Key) (elapsed : Nat) :
    Prop :=
  ∃ i down up, PressOf presses k i down up ∧ down ≤ elapsed ∧ elapsed < up ∧
    ∀ j start release, PressOf presses k j start release → release ≤ elapsed →
      related release down

/-- No press of the key comes up at the time at which another one goes down. -/
def Untied (presses : List Press) (k : Key) : Prop :=
  ∀ i down up j start release, PressOf presses k i down up →
    PressOf presses k j start release → i ≠ j → release ≠ down

/-- Of any two presses of the key, one has come up before the other goes down. -/
def Apart (presses : List Press) (k : Key) : Prop :=
  ∀ i down up j start release, PressOf presses k i down up →
    PressOf presses k j start release → i ≠ j → up < start ∨ release < down

variable {presses : List Press} {k : Key} {elapsed : Nat}

theorem PressOf.down_le_up {i down up : Nat} (h : PressOf presses k i down up) : down ≤ up := by
  obtain ⟨press, -, -, span⟩ := h
  exact Press.down_le_up span

theorem PressOf.unique {i down up start release : Nat} (h : PressOf presses k i down up)
    (other : PressOf presses k i start release) : down = start ∧ up = release := by
  obtain ⟨press, there, -, span⟩ := h
  obtain ⟨press', there', -, span'⟩ := other
  rw [there] at there'
  cases there'
  rw [span] at span'
  cases span'
  exact ⟨rfl, rfl⟩

theorem PressOf.lt_length {i down up : Nat} (h : PressOf presses k i down up) :
    i < presses.length := by
  obtain ⟨press, there, -⟩ := h
  exact (List.getElem?_eq_some_iff.1 there).1

/-- A key is held that was let go only before it went down. -/
theorem held_of_heldAfter (held : HeldAfter (· < ·) presses k elapsed) :
    Held presses k elapsed := by
  obtain ⟨i, down, up, press, after, before, released⟩ := held
  refine ⟨i, down, up, press, after, before, ?_⟩
  intro j start release other past
  exact .inl (released j start release other past)

/-- A key that is held was not let go after it went down. -/
theorem Held.heldAfter (held : Held presses k elapsed) : HeldAfter (· ≤ ·) presses k elapsed := by
  obtain ⟨i, down, up, press, after, before, released⟩ := held
  refine ⟨i, down, up, press, after, before, ?_⟩
  intro j start release other past
  rcases released j start release other past with earlier | ⟨same, -⟩
  · exact Nat.le_of_lt earlier
  · exact Nat.le_of_eq same

/-- Without ties, one says as much as the other. -/
theorem HeldAfter.strict (untied : Untied presses k) (held : HeldAfter (· ≤ ·) presses k elapsed) :
    HeldAfter (· < ·) presses k elapsed := by
  obtain ⟨i, down, up, press, after, before, released⟩ := held
  refine ⟨i, down, up, press, after, before, ?_⟩
  intro j start release other past
  have differs : release ≠ down := by
    by_cases same : i = j
    · obtain ⟨rfl, rfl⟩ := (same ▸ press).unique other
      omega
    · exact untied i down up j start release press other same
  exact Nat.lt_of_le_of_ne (released j start release other past) differs

/-- **Presses that are apart** do not cut one another short. -/
theorem Covered.heldAfter (apart : Apart presses k) (covered : Covered presses k elapsed) :
    HeldAfter (· < ·) presses k elapsed := by
  obtain ⟨i, down, up, press, after, before⟩ := covered
  refine ⟨i, down, up, press, after, before, ?_⟩
  intro j start release other past
  have ends := other.down_le_up
  by_cases same : i = j
  · obtain ⟨rfl, rfl⟩ := (same ▸ press).unique other
    omega
  · rcases apart i down up j start release press other same with first | second
    · omega
    · exact second

theorem HeldAfter.covered {related : Nat → Nat → Prop}
    (held : HeldAfter related presses k elapsed) : Covered presses k elapsed := by
  obtain ⟨i, down, up, press, after, before, -⟩ := held
  exact ⟨i, down, up, press, after, before⟩

/-! ## The keypad of a script -/

namespace Schedule

variable {cues : List Cue} {cue : Cue}

/-- A cue that takes a key down is the beginning of a press. -/
theorem pressOf_of_down (h : Schedule presses cues) (inside : cue ∈ cues)
    (down : cue.1.down = true) :
    ∃ i up, PressOf presses cue.1.key i cue.1.time up ∧ cue.2 = 2 * i := by
  obtain ⟨press, start, up, there, span, same⟩ := moveAt?_eq_some_iff.1 ((h.mem_iff _ _).1 inside)
  split at same
  · rw [same]
    exact ⟨cue.2 / 2, up, ⟨press, there, rfl, span⟩, by omega⟩
  · rw [same] at down
    cases down

/-- A cue that lets a key go is the end of a press. -/
theorem pressOf_of_up (h : Schedule presses cues) (inside : cue ∈ cues)
    (up : cue.1.down = false) :
    ∃ i down, PressOf presses cue.1.key i down cue.1.time ∧ cue.2 = 2 * i + 1 := by
  obtain ⟨press, down, release, there, span, same⟩ :=
    moveAt?_eq_some_iff.1 ((h.mem_iff _ _).1 inside)
  split at same
  · rw [same] at up
    cases up
  · rw [same]
    exact ⟨cue.2 / 2, down, ⟨press, there, rfl, span⟩, by omega⟩

/-- **The keypad of a script** has the keys down that are held. -/
theorem isDown_apply_iff (h : Schedule presses cues) {script : Script}
    (pending : script.pending = cues.map Prod.fst) :
    (script.apply elapsed .idle).2.isDown k = true ↔ Held presses k elapsed := by
  have stands : Stands cues [] script := ⟨cues, rfl, pending⟩
  have ordered : (newlyDue cues [] elapsed).Pairwise Cue.Before := h.ordered.filter _
  have due (cue : Cue) : cue ∈ newlyDue cues [] elapsed ↔ cue ∈ cues ∧ cue.1.time ≤ elapsed := by
    simp [newlyDue]
  rw [(stands.apply h.ordered elapsed .idle).2.2, isDown_foldl_apply ordered]
  constructor
  · rintro ⟨cue, inside, rfl, down, since⟩
    obtain ⟨inside, after⟩ := (due cue).1 inside
    obtain ⟨i, up, press, number⟩ := h.pressOf_of_down inside down
    have released : ∀ j start release, PressOf presses cue.1.key j start release →
        release ≤ elapsed → release < cue.1.time ∨ release = cue.1.time ∧ j < i := by
      intro j start release other past
      obtain ⟨press', there, key, span⟩ := other
      have before := since _ ((due _).2 ⟨h.up_mem there span, past⟩) key rfl
      simp only [Cue.Before] at before
      omega
    refine ⟨i, cue.1.time, up, press, after, ?_, released⟩
    -- otherwise the press itself would let its key go
    by_contra late
    have ends := press.down_le_up
    have := released i cue.1.time up press (Nat.not_lt.1 late)
    omega
  · rintro ⟨i, down, up, ⟨press, there, rfl, span⟩, after, -, released⟩
    refine ⟨_, (due _).2 ⟨h.down_mem there span, after⟩, rfl, rfl, ?_⟩
    intro other inside key up'
    obtain ⟨inside, past⟩ := (due other).1 inside
    obtain ⟨j, start, press', number⟩ := h.pressOf_of_up inside up'
    rw [key] at press'
    have before := released j start _ press' past
    simp only [Cue.Before]
    omega

end Schedule

/-- **A key is held until it is first let go.**  If all presses of a list have a span,
    there is a script of them.  At each time, it leaves a key down on an idle keypad if some
    press of the key has gone down and not come up, and whatever has let the key go did so
    before that press went down; and it leaves a key down only if, for some such press,
    nothing has let the key go since.  The two are the same where no press of the key comes
    up as another one goes down.  Where the presses of a key are apart, it is enough that some
    press has gone down and not come up. -/
theorem held_until_released (presses : List Press)
    (valid : ∀ press ∈ presses, ∃ span, press.span = .ok span) :
    ∃ script, ofPresses presses = .ok script ∧ ∀ elapsed k,
      let isDown := (script.apply elapsed .idle).2.isDown k = true
      (HeldAfter (· < ·) presses k elapsed → isDown) ∧
        (isDown → HeldAfter (· ≤ ·) presses k elapsed) ∧
        (Untied presses k → (isDown ↔ HeldAfter (· < ·) presses k elapsed)) ∧
        (Apart presses k → (isDown ↔ Covered presses k elapsed)) := by
  obtain ⟨script, cues, made, schedule, pending⟩ := exists_schedule valid
  refine ⟨script, made, ?_⟩
  intro elapsed k isDown
  have held : isDown ↔ Held presses k elapsed := schedule.isDown_apply_iff pending
  have down (strict : HeldAfter (· < ·) presses k elapsed) : isDown :=
    held.2 (held_of_heldAfter strict)
  have since (stays : isDown) : HeldAfter (· ≤ ·) presses k elapsed := (held.1 stays).heldAfter
  refine ⟨down, since, ?_, ?_⟩
  · intro untied
    exact ⟨fun stays => (since stays).strict untied, down⟩
  · intro apart
    exact ⟨fun stays => (since stays).covered, fun covered => down (covered.heldAfter apart)⟩

/-- A press of a key at the first second that is held for two, and one at the second that
    is held for three. -/
def overlapping : List Press :=
  [⟨.ofDecimal false 1 0, lastDigit 5, .ofDecimal false 2 0⟩,
    ⟨.ofDecimal false 2 0, lastDigit 5, .ofDecimal false 3 0⟩]

theorem pressOf_overlapping :
    PressOf overlapping (lastDigit 5) 0 1000000000 3000000000 ∧
      PressOf overlapping (lastDigit 5) 1 2000000000 5000000000 := by
  constructor
  · exact ⟨_, rfl, rfl, eq_ok_of_toOption (by decide +kernel)⟩
  · exact ⟨_, rfl, rfl, eq_ok_of_toOption (by decide +kernel)⟩

/-- The key is held while both presses have gone down and none has come up. -/
theorem overlapping_held :
    (∀ press ∈ overlapping, ∃ span, press.span = .ok span) ∧
      ∃ script, ofPresses overlapping = .ok script ∧
        (script.apply 2500000000 .idle).2.isDown (lastDigit 5) = true := by
  have valid : ∀ press ∈ overlapping, ∃ span, press.span = .ok span :=
    Press.exists_span_of_toOption (by decide +kernel)
  obtain ⟨first, second⟩ := pressOf_overlapping
  have held : HeldAfter (· < ·) overlapping (lastDigit 5) 2500000000 := by
    refine ⟨1, _, _, second, by omega, by omega, ?_⟩
    intro j start release other past
    have inside : j < 2 := other.lt_length
    have either : j = 0 ∨ j = 1 := by omega
    rcases either with rfl | rfl
    · obtain ⟨-, rfl⟩ := first.unique other
      omega
    · obtain ⟨-, rfl⟩ := second.unique other
      omega
  obtain ⟨script, made, down⟩ := held_until_released overlapping valid
  exact ⟨valid, script, made, (down 2500000000 (lastDigit 5)).1 held⟩

/-- **Where presses overlap**, a key is up though a press of it has gone down and not come
    up: the end of the other one has let it go. -/
theorem released_early :
    ∃ script, ofPresses overlapping = .ok script ∧
      Covered overlapping (lastDigit 5) 4000000000 ∧
      (script.apply 4000000000 .idle).2.isDown (lastDigit 5) = false := by
  have valid : ∀ press ∈ overlapping, ∃ span, press.span = .ok span :=
    Press.exists_span_of_toOption (by decide +kernel)
  obtain ⟨script, cues, made, schedule, pending⟩ := exists_schedule valid
  obtain ⟨first, second⟩ := pressOf_overlapping
  refine ⟨script, made, ⟨1, _, _, second, by omega, by omega⟩, ?_⟩
  rw [← Bool.not_eq_true, schedule.isDown_apply_iff pending]
  intro held
  obtain ⟨n, down, up, press, -, late, released⟩ := held.heldAfter
  have since := released 0 _ _ first (by omega)
  have inside : n < 2 := press.lt_length
  have either : n = 0 ∨ n = 1 := by omega
  rcases either with rfl | rfl
  · obtain ⟨-, rfl⟩ := first.unique press
    omega
  · obtain ⟨rfl, -⟩ := second.unique press
    omega

end ChipEight.Script
