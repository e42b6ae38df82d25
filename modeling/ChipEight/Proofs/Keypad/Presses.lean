/-
  Presses — what a history of key moves leaves in the queue of a keypad.

  A stroke is a move that takes a key from up to down; a key that is held makes
  no stroke when it is moved down again.

  * `strokes` are the keys of the strokes among moves, in order, and `latest` are
    the last sixteen of a list of keys;
  * `presses_moveAll`: if nobody asks for presses, the queue holds the latest of
    all strokes;
  * `mem_strokes`: a key that is held at first makes no stroke before it comes up;
  * `pollAll` asks for presses until there is none, which empties the queue
    (`pollAll_eq_drain`), and `polled` asks a number of times.
-/
import ChipEight.Keypad.Basic

namespace ChipEight.Keypad

/-! ## Moves and strokes -/

/-- A key that is moved down or up. -/
abbrev KeyMove := Key × Bool

/-- The keypad after moves. -/
def moveAll (p : Keypad) (moves : List KeyMove) : Keypad :=
  moves.foldl (fun p move => p.set move.1 move.2) p

/-- The key of a move, if the move takes it from up to down. -/
def stroke? (p : Keypad) (move : KeyMove) : Option Key :=
  if move.2 && !p.isDown move.1 then some move.1 else none

/-- The keys of the strokes among moves, in order. -/
def strokes : Keypad → List KeyMove → List Key
  | _, [] => []
  | p, move :: later => (p.stroke? move).toList ++ (p.set move.1 move.2).strokes later

/-- The last sixteen keys of a list. -/
def latest (keys : List Key) : List Key := keys.drop (keys.length - pressCapacity)

@[simp] theorem moveAll_nil (p : Keypad) : p.moveAll [] = p := rfl

@[simp] theorem moveAll_cons (p : Keypad) (move : KeyMove) (later : List KeyMove) :
    p.moveAll (move :: later) = (p.set move.1 move.2).moveAll later := rfl

@[simp] theorem moveAll_append (p : Keypad) (earlier later : List KeyMove) :
    p.moveAll (earlier ++ later) = (p.moveAll earlier).moveAll later :=
  List.foldl_append

@[simp] theorem strokes_nil (p : Keypad) : p.strokes [] = [] := rfl

theorem strokes_append (p : Keypad) (earlier later : List KeyMove) :
    p.strokes (earlier ++ later) = p.strokes earlier ++ (p.moveAll earlier).strokes later := by
  induction earlier generalizing p with
  | nil => rfl
  | cons move earlier ih =>
    rw [List.cons_append, strokes, ih, strokes, List.append_assoc, moveAll_cons]

/-- The strokes depend on which keys are down, and on nothing else. -/
theorem strokes_congr {p q : Keypad} (same : p.down = q.down) (moves : List KeyMove) :
    p.strokes moves = q.strokes moves := by
  induction moves generalizing p q with
  | nil => rfl
  | cons move later ih =>
    have held : p.isDown move.1 = q.isDown move.1 := by simp only [isDown, same]
    have now : p.stroke? move = q.stroke? move := by rw [stroke?, stroke?, held]
    have next : (p.set move.1 move.2).down = (q.set move.1 move.2).down := by
      simp only [set, same]
    rw [strokes, strokes, now, ih next]

/-- **A held key makes no stroke** before it has come up. -/
theorem mem_strokes {p : Keypad} {moves : List KeyMove} {k : Key} (h : k ∈ p.strokes moves) :
    ∃ before later, moves = before ++ (k, true) :: later ∧
      (p.isDown k = true → (k, false) ∈ before) := by
  induction moves generalizing p with
  | nil => cases h
  | cons move later ih =>
    rcases List.mem_append.1 h with now | afterwards
    · -- the first move is the stroke, so the key was up
      obtain ⟨l, down⟩ := move
      simp only [stroke?, Option.mem_toList] at now
      split at now
      · next strikes =>
        cases now
        simp only [Bool.and_eq_true, Bool.not_eq_true'] at strikes
        obtain ⟨rfl, up⟩ := strikes
        refine ⟨[], later, rfl, fun held => ?_⟩
        rw [up] at held
        cases held
      · cases now
    · obtain ⟨before, rest, rfl, released⟩ := ih afterwards
      refine ⟨move :: before, rest, rfl, fun held => ?_⟩
      rw [isDown_set] at released
      by_cases lifts : move = (k, false)
      · rw [lifts]
        exact List.mem_cons_self
      · refine List.mem_cons_of_mem _ (released ?_)
        obtain ⟨l, down⟩ := move
        split
        · next same =>
          obtain rfl : l = k := same
          cases down
          · exact absurd rfl lifts
          · rfl
        · exact held

/-! ## The queue -/

theorem latest_of_length_le {keys : List Key} (h : keys.length ≤ pressCapacity) :
    latest keys = keys := by
  rw [latest, Nat.sub_eq_zero_of_le h, List.drop_zero]

/-- The oldest of the latest gives way. -/
theorem enqueue_latest (keys : List Key) (k : Key) :
    enqueue (latest keys) k = latest (keys ++ [k]) := by
  have capacity : 0 < pressCapacity := by decide
  have length : (latest keys).length = keys.length - (keys.length - pressCapacity) :=
    List.length_drop
  rw [enqueue]
  split
  · next room =>
    have few : keys.length < pressCapacity := by omega
    rw [latest_of_length_le (by omega), latest_of_length_le (by simp; omega)]
  · next full =>
    have shift : (keys ++ [k]).length - pressCapacity = keys.length - pressCapacity + 1 := by
      rw [List.length_append, List.length_singleton]
      omega
    rw [latest, latest, shift, List.drop_drop, List.drop_append_of_le_length (by omega)]

theorem presses_set {p : Keypad} {earlier : List Key} (h : p.presses = latest earlier)
    (move : KeyMove) :
    (p.set move.1 move.2).presses = latest (earlier ++ (p.stroke? move).toList) := by
  simp only [set, stroke?]
  split
  · rw [h, enqueue_latest]
    rfl
  · rw [h, Option.toList_none, List.append_nil]

/-- **The queue holds the latest strokes**, if nobody asks for presses. -/
theorem presses_moveAll {p : Keypad} {earlier : List Key} (h : p.presses = latest earlier)
    (moves : List KeyMove) :
    (p.moveAll moves).presses = latest (earlier ++ p.strokes moves) := by
  induction moves generalizing p earlier with
  | nil => rw [moveAll_nil, strokes_nil, List.append_nil, h]
  | cons move later ih =>
    rw [moveAll_cons, ih (presses_set h move), strokes, List.append_assoc]

theorem presses_moveAll_of_empty {p : Keypad} (empty : p.presses = []) (moves : List KeyMove) :
    (p.moveAll moves).presses = latest (p.strokes moves) :=
  presses_moveAll (show p.presses = latest [] from empty) moves

/-- The oldest of the latest strokes is one of the strokes. -/
theorem mem_of_latest_eq_cons {keys others : List Key} {k : Key} (h : latest keys = k :: others) :
    k ∈ keys :=
  List.mem_of_mem_drop (by rw [← latest, h]; exact List.mem_cons_self)

theorem latest_ne_nil {keys : List Key} (h : keys ≠ []) : latest keys ≠ [] := by
  have capacity : 0 < pressCapacity := by decide
  have some := List.length_pos_iff.2 h
  rw [latest, ne_eq, List.drop_eq_nil_iff]
  omega

/-! ## Asking for presses -/

/-- The keypad when it has been asked for a press `n` times. -/
def polled (p : Keypad) : Nat → Keypad
  | 0 => p
  | n + 1 =>
    match p.poll with
    | some (_, rest) => rest.polled n
    | none => p

/-- A press is forgotten each time. -/
theorem polled_eq (p : Keypad) (n : Nat) :
    p.polled n = { p with presses := p.presses.drop n } := by
  induction n generalizing p with
  | zero => rfl
  | succ n ih =>
    obtain ⟨down, _ | ⟨k, rest⟩⟩ := p
    · rfl
    · exact ih ⟨down, rest⟩

/-- It takes as many presses as there are to empty the queue. -/
theorem poll_polled_isSome (p : Keypad) (n : Nat) :
    (p.polled n).poll.isSome = decide (n < p.presses.length) := by
  rw [polled_eq, poll]
  rcases remain : p.presses.drop n with _ | ⟨k, rest⟩
  · have none := List.drop_eq_nil_iff.1 remain
    simp [Nat.not_lt.2 none]
  · have some : n < p.presses.length := List.length_lt_of_drop_ne_nil (by simp [remain])
    simp [some]

theorem length_of_poll {p rest : Keypad} {k : Key} (h : p.poll = some (k, rest)) :
    rest.presses.length < p.presses.length := by
  unfold poll at h
  split at h
  · cases h
  · next presses =>
    cases h
    simp [presses]

/-- Ask for presses until there is none. -/
def pollAll (p : Keypad) : Keypad :=
  match _asked : p.poll with
  | some (_, rest) => rest.pollAll
  | none => p
termination_by p.presses.length
decreasing_by exact length_of_poll ‹_›

theorem pollAll_eq_drain (p : Keypad) : p.pollAll = p.drain := by
  fun_induction pollAll p with
  | case1 p k rest asked ih =>
    rw [ih]
    unfold poll at asked
    split at asked
    · cases asked
    · cases asked
      rfl
  | case2 p none =>
    unfold poll at none
    split at none
    · next empty => rw [drain, ← empty]
    · cases none

end ChipEight.Keypad
