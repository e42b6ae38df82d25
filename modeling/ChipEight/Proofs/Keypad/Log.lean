/-
  The log — every stroke of a history of uses, and what became of it.

  * `Use.stroke?`, `strokesOf` and `answers`: the strokes that uses of a keypad
    make, and the presses that they are answered by;
  * `isDown_useAll`: a key is down if the last use that moves it moves it down;
  * `Log` is the reference: strokes are appended to it and never removed, and each
    of them is waiting at first, until a poll answers it, a clear drops it or it is
    outdated by sixteen newer ones;
  * `Matches` relates a keypad to a log: its queue are the strokes that wait, and
    they are the last ones of the log.  `matches_record` is the step, and
    `Becomes` says what becomes of a stroke;
  * `refines_log` puts these together for every history.
-/
import ChipEight.Proofs.Keypad.Presses
import ChipEight.Proofs.Machine.Turns

namespace ChipEight.Keypad

/-! ## Histories -/

/-- The keypad after a history of uses. -/
def useAll (p : Keypad) (history : List Use) : Keypad :=
  history.foldl (fun p use => (p.use use).2) p

/-- The presses that the uses of a history are answered by, in order. -/
def answers : Keypad → List Use → List Key
  | _, [] => []
  | p, use :: later => (p.use use).1.toList ++ (p.use use).2.answers later

/-- The key of a use, if the use takes it from up to down. -/
def Use.stroke? (p : Keypad) : Use → Option Key
  | .set k down => p.stroke? (k, down)
  | _ => none

/-- The keys of the strokes of a history, in order. -/
def strokesOf : Keypad → List Use → List Key
  | _, [] => []
  | p, use :: later => (use.stroke? p).toList ++ (p.use use).2.strokesOf later

/-- The use moves the key, or all keys. -/
def Use.Moves (k : Key) : Use → Prop
  | .set l _ => l = k
  | .poll => False
  | .clear => True

theorem presses_use_poll (p : Keypad) :
    p.use .poll = (p.presses.head?, { p with presses := p.presses.tail }) := by
  obtain ⟨down, _ | ⟨k, rest⟩⟩ := p <;> rfl

theorem isDown_use (p : Keypad) (use : Use) (k : Key) :
    (p.use use).2.isDown k = true ↔
      use = .set k true ∨ ¬ use.Moves k ∧ p.isDown k = true := by
  cases use with
  | set l down =>
    simp only [use, isDown_set, Use.Moves, Use.set.injEq]
    split
    · next same => simp [same]
    · next other => simp [other]
  | poll => simp [presses_use_poll, isDown, Use.Moves]
  | clear => simp [use, idle, isDown, Use.Moves]

theorem isDown_useAll_iff (p : Keypad) (history : List Use) (k : Key) :
    (p.useAll history).isDown k = true ↔
      (∃ before later, history = before ++ .set k true :: later ∧
        ∀ use ∈ later, ¬ use.Moves k) ∨
      (∀ use ∈ history, ¬ use.Moves k) ∧ p.isDown k = true := by
  induction history generalizing p with
  | nil => simp [useAll]
  | cons use history ih =>
    have next : p.useAll (use :: history) = (p.use use).2.useAll history := rfl
    rw [next, ih, isDown_use, List.forall_mem_cons]
    constructor
    · rintro (⟨before, later, rfl, still⟩ | ⟨still, rfl | ⟨now, held⟩⟩)
      · exact .inl ⟨use :: before, later, rfl, still⟩
      · exact .inl ⟨[], history, rfl, still⟩
      · exact .inr ⟨⟨now, still⟩, held⟩
    · rintro (⟨_ | ⟨first, before⟩, later, split, still⟩ | ⟨⟨now, still⟩, held⟩)
      · obtain ⟨rfl, rfl⟩ := List.cons.inj split
        exact .inr ⟨still, .inl rfl⟩
      · obtain ⟨-, rfl⟩ := List.cons.inj split
        exact .inl ⟨before, later, rfl, still⟩
      · exact .inr ⟨still, .inr ⟨now, held⟩⟩

/-- **The last use that moves a key** tells whether it is down. -/
theorem isDown_useAll (history : List Use) (k : Key) :
    (idle.useAll history).isDown k = true ↔
      ∃ before later, history = before ++ .set k true :: later ∧
        ∀ use ∈ later, ¬ use.Moves k := by
  have up : idle.isDown k = false := by simp [idle, isDown]
  rw [isDown_useAll_iff, up]
  simp only [Bool.false_eq_true, and_false, or_false]

/-! ## The log -/

/-- What becomes of a stroke. -/
inductive Fate where
  | waiting
  | answered
  | cleared
  | outdated
deriving DecidableEq

/-- A stroke, and what has become of it. -/
structure Stroke where
  key : Key
  fate : Fate
deriving DecidableEq

/-- The strokes that have been made, the oldest first. -/
abbrev Log := List Stroke

/-- A stroke that waits does so no longer. -/
def Stroke.settle (fate : Fate) (s : Stroke) : Stroke :=
  if s.fate = .waiting then { s with fate } else s

namespace Log

/-- Strokes that wait. -/
def waiting (keys : List Key) : Log := keys.map (Stroke.mk · .waiting)

/-- The keys of the strokes with a fate. -/
def keys (log : Log) (fate : Fate) : List Key :=
  (log.filter (·.fate = fate)).map Stroke.key

/-- The first stroke that waits is answered. -/
def answer : Log → Log
  | [] => []
  | s :: newer => if s.fate = .waiting then s.settle .answered :: newer else s :: answer newer

/-- Strokes with as many newer ones as the queue holds do not wait any longer. -/
def outdate (log : Log) : Log :=
  log.mapIdx fun n s => if n + pressCapacity < log.length then s.settle .outdated else s

/-- A stroke is made. -/
def strike (log : Log) (k : Key) : Log := outdate (log ++ [⟨k, .waiting⟩])

/-- The log after a use. -/
def record (log : Log) (p : Keypad) : Use → Log
  | .poll => log.answer
  | .clear => log.map (·.settle .cleared)
  | .set k down =>
    match p.stroke? (k, down) with
    | some l => log.strike l
    | none => log

end Log

/-- The log after a history of uses. -/
def logFrom : Keypad → Log → List Use → Log
  | _, log, [] => log
  | p, log, use :: later => (p.use use).2.logFrom (log.record p use) later

theorem logFrom_append (p : Keypad) (log : Log) (earlier later : List Use) :
    p.logFrom log (earlier ++ later) =
      (p.useAll earlier).logFrom (p.logFrom log earlier) later := by
  induction earlier generalizing p log with
  | nil => rfl
  | cons use earlier ih => exact ih _ _

/-! ## Keypad and log -/

theorem Stroke.settle_of_ne {s : Stroke} (h : s.fate ≠ .waiting) (fate : Fate) :
    s.settle fate = s := if_neg h

theorem Stroke.settle_ne (s : Stroke) {fate : Fate} (h : fate ≠ .waiting) :
    (s.settle fate).fate ≠ .waiting := by
  unfold settle
  split
  · exact h
  · next settled => exact settled

theorem Stroke.key_settle (s : Stroke) (fate : Fate) : (s.settle fate).key = s.key := by
  unfold settle
  split <;> rfl

/-- The queue of the keypad are the strokes that wait, the last ones of the log. -/
structure Matches (p : Keypad) (log : Log) : Prop where
  length : p.presses.length ≤ pressCapacity
  split : ∃ settled : Log, log = settled ++ .waiting p.presses ∧
    ∀ s ∈ settled, s.fate ≠ .waiting

variable {p : Keypad} {log : Log}

@[simp] theorem length_waiting (keys : List Key) : (Log.waiting keys).length = keys.length :=
  List.length_map _

theorem waiting_concat (keys : List Key) (k : Key) :
    Log.waiting (keys ++ [k]) = Log.waiting keys ++ [⟨k, .waiting⟩] := List.map_append

theorem map_settle_settled {settled : Log} (h : ∀ s ∈ settled, s.fate ≠ .waiting) (fate : Fate) :
    settled.map (·.settle fate) = settled := by
  have same : ∀ s ∈ settled, s.settle fate = s := fun s inside => Stroke.settle_of_ne (h s inside) _
  rw [List.map_congr_left same, List.map_id']

theorem forall_mem_concat {settled : Log} (h : ∀ s ∈ settled, s.fate ≠ .waiting) {k : Key}
    {fate : Fate} (done : fate ≠ .waiting) : ∀ s ∈ settled ++ [⟨k, fate⟩], s.fate ≠ .waiting :=
  List.forall_mem_append.2 ⟨h, List.forall_mem_singleton.2 done⟩

theorem answer_append {settled : Log} (h : ∀ s ∈ settled, s.fate ≠ .waiting) (log : Log) :
    Log.answer (settled ++ log) = settled ++ log.answer := by
  induction settled with
  | nil => rfl
  | cons s settled ih =>
    obtain ⟨now, later⟩ := List.forall_mem_cons.1 h
    rw [List.cons_append, Log.answer, if_neg now, ih later, List.cons_append]

/-- Only what lies before the latest strokes is outdated. -/
theorem outdate_append {old recent : Log} (few : recent.length ≤ pressCapacity)
    (room : recent.length < pressCapacity → ∀ s ∈ old, s.fate ≠ .waiting) :
    Log.outdate (old ++ recent) = old.map (·.settle .outdated) ++ recent := by
  have total : (old ++ recent).length = old.length + recent.length := List.length_append
  rw [Log.outdate, List.mapIdx_append, total]
  congr 1
  · refine List.ext_getElem? fun n => ?_
    rw [List.getElem?_mapIdx, List.getElem?_map]
    cases here : old[n]? with
    | none => rfl
    | some s =>
      obtain ⟨inside, -⟩ := List.getElem?_eq_some_iff.1 here
      simp only [Option.map_some, Option.some.injEq]
      split
      · rfl
      · next young =>
        exact (Stroke.settle_of_ne (room (by omega) s (List.mem_of_getElem? here)) _).symm
  · refine List.ext_getElem? fun n => ?_
    rw [List.getElem?_mapIdx]
    cases here : recent[n]? with
    | none => rfl
    | some s =>
      rw [Option.map_some, if_neg (by omega)]

theorem Matches.strike {log : Log} (h : p.Matches log) (k : Key) (down : Vector Bool 16) :
    Matches ⟨down, enqueue p.presses k⟩ (log.strike k) := by
  obtain ⟨length, settled, rfl, done⟩ := h
  have bound := length_enqueue_le k length
  refine ⟨bound, ?_⟩
  unfold enqueue at bound ⊢
  split
  · next room =>
    refine ⟨settled, ?_, done⟩
    rw [Log.strike, List.append_assoc, ← waiting_concat, outdate_append _ fun _ => done,
      map_settle_settled done]
    rwa [length_waiting, List.length_append]
  · next full =>
    cases presses : p.presses with
    | nil => simp [presses, pressCapacity] at full
    | cons oldest rest =>
      -- the oldest press gives way, and the queue is full again
      rw [presses, List.length_cons] at full length
      have recent : (Log.waiting (rest ++ [k])).length = rest.length + 1 := by simp
      have split : settled ++ .waiting (oldest :: rest) ++ [⟨k, .waiting⟩] =
          settled ++ [⟨oldest, .waiting⟩] ++ .waiting (rest ++ [k]) := by
        simp [Log.waiting]
      refine ⟨settled ++ [⟨oldest, .outdated⟩], ?_, forall_mem_concat done (by decide)⟩
      rw [Log.strike, split, outdate_append (by omega) (fun few => by omega), List.map_append,
        map_settle_settled done]
      rfl

/-- **A keypad and its log** go together. -/
theorem Matches.record {log : Log} (h : p.Matches log) (use : Use) :
    (p.use use).2.Matches (log.record p use) := by
  cases use with
  | set k down =>
    rw [Log.record, use, stroke?, set]
    split
    · exact h.strike k _
    · exact ⟨h.length, h.split⟩
  | poll =>
    obtain ⟨length, settled, rfl, done⟩ := h
    rw [Log.record, presses_use_poll, answer_append done]
    cases presses : p.presses with
    | nil => exact ⟨Nat.zero_le _, settled, rfl, done⟩
    | cons oldest rest =>
      rw [presses] at length
      refine ⟨Nat.le_of_succ_le length, settled ++ [⟨oldest, .answered⟩], ?_, ?_⟩
      · rw [List.append_assoc]
        rfl
      · exact forall_mem_concat done (by decide)
  | clear =>
    obtain ⟨length, settled, rfl, done⟩ := h
    refine ⟨Nat.zero_le _, (settled ++ .waiting p.presses).map (·.settle .cleared), ?_, ?_⟩
    · exact (List.append_nil _).symm
    · intro s inside
      obtain ⟨before, -, rfl⟩ := List.mem_map.1 inside
      exact before.settle_ne (by decide)

/-! ## Strokes and answers -/

theorem keys_append (log newer : Log) (fate : Fate) :
    Log.keys (log ++ newer) fate = log.keys fate ++ newer.keys fate := by
  rw [Log.keys, List.filter_append, List.map_append]
  rfl

theorem keys_waiting (keys : List Key) (fate : Fate) :
    (Log.waiting keys).keys fate = if fate = .waiting then keys else [] := by
  cases fate <;> simp [Log.keys, Log.waiting, List.filter_map, Function.comp_def]

/-- What is settled in another way has not been answered. -/
theorem keys_map_settle (log : Log) {fate : Fate} (other : fate ≠ .answered) :
    Log.keys (log.map (·.settle fate)) .answered = log.keys .answered := by
  have same (s : Stroke) : (s.settle fate).fate = .answered ↔ s.fate = .answered := by
    unfold Stroke.settle
    split
    · next waits => simp [waits, other]
    · rfl
  simp only [Log.keys, List.filter_map, List.map_map, Function.comp_def, same, Stroke.key_settle]

theorem outdate_eq (log : Log) :
    log.outdate =
      (log.take (log.length - pressCapacity)).map (·.settle .outdated) ++
        log.drop (log.length - pressCapacity) := by
  have few : (log.drop (log.length - pressCapacity)).length ≤ pressCapacity := by
    rw [List.length_drop]
    omega
  rw [← outdate_append few, List.take_append_drop]
  intro short
  rw [List.length_drop] at short
  rw [show log.length - pressCapacity = 0 by omega]
  nofun

theorem keys_outdate (log : Log) : log.outdate.keys .answered = log.keys .answered := by
  rw [outdate_eq, keys_append, keys_map_settle _ (by decide), ← keys_append, List.take_append_drop]

theorem map_key_settle (log : Log) (fate : Fate) :
    (log.map (·.settle fate)).map Stroke.key = log.map Stroke.key := by
  simp only [List.map_map, Function.comp_def, Stroke.key_settle]

theorem map_key_answer (log : Log) : log.answer.map Stroke.key = log.map Stroke.key := by
  induction log with
  | nil => rfl
  | cons s newer ih =>
    rw [Log.answer]
    split
    · rw [List.map_cons, Stroke.key_settle, List.map_cons]
    · rw [List.map_cons, ih, List.map_cons]

/-- **No stroke is forgotten** by the log. -/
theorem map_key_record (p : Keypad) (log : Log) (use : Use) :
    (log.record p use).map Stroke.key = log.map Stroke.key ++ (use.stroke? p).toList := by
  cases use with
  | set k down =>
    rw [Log.record, Use.stroke?]
    split
    · next l strikes =>
      rw [strikes, Log.strike, outdate_eq, List.map_append, map_key_settle, ← List.map_append,
        List.take_append_drop, List.map_append]
      rfl
    · next none =>
      rw [none]
      exact (List.append_nil _).symm
  | poll => exact (map_key_answer log).trans (List.append_nil _).symm
  | clear => exact (map_key_settle log .cleared).trans (List.append_nil _).symm

/-- **A poll is answered** by the stroke that has waited longest. -/
theorem Matches.keys_answered (h : p.Matches log) (use : Use) :
    (log.record p use).keys .answered = log.keys .answered ++ (p.use use).1.toList := by
  cases use with
  | set k down =>
    rw [Log.record]
    split
    · next l _ =>
      rw [Log.strike, keys_outdate, keys_append]
      rfl
    · exact (List.append_nil _).symm
  | poll =>
    obtain ⟨-, settled, rfl, done⟩ := h
    rw [Log.record, answer_append done, keys_append, keys_append, keys_waiting, presses_use_poll,
      if_neg nofun, List.append_nil]
    cases p.presses with
    | nil => rfl
    | cons oldest rest =>
      have first : (Log.waiting (oldest :: rest)).answer =
          ⟨oldest, .answered⟩ :: Log.waiting rest := rfl
      rw [first, ← List.singleton_append, keys_append, keys_waiting]
      rfl
  | clear => exact (keys_map_settle log (by decide)).trans (List.append_nil _).symm

/-- The queue are the strokes that wait. -/
theorem Matches.keys_waiting (h : p.Matches log) : log.keys .waiting = p.presses := by
  obtain ⟨-, settled, rfl, done⟩ := h
  have none : settled.keys .waiting = [] := by
    rw [Log.keys, List.filter_eq_nil_iff.2 (by simpa using done)]
    rfl
  rw [keys_append, none, Keypad.keys_waiting]
  rfl

/-! ## What becomes of a stroke -/

/-- What may have become of a stroke by uses, with some newer strokes in the log. -/
structure Stroke.Becomes (uses : List Use) (newer : Nat) (s t : Stroke) : Prop where
  key : t.key = s.key
  settled : s.fate ≠ .waiting → t.fate = s.fate
  answered : t.fate = .answered → s.fate = .answered ∨ .poll ∈ uses
  cleared : t.fate = .cleared → s.fate = .cleared ∨ .clear ∈ uses
  outdated : t.fate = .outdated → s.fate = .outdated ∨ pressCapacity ≤ newer
  waiting : t.fate = .waiting → s.fate = .waiting ∧ .clear ∉ uses ∧ newer < pressCapacity

namespace Stroke

variable {s t u : Stroke} {uses later : List Use} {newer total : Nat}

theorem becomes_self (h : s.fate = .waiting → .clear ∉ uses ∧ newer < pressCapacity) :
    s.Becomes uses newer s where
  key := rfl
  settled _ := rfl
  answered := .inl
  cleared := .inl
  outdated := .inl
  waiting waits := ⟨waits, h waits⟩

theorem becomes_settle {fate : Fate} (done : fate ≠ .waiting)
    (answered : fate = .answered → .poll ∈ uses) (cleared : fate = .cleared → .clear ∈ uses)
    (outdated : fate = .outdated → pressCapacity ≤ newer) :
    s.Becomes uses newer (s.settle fate) := by
  by_cases waits : s.fate = .waiting
  · have changed : s.settle fate = ⟨s.key, fate⟩ := if_pos waits
    rw [changed]
    exact ⟨rfl, fun other => absurd waits other, .inr ∘ answered, .inr ∘ cleared, .inr ∘ outdated,
      fun still => absurd still done⟩
  · rw [settle_of_ne waits]
    exact becomes_self fun waits' => absurd waits' waits

/-- What becomes of a stroke by uses, and of that by later ones. -/
theorem Becomes.trans (h : s.Becomes uses newer t) (le : newer ≤ total)
    (h' : t.Becomes later total u) : s.Becomes (uses ++ later) total u where
  key := h'.key.trans h.key
  settled done := by
    have same := h.settled done
    rw [h'.settled (same ▸ done), same]
  answered fate := by
    rw [List.mem_append, ← or_assoc]
    exact (h'.answered fate).imp_left h.answered
  cleared fate := by
    rw [List.mem_append, ← or_assoc]
    exact (h'.cleared fate).imp_left h.cleared
  outdated fate := by
    rcases h'.outdated fate with earlier | many
    · exact (h.outdated earlier).imp_right (Nat.le_trans · le)
    · exact .inr many
  waiting waits := by
    obtain ⟨before, noLater, few⟩ := h'.waiting waits
    obtain ⟨first, noEarlier, -⟩ := h.waiting before
    exact ⟨first, by simp [noEarlier, noLater], few⟩

end Stroke

/-- Strokes that wait are among the latest. -/
theorem Matches.newer_lt (h : p.Matches log) {n : Nat} {s : Stroke} (here : log[n]? = some s)
    (waits : s.fate = .waiting) : log.length - (n + 1) < pressCapacity := by
  obtain ⟨length, settled, rfl, done⟩ := h
  obtain ⟨inside, -⟩ := List.getElem?_eq_some_iff.1 here
  have total : (settled ++ .waiting p.presses).length = settled.length + p.presses.length := by
    rw [List.length_append, length_waiting]
  by_cases old : n < settled.length
  · rw [List.getElem?_append_left old] at here
    exact absurd waits (done s (List.mem_of_getElem? here))
  · omega

theorem getElem?_answer {n : Nat} {s : Stroke} (here : log[n]? = some s) :
    log.answer[n]? = some s ∨ log.answer[n]? = some (s.settle .answered) := by
  induction log generalizing n with
  | nil => cases here
  | cons first newer ih =>
    rw [Log.answer]
    cases n with
    | zero =>
      cases here
      split
      · exact .inr rfl
      · exact .inl rfl
    | succ n =>
      split
      · exact .inl here
      · exact ih here

theorem length_strike (log : Log) (k : Key) : (log.strike k).length = log.length + 1 := by
  rw [Log.strike, Log.outdate, List.length_mapIdx, List.length_append, List.length_singleton]

theorem getElem?_strike {n : Nat} {s : Stroke} (here : log[n]? = some s) (k : Key) :
    (log.strike k)[n]? =
      some (if n + pressCapacity < log.length + 1 then s.settle .outdated else s) := by
  obtain ⟨inside, -⟩ := List.getElem?_eq_some_iff.1 here
  rw [Log.strike, Log.outdate, List.getElem?_mapIdx, List.getElem?_append_left inside, here,
    List.length_append, List.length_singleton]
  rfl

/-- A use and what becomes of a stroke by it. -/
theorem Matches.becomes_record (h : p.Matches log) {n : Nat} {s : Stroke}
    (here : log[n]? = some s) (use : Use) :
    ∃ t, (log.record p use)[n]? = some t ∧
      s.Becomes [use] ((log.record p use).length - (n + 1)) t := by
  have young {t : Stroke} := (h.record use).newer_lt (n := n) (s := t)
  cases use with
  | set k down =>
    have kept : Use.clear ∉ [Use.set k down] := by simp
    rw [Log.record] at young ⊢
    split at young
    · next l _ =>
      have place := getElem?_strike here l
      rw [length_strike] at young ⊢
      split at place
      · exact ⟨_, place, Stroke.becomes_settle nofun nofun nofun fun _ => by omega⟩
      · exact ⟨s, place, Stroke.becomes_self fun waits => ⟨kept, young place waits⟩⟩
    · exact ⟨s, here, Stroke.becomes_self fun waits => ⟨kept, young here waits⟩⟩
  | poll =>
    rcases getElem?_answer here with same | answered
    · exact ⟨s, same, Stroke.becomes_self fun waits => ⟨by simp, young same waits⟩⟩
    · exact ⟨_, answered, Stroke.becomes_settle nofun (by simp) nofun nofun⟩
  | clear =>
    refine ⟨s.settle .cleared, ?_, Stroke.becomes_settle nofun nofun (by simp) nofun⟩
    exact List.getElem?_map.trans (congrArg _ here)

/-! ## Runs -/

theorem Matches.logFrom (h : p.Matches log) (history : List Use) :
    (p.useAll history).Matches (p.logFrom log history) := by
  induction history generalizing p log with
  | nil => exact h
  | cons use history ih => exact ih (h.record use)

theorem map_key_logFrom (p : Keypad) (log : Log) (history : List Use) :
    (p.logFrom log history).map Stroke.key = log.map Stroke.key ++ p.strokesOf history := by
  induction history generalizing p log with
  | nil => exact (List.append_nil _).symm
  | cons use history ih =>
    rw [Keypad.logFrom, ih, map_key_record, strokesOf, List.append_assoc]

theorem length_le_logFrom (p : Keypad) (log : Log) (history : List Use) :
    log.length ≤ (p.logFrom log history).length := by
  have longer := congrArg List.length (map_key_logFrom p log history)
  rw [List.length_map, List.length_append, List.length_map] at longer
  omega

theorem Matches.keys_answered_logFrom (h : p.Matches log) (history : List Use) :
    (p.logFrom log history).keys .answered = log.keys .answered ++ p.answers history := by
  induction history generalizing p log with
  | nil => exact (List.append_nil _).symm
  | cons use history ih =>
    rw [Keypad.logFrom, ih (h.record use), h.keys_answered, answers, List.append_assoc]

/-- **What becomes of a stroke** in the further course of a history. -/
theorem Matches.becomes_logFrom (h : p.Matches log) {n : Nat} {s : Stroke}
    (here : log[n]? = some s) (history : List Use) :
    ∃ t, (p.logFrom log history)[n]? = some t ∧
      s.Becomes history ((p.logFrom log history).length - (n + 1)) t := by
  induction history generalizing p log s with
  | nil => exact ⟨s, here, Stroke.becomes_self fun waits => ⟨by simp, h.newer_lt here waits⟩⟩
  | cons use history ih =>
    obtain ⟨t, now, first⟩ := h.becomes_record here use
    obtain ⟨u, final, rest⟩ := ih (h.record use) now
    have longer := length_le_logFrom (p.use use).2 (log.record p use) history
    refine ⟨u, final, first.trans ?_ rest⟩
    rw [Keypad.logFrom]
    omega

/-- No stroke has been made. -/
theorem matches_idle : idle.Matches [] := ⟨Nat.zero_le _, [], rfl, nofun⟩

/-- **A keypad refines its log.**  After any history of uses of a new keypad (a press
    and a release are such uses), a key is down exactly if the last use that moves it
    moves it down; the log lists all strokes in their order; the queue are those that
    wait, never more than sixteen, and what polls were answered by are those that are
    answered, in order.  A stroke stops waiting for good: a poll answers it, a clear
    drops it, or sixteen newer strokes have been made before it is asked for. -/
theorem refines_log (history : List Use) :
    let p := idle.useAll history
    let log := idle.logFrom [] history
    (∀ (q : Keypad) k,
        q.press k = (q.use (.set k true)).2 ∧ q.release k = (q.use (.set k false)).2) ∧
      (∀ k, p.isDown k = true ↔
        ∃ before later, history = before ++ .set k true :: later ∧
          ∀ use ∈ later, ¬ use.Moves k) ∧
      log.map Stroke.key = idle.strokesOf history ∧
      p.presses = log.keys .waiting ∧ p.presses.length ≤ 16 ∧
      idle.answers history = log.keys .answered ∧
      ∀ earlier later, history = earlier ++ later →
        ∀ (n : Nat) (s : Stroke), (idle.logFrom [] earlier)[n]? = some s →
          ∃ t, log[n]? = some t ∧ s.Becomes later (log.length - (n + 1)) t := by
  intro p log
  have together : p.Matches log := matches_idle.logFrom history
  refine ⟨fun _ _ => ⟨rfl, rfl⟩, isDown_useAll history, map_key_logFrom idle [] history,
    together.keys_waiting.symm, together.length,
    (matches_idle.keys_answered_logFrom history).symm, ?_⟩
  rintro earlier later rfl n s here
  have split : log = (idle.useAll earlier).logFrom (idle.logFrom [] earlier) later :=
    logFrom_append idle [] earlier later
  rw [split]
  exact (matches_idle.logFrom earlier).becomes_logFrom here later

/-- The first of seventeen strokes is outdated. -/
example :
    let history := (List.finRange 16).map (Use.set · true) ++ [.set 0 false, .set 0 true]
    (idle.logFrom [] history).head? = some ⟨0, .outdated⟩ := by decide

end ChipEight.Keypad
