/-
  How a run ends.

  A run lets slices of time pass, and each of them brings one update.

  * `Run.issued` is the console that an update is given, and `Run.update` is the update;
    `Run.EndsIn` says that a slice is the last one: its update faults, or the limit is
    reached.  `Run.next` is the run that goes on with what the update has left;
  * `Run.Underway` is what holds while a session goes on: the machine has not halted,
    and what is left of the script are the moves that were not due before.  One slice
    keeps it (`Underway.next`), and so do all slices while the session goes on
    (`Session.underway_of_running`);
  * `Run.Brings` is what a slice brings to a run under way, with the answer of the session;
  * `Run.stops_when_due` puts these together for every session and all slices.
-/
import ChipEight.Proofs.Keypad.Holds
import ChipEight.Proofs.Pace.Faults
import ChipEight.Proofs.Session.Starting

namespace ChipEight

/-! ## Moves that are due -/

namespace Script

theorem takeWhile_isDue (script : Script) (elapsed : Nat) :
    script.pending.takeWhile (isDue elapsed) =
      script.pending.filter fun move => move.time ≤ elapsed := by
  have sorted : script.pending.Pairwise fun a b =>
      isDue elapsed b = true → isDue elapsed a = true := by
    refine script.sorted.imp fun le due => ?_
    simp only [isDue, decide_eq_true_eq] at *
    exact Nat.le_trans le due
  rw [takeWhile_eq_filter sorted]
  rfl

theorem dropWhile_isDue (script : Script) (elapsed : Nat) :
    script.pending.dropWhile (isDue elapsed) =
      script.pending.filter fun move => elapsed < move.time := by
  obtain ⟨pending, sorted⟩ := script
  induction pending with
  | nil => rfl
  | cons move later ih =>
    obtain ⟨first, rest⟩ := List.pairwise_cons.1 sorted
    by_cases due : move.time ≤ elapsed
    · rw [List.dropWhile_cons_of_pos (by simpa [isDue] using due),
        List.filter_cons_of_neg (by simpa using due)]
      exact ih rest
    · have all : ∀ a ∈ move :: later, decide (elapsed < a.time) = true := by
        intro a inside
        rw [decide_eq_true_eq]
        rcases List.mem_cons.1 inside with rfl | behind
        · omega
        · have := first a behind
          omega
      rw [List.dropWhile_cons_of_neg (by simpa [isDue] using due), List.filter_eq_self.2 all]

/-- Which keys are down after moves depends on nothing but the keys that were down. -/
theorem down_foldl_apply {p q : Keypad} (same : p.down = q.down) (moves : List Move) :
    (moves.foldl Move.apply p).down = (moves.foldl Move.apply q).down := by
  induction moves generalizing p q with
  | nil => exact same
  | cons move later ih =>
    refine ih ?_
    simp only [Move.apply, Keypad.set, same]

end Script

/-! ## Updates -/

/-- The nanoseconds that have passed in slices, for the script and the limit. -/
def Slice.total (slices : List Slice) : Nat := (slices.map Slice.passed).sum

theorem Slice.total_concat (slices : List Slice) (slice : Slice) :
    total (slices ++ [slice]) = total slices + slice.passed := by
  simp [total]

namespace Run

section
variable {δ : Type}

/-- The console that the update of a slice is given: the keys that are due have been
    moved. -/
def issued (run : Run δ) (slice : Slice) : Console :=
  { run.console with
    keypad := (run.script.apply (run.elapsed + slice.passed) run.console.keypad).2 }

/-- The rig that the update of a slice is made on. -/
def rig (run : Run δ) (slice : Slice) : Rig δ := ⟨run.pacer, run.issued slice, run.panel⟩

variable [Panel δ]

/-- The pacer after the update of a slice, and its episode. -/
def update (run : Run δ) (slice : Slice) : Pacer × Episode δ :=
  run.pacer.update (run.issued slice) run.panel slice.measured

/-- A slice is the last one of a run: its update faults, or the time that has passed
    with it comes to the limit. -/
def EndsIn (run : Run δ) (slice : Slice) : Prop :=
  (∃ fault, (run.update slice).2.result = .error fault) ∨
    ∃ limit, run.limit = some limit ∧ limit ≤ run.elapsed + slice.passed

/-- An update without a fault does not end a run before its limit. -/
theorem not_endsIn {run : Run δ} {slice : Slice} {limit : Nat}
    (fine : (run.update slice).2.fault = none) (limited : run.limit = some limit)
    (early : run.elapsed + slice.passed < limit) : ¬ run.EndsIn slice := by
  rintro (⟨fault, failed⟩ | ⟨limit', limited', due⟩)
  · rw [Episode.result, fine] at failed
    cases failed
  · rw [limited] at limited'
    cases limited'
    omega

theorem endsWith_advance_iff (run : Run δ) (slice : Slice) :
    (run.advance slice).2.endsWith (run.advance slice).1 = true ↔ run.EndsIn slice := by
  have outcome : (run.advance slice).1 = (run.update slice).2.result := rfl
  have limit : (run.advance slice).2.limit = run.limit := rfl
  have elapsed : (run.advance slice).2.elapsed = run.elapsed + slice.passed := rfl
  unfold EndsIn endsWith isOver
  rw [outcome, limit, elapsed]
  cases (run.update slice).2.result <;> cases run.limit <;> simp

/-- A machine that has not halted goes on for as long as its updates succeed. -/
theorem isHalted_update {run : Run δ} {slice : Slice}
    (running : run.console.machine.isHalted = false) (goesOn : ¬ run.EndsIn slice) :
    (run.update slice).2.console.machine.isHalted = false := by
  by_contra halted
  obtain ⟨fault, status⟩ := Machine.isHalted_iff.1 (Bool.not_eq_false _ ▸ halted)
  have failed : ((run.rig slice).episode slice.measured).result = .error fault :=
    Rig.result_eq_error_iff.2 ⟨running, status⟩
  exact goesOn (.inl ⟨fault, failed⟩)

end

/-- The run after a slice: the update has left the pacer, the console and the terminal, what
    is printed was taken off the terminal, and the script goes on with the moves that are
    not due yet. -/
def next (run : Run Terminal) (slice : Slice) : Run Terminal where
  pacer := (run.update slice).1
  console := (run.update slice).2.console
  panel := (run.update slice).2.panel.takeOutput.2
  script := (run.script.apply (run.elapsed + slice.passed) run.console.keypad).1
  elapsed := run.elapsed + slice.passed
  limit := run.limit

/-! ## What holds while a session goes on -/

/-- What a run has come to after slices of time that have not ended it. -/
structure Underway (first : Run Terminal) (before : List Slice) (now : Run Terminal) : Prop where
  running : now.console.machine.isHalted = false
  elapsed : now.elapsed = Slice.total before
  limit : now.limit = first.limit
  /-- The first slice makes the moves of the very beginning, too. -/
  script : now.script.pending = first.script.pending.filter fun move =>
    before = [] ∨ Slice.total before < move.time
  /-- Once later moves are made, the keys are as if all had been made at once. -/
  keys : ∀ later, Slice.total before ≤ later →
    (now.script.apply later now.console.keypad).2.down = (first.script.apply later .idle).2.down

namespace Underway

variable {first now : Run Terminal} {before : List Slice} {slice : Slice}

/-- Nothing has been done at the beginning. -/
theorem start {settings : Settings} {chance : UInt64} {program : List UInt8}
    (started : Run.start settings chance program (.new settings.render) = .ok first) :
    Underway first [] first := by
  obtain ⟨loaded, elapsed, -, -⟩ := Run.start_spec started
  exact
    { running := by rw [loaded]; rfl
      elapsed := elapsed
      limit := rfl
      script := by simp
      keys := fun later _ => by rw [loaded] }

theorem issued_keypad (h : Underway first before now) :
    (now.issued slice).keypad = (first.script.pending.filter fun move =>
      move.time ≤ Slice.total before + slice.passed ∧
        (before = [] ∨ Slice.total before < move.time)).foldl Move.apply now.console.keypad := by
  show (now.script.pending.takeWhile (Script.isDue (now.elapsed + slice.passed))).foldl _ _ = _
  rw [Script.takeWhile_isDue, h.script, h.elapsed, List.filter_filter]
  congr 2
  funext move
  simp only [Bool.decide_and]

/-- The keys that an update finds down are those that the script so far leaves down. -/
theorem issued_down (h : Underway first before now) :
    (now.issued slice).keypad.down =
      (first.script.apply (Slice.total before + slice.passed) .idle).2.down := by
  rw [← h.keys _ (Nat.le_add_right _ _), ← h.elapsed]
  rfl

/-- **A slice that is not the last** leaves the run under way. -/
theorem next (h : Underway first before now) (goesOn : ¬ now.EndsIn slice) :
    Underway first (before ++ [slice]) (now.next slice) where
  running := isHalted_update h.running goesOn
  elapsed := by
    show now.elapsed + slice.passed = _
    rw [h.elapsed, Slice.total_concat]
  limit := h.limit
  script := by
    show now.script.pending.dropWhile (Script.isDue (now.elapsed + slice.passed)) = _
    rw [Script.dropWhile_isDue, h.script, h.elapsed, List.filter_filter, Slice.total_concat]
    refine List.filter_congr fun move _ => ?_
    rw [← Bool.decide_and]
    refine decide_eq_decide.2 ⟨fun ⟨after, _⟩ => .inr after, ?_⟩
    rintro (none | after)
    · simp at none
    · exact ⟨after, .inr (by omega)⟩
  keys := by
    intro later after
    rw [Slice.total_concat] at after
    have updated : (now.next slice).console.keypad.down = (now.issued slice).keypad.down :=
      (now.rig slice).down_episode slice.measured
    -- the moves of both calls are those of the later one
    have twice :=
      now.script.apply_apply (Slice.total before + slice.passed) later now.console.keypad
    rw [Nat.max_eq_right after] at twice
    have same : (now.next slice).script =
        (now.script.apply (Slice.total before + slice.passed) now.console.keypad).1 := by
      rw [← h.elapsed]
      rfl
    rw [← h.keys later (by omega), ← twice, same]
    refine Script.down_foldl_apply (updated.trans ?_) _
    rw [issued, h.elapsed]

end Underway

end Run

/-! ## Sessions -/

namespace Session

/-- The session after slices of time. -/
def passAll (session : Session) (slices : List Slice) : Session :=
  slices.foldl (fun session slice => (session.pass slice).2) session

variable {first now : Run Terminal} {before : List Slice} {slice : Slice}

theorem passAll_concat (session : Session) (before : List Slice) (slice : Slice) :
    session.passAll (before ++ [slice]) = ((session.passAll before).pass slice).2 := by
  rw [passAll, List.foldl_append]
  rfl

theorem passAll_ended (code : Nat) (slices : List Slice) :
    (Session.ended code).passAll slices = .ended code := by
  induction slices with
  | nil => rfl
  | cons slice later ih => exact ih

theorem pass_of_endsIn (ends : now.EndsIn slice) :
    (Session.running now).pass slice = finish (now.advance slice).2 (now.advance slice).1 :=
  if_pos ((now.endsWith_advance_iff slice).2 ends)

/-- **A slice that is not the last** hands on what its update has left. -/
theorem pass_of_goesOn (goesOn : ¬ now.EndsIn slice) :
    (Session.running now).pass slice =
      ((now.update slice).2.panel.takeOutput.1, .running (now.next slice)) :=
  if_neg fun ends => goesOn ((now.endsWith_advance_iff slice).1 ends)

theorem exists_finish (run : Run Terminal) (outcome : Except Fault Report) :
    ∃ text code, finish run outcome = (text, .ended code) := by
  cases outcome with
  | ok report => exact ⟨_, _, rfl⟩
  | error fault => exact ⟨_, _, rfl⟩

/-- **Slices of time** leave a run under way, or one of them was its last. -/
theorem passAll_cases (start : Run.Underway first [] first) (before : List Slice) :
    (∃ now, (Session.running first).passAll before = .running now ∧
      first.Underway before now ∧
      ∀ earlier slice rest, before = earlier ++ slice :: rest →
        ∃ now, (Session.running first).passAll earlier = .running now ∧ ¬ now.EndsIn slice) ∨
    ((∃ code, (Session.running first).passAll before = .ended code) ∧
      ∃ earlier slice rest now, before = earlier ++ slice :: rest ∧
        (Session.running first).passAll earlier = .running now ∧ now.EndsIn slice) := by
  induction before using List.reverseRecOn with
  | nil =>
    refine .inl ⟨first, rfl, start, ?_⟩
    intro earlier slice rest none
    simp at none
  | append_singleton before slice ih =>
    rw [passAll_concat]
    rcases ih with
      ⟨now, session, underway, passed⟩ | ⟨⟨code, stopped⟩, earlier, last, rest, now, rfl, ended⟩
    · rw [session]
      by_cases ends : now.EndsIn slice
      · obtain ⟨text, code, finished⟩ := exists_finish (now.advance slice).2 (now.advance slice).1
        rw [pass_of_endsIn ends, finished]
        exact .inr ⟨⟨code, rfl⟩, before, slice, [], now, rfl, session, ends⟩
      · rw [pass_of_goesOn ends]
        refine .inl ⟨_, rfl, underway.next ends, ?_⟩
        intro earlier s rest split
        -- the slice is the last of these, or one of those before
        rcases List.eq_nil_or_concat' rest with rfl | ⟨rest, last, rfl⟩
        · obtain ⟨rfl, same⟩ := List.append_inj' split rfl
          cases same
          exact ⟨now, session, ends⟩
        · rw [← List.cons_append, ← List.append_assoc] at split
          exact passed earlier s rest (List.append_inj' split rfl).1
    · rw [stopped]
      exact .inr ⟨⟨code, rfl⟩, earlier, last, rest ++ [slice], now, by simp, ended⟩

/-- **A session goes on** for as long as no slice is the last one. -/
theorem running_iff (start : Run.Underway first [] first) (before : List Slice) :
    (∃ now, (Session.running first).passAll before = .running now) ↔
      ∀ earlier slice rest, before = earlier ++ slice :: rest →
        ∃ now, (Session.running first).passAll earlier = .running now ∧ ¬ now.EndsIn slice := by
  rcases passAll_cases start before with
    ⟨now, session, -, passed⟩ | ⟨⟨code, stopped⟩, earlier, slice, rest, now, split, session, ends⟩
  · exact ⟨fun _ => passed, fun _ => ⟨now, session⟩⟩
  · constructor
    · rintro ⟨now', goesOn⟩
      rw [stopped] at goesOn
      cases goesOn
    · intro passed
      obtain ⟨now', same, goesOn⟩ := passed earlier slice rest split
      rw [session] at same
      cases same
      exact absurd ends goesOn

theorem underway_of_running (start : Run.Underway first [] first)
    (session : (Session.running first).passAll before = .running now) :
    first.Underway before now := by
  rcases passAll_cases start before with ⟨now', same, underway, -⟩ | ⟨⟨code, stopped⟩, -⟩
  · rw [session] at same
    cases same
    exact underway
  · rw [session] at stopped
    cases stopped

/-- A session that does not go on has ended for good. -/
theorem ended_of_not_running (start : Run.Underway first [] first)
    (stopped : ¬ ∃ now, (Session.running first).passAll before = .running now) :
    ∃ code, ∀ later, (Session.running first).passAll (before ++ later) = .ended code := by
  rcases passAll_cases start before with ⟨now, session, -⟩ | ⟨⟨code, ended⟩, -⟩
  · exact absurd ⟨now, session⟩ stopped
  · refine ⟨code, fun later => ?_⟩
    have split : (Session.running first).passAll (before ++ later) =
        ((Session.running first).passAll before).passAll later := List.foldl_append
    rw [split, ended, passAll_ended]

end Session

namespace Run

/-! ## What a slice brings -/

/-- What a slice brings to a run that slices have left under way. -/
structure Brings (settings : Settings) (first : Run Terminal) (before : List Slice)
    (now : Run Terminal) (slice : Slice) : Prop where
  limit : now.limit = first.limit
  elapsed : now.elapsed = Slice.total before
  /-- The update is given the machine as it is, which has not halted. -/
  machine : (now.issued slice).machine = now.console.machine
  running : (now.issued slice).machine.isHalted = false
  /-- The moves that are due, and have not been due at the update before, have been made. -/
  moves : (now.issued slice).keypad = (first.script.pending.filter fun move =>
    move.time ≤ Slice.total before + slice.passed ∧
      (before = [] ∨ Slice.total before < move.time)).foldl Move.apply now.console.keypad
  keys : ∀ k, (now.issued slice).keypad.isDown k = true ↔
    Script.Held settings.presses k (Slice.total before + slice.passed)
  /-- A slice that is not the last hands on what its update has left. -/
  goesOn : ¬ now.EndsIn slice → (Session.running now).pass slice =
    ((now.update slice).2.panel.takeOutput.1,
      .running
        { pacer := (now.update slice).1
          console := (now.update slice).2.console
          panel := (now.update slice).2.panel.takeOutput.2
          script := (now.script.apply (now.elapsed + slice.passed) now.console.keypad).1
          elapsed := now.elapsed + slice.passed
          limit := now.limit })
  /-- A fault is reported, also if the limit is reached with it. -/
  fails : ∀ fault, (now.update slice).2.result = .error fault →
    (Session.running now).pass slice =
      ((now.update slice).2.panel.takeOutput.1 ++
          (now.update slice).2.console.machine.registersText ++ "\n" ++
          errorLine "chip8" (Failure.fault fault).message,
        .ended Session.failed)
  succeeds : ∀ report, (now.update slice).2.result = .ok report → now.EndsIn slice →
    (Session.running now).pass slice =
      ((now.update slice).2.panel.takeOutput.1 ++
          (now.update slice).2.console.machine.registersText ++ "\n",
        .ended Session.success)

theorem Underway.brings {settings : Settings} {first now : Run Terminal} {before : List Slice}
    {cues : List Script.Cue} (h : Underway first before now)
    (schedule : Script.Schedule settings.presses cues)
    (pending : first.script.pending = cues.map Prod.fst) (slice : Slice) :
    Brings settings first before now slice where
  limit := h.limit
  elapsed := h.elapsed
  machine := rfl
  running := h.running
  moves := h.issued_keypad
  keys k := by
    rw [Keypad.isDown, h.issued_down]
    exact schedule.isDown_apply_iff pending
  goesOn goesOn := Session.pass_of_goesOn goesOn
  fails fault failed := by
    have outcome : (now.advance slice).1 = .error fault := failed
    rw [Session.pass_of_endsIn (.inl ⟨fault, failed⟩), outcome]
    rfl
  succeeds report done ends := by
    have outcome : (now.advance slice).1 = .ok report := done
    rw [Session.pass_of_endsIn ends, outcome]
    rfl

/-- When a session that runs a program stops, and what it does until then. -/
structure StopsWhenDue (settings : Settings) (first : Run Terminal) : Prop where
  /-- The limit is that of the settings. -/
  limit : settings.runLimit = .ok first.limit
  /-- The script is that of the settings. -/
  script : ∃ cues, Script.Schedule settings.presses cues ∧
    first.script.pending = cues.map Prod.fst
  /-- With a limit of zero, the first slice is the last. -/
  once : first.limit = some 0 → ∀ slice, ∃ code,
    (Session.running first).passAll [slice] = .ended code
  /-- The session goes on until a slice is the last one. -/
  goesOn_iff : ∀ before, (∃ now, (Session.running first).passAll before = .running now) ↔
    ∀ earlier slice rest, before = earlier ++ slice :: rest →
      ∃ now, (Session.running first).passAll earlier = .running now ∧ ¬ now.EndsIn slice
  /-- After the last slice, the session has ended for good. -/
  ended : ∀ before, (¬ ∃ now, (Session.running first).passAll before = .running now) →
    ∃ code, ∀ later, (Session.running first).passAll (before ++ later) = .ended code
  brings : ∀ before now slice, (Session.running first).passAll before = .running now →
    Brings settings first before now slice

/-- **A run stops when it is due to.**  A session that runs a program goes on until a
    slice is the last one, that is, until its update faults or the time that has passed
    comes to the limit of the settings, whichever is first, and has ended from then on.
    While it goes on, each slice is given what the one before has left.  No update is
    given a machine that has halted, and before an update the moves of the script that are
    due by then, and have not been due at the update before, are made in the order of the
    script.  A run that ends reports the fault of its last update, also if this reaches the
    limit, and is a success if there is none. -/
theorem stops_when_due {settings : Settings} {chance : UInt64} {program : List UInt8}
    {first : Run Terminal}
    (started : Run.start settings chance program (.new settings.render) = .ok first) :
    StopsWhenDue settings first := by
  obtain ⟨-, -, limited, scripted⟩ := Run.start_spec started
  obtain ⟨script, cues, made, schedule, pending⟩ :=
    Script.exists_schedule (Script.exists_span_of_ofPresses scripted)
  obtain rfl : script = first.script := by
    rw [scripted] at made
    exact (Except.ok.inj made).symm
  have start := Underway.start started
  refine ⟨limited, ⟨cues, schedule, pending⟩, ?_, Session.running_iff start,
    fun _ => Session.ended_of_not_running start, ?_⟩
  · intro none slice
    have ends : first.EndsIn slice := .inr ⟨0, none, Nat.zero_le _⟩
    obtain ⟨text, code, finished⟩ :=
      Session.exists_finish (first.advance slice).2 (first.advance slice).1
    refine ⟨code, ?_⟩
    rw [Session.passAll, List.foldl_cons, Session.pass_of_endsIn ends, finished]
    rfl
  · intro before now slice goesOn
    exact (Session.underway_of_running start goesOn).brings schedule pending slice

/-- A run of ten seconds at a cycle each nanosecond, in which a key goes down after a
    millisecond and a half. -/
def brief : Settings :=
  { Settings.default with
    machine := { MachineSettings.default with clockFrequency := some 1000000000 }
    runSeconds := some (.ofDecimal false 10 0)
    render := false
    presses := [⟨.ofDecimal false 15 (-4), lastDigit 5, .ofDecimal false 1 0⟩] }

/-- A program that waits for a key and then returns from no call. -/
def waits : List UInt8 := [0xF0, 0x0A, 0x00, 0xEE]

/-- The two moves of the key. -/
def briefMoves : List Move :=
  [⟨1500000, lastDigit 5, true⟩, ⟨1001500000, lastDigit 5, false⟩]

theorem sorted_briefMoves : briefMoves.Pairwise fun a b => a.time ≤ b.time := by decide

/-- The run of the program, before any time has passed. -/
def briefStart : Run Terminal where
  pacer := .eachNanosecond
  console := ⟨Machine.loaded waits (Machine.new 0).random, .idle⟩
  panel := .new false
  script := ⟨briefMoves, sorted_briefMoves⟩
  elapsed := 0
  limit := some 10000000000

theorem start_brief : Run.start brief 0 waits (.new brief.render) = .ok briefStart := by
  have made : brief.presses.mapM Press.moves = .ok [briefMoves] :=
    eq_ok_of_toOption (by decide +kernel)
  have sorted : Script.sortMoves [briefMoves].flatten = briefMoves :=
    List.mergeSort_of_pairwise (by decide)
  have script : Script.ofPresses brief.presses = .ok briefStart.script := by
    simp only [Script.ofPresses, made, ok_bind, sorted]
    rfl
  have limit : brief.runLimit = .ok briefStart.limit := eq_ok_of_toOption (by decide +kernel)
  have loaded : (Machine.new 0).load waits = .ok briefStart.console.machine :=
    Machine.load_eq_ok_iff.2 ⟨by decide, rfl⟩
  have powered : (Console.powerUp brief.machine 0).load waits = .ok briefStart.console := by
    show ((Machine.new 0).load waits >>= _) = _
    rw [loaded]
    rfl
  rw [Run.start, powered, limit, script]
  rfl

/-- The run after a beginning, and two milliseconds in each of which there is one cycle. -/
def briefLast : Run Terminal :=
  ((briefStart.next ⟨0, 0⟩).next ⟨1000000, 1⟩).next ⟨1000000, 1⟩

/-- Slices that are not the last leave a session running. -/
theorem StopsWhenDue.running_next {settings : Settings} {first now : Run Terminal}
    {before : List Slice} {slice : Slice} (h : StopsWhenDue settings first)
    (session : (Session.running first).passAll before = .running now)
    (goesOn : ¬ now.EndsIn slice) :
    (Session.running first).passAll (before ++ [slice]) = .running (now.next slice) := by
  have passed := (h.brings before now slice session).goesOn goesOn
  rw [Session.passAll_concat, session, passed]
  rfl

/-- The run comes to its last slice with the key that it waited for in the first register,
    and reports the fault that it ends with. -/
theorem brief_stops :
    Run.start brief 0 waits (.new brief.render) = .ok briefStart ∧
      (Session.running briefStart).passAll [⟨0, 0⟩, ⟨1000000, 1⟩, ⟨1000000, 1⟩] =
        .running briefLast ∧
      briefLast.console.machine.get 0 = 5 ∧
      (Session.running briefLast).pass ⟨1000000, 1⟩ =
        ((briefLast.update ⟨1000000, 1⟩).2.panel.takeOutput.1 ++
            (briefLast.update ⟨1000000, 1⟩).2.console.machine.registersText ++ "\n" ++
            errorLine "chip8" (Failure.fault .stackUnderflow).message,
          .ended Session.failed) := by
  have stops := stops_when_due start_brief
  have first : ¬ briefStart.EndsIn ⟨0, 0⟩ := by
    refine not_endsIn ?_ rfl (by decide)
    simp only [update, Pacer.update_eq]
    decide +kernel
  have second : ¬ (briefStart.next ⟨0, 0⟩).EndsIn ⟨1000000, 1⟩ := by
    refine not_endsIn ?_ rfl (by decide)
    simp only [next, update, Pacer.update_eq]
    decide +kernel
  have third : ¬ ((briefStart.next ⟨0, 0⟩).next ⟨1000000, 1⟩).EndsIn ⟨1000000, 1⟩ := by
    refine not_endsIn ?_ rfl (by decide)
    simp only [next, update, Pacer.update_eq]
    decide +kernel
  have beginning : (Session.running briefStart).passAll [] = .running briefStart := rfl
  have waiting := stops.running_next (stops.running_next beginning first) second
  have running := stops.running_next waiting third
  have failed : (briefLast.update ⟨1000000, 1⟩).2.result = .error .stackUnderflow := by
    simp only [briefLast, next, update, Pacer.update_eq]
    decide +kernel
  have key : briefLast.console.machine.get 0 = 5 := by
    simp only [briefLast, next, update, Pacer.update_eq]
    decide +kernel
  exact ⟨start_brief, running, key, (stops.brings _ _ ⟨1000000, 1⟩ running).fails _ failed⟩

end Run

end ChipEight
