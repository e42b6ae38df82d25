/-
  Frames — the pictures that a printer prints.

  A printer stands on a desk beside a keypad.  It compares a picture with the last one
  that it was to print, and yet it prints a picture exactly if it differs from the one
  drawn just before: a picture that it skips is the one it remembers (`shown_display`).

  * `Desk.drawings` are the pictures that a history draws, each with the keypad at that
    time, and `fresh` are those that differ from the picture before;
  * `Printer.frames_showAll`, `output_showAll`: the fresh ones are counted and printed,
    as the frames of a printout;
  * `Desk.Suffers`: the paper may jam, be freed and lose text at any time, and what the
    printer counts and remembers is the same (`Suffers.after`);
  * `Desk.frames_numbered` puts these together for every history.
-/
import ChipEight.Proofs.Machine.Turns
import ChipEight.Proofs.Panel.Printout

namespace ChipEight

/-- A picture with the keypad at the time when it is drawn. -/
structure Drawing where
  keypad : Keypad
  picture : Screen

/-- The drawings whose picture differs from the one just before, or from `last` for the
    first one. -/
def fresh (last : Option Screen) : List Drawing → List Drawing
  | [] => []
  | g :: later => (if last = some g.picture then [] else [g]) ++ fresh (some g.picture) later

/-- The frames of drawings, numbered from `first` on, with the keys that are down. -/
def framesFrom (first : Nat) (drawings : List Drawing) : List Frame :=
  (drawings.zipIdx first).map fun (g, number) =>
    ⟨number, (List.finRange 16).filter g.keypad.isDown, g.picture⟩

theorem length_framesFrom (first : Nat) (drawings : List Drawing) :
    (framesFrom first drawings).length = drawings.length := by
  simp [framesFrom]

/-! ## Printers -/

namespace Printer

variable {p : Printer} {keypad : Keypad} {picture : Screen}

theorem display_of_off (off : p.renders = false) : p.display keypad picture = p :=
  if_pos (.inl off)

theorem display_of_same (same : p.shown = some picture) : p.display keypad picture = p :=
  if_pos (.inr same)

theorem display_of_new (renders : p.renders = true) (new : p.shown ≠ some picture) :
    p.display keypad picture =
      { p.print (frameText (p.frames + 1) keypad picture) with
        shown := some picture, frames := p.frames + 1 } :=
  if_neg (by simp [renders, new])

theorem renders_print (p : Printer) (text : String) : (p.print text).renders = p.renders := by
  unfold print
  split <;> rfl

theorem jammed_print (p : Printer) (text : String) : (p.print text).jammed = p.jammed := by
  unfold print
  split <;> rfl

theorem renders_display : (p.display keypad picture).renders = p.renders := by
  unfold display
  split
  · rfl
  · exact renders_print _ _

theorem jammed_display : (p.display keypad picture).jammed = p.jammed := by
  unfold display
  split
  · rfl
  · exact jammed_print _ _

/-- **The picture is remembered**, whether it is printed or skipped. -/
theorem shown_display (renders : p.renders = true) :
    (p.display keypad picture).shown = some picture := by
  by_cases same : p.shown = some picture
  · rw [display_of_same same, same]
  · rw [display_of_new renders same]

/-- The printer after drawings. -/
def showAll (p : Printer) (drawings : List Drawing) : Printer :=
  drawings.foldl (fun p g => p.display g.keypad g.picture) p

theorem showAll_cons (p : Printer) (g : Drawing) (later : List Drawing) :
    p.showAll (g :: later) = (p.display g.keypad g.picture).showAll later := rfl

theorem showAll_of_off (off : p.renders = false) (drawings : List Drawing) :
    p.showAll drawings = p := by
  induction drawings with
  | nil => rfl
  | cons g later ih => rw [showAll_cons, display_of_off off, ih]

theorem jammed_showAll (drawings : List Drawing) : (p.showAll drawings).jammed = p.jammed := by
  induction drawings generalizing p with
  | nil => rfl
  | cons g later ih => rw [showAll_cons, ih, jammed_display]

/-- **Fresh drawings are counted.** -/
theorem frames_showAll (renders : p.renders = true) (drawings : List Drawing) :
    (p.showAll drawings).frames = p.frames + (fresh p.shown drawings).length := by
  induction drawings generalizing p with
  | nil => rfl
  | cons g later ih =>
    rw [showAll_cons, ih (renders_display.trans renders), shown_display renders, fresh]
    by_cases same : p.shown = some g.picture
    · rw [display_of_same same, if_pos same, List.nil_append]
    · rw [display_of_new renders same, if_neg same, List.singleton_append, List.length_cons]
      exact Nat.succ_add_eq_add_succ _ _

/-- **Fresh drawings are printed**, each under its number. -/
theorem output_showAll (renders : p.renders = true) (prints : p.jammed = false)
    (drawings : List Drawing) :
    (p.showAll drawings).output =
      p.output ++ Frame.printout (framesFrom (p.frames + 1) (fresh p.shown drawings)) := by
  induction drawings generalizing p with
  | nil => exact String.append_empty.symm
  | cons g later ih =>
    rw [showAll_cons, ih (renders_display.trans renders) (jammed_display.trans prints),
      shown_display renders, fresh]
    by_cases same : p.shown = some g.picture
    · rw [display_of_same same, if_pos same, List.nil_append]
    · have next : framesFrom (p.frames + 1) (g :: fresh (some g.picture) later) =
          ⟨p.frames + 1, (List.finRange 16).filter g.keypad.isDown, g.picture⟩ ::
            framesFrom (p.frames + 2) (fresh (some g.picture) later) := rfl
      rw [display_of_new renders same, if_neg same, List.singleton_append, next,
        Frame.printout_cons, ← Frame.frameText_eq, ← String.append_assoc]
      simp [print, prints]

/-- Nothing is printed on a jammed printer. -/
theorem output_showAll_of_jammed (jammed : p.jammed = true) (drawings : List Drawing) :
    (p.showAll drawings).output = p.output := by
  induction drawings generalizing p with
  | nil => rfl
  | cons g later ih =>
    rw [showAll_cons, ih (jammed_display.trans jammed)]
    unfold display
    split
    · rfl
    · simp [print, jammed]

/-- The printers differ in nothing but their paper: in whether it is jammed, and in what
    is printed on it. -/
structure SameButPaper (p q : Printer) : Prop where
  renders : q.renders = p.renders
  shown : q.shown = p.shown
  frames : q.frames = p.frames

namespace SameButPaper
variable {q r : Printer}

theorem trans (h : p.SameButPaper q) (h' : q.SameButPaper r) : p.SameButPaper r :=
  ⟨h'.renders.trans h.renders, h'.shown.trans h.shown, h'.frames.trans h.frames⟩

theorem eq (h : p.SameButPaper q) : q = { p with jammed := q.jammed, output := q.output } := by
  obtain ⟨renders, shown, frames⟩ := h
  rw [← renders, ← shown, ← frames]

theorem display (h : p.SameButPaper q) :
    (p.display keypad picture).SameButPaper (q.display keypad picture) := by
  by_cases skips : p.renders = false ∨ p.shown = some picture
  · have skips' : q.renders = false ∨ q.shown = some picture := by rwa [h.renders, h.shown]
    rw [Printer.display, if_pos skips, Printer.display, if_pos skips']
    exact h
  · obtain ⟨on, new⟩ := not_or.1 skips
    rw [Bool.not_eq_false] at on
    have new' : q.shown ≠ some picture := by rwa [h.shown]
    rw [display_of_new on new, display_of_new (h.renders.trans on) new']
    refine ⟨?_, rfl, congrArg (· + 1) h.frames⟩
    exact (renders_print _ _).trans (h.renders.trans (renders_print _ _).symm)

end SameButPaper

end Printer

/-! ## Desks -/

/-- A printer with a keypad beside it. -/
structure Desk where
  printer : Printer
  keypad : Keypad

namespace Desk

/-- What happens at a desk. -/
inductive Use where
  /-- The printer receives a signal. -/
  | signal (signal : Signal)
  /-- The keypad is used. -/
  | keys (use : Keypad.Use)

/-- The desk after a use. -/
def take (d : Desk) : Use → Desk
  | .signal signal => { d with printer := Panel.receive d.keypad signal d.printer }
  | .keys use => { d with keypad := (d.keypad.use use).2 }

/-- The desk after a history of uses. -/
def after (d : Desk) (history : List Use) : Desk := history.foldl take d

/-- The drawings of a history, from a keypad on. -/
def drawings : Keypad → List Use → List Drawing
  | _, [] => []
  | keypad, .signal (.draw picture) :: later => ⟨keypad, picture⟩ :: drawings keypad later
  | keypad, .signal _ :: later => drawings keypad later
  | keypad, .keys use :: later => drawings (keypad.use use).2 later

/-- **The printer** is left as drawings leave it. -/
theorem printer_after (d : Desk) (history : List Use) :
    (d.after history).printer = d.printer.showAll (drawings d.keypad history) := by
  induction history generalizing d with
  | nil => rfl
  | cons use later ih =>
    refine (ih (d.take use)).trans ?_
    cases use with
    | signal signal => cases signal <;> rfl
    | keys use => rfl

/-- Where a history can lead if, after each use, the paper may have jammed or been freed,
    and lost some or all of what is printed on it. -/
inductive Suffers : Desk → List Use → Desk → Prop
  | nil (d : Desk) : Suffers d [] d
  | cons {d next last : Desk} {use : Use} {later : List Use}
      (paper : (d.take use).printer.SameButPaper next.printer)
      (keypad : next.keypad = (d.take use).keypad) (rest : Suffers next later last) :
      Suffers d (use :: later) last

theorem sameButPaper_take {d e : Desk} (paper : d.printer.SameButPaper e.printer)
    (keypad : e.keypad = d.keypad) (use : Use) :
    (d.take use).printer.SameButPaper (e.take use).printer ∧
      (e.take use).keypad = (d.take use).keypad := by
  cases use with
  | signal signal =>
    refine ⟨?_, keypad⟩
    simp only [take, keypad]
    cases signal with
    | draw picture => exact paper.display
    | clear | buzz | halt => exact paper
  | keys use => exact ⟨paper, by rw [take, take, keypad]⟩

/-- The paper of a desk need not suffer. -/
theorem suffers_after (d : Desk) (history : List Use) : d.Suffers history (d.after history) := by
  induction history generalizing d with
  | nil => exact .nil d
  | cons use later ih => exact .cons ⟨rfl, rfl, rfl⟩ rfl (ih (d.take use))

/-- **Lost paper** does not change what the printer counts and remembers. -/
theorem Suffers.after {d e last : Desk} {history : List Use} (h : e.Suffers history last)
    (paper : d.printer.SameButPaper e.printer) (keypad : e.keypad = d.keypad) :
    (d.after history).printer.SameButPaper last.printer := by
  induction h generalizing d with
  | nil => exact paper
  | @cons e next last use later lost same rest ih =>
    obtain ⟨printer, keys⟩ := sameButPaper_take paper keypad use
    exact ih (printer.trans lost) (same.trans keys)

/-- **Frames are numbered as they are drawn.**  Take any history of signals and of uses of
    the keypad.  A printer that renders prints the first drawing and each one that differs
    from the drawing just before, and no others, with the numbers 1, 2, 3 and so on, and
    it counts them.  Of each, it prints the number, the keys that are down at that time,
    and the picture, all of which are read back from what it has printed.  A printer that is
    jammed from the start prints nothing, and if paper jams, is freed or loses text at any
    time, the printer counts and remembers the same.  One that does not render neither
    prints nor counts. -/
theorem frames_numbered (keypad : Keypad) (history : List Use) :
    let frames := framesFrom 1 (fresh none (drawings keypad history))
    let desk := (Desk.mk (.new true) keypad).after history
    ConsistsOf desk.printer.output (frames.flatMap Frame.lines) ∧
      Frame.readFrames? desk.printer.output = some frames ∧
      desk.printer.frames = frames.length ∧
      ((Desk.mk (.newJammed true) keypad).after history).printer =
        { desk.printer with jammed := true, output := "" } ∧
      (∀ jammed output last,
        (Desk.mk { Printer.new true with jammed, output } keypad).Suffers history last →
          last.printer.frames = frames.length ∧ last.printer.shown = desk.printer.shown) ∧
      ∀ p : Printer, p.renders = false → ((Desk.mk p keypad).after history).printer = p := by
  intro frames desk
  have shows : desk.printer = (Printer.new true).showAll (drawings keypad history) :=
    printer_after _ _
  have prints : desk.printer.output = Frame.printout frames := by
    rw [shows, Printer.output_showAll rfl rfl]
    exact String.empty_append
  have counts : desk.printer.frames = frames.length := by
    rw [shows, Printer.frames_showAll rfl, length_framesFrom]
    exact Nat.zero_add _
  refine ⟨?_, ?_, counts, ?_, ?_, ?_⟩
  · rw [prints]
    exact Frame.consistsOf_printout frames
  · rw [prints]
    exact Frame.readFrames?_printout frames
  · have same := (suffers_after ⟨.newJammed true, keypad⟩ history).after
      (d := ⟨.new true, keypad⟩) ⟨rfl, rfl, rfl⟩ rfl
    have jams : ((Desk.mk (.newJammed true) keypad).after history).printer =
        (Printer.newJammed true).showAll (drawings keypad history) := printer_after _ _
    rw [same.eq]
    congr 1
    · rw [jams]
      exact Printer.jammed_showAll _
    · rw [jams]
      exact Printer.output_showAll_of_jammed rfl _
  · intro jammed output last lost
    have same := lost.after (d := ⟨.new true, keypad⟩) ⟨rfl, rfl, rfl⟩ rfl
    exact ⟨same.frames.trans counts, same.shown⟩
  · intro p off
    rw [printer_after]
    exact Printer.showAll_of_off off _

/-- A picture with nothing but its first pixel lit. -/
def dot : Screen := Screen.dark.toggle (Pixel.wrap 0 0)

theorem dark_ne_dot : Screen.dark ≠ dot := by
  intro same
  have flipped := congrArg (·.lit (Pixel.wrap 0 0)) same
  simp only [dot] at flipped
  rw [Screen.lit_toggle, if_pos rfl] at flipped
  simp at flipped

/-- Two pictures, the first of them drawn twice, and a key pressed between them. -/
def twoPictures : List Use :=
  [.signal (.draw .dark), .signal (.draw .dark), .keys (.set (lastDigit 5) true),
    .signal (.draw dot)]

theorem frames_twoPictures :
    framesFrom 1 (fresh none (drawings .idle twoPictures)) =
      [⟨1, [], .dark⟩, ⟨2, [lastDigit 5], dot⟩] := by
  have down : (List.finRange 16).filter (Keypad.idle.set (lastDigit 5) true).isDown =
      [lastDigit 5] := by decide
  have up : (List.finRange 16).filter Keypad.idle.isDown = [] := by decide
  simp [twoPictures, drawings, fresh, framesFrom, dark_ne_dot, Keypad.use, down, up]

/-- Both pictures are printed.  If the paper jams after the first one, this is all that is
    printed, and the second is counted. -/
theorem jam_counted :
    Frame.readFrames? ((Desk.mk (.new true) .idle).after twoPictures).printer.output =
        some [⟨1, [], .dark⟩, ⟨2, [lastDigit 5], dot⟩] ∧
      ∃ last : Desk, (Desk.mk (.new true) .idle).Suffers twoPictures last ∧
        Frame.readFrames? last.printer.output = some [⟨1, [], .dark⟩] ∧
        last.printer.frames = 2 := by
  let first := (Desk.mk (.new true) .idle).after [.signal (.draw .dark)]
  let jams : Desk := ⟨{ first.printer with jammed := true }, .idle⟩
  have suffers : (Desk.mk (.new true) .idle).Suffers twoPictures (jams.after twoPictures.tail) := by
    refine .cons ?_ ?_ (suffers_after jams twoPictures.tail)
    · exact ⟨rfl, rfl, rfl⟩
    · rfl
  obtain ⟨-, read, -, -, counts, -⟩ := frames_numbered .idle twoPictures
  rw [frames_twoPictures] at read counts
  refine ⟨read, _, suffers, ?_, (counts false "" _ suffers).1⟩
  obtain ⟨-, readFirst, -⟩ := frames_numbered .idle [.signal (.draw .dark)]
  rw [printer_after, Printer.output_showAll_of_jammed rfl]
  exact readFirst

end Desk

end ChipEight
