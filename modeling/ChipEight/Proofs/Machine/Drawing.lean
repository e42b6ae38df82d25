/-
  Drawing — what a sprite does to the picture, pixel by pixel.

  * `hits` counts the set bits of a sprite that fall on a pixel; a tall sprite comes
    round to the same pixels again, one that is no taller than the screen does not
    (`hits_le_one`).  The pixels of a sprite are those hit, each as often as it is
    (`count_spritePixels`);
  * `lit_toggleAll`, `toggleAll_erased_iff`: pixels that are flipped one after the other
    are flipped as often as they occur, and one is put out if it occurs twice, or if it
    occurs and was lit;
  * `blit_exact` says so of a sprite and of the instruction that draws one, and
    `blit_undone` that sprites may be drawn in any order, and are undone by drawing them
    again.
-/
import Mathlib.Algebra.BigOperators.Group.Finset.Piecewise
import Mathlib.Algebra.BigOperators.Group.Finset.Sigma
import Mathlib.Data.Nat.Bits
import ChipEight.Proofs.Machine.Course

namespace ChipEight

theorem Pixel.wrap_eq_iff {x y : Nat} {p : Pixel} :
    Pixel.wrap x y = p ↔ p.1.val = x % 64 ∧ p.2.val = y % 32 := by
  rw [Prod.ext_iff, Fin.ext_iff, Fin.ext_iff]
  exact and_congr eq_comm eq_comm

namespace Screen

/-! ## The bits of a sprite -/

/-- The set bits of a sprite, by their rows and columns; the leftmost column has the top
    bit of each row. -/
def setBits (sprite : List UInt8) : Finset (Nat × Nat) :=
  (Finset.range sprite.length ×ˢ Finset.range 8).filter fun bit =>
    (sprite.getD bit.1 0).toNat.testBit (7 - bit.2)

/-- The number of set bits that fall on a pixel, when the top left corner of the sprite is
    at column `x` of row `y`. -/
def hits (x y : Nat) (sprite : List UInt8) (p : Pixel) : Nat :=
  ((setBits sprite).filter fun bit =>
    p.1.val = (x + bit.2) % 64 ∧ p.2.val = (y + bit.1) % 32).card

/-- What occurs among the images of the first numbers. -/
theorem count_filterMap_range (f : Nat → Option Pixel) (p : Pixel) (n : Nat) :
    ((List.range n).filterMap f).count p = ∑ c ∈ Finset.range n, if f c = some p then 1 else 0 := by
  induction n with
  | zero => rfl
  | succ n ih =>
    rw [List.range_succ, List.filterMap_append, List.count_append, ih, Finset.sum_range_succ]
    congr 1
    rcases h : f n with _ | q
    · simp [h]
    · simp [h, List.count_singleton]

/-- The hits, row by row and column by column. -/
theorem hits_eq_sum (x y : Nat) (sprite : List UInt8) (p : Pixel) :
    hits x y sprite p = ∑ r ∈ Finset.range sprite.length, ∑ c ∈ Finset.range 8,
      if (sprite.getD r 0).toNat.testBit (7 - c) = true ∧
        (p.1.val = (x + c) % 64 ∧ p.2.val = (y + r) % 32) then 1 else 0 := by
  rw [hits, setBits, Finset.filter_filter, Finset.card_filter, Finset.sum_product]

theorem count_rowPixels (x y : Nat) (row : UInt8) (p : Pixel) :
    (rowPixels x y row).count p = ∑ c ∈ Finset.range 8,
      if row.toNat.testBit (7 - c) = true ∧ (p.1.val = (x + c) % 64 ∧ p.2.val = y % 32)
      then 1 else 0 := by
  rw [rowPixels, count_filterMap_range]
  refine Finset.sum_congr rfl fun c _ => ?_
  refine if_congr ?_ rfl rfl
  rw [← Pixel.wrap_eq_iff]
  split <;> simp [*]

/-- **The pixels of a sprite** are those that are hit, each as often as it is. -/
theorem count_spritePixels (x y : Nat) (sprite : List UInt8) (p : Pixel) :
    (spritePixels x y sprite).count p = hits x y sprite p := by
  induction sprite generalizing y with
  | nil => rfl
  | cons row rest ih =>
    -- the rows below are those of a sprite that starts a row further down
    rw [spritePixels, List.count_append, count_rowPixels, ih, hits_eq_sum,
      hits_eq_sum x y (row :: rest), List.length_cons,
      Finset.sum_range_succ' _ rest.length, Nat.add_comm]
    simp only [List.getD_cons_succ, List.getD_cons_zero, Nat.add_zero, Nat.add_assoc,
      Nat.add_comm 1]

/-- **A sprite that is no taller than the screen** hits no pixel twice. -/
theorem hits_le_one {sprite : List UInt8} (fits : sprite.length ≤ screenHeight) (x y : Nat)
    (p : Pixel) : hits x y sprite p ≤ 1 := by
  rw [hits, Finset.card_le_one]
  rintro ⟨r, c⟩ first ⟨r', c'⟩ second
  simp only [setBits, Finset.mem_filter, Finset.mem_product, Finset.mem_range] at first second
  obtain ⟨⟨⟨row, column⟩, -⟩, here, there⟩ := first
  obtain ⟨⟨⟨row', column'⟩, -⟩, here', there'⟩ := second
  rw [screenHeight] at fits
  rw [Prod.mk.injEq]
  omega

/-! ## Flipping pixels -/

/-- Pictures with the same pixels are the same. -/
theorem ext_lit {s t : Screen} (h : ∀ p, s.lit p = t.lit p) : s = t := by
  obtain ⟨pixels⟩ := s
  obtain ⟨pixels'⟩ := t
  congr 1
  refine Vector.ext fun i inside => ?_
  have pixel := h (⟨i % 64, by omega⟩, ⟨i / 64, by omega⟩)
  have place : i / 64 * 64 + i % 64 = i := by omega
  simpa [lit, Pixel.index, place] using pixel

/-- **Pixels are flipped as often as they occur.** -/
theorem lit_toggleAll (s : Screen) (erased : Bool) (ps : List Pixel) (p : Pixel) :
    (s.toggleAll erased ps).1.lit p = (s.lit p ^^ (ps.count p).bodd) := by
  induction ps generalizing s erased with
  | nil => simp [toggleAll]
  | cons q ps ih =>
    rw [toggleAll, ih, lit_toggle]
    by_cases same : q = p
    · rw [if_pos same, same, List.count_cons_self, Nat.bodd_succ, Bool.not_xor, Bool.xor_not]
    · rw [if_neg same, List.count_cons_of_ne same]

/-- **A pixel is put out** if it occurs twice, or if it occurs and was lit. -/
theorem toggleAll_erased_iff (s : Screen) (erased : Bool) (ps : List Pixel) :
    (s.toggleAll erased ps).2 = true ↔
      erased = true ∨ ∃ p, 2 ≤ ps.count p + (s.lit p).toNat := by
  induction ps generalizing s erased with
  | nil =>
    have none (p : Pixel) : ¬ 2 ≤ (s.lit p).toNat := by
      have := (s.lit p).toNat_le
      omega
    simp [toggleAll, none]
  | cons q ps ih =>
    rw [toggleAll, ih, Bool.or_eq_true, or_assoc]
    refine or_congr_right ?_
    have own : s.lit q = true ∨ 2 ≤ ps.count q + ((s.toggle q).lit q).toNat ↔
        2 ≤ (q :: ps).count q + (s.lit q).toNat := by
      rw [lit_toggle, if_pos rfl, List.count_cons_self]
      cases s.lit q <;> simp
    have other {p : Pixel} (differs : q ≠ p) :
        2 ≤ ps.count p + ((s.toggle q).lit p).toNat ↔ 2 ≤ (q :: ps).count p + (s.lit p).toNat := by
      rw [lit_toggle, if_neg differs, List.count_cons_of_ne differs]
    constructor
    · rintro (lit | ⟨p, enough⟩)
      · exact ⟨q, own.1 (.inl lit)⟩
      · by_cases same : q = p
        · subst same
          exact ⟨q, own.1 (.inr enough)⟩
        · exact ⟨p, (other same).1 enough⟩
    · rintro ⟨p, enough⟩
      by_cases same : q = p
      · subst same
        exact (own.2 enough).imp_right fun again => ⟨q, again⟩
      · exact .inr ⟨p, (other same).2 enough⟩

variable (s : Screen) (x y : Nat) (sprite : List UInt8)

/-- **A sprite flips each pixel** as often as it hits it. -/
theorem lit_blit (p : Pixel) :
    (s.blit x y sprite).1.lit p = (s.lit p ^^ (hits x y sprite p).bodd) := by
  rw [blit, lit_toggleAll, count_spritePixels]

theorem blit_erased_iff :
    (s.blit x y sprite).2 = true ↔ ∃ p, 2 ≤ hits x y sprite p + (s.lit p).toNat := by
  rw [blit, toggleAll_erased_iff]
  simp only [Bool.false_eq_true, false_or, count_spritePixels]

variable {sprite}

/-- A sprite that hits no pixel twice puts out the lit pixels that it hits. -/
theorem blit_erased_iff_of_le (fits : sprite.length ≤ screenHeight) :
    (s.blit x y sprite).2 = true ↔ ∃ p, 0 < hits x y sprite p ∧ s.lit p = true := by
  rw [blit_erased_iff]
  refine exists_congr fun p => ?_
  have once := hits_le_one fits x y p
  cases s.lit p <;> simp <;> omega

end Screen

/-! ## The instruction -/

/-- **Drawing** reads the sprite at the index register, and flips its pixels before it
    writes the flag. -/
theorem Instruction.execute_draw {c : Console} {x y : Register} {rows : Fin 16}
    (inside : c.machine.registers.i.toNat + rows.val ≤ memorySize) :
    let sprite := c.machine.memory.slice c.machine.registers.i.toNat rows.val
    let drawn := c.machine.screen.blit (c.machine.get x).toNat (c.machine.get y).toNat sprite
    (draw x y rows).execute.on c =
      (.ok .drew, c.mapMachine fun m =>
        { m with screen := drawn.1, registers := m.registers.setFlag drawn.2 }) := by
  rw [execute, Console.theMachine_bind, Memory.readRange_of_le inside]
  rfl

/-- The step that draws a sprite. -/
theorem Console.step_draw {c : Console} {word : Word} (running : c.machine.status = .running)
    (fetch : c.machine.fetch = .ok word) (group : word.group.val = 0xD)
    (inside : c.machine.registers.i.toNat + word.nibble.val ≤ memorySize) :
    let sprite := c.machine.memory.slice c.machine.registers.i.toNat word.nibble.val
    let drawn :=
      c.machine.screen.blit (c.machine.get word.x).toNat (c.machine.get word.y).toNat sprite
    ∃ after, c.step = (.ok .drew, after) ∧ after.machine.screen = drawn.1 ∧
      after.machine.get flagRegister = if drawn.2 then 1 else 0 := by
  intro sprite drawn
  obtain ⟨-, found⟩ := upcoming_eq_some.1 (upcoming_of_standsFor running fetch (.draw group))
  have execute := Instruction.execute_draw (c := c.advance) (x := word.x) (y := word.y) inside
  refine ⟨_, (StepsTo.executes running found execute).step_eq, rfl, ?_⟩
  exact (Registers.get_set _ _ _ _).trans (if_pos rfl)

open Screen (hits) in
/-- **Drawing is exact.**  A sprite flips each pixel as often as its set bits fall on it,
    and it puts out a pixel if some pixel is hit twice, or is hit and was lit.  The
    instruction that draws takes the sprite and its place from memory and registers as
    they were before, `VF` among them; and as its sprites hit no pixel twice, it sets
    `VF` to one if a set bit falls on a lit pixel, and to zero otherwise. -/
theorem Screen.blit_exact :
    (∀ (s : Screen) (x y : Nat) (sprite : List UInt8),
      (∀ p, (s.blit x y sprite).1.lit p = (s.lit p ^^ (hits x y sprite p).bodd)) ∧
        ((s.blit x y sprite).2 = true ↔ ∃ p, 2 ≤ hits x y sprite p + (s.lit p).toNat)) ∧
    ∀ (c : Console) (word : Word), c.machine.status = .running → c.machine.fetch = .ok word →
      word.group.val = 0xD →
      c.machine.registers.i.toNat + word.nibble.val ≤ memorySize →
      let sprite := c.machine.memory.slice c.machine.registers.i.toNat word.nibble.val
      let x := (c.machine.get word.x).toNat
      let y := (c.machine.get word.y).toNat
      ∃ after, c.step = (.ok .drew, after) ∧
        (∀ p, after.machine.screen.lit p = (c.machine.screen.lit p ^^ (hits x y sprite p).bodd)) ∧
        (after.machine.get flagRegister = 0 ∨ after.machine.get flagRegister = 1) ∧
        (after.machine.get flagRegister = 1 ↔
          ∃ p, 0 < hits x y sprite p ∧ c.machine.screen.lit p = true) := by
  refine ⟨fun s x y sprite => ⟨s.lit_blit x y sprite, s.blit_erased_iff x y sprite⟩, ?_⟩
  intro c word running fetch group inside sprite x y
  obtain ⟨after, step, picture, flag⟩ := Console.step_draw running fetch group inside
  have length : sprite.length ≤ screenHeight := by
    rw [Memory.length_slice, screenHeight]
    omega
  have erased := c.machine.screen.blit_erased_iff_of_le x y length
  refine ⟨after, step, ?_, ?_, ?_⟩
  · intro p
    rw [picture]
    exact c.machine.screen.lit_blit x y sprite p
  · rw [flag]
    split
    · exact .inr rfl
    · exact .inl rfl
  · rw [flag, ← erased]
    split
    · next lit => simp [x, y, sprite, lit]
    · next dark => simp [x, y, sprite, dark]

/-- A program that draws two rows at `VF`, `VF`, where one pixel is lit beyond the edge. -/
def drawsAtFlag : Console :=
  ⟨{ Machine.new 0 with
      registers := { Registers.initial with v := Vector.replicate 16 62, i := 514 }
      memory := Memory.zeros.overwrite programStart [0xDF, 0xF2, 0xF0, 0x80]
      screen := Screen.dark.toggle (Pixel.wrap 64 30) }, .idle⟩

/-- The flag register is read before the flag is written. -/
theorem Screen.drawsAtFlag_erases :
    ∃ after, drawsAtFlag.step = (.ok .drew, after) ∧
      after.machine.screen.lit (Pixel.wrap 64 30) = false ∧
      after.machine.screen.lit (Pixel.wrap 62 31) = true ∧
      after.machine.get flagRegister = 1 := by
  have word : Word.ofBytes (drawsAtFlag.machine.memory.byte 512)
      (drawsAtFlag.machine.memory.byte 513) = 0xDFF2 := by decide +kernel
  have fetch : drawsAtFlag.machine.fetch = .ok 0xDFF2 := by
    rw [← word]
    exact Machine.fetch_of_lt (by decide)
  obtain ⟨after, step, picture, -, flag⟩ :=
    blit_exact.2 drawsAtFlag 0xDFF2 rfl fetch rfl (by decide)
  refine ⟨after, step, ?_, ?_, ?_⟩
  · rw [picture]
    decide +kernel
  · rw [picture]
    decide +kernel
  · rw [flag]
    exact ⟨Pixel.wrap 64 30, by decide +kernel⟩

/-! ## Order -/

/-- **Sprites may be drawn in any order**, and drawing one again where it was drawn undoes
    it.  If the sprite is no taller than the screen, this puts out a lit pixel exactly if
    the sprite covers one that was dark at first. -/
theorem Screen.blit_undone (s : Screen) (x y u v : Nat) (a b : List UInt8) :
    ((s.blit x y a).1.blit u v b).1 = ((s.blit u v b).1.blit x y a).1 ∧
      ((s.blit x y a).1.blit x y a).1 = s ∧
      (a.length ≤ screenHeight → (((s.blit x y a).1.blit x y a).2 = true ↔
        ∃ p, 0 < hits x y a p ∧ s.lit p = false)) := by
  refine ⟨ext_lit fun p => ?_, ext_lit fun p => ?_, fun fits => ?_⟩
  · simp only [lit_blit]
    exact Bool.xor_right_comm _ _ _
  · simp only [lit_blit]
    rw [Bool.xor_assoc, Bool.xor_self, Bool.xor_false]
  · rw [blit_erased_iff_of_le _ x y fits]
    refine exists_congr fun p => and_congr_right fun hit => ?_
    -- the pixel is hit once, so the first drawing has flipped it
    have once : hits x y a p = 1 := Nat.le_antisymm (hits_le_one fits x y p) hit
    rw [lit_blit, once, Nat.bodd_one, Bool.xor_true, Bool.not_eq_true']

/-- A sprite that goes over two edges is undone, and puts out what it had lit. -/
theorem Screen.corner_undone :
    [(0xC0 : UInt8), 0xC0].length ≤ screenHeight ∧
      ((dark.blit 63 31 [0xC0, 0xC0]).1.blit 63 31 [0xC0, 0xC0]).2 = true := by
  have fits : [(0xC0 : UInt8), 0xC0].length ≤ screenHeight := by decide
  obtain ⟨-, -, erases⟩ := blit_undone dark 63 31 0 0 [0xC0, 0xC0] []
  refine ⟨fits, (erases fits).2 ⟨Pixel.wrap 64 32, ?_⟩⟩
  decide +kernel

end ChipEight
