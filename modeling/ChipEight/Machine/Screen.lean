/-
  Screen — 64 by 32 pixels, lit or dark, on a torus: what leaves one edge
  comes in at the opposite one.

  * a sprite is a list of rows of eight pixels, a byte a row and the leftmost
    pixel in its top bit; `spritePixels` are the pixels it covers;
  * `blit` flips the pixels of a sprite one after the other and tells whether
    any of them was lit when it was flipped;
  * `text` is the picture, a line per row.
-/
namespace ChipEight

/-- The number of pixels of a row. -/
def screenWidth : Nat := 64

/-- The number of rows. -/
def screenHeight : Nat := 32

/-- A position on the screen: column and row. -/
abbrev Pixel := Fin 64 × Fin 32

/-- The position of coordinates on the torus. -/
def Pixel.wrap (x y : Nat) : Pixel := (Fin.ofNat 64 x, Fin.ofNat 32 y)

/-- The place of a pixel, row by row. -/
def Pixel.index (p : Pixel) : Fin 2048 := ⟨p.2.val * 64 + p.1.val, by omega⟩

/-- Different pixels have different places. -/
theorem Pixel.index_inj {p q : Pixel} (h : p.index = q.index) : p = q := by
  have := congrArg Fin.val h
  simp only [Pixel.index] at this
  exact Prod.ext (Fin.ext (by omega)) (Fin.ext (by omega))

/-- A picture, row by row. -/
structure Screen where
  pixels : Vector Bool 2048
deriving DecidableEq

namespace Screen

/-- All pixels are dark. -/
def dark : Screen := ⟨Vector.replicate 2048 false⟩

/-- The pixel is lit. -/
def lit (s : Screen) (p : Pixel) : Bool := s.pixels[Pixel.index p]

/-- Flip a pixel. -/
def toggle (s : Screen) (p : Pixel) : Screen :=
  ⟨s.pixels.set (Pixel.index p).val (!s.lit p) (Pixel.index p).isLt⟩

/-- The number of lit pixels. -/
def litCount (s : Screen) : Nat := s.pixels.toList.countP id

/-- The pixels of a row of a sprite that starts at column `x` of row `y`. -/
def rowPixels (x y : Nat) (row : UInt8) : List Pixel :=
  (List.range 8).filterMap fun c =>
    if row.toNat.testBit (7 - c) then some (Pixel.wrap (x + c) y) else none

/-- The pixels of a sprite whose top left corner is at column `x` of row `y`,
    in reading order; a pixel that a tall sprite comes round to occurs again. -/
def spritePixels (x y : Nat) : List UInt8 → List Pixel
  | [] => []
  | row :: rest => rowPixels x y row ++ spritePixels x (y + 1) rest

/-- Flip pixels one after the other.  The answer tells whether one of them was
    lit when its turn came, or whether `erased` was set before. -/
def toggleAll (s : Screen) (erased : Bool) : List Pixel → Screen × Bool
  | [] => (s, erased)
  | p :: rest =>
    let hit := s.lit p
    toggleAll (s.toggle p) (erased || hit) rest

/-- Draw a sprite by flipping its pixels, and tell whether it put out a lit
    pixel. -/
def blit (s : Screen) (x y : Nat) (sprite : List UInt8) : Screen × Bool :=
  s.toggleAll false (spritePixels x y sprite)

/-- The pixels of a row, from left to right. -/
def row (s : Screen) (y : Fin 32) : List Bool :=
  (List.finRange 64).map fun x => s.lit (x, y)

/-- The picture as text: a line per row, `#` for a lit pixel and `.` for a dark
    one. -/
def text (s : Screen) : String :=
  String.join ((List.finRange 32).map fun y =>
    String.ofList ((s.row y).map fun pixel => if pixel then '#' else '.') ++ "\n")

/-! ## Pixels after a flip -/

theorem lit_toggle (s : Screen) (p q : Pixel) :
    (s.toggle p).lit q = if p = q then !s.lit q else s.lit q := by
  by_cases h : p = q
  · subst h; simp [lit, toggle]
  · have : (Pixel.index p).val ≠ (Pixel.index q).val :=
      fun e => h (Pixel.index_inj (Fin.ext e))
    simp [lit, toggle, h, Vector.getElem_set_ne, this]

end Screen

end ChipEight
