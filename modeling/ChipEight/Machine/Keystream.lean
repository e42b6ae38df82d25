/-
  Keystream — the stream of random bytes, a function of the seed.

  The seed is stretched to a key of eight words by a multiplicative generator
  whose outputs are permuted.  The key is enciphered with a block counter by
  six double rounds of a ChaCha cipher, and the words of the blocks, in order,
  are the stream.  `word seed n` is its `n`th word; a `Keystream` remembers the
  seed and how many words have been drawn, and each draw yields the low byte
  of the next word.
-/
namespace ChipEight

/-- A position in the stream of a seed. -/
structure Keystream where
  seed : UInt64
  /-- The number of words drawn so far. -/
  drawn : Nat
deriving DecidableEq

namespace Keystream

/-- The beginning of the stream of a seed. -/
def ofSeed (seed : UInt64) : Keystream := ⟨seed, 0⟩

/-! ## The key of a seed -/

/-- The state after one step of the generator that stretches the seed. -/
def stretch (state : UInt64) : UInt64 := state * 6364136223846793005 + 11634580027462260723

/-- Rotate a word to the right. -/
def rotateRight (word count : UInt32) : UInt32 :=
  word >>> count ||| word <<< ((32 - count) % 32)

/-- The key word of a state of the generator. -/
def keyWord (state : UInt64) : UInt32 :=
  rotateRight (((state >>> 18) ^^^ state) >>> 27).toUInt32 (state >>> 59).toUInt32

/-- The first `n` key words after a state. -/
def keyWords : Nat → UInt64 → List UInt32
  | 0, _ => []
  | n + 1, state => keyWord (stretch state) :: keyWords n (stretch state)

/-! ## The cipher -/

/-- The sixteen words that a block is computed from. -/
abbrev Block := Vector UInt32 16

/-- Rotate a word to the left by a count between 1 and 31. -/
def rotateLeft (word count : UInt32) : UInt32 := word <<< count ||| word >>> (32 - count)

/-- Mix four words of a block. -/
def quarterRound (b : Block) (i j k l : Fin 16) : Block :=
  let mix (b : Block) (target other turned : Fin 16) (count : UInt32) : Block :=
    let b := b.set target.val (b[target] + b[other]) target.isLt
    b.set turned.val (rotateLeft (b[turned] ^^^ b[target]) count) turned.isLt
  let b := mix b i j l 16
  let b := mix b k l j 12
  let b := mix b i j l 8
  mix b k l j 7

/-- Mix the columns, then the diagonals. -/
def doubleRound (b : Block) : Block :=
  let b := quarterRound b 0 4 8 12
  let b := quarterRound b 1 5 9 13
  let b := quarterRound b 2 6 10 14
  let b := quarterRound b 3 7 11 15
  let b := quarterRound b 0 5 10 15
  let b := quarterRound b 1 6 11 12
  let b := quarterRound b 2 7 8 13
  quarterRound b 3 4 9 14

/-- The words that block `counter` of a seed is computed from: constants, the
    key, and the counter. -/
def blockInput (seed : UInt64) (counter : Nat) : Block :=
  let words :=
    [0x61707865, 0x3320646e, 0x79622d32, 0x6b206574] ++ keyWords 8 seed ++
      [UInt32.ofNat counter, UInt32.ofNat (counter / 4294967296), 0, 0]
  Vector.ofFn fun i : Fin 16 => (words[i.val]?).getD 0

/-- Block `counter` of the stream of a seed. -/
def block (seed : UInt64) (counter : Nat) : Block :=
  let input := blockInput seed counter
  Vector.zipWith (· + ·) (Nat.repeat doubleRound 6 input) input

/-- The `n`th word of the stream of a seed. -/
def word (seed : UInt64) (n : Nat) : UInt32 := (block seed (n / 16))[Fin.ofNat 16 n]

/-- Draw a byte: the low byte of the next word. -/
def next (k : Keystream) : UInt8 × Keystream :=
  ((word k.seed k.drawn).toUInt8, { k with drawn := k.drawn + 1 })

end Keystream

end ChipEight
