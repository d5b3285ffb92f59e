/-!
# The ChaCha random source

A random source is a stream of 64-bit words: the ChaCha cipher with twelve rounds
under a 256-bit key, counting blocks from zero, where two consecutive 32-bit
words of a block make one word, the lower half first. The key is spread out from
a 64-bit seed.
-/

namespace GraphSweep

/-- A random source, as the words left of the current block and the block that
comes next. -/
structure RandomSource where
  key : List UInt32
  nextBlock : UInt64
  pending : List UInt64

namespace RandomSource

/-- A word rotated to the left. -/
def rotateLeft (word : UInt32) (places : UInt32) : UInt32 :=
  (word <<< places) ||| (word >>> (32 - places))

/-- Stir four words of a block into each other. -/
def quarterRound (block : Array UInt32) (i j k l : Nat) : Array UInt32 :=
  let a := block.getD i 0 + block.getD j 0
  let d := rotateLeft (block.getD l 0 ^^^ a) 16
  let c := block.getD k 0 + d
  let b := rotateLeft (block.getD j 0 ^^^ c) 12
  let a' := a + b
  let d' := rotateLeft (d ^^^ a') 8
  let c' := c + d'
  let b' := rotateLeft (b ^^^ c') 7
  (((block.setIfInBounds i a').setIfInBounds j b').setIfInBounds k c').setIfInBounds
    l d'

/-- Stir the columns of a block, then its diagonals. -/
def doubleRound (block : Array UInt32) : Array UInt32 :=
  [(0, 4, 8, 12), (1, 5, 9, 13), (2, 6, 10, 14), (3, 7, 11, 15),
    (0, 5, 10, 15), (1, 6, 11, 12), (2, 7, 8, 13), (3, 4, 9, 14)].foldl
      (fun block (i, j, k, l) => quarterRound block i j k l) block

/-- The words of a block before the rounds. -/
def inputBlock (key : List UInt32) (counter : UInt64) : Array UInt32 :=
  (([0x61707865, 0x3320646e, 0x79622d32, 0x6b206574] : List UInt32) ++ key ++
    [counter.toUInt32, (counter >>> 32).toUInt32, 0, 0]).toArray

/-- The words of a block after the rounds. -/
def outputBlock (key : List UInt32) (counter : UInt64) : List UInt32 :=
  let input := inputBlock key counter
  let stirred := (List.range 6).foldl (fun block _ => doubleRound block) input
  List.zipWith (· + ·) stirred.toList input.toList

/-- Pairs of 32-bit words as 64-bit words, the lower half first. -/
def pairUp : List UInt32 -> List UInt64
  | low :: high :: rest =>
      (low.toUInt64 ||| (high.toUInt64 <<< 32)) :: pairUp rest
  | _ => []

/-- A word of the key, and the state that gives the next one. -/
def keyStep (state : UInt64) : UInt32 × UInt64 :=
  let next := state * 6364136223846793005 + 11634580027462260723
  let mixed := (((next >>> 18) ^^^ next) >>> 27).toUInt32
  let places := (next >>> 59).toUInt32
  ((mixed >>> places) ||| (mixed <<< ((32 - places) % 32)), next)

/-- Words of a key, spread out from a state. -/
def keyWords : Nat -> UInt64 -> List UInt32
  | 0, _ => []
  | count + 1, state =>
      let (word, next) := keyStep state
      word :: keyWords count next

/-- The source that a seed begins. -/
def ofSeed (seed : UInt64) : RandomSource := ⟨keyWords 8 seed, 0, []⟩

/-- The next word of a source. -/
def next (source : RandomSource) : UInt64 × RandomSource :=
  match source.pending with
  | word :: rest => (word, { source with pending := rest })
  | [] =>
      match pairUp (outputBlock source.key source.nextBlock) with
      | word :: rest =>
          (word, { source with
            nextBlock := source.nextBlock + 1
            pending := rest })
      | [] => (0, source)

end RandomSource
end GraphSweep
