import StoreTrial.Entropy.Basic

/-! # A stream of words from a seed

The ChaCha stream with twelve rounds, a block counter of 64 bits and the stream
number zero, under a key that is expanded from a seed of 64 bits. A buffer takes
whole words from the stream, so the bytes of a word that it has no room for are
lost.
-/

namespace StoreTrial

/-- A word turned to the left by a number of bits below 32. -/
def ChaCha.rotateLeft (word bits : UInt32) : UInt32 := (word <<< bits) ||| (word >>> (32 - bits))

/-- A word turned to the right by a number of bits below 32. -/
def ChaCha.rotateRight (word bits : UInt32) : UInt32 := (word >>> bits) ||| (word <<< (32 - bits))

/-- A position in the stream of a key. -/
structure ChaCha where
  key : Vector UInt32 8
  position : Nat
  deriving DecidableEq

namespace ChaCha

/-- The words of a block, or of the state it is computed from. -/
abbrev Block := Vector UInt32 16

/-- The words every state begins with. -/
def constants : Vector UInt32 4 := #v[0x61707865, 0x3320646e, 0x79622d32, 0x6b206574]

/-- The state of a block: the constants, the key, the number of the block and the
number of the stream. -/
def blockState (key : Vector UInt32 8) (number : Nat) : Block :=
  constants ++ key ++ #v[number.toUInt32, (number >>> 32).toUInt32, 0, 0]

/-- Mixes four words of a state. -/
def quarterRound (block : Block) (a b c d : Fin 16) : Block :=
  let wa := block[a] + block[b]
  let wd := rotateLeft (block[d] ^^^ wa) 16
  let wc := block[c] + wd
  let wb := rotateLeft (block[b] ^^^ wc) 12
  let wa := wa + wb
  let wd := rotateLeft (wd ^^^ wa) 8
  let wc := wc + wd
  let wb := rotateLeft (wb ^^^ wc) 7
  (((block.set a wa).set b wb).set c wc).set d wd

/-- The columns and then the diagonals of the state as a square. -/
def lanes : List (Fin 16 × Fin 16 × Fin 16 × Fin 16) :=
  [(0, 4, 8, 12), (1, 5, 9, 13), (2, 6, 10, 14), (3, 7, 11, 15),
    (0, 5, 10, 15), (1, 6, 11, 12), (2, 7, 8, 13), (3, 4, 9, 14)]

/-- Mixes the columns and the diagonals. -/
def doubleRound (block : Block) : Block :=
  lanes.foldl (fun block lane => quarterRound block lane.1 lane.2.1 lane.2.2.1 lane.2.2.2) block

/-- Mixes a state a number of times. -/
def doubleRounds : Nat → Block → Block
  | 0, block => block
  | rounds + 1, block => doubleRounds rounds (doubleRound block)

/-- A block of the stream. -/
def block (key : Vector UInt32 8) (number : Nat) : Block :=
  let state := blockState key number
  (doubleRounds 6 state).zipWith (· + ·) state

/-- The words of the stream from a position on. -/
def words (stream : ChaCha) (count : Nat) : List UInt32 :=
  let blocks := (stream.position % 16 + count + 15) / 16
  let numbers := List.range' (stream.position / 16) blocks
  ((numbers.flatMap fun number => (block stream.key number).toList).drop
    (stream.position % 16)).take count

/-- Fills a buffer and goes on behind the last word used. -/
def fill (stream : ChaCha) (count : Nat) : Filled count × ChaCha :=
  let used := (count + 3) / 4
  let words := (stream.words used).toArray
  let byteAt (index : Nat) : UInt8 :=
    ((words.getD (index / 4) 0) >>> (8 * (index % 4)).toUInt32).toUInt8
  (.ofPositions count byteAt, { stream with position := stream.position + used })

/-- The next state of the generator that expands a seed. -/
def expandStep (state : UInt64) : UInt64 :=
  state * 6364136223846793005 + 11634580027462260723

/-- The word a state of that generator gives. -/
def expandWord (state : UInt64) : UInt32 :=
  rotateRight (((state >>> 18) ^^^ state) >>> 27).toUInt32 (state >>> 59).toUInt32

/-- The states of that generator after a seed. -/
def expandStates (seed : UInt64) : Nat → UInt64
  | 0 => seed
  | steps + 1 => expandStep (expandStates seed steps)

/-- The start of the stream of a seed. -/
def ofSeed (seed : UInt64) : ChaCha where
  key := Vector.ofFn fun index => expandWord (expandStates seed (index.val + 1))
  position := 0

end ChaCha

instance : EntropySource ChaCha where
  fill stream count :=
    let (bytes, next) := stream.fill count
    (.ok bytes, next)

end StoreTrial
