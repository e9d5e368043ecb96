/-!
Contract: reproducible random words from a seed.

The words are the key stream of ChaCha with twelve rounds.  The 64-bit seed is
stretched to the 256-bit key by a permuted congruential generator; the block counter
starts at zero and the stream number is zero.

Owns: the stretching, the block function, and the stream with its unread words.
-/

namespace StoreBench.Keys

/-- The multiplier of the congruential generator that stretches a seed. -/
def seedMultiplier : UInt64 := 6364136223846793005

def seedIncrement : UInt64 := 11634580027462260723

/-- A word with its bits moved down by `amount`, those that fall out returning on top. -/
def rotateDown (word : UInt32) (amount : UInt32) : UInt32 :=
  (word >>> (amount % 32)) ||| (word <<< ((32 - amount % 32) % 32))

/-- A word with its bits moved up by `amount`, those that fall out returning below. -/
def rotateUp (word : UInt32) (amount : UInt32) : UInt32 := rotateDown word (32 - amount % 32)

/-- The word that the congruential generator in state `state` shows. -/
def shownWord (state : UInt64) : UInt32 :=
  rotateDown (((state >>> 18) ^^^ state) >>> 27).toUInt32 (state >>> 59).toUInt32

/-- The next `count` words of the congruential generator. -/
def stretch : Nat → UInt64 → List UInt32
  | 0, _ => []
  | count + 1, state =>
    let next := state * seedMultiplier + seedIncrement
    shownWord next :: stretch count next

/-- The sixteen words that the block function works on. -/
abbrev Block := Vector UInt32 16

/-- The cipher's quarter round on four of the words. -/
def quarterRound (first second third fourth : Fin 16) (block : Block) : Block :=
  let half (into other mixed : Fin 16) (amount : UInt32) (block : Block) : Block :=
    let sum := block.get into + block.get other
    let block := block.set into sum
    block.set mixed (rotateUp (block.get mixed ^^^ sum) amount)
  half first second fourth 16 block
    |> half third fourth second 12
    |> half first second fourth 8
    |> half third fourth second 7

/-- A round on the columns and a round on the diagonals. -/
def doubleRound (block : Block) : Block :=
  block
    |> quarterRound 0 4 8 12 |> quarterRound 1 5 9 13
    |> quarterRound 2 6 10 14 |> quarterRound 3 7 11 15
    |> quarterRound 0 5 10 15 |> quarterRound 1 6 11 12
    |> quarterRound 2 7 8 13 |> quarterRound 3 4 9 14

/-- The four words that every block begins with. -/
def blockConstants : List UInt32 := [0x61707865, 0x3320646e, 0x79622d32, 0x6b206574]

/-- The words before the rounds: the constants, the key, the counter and the stream
number. -/
def openingBlock (key : List UInt32) (counter : UInt64) : Block :=
  Vector.ofFn fun position =>
    (blockConstants ++ key ++ [counter.toUInt32, (counter >>> 32).toUInt32, 0, 0]).getD position 0

/-- Block number `counter` of the key stream. -/
def keyBlock (key : List UInt32) (counter : UInt64) : Block :=
  let opening := openingBlock key counter
  Vector.zipWith (· + ·) (Nat.repeat doubleRound 6 opening) opening

/-- A stream of random words. -/
structure WordStream where
  key : List UInt32
  counter : UInt64
  unread : List UInt32

namespace WordStream

def ofSeed (seed : UInt64) : WordStream := ⟨stretch 8 seed, 0, []⟩

def next (stream : WordStream) : UInt32 × WordStream :=
  match stream.unread with
  | word :: unread => (word, { stream with unread })
  | [] =>
    let block := keyBlock stream.key stream.counter
    (block.get 0, { stream with counter := stream.counter + 1, unread := block.toList.drop 1 })

/-- How many words may be rejected before one is taken as it is; each is rejected with
probability at most one half. -/
def patience : Nat := 512

/-- A number below `bound`, all of them equally likely: the upper half of a word times the
bound, where words whose lower half falls beyond the last full multiple are rejected. -/
def belowFrom : Nat → UInt32 → WordStream → UInt32 × WordStream
  | 0, _, stream => (0, stream)
  | attempts + 1, bound, stream =>
    let leadingZeros := 32 - (bound.toNat.log2 + 1)
    let zone := (bound <<< leadingZeros.toUInt32) - 1
    let (word, later) := stream.next
    let product := word.toUInt64 * bound.toUInt64
    if product.toUInt32 ≤ zone then ((product >>> 32).toUInt32, later)
    else belowFrom attempts bound later

def below (bound : UInt32) (stream : WordStream) : UInt32 × WordStream :=
  belowFrom patience bound stream

end WordStream

end StoreBench.Keys
