/-!
# Seeded random streams

A stream of 32-bit words that a seed of 64 bits determines: the output of the ChaCha cipher with
twelve rounds, whose key is spread out from the seed.

**Key.** A linear congruential generator runs through eight states; each state gives a word by a
shift, an exclusive or and a rotation.

**Blocks.** Block `i` of the cipher has the counter `i` and gives sixteen words. The words of the
stream are those of the blocks one after another.

**Choices.** A choice between four takes two words as a number of 64 bits and looks at its two
highest bits. The number is accepted only if the bit below those is clear; otherwise the next two
words are tried.
-/

namespace Gridwalk

/-- The stream of a key from a position on. -/
structure RandomStream where
  key : Vector UInt32 8
  next : Nat
  deriving DecidableEq, Repr

namespace RandomStream

def rotateLeft (x : UInt32) (n : UInt32) : UInt32 := (x <<< n) ||| (x >>> (32 - n))

def rotateRight (x : UInt32) (n : UInt32) : UInt32 := (x >>> n) ||| (x <<< (32 - n))

/-! ## The key -/

def nextState (s : UInt64) : UInt64 := s * 6364136223846793005 + 11634580027462260723

/-- The word of a state. -/
def stateWord (s : UInt64) : UInt32 :=
  rotateRight (((s >>> 18) ^^^ s) >>> 27).toUInt32 (s >>> 59).toUInt32

/-- The state after a number of steps from a seed. -/
def stateAfter (seed : UInt64) : Nat → UInt64
  | 0 => seed
  | n + 1 => nextState (stateAfter seed n)

/-- The stream of a seed from its beginning on. -/
def ofSeed (seed : UInt64) : RandomStream :=
  { key := Vector.ofFn fun i => stateWord (stateAfter seed (i + 1)), next := 0 }

/-! ## Blocks -/

abbrev Block := Vector UInt32 16

/-- Mixes four words of a block. -/
def quarterRound (v : Block) (a b c d : Fin 16) : Block :=
  let v := v.set a (v[a] + v[b])
  let v := v.set d (rotateLeft (v[d] ^^^ v[a]) 16)
  let v := v.set c (v[c] + v[d])
  let v := v.set b (rotateLeft (v[b] ^^^ v[c]) 12)
  let v := v.set a (v[a] + v[b])
  let v := v.set d (rotateLeft (v[d] ^^^ v[a]) 8)
  let v := v.set c (v[c] + v[d])
  v.set b (rotateLeft (v[b] ^^^ v[c]) 7)

/-- Mixes the columns and then the diagonals of a block. -/
def doubleRound (v : Block) : Block :=
  let v := quarterRound v 0 4 8 12
  let v := quarterRound v 1 5 9 13
  let v := quarterRound v 2 6 10 14
  let v := quarterRound v 3 7 11 15
  let v := quarterRound v 0 5 10 15
  let v := quarterRound v 1 6 11 12
  let v := quarterRound v 2 7 8 13
  quarterRound v 3 4 9 14

/-- The block before mixing: four constants, the key, the counter and two zeros. -/
def plainBlock (key : Vector UInt32 8) (counter : UInt64) : Block :=
  #v[0x61707865, 0x3320646E, 0x79622D32, 0x6B206574,
    key[0], key[1], key[2], key[3], key[4], key[5], key[6], key[7],
    counter.toUInt32, (counter >>> 32).toUInt32, 0, 0]

/-- The words of a block. -/
def block (key : Vector UInt32 8) (counter : UInt64) : Block :=
  let start := plainBlock key counter
  Vector.zipWith (· + ·) (Nat.repeat doubleRound 6 start) start

/-- A word of the stream by its position. -/
def word (key : Vector UInt32 8) (position : Nat) : UInt32 :=
  let v := block key (UInt64.ofNat (position / 16))
  v[Fin.ofNat 16 position]

/-! ## Choices -/

/-- The next two words as one number, the first one at the lower end. -/
def number (s : RandomStream) : UInt64 :=
  (word s.key s.next).toUInt64 ||| ((word s.key (s.next + 1)).toUInt64 <<< 32)

/-- The stream without the next two words. -/
def advance (s : RandomStream) : RandomStream := { s with next := s.next + 2 }

/-- The number decides a choice between four. -/
def accepted (n : UInt64) : Bool := n <<< 2 < 0x8000000000000000

/-- The number of tries that a choice is given. One in two fails, so that this many never do. -/
def maxTries : Nat := 4096

/-- Chooses between four with at most `tries` tries, and the stream behind the choice. -/
def chooseWithin (s : RandomStream) : Nat → Fin 4 × RandomStream
  | 0 => (0, s)
  | tries + 1 =>
    if accepted s.number then (Fin.ofNat 4 (s.number >>> 62).toNat, s.advance)
    else chooseWithin s.advance tries

/-- Chooses between four. -/
def choose (s : RandomStream) : Fin 4 × RandomStream := chooseWithin s maxTries

end RandomStream

end Gridwalk
