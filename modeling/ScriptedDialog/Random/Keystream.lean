/-! The keystream from which random choices are drawn: the ChaCha block function
with twelve rounds, on a key of eight words, a block counter of two words and
two words of zero. Word after word of block after block, the stream is a
function of the position alone. -/

namespace ScriptedDialog.Random

structure Key where
  k0 : UInt32
  k1 : UInt32
  k2 : UInt32
  k3 : UInt32
  k4 : UInt32
  k5 : UInt32
  k6 : UInt32
  k7 : UInt32
  deriving DecidableEq, Repr

def rotateLeft (x : UInt32) (n : UInt32) : UInt32 := (x <<< n) ||| (x >>> (32 - n))

/-- The quarter round on the words at four places of a block. -/
def quarterRound (a b c d : Fin 16) (w : Vector UInt32 16) : Vector UInt32 16 :=
  let half (m n : UInt32) (w : Vector UInt32 16) : Vector UInt32 16 :=
    let w := w.set a (w[a] + w[b])
    let w := w.set d (rotateLeft (w[d] ^^^ w[a]) m)
    let w := w.set c (w[c] + w[d])
    w.set b (rotateLeft (w[b] ^^^ w[c]) n)
  half 8 7 (half 16 12 w)

/-- One round on the columns and one on the diagonals. -/
def doubleRound (w : Vector UInt32 16) : Vector UInt32 16 :=
  let w := quarterRound 3 7 11 15 (quarterRound 2 6 10 14 (quarterRound 1 5 9 13
    (quarterRound 0 4 8 12 w)))
  quarterRound 3 4 9 14 (quarterRound 2 7 8 13 (quarterRound 1 6 11 12 (quarterRound 0 5 10 15 w)))

def initialBlock (key : Key) (n : Nat) : Vector UInt32 16 :=
  #v[0x61707865, 0x3320646e, 0x79622d32, 0x6b206574,
    key.k0, key.k1, key.k2, key.k3, key.k4, key.k5, key.k6, key.k7,
    n.toUInt32, (n >>> 32).toUInt32, 0, 0]

def block (key : Key) (n : Nat) : Vector UInt32 16 :=
  let start := initialBlock key n
  let mixed := doubleRound (doubleRound (doubleRound (doubleRound (doubleRound (doubleRound start)))))
  Vector.zipWith (· + ·) mixed start

/-- The word of the keystream at a position. -/
def keystream (key : Key) (position : Nat) : UInt32 :=
  (block key (position / 16))[position % 16]

/-! ### Keys from seeds -/

/-- The next state of the generator that stretches a seed into a key. -/
def nextState (state : UInt64) : UInt64 := state * 6364136223846793005 + 11634580027462260723

/-- The key word that a state gives: its high bits folded in, then rotated by
its top five bits. -/
def stateWord (state : UInt64) : UInt32 :=
  let x := (((state >>> 18) ^^^ state) >>> 27).toUInt32
  let n := (state >>> 59).toUInt32
  (x >>> n) ||| (x <<< ((32 - n) % 32))

def Key.ofSeed (seed : UInt64) : Key :=
  let s0 := nextState seed
  let s1 := nextState s0
  let s2 := nextState s1
  let s3 := nextState s2
  let s4 := nextState s3
  let s5 := nextState s4
  let s6 := nextState s5
  let s7 := nextState s6
  ⟨stateWord s0, stateWord s1, stateWord s2, stateWord s3, stateWord s4, stateWord s5,
    stateWord s6, stateWord s7⟩

end ScriptedDialog.Random
