import SessionAuth.Bytes

/-!
# The SHA-2 hash functions

A message is padded to whole blocks of sixteen words and each block is mixed into a state
of eight words. The two variants differ in the size of their words, the number of rounds
and the rotations.

Words are natural numbers below a power of two.

## Main definitions

* `Sha2.Variant` — what the variants differ in
* `Sha2.sha256`, `Sha2.sha512` — the digest of a message

## Main results

* `length_sha256`, `length_sha512` — a digest has 32 or 64 bytes
-/

namespace SessionAuth.Sha2

/-- The three shifts of one of the mixing functions. The last is a rotation in the
functions of the state and a shift in those of the schedule. -/
structure Shifts where
  a : Nat
  b : Nat
  c : Nat

/-- What the variants differ in. -/
structure Variant where
  /-- The number of bytes in a word. -/
  wordBytes : Nat
  /-- The shifts that mix the first state word. -/
  first : Shifts
  /-- The shifts that mix the fifth state word. -/
  fifth : Shifts
  /-- The shifts that mix the schedule word of fifteen places before. -/
  far : Shifts
  /-- The shifts that mix the schedule word of two places before. -/
  near : Shifts
  /-- The state before the first block. -/
  start : List Nat
  /-- One word for each round. -/
  rounds : List Nat

namespace Variant

variable (v : Variant)

/-- The number of words that there are. -/
def modulus : Nat := 1 <<< (8 * v.wordBytes)

/-- The number of bytes in a block. -/
def blockBytes : Nat := 16 * v.wordBytes

/-- The sum of two words. -/
def add (x y : Nat) : Nat := (x + y) % v.modulus

/-- A word turned right by some bits. -/
def rotate (x bits : Nat) : Nat :=
  (x >>> bits) ||| ((x <<< (8 * v.wordBytes - bits)) % v.modulus)

/-- The exclusive or of three turns of a word. -/
def turned (s : Shifts) (x : Nat) : Nat := v.rotate x s.a ^^^ v.rotate x s.b ^^^ v.rotate x s.c

/-- The exclusive or of two turns and a shift of a word. -/
def shifted (s : Shifts) (x : Nat) : Nat := v.rotate x s.a ^^^ v.rotate x s.b ^^^ (x >>> s.c)

end Variant

/-- The eight words of a state. -/
structure State where
  a : Nat
  b : Nat
  c : Nat
  d : Nat
  e : Nat
  f : Nat
  g : Nat
  h : Nat

/-- The words of a state in order. -/
def State.words (s : State) : List Nat := [s.a, s.b, s.c, s.d, s.e, s.f, s.g, s.h]

/-- The state of eight words; missing ones are zero. -/
def State.ofWords (words : List Nat) : State :=
  ⟨words.getD 0 0, words.getD 1 0, words.getD 2 0, words.getD 3 0, words.getD 4 0,
    words.getD 5 0, words.getD 6 0, words.getD 7 0⟩

/-- The schedule with one word more for each of `count` steps. -/
def extend (v : Variant) : (count : Nat) → Array Nat → Array Nat
  | 0, w => w
  | count + 1, w =>
    let n := w.size
    let next := v.add (v.add (w.getD (n - 16) 0) (v.shifted v.far (w.getD (n - 15) 0)))
      (v.add (w.getD (n - 7) 0) (v.shifted v.near (w.getD (n - 2) 0)))
    extend v count (w.push next)

/-- The words of a block followed by those made from them, one for each round. -/
def schedule (v : Variant) (block : List UInt8) : Array Nat :=
  extend v (v.rounds.length - 16)
    ((Bytes.pieces v.wordBytes 16 block).map Bytes.ofBigEndian).toArray

/-- One round with its constant and its schedule word. -/
def round (v : Variant) (s : State) (constant word : Nat) : State :=
  -- A word subtracted from the greatest one has every bit turned over.
  let choice := (s.e &&& s.f) ^^^ ((v.modulus - 1 - s.e) &&& s.g)
  let majority := (s.a &&& s.b) ^^^ (s.a &&& s.c) ^^^ (s.b &&& s.c)
  let t := v.add (v.add s.h (v.turned v.fifth s.e)) (v.add choice (v.add constant word))
  let u := v.add (v.turned v.first s.a) majority
  ⟨v.add t u, s.a, s.b, s.c, v.add s.d t, s.e, s.f, s.g⟩

/-- A block mixed into a state. -/
def compress (v : Variant) (s : State) (block : List UInt8) : State :=
  let mixed := (v.rounds.zip (schedule v block).toList).foldl
    (fun s (constant, word) => round v s constant word) s
  .ofWords (List.zipWith v.add s.words mixed.words)

/-- The bytes behind a message: a set bit, zeros, and the number of its bits. -/
def padding (v : Variant) (length : Nat) : List UInt8 :=
  let lengthBytes := 2 * v.wordBytes
  -- What stands in the last block: the rest of the message, the set bit and the length.
  let used := (length + 1 + lengthBytes) % v.blockBytes
  0x80 :: List.replicate ((v.blockBytes - used) % v.blockBytes) 0 ++
    Bytes.bigEndian lengthBytes (8 * length)

/-- The state after all blocks of a message. -/
def digest (v : Variant) (message : List UInt8) : State :=
  let padded := message ++ padding v message.length
  (Bytes.pieces v.blockBytes (padded.length / v.blockBytes) padded).foldl (compress v)
    (.ofWords v.start)

/-- The bytes of a digest. -/
def hash (v : Variant) (message : List UInt8) : List UInt8 :=
  (digest v message).words.flatMap (Bytes.bigEndian v.wordBytes)

/-- The variant with words of 32 bits. The constants are the first bits of the fractions
of the square roots of eight primes and of the cube roots of sixty-four. -/
def words32 : Variant where
  wordBytes := 4
  first := ⟨2, 13, 22⟩
  fifth := ⟨6, 11, 25⟩
  far := ⟨7, 18, 3⟩
  near := ⟨17, 19, 10⟩
  start := [
    0x6a09e667, 0xbb67ae85, 0x3c6ef372, 0xa54ff53a, 0x510e527f, 0x9b05688c, 0x1f83d9ab,
    0x5be0cd19]
  rounds := [
    0x428a2f98, 0x71374491, 0xb5c0fbcf, 0xe9b5dba5, 0x3956c25b, 0x59f111f1, 0x923f82a4,
    0xab1c5ed5, 0xd807aa98, 0x12835b01, 0x243185be, 0x550c7dc3, 0x72be5d74, 0x80deb1fe,
    0x9bdc06a7, 0xc19bf174, 0xe49b69c1, 0xefbe4786, 0x0fc19dc6, 0x240ca1cc, 0x2de92c6f,
    0x4a7484aa, 0x5cb0a9dc, 0x76f988da, 0x983e5152, 0xa831c66d, 0xb00327c8, 0xbf597fc7,
    0xc6e00bf3, 0xd5a79147, 0x06ca6351, 0x14292967, 0x27b70a85, 0x2e1b2138, 0x4d2c6dfc,
    0x53380d13, 0x650a7354, 0x766a0abb, 0x81c2c92e, 0x92722c85, 0xa2bfe8a1, 0xa81a664b,
    0xc24b8b70, 0xc76c51a3, 0xd192e819, 0xd6990624, 0xf40e3585, 0x106aa070, 0x19a4c116,
    0x1e376c08, 0x2748774c, 0x34b0bcb5, 0x391c0cb3, 0x4ed8aa4a, 0x5b9cca4f, 0x682e6ff3,
    0x748f82ee, 0x78a5636f, 0x84c87814, 0x8cc70208, 0x90befffa, 0xa4506ceb, 0xbef9a3f7,
    0xc67178f2]

/-- The variant with words of 64 bits, of the same roots and eighty primes. -/
def words64 : Variant where
  wordBytes := 8
  first := ⟨28, 34, 39⟩
  fifth := ⟨14, 18, 41⟩
  far := ⟨1, 8, 7⟩
  near := ⟨19, 61, 6⟩
  start := [
    0x6a09e667f3bcc908, 0xbb67ae8584caa73b, 0x3c6ef372fe94f82b, 0xa54ff53a5f1d36f1,
    0x510e527fade682d1, 0x9b05688c2b3e6c1f, 0x1f83d9abfb41bd6b, 0x5be0cd19137e2179]
  rounds := [
    0x428a2f98d728ae22, 0x7137449123ef65cd, 0xb5c0fbcfec4d3b2f, 0xe9b5dba58189dbbc,
    0x3956c25bf348b538, 0x59f111f1b605d019, 0x923f82a4af194f9b, 0xab1c5ed5da6d8118,
    0xd807aa98a3030242, 0x12835b0145706fbe, 0x243185be4ee4b28c, 0x550c7dc3d5ffb4e2,
    0x72be5d74f27b896f, 0x80deb1fe3b1696b1, 0x9bdc06a725c71235, 0xc19bf174cf692694,
    0xe49b69c19ef14ad2, 0xefbe4786384f25e3, 0x0fc19dc68b8cd5b5, 0x240ca1cc77ac9c65,
    0x2de92c6f592b0275, 0x4a7484aa6ea6e483, 0x5cb0a9dcbd41fbd4, 0x76f988da831153b5,
    0x983e5152ee66dfab, 0xa831c66d2db43210, 0xb00327c898fb213f, 0xbf597fc7beef0ee4,
    0xc6e00bf33da88fc2, 0xd5a79147930aa725, 0x06ca6351e003826f, 0x142929670a0e6e70,
    0x27b70a8546d22ffc, 0x2e1b21385c26c926, 0x4d2c6dfc5ac42aed, 0x53380d139d95b3df,
    0x650a73548baf63de, 0x766a0abb3c77b2a8, 0x81c2c92e47edaee6, 0x92722c851482353b,
    0xa2bfe8a14cf10364, 0xa81a664bbc423001, 0xc24b8b70d0f89791, 0xc76c51a30654be30,
    0xd192e819d6ef5218, 0xd69906245565a910, 0xf40e35855771202a, 0x106aa07032bbd1b8,
    0x19a4c116b8d2d0c8, 0x1e376c085141ab53, 0x2748774cdf8eeb99, 0x34b0bcb5e19b48a8,
    0x391c0cb3c5c95a63, 0x4ed8aa4ae3418acb, 0x5b9cca4f7763e373, 0x682e6ff3d6b2b8a3,
    0x748f82ee5defb2fc, 0x78a5636f43172f60, 0x84c87814a1f0ab72, 0x8cc702081a6439ec,
    0x90befffa23631e28, 0xa4506cebde82bde9, 0xbef9a3f7b2c67915, 0xc67178f2e372532b,
    0xca273eceea26619c, 0xd186b8c721c0c207, 0xeada7dd6cde0eb1e, 0xf57d4f7fee6ed178,
    0x06f067aa72176fba, 0x0a637dc5a2c898a6, 0x113f9804bef90dae, 0x1b710b35131c471b,
    0x28db77f523047d84, 0x32caab7b40c72493, 0x3c9ebe0a15c9bebc, 0x431d67c49c100d4c,
    0x4cc5d4becb3e42b6, 0x597f299cfc657e2a, 0x5fcb6fab3ad6faec, 0x6c44198c4a475817]

/-- The digest of 32 bytes. -/
def sha256 (message : List UInt8) : List UInt8 := hash words32 message

/-- The digest of 64 bytes. -/
def sha512 (message : List UInt8) : List UInt8 := hash words64 message

theorem length_hash (v : Variant) (message : List UInt8) :
    (hash v message).length = 8 * v.wordBytes := by
  simp [hash, State.words, Bytes.length_bigEndian]
  omega

@[simp] theorem length_sha256 (message : List UInt8) : (sha256 message).length = 32 :=
  length_hash words32 message

@[simp] theorem length_sha512 (message : List UInt8) : (sha512 message).length = 64 :=
  length_hash words64 message

end SessionAuth.Sha2
