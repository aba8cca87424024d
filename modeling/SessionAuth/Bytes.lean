/-!
# Numbers as bytes

A natural number below a power of 256 is written as that many bytes, with the most
significant byte in front (big-endian) or at the end (little-endian).

## Main definitions

* `Bytes.bigEndian`, `Bytes.littleEndian` — the bytes of a number
* `Bytes.ofBigEndian`, `Bytes.ofLittleEndian` — the number of some bytes
* `Bytes.pieces` — bytes cut into pieces of one size
-/

namespace SessionAuth.Bytes

/-- The last `size` bytes of a number, the most significant one in front. -/
def bigEndian : (size : Nat) → Nat → List UInt8
  | 0, _ => []
  | size + 1, n => UInt8.ofNat (n >>> (8 * size)) :: bigEndian size n

/-- The last `size` bytes of a number, the least significant one in front. -/
def littleEndian : (size : Nat) → Nat → List UInt8
  | 0, _ => []
  | size + 1, n => UInt8.ofNat n :: littleEndian size (n / 256)

/-- The number of bytes of which the first is the most significant. -/
def ofBigEndian (bytes : List UInt8) : Nat := bytes.foldl (fun n b => 256 * n + b.toNat) 0

/-- The number of bytes of which the first is the least significant. -/
def ofLittleEndian (bytes : List UInt8) : Nat := bytes.foldr (fun b n => b.toNat + 256 * n) 0

/-- The first `count` pieces of `size` bytes each. -/
def pieces (size : Nat) : (count : Nat) → List UInt8 → List (List UInt8)
  | 0, _ => []
  | count + 1, bytes => bytes.take size :: pieces size count (bytes.drop size)

@[simp] theorem length_bigEndian (size n : Nat) : (bigEndian size n).length = size := by
  induction size with
  | zero => rfl
  | succ size ih => simp [bigEndian, ih]

@[simp] theorem length_littleEndian (size n : Nat) : (littleEndian size n).length = size := by
  induction size generalizing n with
  | zero => rfl
  | succ size ih => simp [littleEndian, ih]

end SessionAuth.Bytes
