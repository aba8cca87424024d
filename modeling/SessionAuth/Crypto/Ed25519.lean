import SessionAuth.Crypto.Sha2

/-!
# Ed25519 signatures

Signatures on the twisted Edwards curve `-x² + y² = 1 + d x² y²` over the integers modulo
`2²⁵⁵ - 19`. A secret seed of 32 bytes gives a public key of 32 bytes and, for every
message, one signature of 64 bytes: an encoded point and a scalar below the group order.

A signature is accepted if its scalar is below the group order and its first half is,
byte for byte, the encoding of the point that scalar, key and message determine. A public
key may be encoded with a `y` that is not reduced.

## Main definitions

* `Ed25519.publicKey`, `Ed25519.sign` — what a seed gives
* `Ed25519.verify` — whether a signature belongs to a message and a public key
-/

namespace SessionAuth.Ed25519

/-- The number of elements of the field, 19 below the power 255 of two. -/
def p : Nat := (1 <<< 255) - 19

/-- The order of the group that the base point generates. -/
def order : Nat := (1 <<< 252) + 27742317777372353535851937790883648493

/-- The square and multiply steps for the `bits` lowest bits of an exponent. -/
def powMod (base modulus : Nat) : (bits : Nat) → (exponent : Nat) → Nat
  | 0, _ => 1
  | bits + 1, exponent =>
    let half := powMod base modulus bits (exponent / 2)
    let square := half * half % modulus
    if exponent % 2 = 1 then square * base % modulus else square

/-- A power of a field element. -/
def power (base exponent : Nat) : Nat := powMod base p 256 exponent

/-- The inverse of a field element; 0 for 0. -/
def inverse (x : Nat) : Nat := power x (p - 2)

/-- The difference of two field elements. -/
def minus (x y : Nat) : Nat := (x + (p - y % p)) % p

/-- The coefficient `d` of the curve. -/
def curveD : Nat := minus 0 (121665 * inverse 121666)

/-- A square root of -1. -/
def rootOfMinusOne : Nat := power 2 ((p - 1) / 4)

/-- A point by its extended coordinates: `x/z`, `y/z` and `t = x y / z`. -/
structure Point where
  x : Nat
  y : Nat
  z : Nat
  t : Nat

namespace Point

/-- The neutral point. -/
def zero : Point := ⟨0, 1, 1, 0⟩

/-- The point of affine coordinates. -/
def ofAffine (x y : Nat) : Point := ⟨x, y, 1, x * y % p⟩

/-- The opposite of a point. -/
def negate (q : Point) : Point := ⟨minus 0 q.x, q.y, q.z, minus 0 q.t⟩

/-- The sum of two points. -/
def add (q r : Point) : Point :=
  -- The law holds for all pairs of points, so equal ones need no case of their own.
  let a := minus q.y q.x * minus r.y r.x % p
  let b := (q.y + q.x) * (r.y + r.x) % p
  let c := q.t * 2 % p * curveD % p * r.t % p
  let d := q.z * 2 * r.z % p
  let e := minus b a
  let f := minus d c
  let g := d + c
  let h := b + a
  ⟨e * f % p, g * h % p, f * g % p, e * h % p⟩

/-- The sum of as many copies of a point as the `bits` lowest bits of a scalar say. -/
def multiply (q : Point) : (bits : Nat) → (scalar : Nat) → Point
  | 0, _ => zero
  | bits + 1, scalar =>
    let half := multiply q bits (scalar / 2)
    let double := half.add half
    if scalar % 2 = 1 then double.add q else double

/-- The 32 bytes of a point: `y`, and the parity of `x` as the top bit. -/
def encode (q : Point) : List UInt8 :=
  let i := inverse q.z
  let x := q.x * i % p
  let y := q.y * i % p
  Bytes.littleEndian 32 (y + (x % 2) <<< 255)

/-- The `x` with lowest bit `parity` for which `(x, y)` lies on the curve. -/
def recoverX? (y parity : Nat) : Option Nat :=
  let y2 := y * y % p
  let u := minus y2 1
  let v := (curveD * y2 + 1) % p
  let v3 := v * v % p * v % p
  let v7 := v3 * v3 % p * v % p
  -- One power serves for quotient and root: `x` is a root of `u / v` or of `-u / v`.
  let x := u * v3 % p * power (u * v7 % p) ((p - 5) / 8) % p
  let check := v * (x * x % p) % p
  let root :=
    if check = u then some x
    else if check = minus 0 u then some (x * rootOfMinusOne % p)
    else none
  root.map fun x => if x % 2 = parity then x else minus 0 x

/-- The point of 32 bytes, if there is one. -/
def decode? (bytes : List UInt8) : Option Point :=
  if bytes.length = 32 then
    let n := Bytes.ofLittleEndian bytes
    let y := n % (1 <<< 255) % p
    (recoverX? y (n >>> 255)).map fun x => ofAffine x y
  else none

end Point

/-- The point that generates the group. -/
def base : Point :=
  let y := 4 * inverse 5 % p
  .ofAffine ((Point.recoverX? y 0).getD 0) y

/-- The secret scalar of a seed: the first half of its hash with some bits fixed. -/
def secretScalar (seed : List UInt8) : Nat :=
  let n := Bytes.ofLittleEndian ((Sha2.sha512 seed).take 32)
  -- The three lowest bits are clear and the highest is the one of place 254.
  n % (1 <<< 254) / 8 * 8 + (1 <<< 254)

/-- The scalar of a hash of some bytes. -/
def hashScalar (bytes : List UInt8) : Nat := Bytes.ofLittleEndian (Sha2.sha512 bytes) % order

/-- The public key of a seed. -/
def publicKey (seed : List UInt8) : List UInt8 :=
  (base.multiply 255 (secretScalar seed)).encode

/-- The signature of a message under a seed. -/
def sign (seed message : List UInt8) : List UInt8 :=
  let key := publicKey seed
  let r := hashScalar ((Sha2.sha512 seed).drop 32 ++ message)
  let point := (base.multiply 253 r).encode
  -- The nonce `r` comes from seed and message, so signing needs nothing random.
  let s := (r + hashScalar (point ++ key ++ message) * secretScalar seed) % order
  point ++ Bytes.littleEndian 32 s

/-- Whether a signature belongs to a message and a public key. -/
def verify (key message signature : List UInt8) : Bool :=
  let point := signature.take 32
  let s := Bytes.ofLittleEndian (signature.drop 32)
  if signature.length = 64 ∧ s < order then
    match Point.decode? key with
    | none => false
    | some a =>
      let h := hashScalar (point ++ key ++ message)
      ((base.multiply 253 s).add (a.negate.multiply 253 h)).encode == point
  else false

end SessionAuth.Ed25519
