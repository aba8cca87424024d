/-!
# The Blowfish block cipher

A block of two 32-bit words goes through sixteen rounds that are governed by eighteen
subkeys and four tables of 256 words. Before any key is known these hold the fraction of
π, 32 bits to a word. A key is mixed in by adding it to the subkeys and then replacing
subkeys and tables by successive encryptions, into which a salt may be mixed as well.

## Main definitions

* `Blowfish.State` — subkeys and tables
* `Blowfish.State.initial` — the fraction of π
* `Blowfish.State.encrypt` — a block encrypted
* `Blowfish.State.expand` — a salt and a key mixed in
-/

namespace SessionAuth.Blowfish

/-- The first `terms` terms, from term `k` on, of the series for the arc tangent of `1/x`,
where `power` is the unit divided by `x ^ (2 k + 1)`. -/
def arctanSeries (x : Nat) : (terms : Nat) → (k power : Nat) → Int
  | 0, _, _ => 0
  | terms + 1, k, power =>
    let term : Int := power / (2 * k + 1)
    (if k % 2 = 0 then term else -term) + arctanSeries x terms (k + 1) (power / (x * x))

/-- The first `bits` bits of the fraction of π, by π = 16 arctan 1/5 - 4 arctan 1/239. -/
def fractionOfPi (bits : Nat) : Nat :=
  -- Each term is cut off, which costs less than one unit; the spare bits hold all of it.
  let spare := 64
  let unit := 1 <<< (bits + spare)
  let pi := 16 * arctanSeries 5 (bits / 4 + spare) 0 (unit / 5) -
    4 * arctanSeries 239 (bits / 15 + spare) 0 (unit / 239)
  (pi.toNat - 3 * unit) >>> spare

/-- The number of words in subkeys and tables. -/
def words : Nat := 18 + 1024

/-- The words of the fraction of π. -/
def piWords : Array UInt32 :=
  let n := fractionOfPi (32 * words)
  Array.ofFn fun i : Fin words => UInt32.ofNat (n >>> (32 * (words - 1 - i)))

/-- Subkeys and tables; the four tables lie behind one another. -/
structure State where
  subkeys : Array UInt32
  tables : Array UInt32

/-- The state before any key is known. -/
def State.initial : State := ⟨piWords.extract 0 18, piWords.extract 18 words⟩

/-- The word that the tables give for the four bytes of a word. -/
@[inline] def lookUp (tables : Array UInt32) (x : UInt32) : UInt32 :=
  let a := tables.getD (x >>> 24).toNat 0
  let b := tables.getD (256 + ((x >>> 16) &&& 0xFF).toNat) 0
  let c := tables.getD (512 + ((x >>> 8) &&& 0xFF).toNat) 0
  let d := tables.getD (768 + (x &&& 0xFF).toNat) 0
  ((a + b) ^^^ c) + d

/-- Pairs of rounds from subkey `i` on, then the last two subkeys. -/
def rounds (subkeys tables : Array UInt32) : (pairs i : Nat) → UInt32 → UInt32 →
    UInt32 × UInt32
  | 0, i, l, r => (r ^^^ subkeys.getD (i + 1) 0, l ^^^ subkeys.getD i 0)
  | pairs + 1, i, l, r =>
    let l := l ^^^ subkeys.getD i 0
    let r := r ^^^ lookUp tables l
    let r := r ^^^ subkeys.getD (i + 1) 0
    let l := l ^^^ lookUp tables r
    rounds subkeys tables pairs (i + 2) l r

/-- A block encrypted under some subkeys and tables. -/
def encryptWith (subkeys tables : Array UInt32) (l r : UInt32) : UInt32 × UInt32 :=
  rounds subkeys tables 8 0 l r

/-- A block encrypted. -/
def State.encrypt (state : State) (block : UInt32 × UInt32) : UInt32 × UInt32 :=
  encryptWith state.subkeys state.tables block.1 block.2

/-- Subkeys from place `i` on replaced by successive encryptions of a block. -/
def refillSubkeys (salt tables : Array UInt32) : (blocks i : Nat) → Array UInt32 →
    UInt32 → UInt32 → Array UInt32 × UInt32 × UInt32
  | 0, _, subkeys, l, r => (subkeys, l, r)
  | blocks + 1, i, subkeys, l, r =>
    let (l, r) := encryptWith subkeys tables (l ^^^ salt.getD (i % 4) 0)
      (r ^^^ salt.getD ((i + 1) % 4) 0)
    refillSubkeys salt tables blocks (i + 2)
      ((subkeys.setIfInBounds i l).setIfInBounds (i + 1) r) l r

/-- Table words from place `i` on replaced by successive encryptions of a block. The salt
continues where the subkeys left it. -/
def refillTables (salt subkeys : Array UInt32) : (blocks i : Nat) → Array UInt32 →
    UInt32 → UInt32 → Array UInt32
  | 0, _, tables, _, _ => tables
  | blocks + 1, i, tables, l, r =>
    let (l, r) := encryptWith subkeys tables (l ^^^ salt.getD ((i + 18) % 4) 0)
      (r ^^^ salt.getD ((i + 19) % 4) 0)
    refillTables salt subkeys blocks (i + 2)
      ((tables.setIfInBounds i l).setIfInBounds (i + 1) r) l r

/-- A salt of four words and a key of eighteen words mixed in. -/
def State.expand (state : State) (salt key : Array UInt32) : State :=
  let subkeys := Array.zipWith (· ^^^ ·) state.subkeys key
  let (subkeys, l, r) := refillSubkeys salt state.tables 9 0 subkeys 0 0
  ⟨subkeys, refillTables salt subkeys 512 0 state.tables l r⟩

/-- The word of four bytes, the most significant one in front. -/
def wordOf (bytes : List UInt8) : UInt32 :=
  bytes.foldl (fun w b => (w <<< 8) ||| b.toUInt32) 0

/-- The first `count` words of bytes that are repeated without end. -/
def cycledWords (count : Nat) (bytes : List UInt8) : Array UInt32 :=
  let bytes := bytes.toArray
  Array.ofFn fun i : Fin count =>
    wordOf ((List.range 4).map fun j => bytes.getD ((4 * i + j) % bytes.size) 0)

end SessionAuth.Blowfish
