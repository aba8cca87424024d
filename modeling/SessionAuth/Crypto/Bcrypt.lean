import SessionAuth.Crypto.Blowfish
import SessionAuth.Text.Base64
import SessionAuth.Text.Decimal
import SessionAuth.Text.Fields
import SessionAuth.Text.Utf8
import SessionAuth.Bytes

/-!
# Slow hashes of secrets

A secret is hashed with a salt by a function that is slow on purpose; each step of the
cost doubles its time. What is stored names the format, the cost, the salt and the digest:

`$2b$12$` and 22 characters of salt and 31 of digest.

Only part of a secret counts: its bytes and a closing zero byte, cut to 72 bytes.

## Main definitions

* `Bcrypt.Core` — the slow function itself
* `Bcrypt.effectiveKey` — what counts of a secret
* `Bcrypt.hash?`, `Bcrypt.verify` — a secret hashed, and compared with what is stored
* `Bcrypt.blowfish` — the slow function in use
-/

namespace SessionAuth.Bcrypt

/-- Sixteen random bytes that make equal secrets differ in what is stored. -/
structure Salt where
  bytes : List UInt8
  size : bytes.length = 16

namespace Salt

/-- The salt whose bytes are those of a number. -/
def ofNat (n : Nat) : Salt := ⟨Bytes.bigEndian 16 n, Bytes.length_bigEndian 16 n⟩

end Salt

/-- A slow function: from cost, salt and effective key to the bytes of a digest. -/
abbrev Core := (cost : Nat) → (salt key : List UInt8) → List UInt8

/-- Why a secret cannot be hashed or compared. -/
inductive Fault where
  /-- The cost is not allowed. -/
  | cost (cost : Nat)
  /-- What is stored does not have the parts of a hash. -/
  | hash (stored : String)
  /-- What is stored names another format. -/
  | format (name : String)
  /-- The cost that is stored is no number. -/
  | costText (text : String)
  /-- Salt or digest do not decode. -/
  | base64
  deriving DecidableEq, Repr

/-- What is reported of a fault. -/
def Fault.message : Fault → String
  | cost n => "Cost needs to be between 4 and 31, got " ++ toString n
  | hash stored => "Invalid hash: " ++ stored
  | format name => "Invalid Prefix: " ++ name
  | costText text => "Invalid Cost: " ++ text
  | base64 => "Base64 error"

/-- The most bytes of a secret that count. -/
def maxKey : Nat := 72

/-- What counts of a secret: its bytes and a zero byte, cut to 72. -/
def effectiveKey (secret : List UInt8) : List UInt8 := (secret ++ [0]).take maxKey

/-- The costs that are allowed. -/
def costAllowed (cost : Nat) : Bool := 4 ≤ cost && cost ≤ 31

/-- The cost that is used where none is set. -/
def defaultCost : Nat := 12

/-- The number of bytes of a digest that are stored. -/
def digestSize : Nat := 23

/-- The text of a cost, with at least two digits. -/
def renderCost (cost : Nat) : List Char := Decimal.padded 2 cost

/-- What is stored of a salt and a digest. -/
def render (cost : Nat) (salt digest : List UInt8) : List Char :=
  "$2b$".toList ++ renderCost cost ++ '$' :: Base64.encode Base64.stored salt ++
    Base64.encode Base64.stored digest

/-- What is stored of a secret. -/
def hash (core : Core) (cost : Nat) (salt : Salt) (secret : List UInt8) :
    Except Fault String :=
  if costAllowed cost then
    -- The function gives 24 bytes; the last was never stored.
    let digest := (core cost salt.bytes (effectiveKey secret)).take digestSize
    .ok (String.ofList (render cost salt.bytes digest))
  else .error (.cost cost)

/-- A stored hash taken apart. -/
structure Parts where
  cost : Nat
  salt : List Char
  digest : List Char
  deriving DecidableEq

/-- The names of the formats that are read. -/
def formats : List (List Char) := ["2y", "2b", "2a", "2x"].map String.toList

/-- A salt and a digest behind one another: 53 bytes of UTF-8, of which 22 belong to the
salt. -/
def saltAndDigest? (text : List Char) : Option (List Char × List Char) :=
  if (Utf8.encode text).length = 53 then Utf8.cut? text 22 else none

/-- A stored hash taken apart: its three parts stand between `$` signs. -/
def split (stored : String) : Except Fault Parts :=
  match (Text.fields '$' stored.toList).filter (!·.isEmpty) with
  | [format, cost, rest] =>
    if format ∉ formats then .error (.format (String.ofList format))
    else
      match Decimal.naturalWithin? 4294967295 cost with
      | none => .error (.costText (String.ofList cost))
      | some n =>
        match saltAndDigest? rest with
        | none => .error (.hash stored)
        | some (salt, digest) => .ok ⟨n, salt, digest⟩
  | _ => .error (.hash stored)

/-- Whether a secret belongs to what is stored. -/
def verify (core : Core) (secret : List UInt8) (stored : String) : Except Fault Bool :=
  match split stored with
  | .error fault => .error fault
  | .ok parts =>
    match Base64.decode? Base64.stored parts.salt with
    | none => .error .base64
    | some salt =>
      if costAllowed parts.cost then
        match Base64.decode? Base64.stored parts.digest with
        | none => .error .base64
        | some digest =>
          .ok ((core parts.cost salt (effectiveKey secret)).take digestSize == digest)
      else .error (.cost parts.cost)

/-! ## The slow function -/

/-- A salt and a key mixed in as often as asked, first the key and then the salt. -/
def mix (salt key : Array UInt32) : (times : Nat) → Blowfish.State → Blowfish.State
  | 0, state => state
  | times + 1, state => mix salt key times ((state.expand #[] key).expand #[] salt)

/-- A block encrypted as often as asked. -/
def encryptTimes (state : Blowfish.State) : (times : Nat) → UInt32 × UInt32 → UInt32 × UInt32
  | 0, block => block
  | times + 1, block => encryptTimes state times (state.encrypt block)

/-- The three blocks that are encrypted. -/
def plainBlocks : List (UInt32 × UInt32) :=
  (Bytes.pieces 8 3 (Utf8.ofString "OrpheanBeholderScryDoubt")).map fun bytes =>
    (Blowfish.wordOf (bytes.take 4), Blowfish.wordOf (bytes.drop 4))

/-- The slow function in use: a cipher keyed with the secret as often as the power
`cost` of two says. -/
def blowfish : Core := fun cost salt key =>
  let saltWords := Blowfish.cycledWords 18 salt
  let keyWords := Blowfish.cycledWords 18 key
  let state := Blowfish.State.initial.expand (Blowfish.cycledWords 4 salt) keyWords
  let state := mix saltWords keyWords (1 <<< cost) state
  plainBlocks.flatMap fun block =>
    let (l, r) := encryptTimes state 64 block
    Bytes.bigEndian 4 l.toNat ++ Bytes.bigEndian 4 r.toNat

end SessionAuth.Bcrypt
