import SessionAuth.Crypto.Sha2

/-!
# Keyed message authentication

A secret makes a key, and key and message are hashed together twice, so that only who knows
the secret can say which code belongs to a message. A key fills a block. A secret longer than
a block is hashed first, so that none is refused whose hash fits, also not the empty one.

## Main definitions

* `Hmac.Key` — a key, which fills a block
* `Hmac.Key.ofSecret` — the key that a secret makes, for any hash function
* `Hmac.code` — the code of a message under a key
* `Hmac.sha256` — the code under the key of a secret, with the 32-byte digest

## Main results

* `Hmac.Key.exists_ofSecret` — every secret makes a key where a hash fits into a block
* `Hmac.exists_sha256` — under every secret a message has a code
-/

namespace SessionAuth.Hmac

/-- A key, which fills a block. -/
structure Key (block : Nat) where
  bytes : List UInt8
  length_eq : bytes.length = block

/-- Why a secret makes no key. -/
inductive KeyFault where
  /-- There is no room for it in a block. -/
  | length
  deriving DecidableEq, Repr

/-- What is reported of a fault. -/
def KeyFault.message : KeyFault → String
  | length => "Invalid Length"

/-- A secret, or its hash if it is longer than a block. -/
def shortened (hash : List UInt8 → List UInt8) (block : Nat) (secret : List UInt8) :
    List UInt8 :=
  if block < secret.length then hash secret else secret

/-- The key that a secret makes, filled up with zeros. -/
def Key.ofSecret (hash : List UInt8 → List UInt8) (block : Nat) (secret : List UInt8) :
    Except KeyFault (Key block) :=
  let bytes := shortened hash block secret
  if fits : bytes.length ≤ block then
    .ok ⟨bytes ++ List.replicate (block - bytes.length) 0, by
      rw [List.length_append, List.length_replicate]; omega⟩
  else .error .length

/-- The code of a message under a key. -/
def code (hash : List UInt8 → List UInt8) {block : Nat} (key : Key block)
    (message : List UInt8) : List UInt8 :=
  let inner := hash (key.bytes.map (· ^^^ 0x36) ++ message)
  hash (key.bytes.map (· ^^^ 0x5c) ++ inner)

/-- The code of a message under the key of a secret, with the 32-byte digest. -/
def sha256 (secret message : List UInt8) : Except KeyFault (List UInt8) :=
  (Key.ofSecret Sha2.sha256 Sha2.words32.blockBytes secret).map fun key =>
    code Sha2.sha256 key message

/-- Where a hash fits into a block, every secret makes a key. -/
theorem Key.exists_ofSecret {hash : List UInt8 → List UInt8} {block : Nat}
    (fits : ∀ message, (hash message).length ≤ block) (secret : List UInt8) :
    ∃ key, ofSecret hash block secret = .ok key := by
  have room : (shortened hash block secret).length ≤ block := by
    unfold shortened
    split
    · exact fits secret
    · omega
  exact ⟨_, dif_pos room⟩

/-- Under every secret, however long it is, a message has a code of 32 bytes. -/
theorem exists_sha256 (secret message : List UInt8) :
    ∃ bytes, sha256 secret message = .ok bytes ∧ bytes.length = 32 := by
  have fits (text : List UInt8) : (Sha2.sha256 text).length ≤ Sha2.words32.blockBytes := by
    rw [Sha2.length_sha256]
    decide
  obtain ⟨key, made⟩ := Key.exists_ofSecret fits secret
  exact ⟨code Sha2.sha256 key message, by rw [sha256, made]; rfl, Sha2.length_sha256 _⟩

end SessionAuth.Hmac
