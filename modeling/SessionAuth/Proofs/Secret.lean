import Mathlib.Tactic.Common
import SessionAuth.Secret

/-!
# Stored secrets are recognized

What is stored of a secret is cut at its `$` signs into cost, salt and digest, and these are read
back as they were written, whatever the secret, the salt and the slow function are. So the secret
is compared with its own digest and is found to belong to it. A cost that is allowed for one
secret is allowed for all, so where one secret could be hashed every other can be.

## Main definitions

* `SecretHasher.Recognizes` — a token belongs to every hash that was made of it
* `SecretHasher.Faithful` — besides, hashes are not empty, and hashing fails for all tokens or none
* `SecretHasher.KnowsPasswords` — the same of passwords, but for what is empty

## Main results

* `Bcrypt.split_render` — what is stored is taken apart again
* `Bcrypt.verify_of_hash` — what is stored of a secret is compared by digests
* `Bcrypt.verify_hash` — a secret belongs to what is stored of it
* `SecretHasher.faithful_ofCore` — whatever the slow function is, stored tokens are recognized
-/

namespace SessionAuth

namespace Bcrypt

variable {core : Core} {cost : Nat} {salt : Salt} {secret : List UInt8} {stored : String}

theorem dollar_notMem_renderCost (cost : Nat) : '$' ∉ renderCost cost := by
  intro mem
  exact absurd (Decimal.isDigit_of_mem_padded _ mem) (by decide)

/-- The characters of a salt or a digest are plain, and none of them is the sign in between. -/
theorem plain_of_mem_encode {bytes : List UInt8} {c : Char}
    (mem : c ∈ Base64.encode Base64.stored bytes) : c.toNat < 128 ∧ c ≠ '$' := by
  have hread := Base64.decode?_encode Base64.stored_reads bytes
  have hvalue := Base64.isSome_value?_of_decode? hread mem
  refine ⟨Base64.toNat_lt_of_isSome_stored hvalue, ?_⟩
  rintro rfl
  exact absurd hvalue (by decide)

/-- Salt and digest are parted where the one ends. -/
theorem saltAndDigest?_encode {salt digest : List UInt8} (hsalt : salt.length = 16)
    (hdigest : digest.length = digestSize) :
    saltAndDigest? (Base64.encode Base64.stored salt ++ Base64.encode Base64.stored digest) =
      some (Base64.encode Base64.stored salt, Base64.encode Base64.stored digest) := by
  have plain : ∀ c ∈ Base64.encode Base64.stored salt ++ Base64.encode Base64.stored digest,
      c.toNat < 128 := by
    intro c mem
    rcases List.mem_append.mp mem with mem | mem
    · exact (plain_of_mem_encode mem).1
    · exact (plain_of_mem_encode mem).1
  have hfront : (Base64.encode Base64.stored salt).length = 22 := by
    rw [Base64.length_encode, hsalt]
  have hback : (Base64.encode Base64.stored digest).length = 31 := by
    rw [Base64.length_encode, hdigest]
    rfl
  unfold saltAndDigest?
  rw [Utf8.length_encode plain, List.length_append, hfront, hback, if_pos rfl, ← hfront]
  exact Utf8.cut?_append _ fun c mem => (plain_of_mem_encode mem).1

/-- Of what stands between the signs only the format, the cost and the rest is not empty. -/
theorem fields_of_parts (cost : Nat) {rest : List Char} (noSign : '$' ∉ rest) (filled : rest ≠ []) :
    (Text.fields '$' ("$2b$".toList ++ renderCost cost ++ '$' :: rest)).filter (!·.isEmpty) =
      ["2b".toList, renderCost cost, rest] := by
  have hformat : '$' ∉ "2b".toList := by decide
  have htext : "$2b$".toList ++ renderCost cost ++ '$' :: rest =
      [] ++ '$' :: ("2b".toList ++ '$' :: (renderCost cost ++ '$' :: rest)) := by
    simp
  have hdigits : renderCost cost ≠ [] := Decimal.padded_ne_nil 2 cost
  rw [htext, Text.fields_append, Text.fields_append, Text.fields_append,
    Text.fields_eq_singleton hformat, Text.fields_eq_singleton (dollar_notMem_renderCost cost),
    Text.fields_eq_singleton noSign]
  simp [Text.fields, hdigits, filled]

/-- What is stored of a salt and a digest is taken apart again. -/
theorem split_render {salt digest : List UInt8} (hcost : cost ≤ 4294967295)
    (hsalt : salt.length = 16) (hdigest : digest.length = digestSize) :
    split (String.ofList (render cost salt digest)) =
      .ok ⟨cost, Base64.encode Base64.stored salt, Base64.encode Base64.stored digest⟩ := by
  have noSign : '$' ∉ Base64.encode Base64.stored salt ++ Base64.encode Base64.stored digest := by
    intro mem
    rcases List.mem_append.mp mem with mem | mem
    · exact (plain_of_mem_encode mem).2 rfl
    · exact (plain_of_mem_encode mem).2 rfl
  have filled : Base64.encode Base64.stored salt ++ Base64.encode Base64.stored digest ≠ [] := by
    intro empty
    have hlength := congrArg List.length empty
    simp [hsalt] at hlength
  have hfields : (Text.fields '$' (render cost salt digest)).filter (!·.isEmpty) =
      ["2b".toList, renderCost cost,
        Base64.encode Base64.stored salt ++ Base64.encode Base64.stored digest] := by
    rw [← fields_of_parts cost noSign filled, ← List.cons_append, ← List.append_assoc]
    rfl
  have hknown : ¬"2b".toList ∉ formats := by decide
  have hnumber : Decimal.naturalWithin? 4294967295 (renderCost cost) = some cost := by
    rw [Decimal.naturalWithin?, renderCost, Decimal.natural?_padded]
    simp [hcost]
  unfold split
  rw [String.toList_ofList, hfields]
  simp only [if_neg hknown, hnumber, saltAndDigest?_encode hsalt hdigest]

/-- Whether another secret belongs to what is stored of a secret depends on their digests. -/
theorem verify_of_hash (size : ∀ cost salt key, digestSize ≤ (core cost salt key).length)
    (h : hash core cost salt secret = .ok stored) (other : List UInt8) :
    verify core other stored =
      .ok ((core cost salt.bytes (effectiveKey other)).take digestSize ==
        (core cost salt.bytes (effectiveKey secret)).take digestSize) := by
  unfold hash at h
  split at h
  · next allowed =>
    obtain rfl := Except.ok.inj h
    have hcost : cost ≤ 31 := by
      simp only [costAllowed, Bool.and_eq_true, decide_eq_true_eq] at allowed
      exact allowed.2
    have hdigest : ((core cost salt.bytes (effectiveKey secret)).take digestSize).length =
        digestSize := by
      rw [List.length_take, Nat.min_eq_left (size _ _ _)]
    unfold verify
    rw [split_render (by omega) salt.size hdigest]
    simp only [Base64.decode?_encode Base64.stored_reads, if_pos allowed]
  · cases h

/-- A secret belongs to what is stored of it. -/
theorem verify_hash (size : ∀ cost salt key, digestSize ≤ (core cost salt key).length)
    (h : hash core cost salt secret = .ok stored) : verify core secret stored = .ok true := by
  rw [verify_of_hash size h, beq_self_eq_true]

theorem ne_empty_of_hash (h : hash core cost salt secret = .ok stored) : stored ≠ "" := by
  unfold hash at h
  split at h
  · obtain rfl := Except.ok.inj h
    intro empty
    -- The text begins with a sign.
    cases String.ofList_eq_empty_iff.mp empty
  · cases h

/-- With a cost that is allowed every secret can be hashed. -/
theorem exists_hash_of_allowed (allowed : costAllowed cost = true) (core : Core) (salt : Salt)
    (secret : List UInt8) : ∃ stored, hash core cost salt secret = .ok stored :=
  ⟨_, if_pos allowed⟩

/-- It depends on the cost alone whether a secret can be hashed. -/
theorem exists_hash (h : hash core cost salt secret = .ok stored) (salt' : Salt)
    (secret' : List UInt8) : ∃ stored', hash core cost salt' secret' = .ok stored' := by
  unfold hash at h
  split at h
  · next allowed => exact exists_hash_of_allowed allowed core salt' secret'
  · cases h

/-- The slow function in use gives enough bytes. -/
theorem digestSize_le_blowfish (cost : Nat) (salt key : List UInt8) :
    digestSize ≤ (blowfish cost salt key).length := by
  have hblocks : plainBlocks.length = 3 := rfl
  have hsize (blocks : List (UInt32 × UInt32)) (bytes : UInt32 × UInt32 → List UInt8)
      (each : ∀ block, (bytes block).length = 8) :
      (blocks.flatMap bytes).length = 8 * blocks.length := by
    induction blocks with
    | nil => rfl
    | cons block blocks ih =>
      rw [List.flatMap_cons, List.length_append, each, ih, List.length_cons]
      omega
  unfold blowfish
  rw [hsize _ _ fun block => by simp, hblocks]
  decide

end Bcrypt

namespace SecretHasher

/-- A token belongs to every hash that was made of it. -/
def Recognizes (hasher : SecretHasher) : Prop :=
  ∀ salt token hash, hasher.hashToken salt token = .ok hash → hasher.verifyToken token hash = true

/-- Stored tokens are recognized, no hash is empty, and where one token could be hashed every other
can be. -/
structure Faithful (hasher : SecretHasher) : Prop where
  recognizes : hasher.Recognizes
  filled : ∀ salt token hash, hasher.hashToken salt token = .ok hash → hash ≠ ""
  steady : ∀ salt token hash, hasher.hashToken salt token = .ok hash →
    ∀ salt' token', ∃ hash', hasher.hashToken salt' token' = .ok hash'

/-- Whatever the slow function is, as far as it gives enough bytes, it is faithful at any cost. -/
theorem faithful_ofCore {core : Bcrypt.Core}
    (size : ∀ cost salt key, Bcrypt.digestSize ≤ (core cost salt key).length) (cost : Nat) :
    (ofCore core cost).Faithful where
  recognizes salt token hash h := by
    have verified : Bcrypt.verify core (tokenDigest token) hash = .ok true :=
      Bcrypt.verify_hash size h
    simp only [ofCore, verified]
  filled salt token hash := Bcrypt.ne_empty_of_hash
  steady salt token hash h salt' token' := Bcrypt.exists_hash h salt' (tokenDigest token')

/-- Secrets that are hashed by the slow function in use are recognized. -/
theorem faithful_ofCost (cost : Nat) : (ofCost cost).Faithful :=
  faithful_ofCore Bcrypt.digestSize_le_blowfish cost

/-- Passwords belong to their hashes, and where one password could be hashed every other can be. -/
structure KnowsPasswords (hasher : SecretHasher) : Prop where
  recognizes : ∀ salt password hash, hasher.hashPassword salt password = .ok hash →
    hasher.verifyPassword password hash = .ok true
  steady : ∀ salt password hash, hasher.hashPassword salt password = .ok hash →
    ∀ salt' password', ∃ hash', hasher.hashPassword salt' password' = .ok hash'

/-- Passwords that are hashed by the slow function in use are known again. -/
theorem knowsPasswords_ofCost (cost : Nat) : (ofCost cost).KnowsPasswords where
  recognizes _ _ _ := Bcrypt.verify_hash Bcrypt.digestSize_le_blowfish
  steady _ _ _ h salt' password' := Bcrypt.exists_hash h salt' (Utf8.ofString password')

end SecretHasher

end SessionAuth
