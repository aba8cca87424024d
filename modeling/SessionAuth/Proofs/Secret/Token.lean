import SessionAuth.Proofs.Secret.Keying

/-!
# Which tokens a stored hash accepts

A token goes to the slow function as the hexadecimal digits of its digest. These are always fewer
than the bytes that count and hold no zero, so nothing of them is cut, and tokens are keyed alike
only where their digests are the same, however long a front they have in common. A stored hash is
either one that matches the token or the answer is no; none makes the comparison fail.

## Main definitions

* `Bcrypt.Matches` — what is stored reads as a hash, and its digest is that of the secret

## Main results

* `SecretHasher.effectiveKey_tokenDigest` — nothing of a digest is cut
* `SecretHasher.keyBytes_tokenDigest_inj` — tokens with different digests have different keys
* `SecretHasher.tokens_told_apart` — what is stored of a token accepts this token alone
-/

namespace SessionAuth

namespace Bcrypt

/-- What is stored reads as a hash, and its digest is that of the secret. -/
def Matches (core : Core) (secret : List UInt8) (stored : String) : Prop :=
  ∃ parts salt, split stored = .ok parts ∧ costAllowed parts.cost = true ∧
    Base64.decode? Base64.stored parts.salt = some salt ∧
    Base64.decode? Base64.stored parts.digest =
      some ((core parts.cost salt (effectiveKey secret)).take digestSize)

theorem verify_eq_true_iff {core : Core} {secret : List UInt8} {stored : String} :
    verify core secret stored = .ok true ↔ Matches core secret stored := by
  unfold verify Matches
  cases hparts : split stored with
  | error fault => simp
  | ok parts =>
    cases hsalt : Base64.decode? Base64.stored parts.salt with
    | none => simp [hsalt]
    | some salt =>
      by_cases allowed : costAllowed parts.cost = true
      · cases hdigest : Base64.decode? Base64.stored parts.digest with
        | none => simp [hsalt, allowed, hdigest]
        | some digest => simp [hsalt, allowed, hdigest, @eq_comm _ digest]
      · simp [hsalt, allowed]

end Bcrypt

namespace SecretHasher

variable {core : Bcrypt.Core} {cost : Nat} {token other : String}

/-! ## Digests as keys -/

theorem length_tokenDigest (token : String) : (tokenDigest token).length = 64 := by
  rw [tokenDigest, Utf8.length_encode fun _ => Hex.toNat_lt_of_mem_encode, Hex.length_encode,
    Sha2.length_sha256]

theorem zero_notMem_tokenDigest (token : String) : 0 ∉ tokenDigest token := by
  intro mem
  have hvalue := Hex.isSome_value?_of_decode? (Hex.decode?_encode _)
    (Utf8.zero_mem_encode_iff.mp mem)
  exact absurd hvalue (by decide)

theorem tokenDigest_inj : tokenDigest other = tokenDigest token ↔
    Sha2.sha256 (Utf8.ofString other) = Sha2.sha256 (Utf8.ofString token) :=
  Utf8.encode_inj.trans Hex.encode_inj

/-- The digest of a token counts as a whole. -/
theorem effectiveKey_tokenDigest (token : String) :
    Bcrypt.effectiveKey (tokenDigest token) = tokenDigest token ++ [0] := by
  rw [Bcrypt.effectiveKey, List.take_of_length_le]
  rw [List.length_append, length_tokenDigest]
  decide

/-- What counts of two tokens is the same where their digests are. -/
theorem effectiveKey_tokenDigest_inj :
    Bcrypt.effectiveKey (tokenDigest other) = Bcrypt.effectiveKey (tokenDigest token) ↔
      Sha2.sha256 (Utf8.ofString other) = Sha2.sha256 (Utf8.ofString token) := by
  rw [effectiveKey_tokenDigest, effectiveKey_tokenDigest, List.append_left_inj, tokenDigest_inj]

/-- Read over and over, it still is. -/
theorem keyBytes_tokenDigest_inj :
    Bcrypt.keyBytes (tokenDigest other) = Bcrypt.keyBytes (tokenDigest token) ↔
      Sha2.sha256 (Utf8.ofString other) = Sha2.sha256 (Utf8.ofString token) := by
  have counts (token : String) : (tokenDigest token).take Bcrypt.maxKey = tokenDigest token := by
    apply List.take_of_length_le
    rw [length_tokenDigest]
    decide
  rw [Bcrypt.keyBytes_eq_iff (zero_notMem_tokenDigest other) (zero_notMem_tokenDigest token),
    counts, counts, tokenDigest_inj]

/-! ## Tokens and what is stored of them -/

/-- A comparison says yes exactly where what is stored matches, and otherwise it says no. -/
theorem verifyToken_iff {stored : String} :
    (ofCore core cost).verifyToken token stored = true ↔
      Bcrypt.Matches core (tokenDigest token) stored := by
  rw [← Bcrypt.verify_eq_true_iff]
  unfold ofCore
  cases verified : Bcrypt.verify core (tokenDigest token) stored with
  | error fault => simp [verified]
  | ok belongs => simp [verified]

/-- What is stored of a token accepts another one only if both are digested alike, so far as the
slow function tells different keys apart. -/
theorem verifyToken_iff_of_hash {salt : Bcrypt.Salt} {stored : String}
    (lawful : Bcrypt.Lawful core)
    (apart : Bcrypt.TellsApart core cost salt (tokenDigest other) (tokenDigest token))
    (hashed : (ofCore core cost).hashToken salt token = .ok stored) (later : Nat) :
    (ofCore core later).verifyToken other stored = true ↔
      Sha2.sha256 (Utf8.ofString other) = Sha2.sha256 (Utf8.ofString token) := by
  rw [verifyToken_iff, ← Bcrypt.verify_eq_true_iff, Bcrypt.verify_eq_of_hash lawful hashed apart,
    Except.ok.injEq, decide_eq_true_iff, keyBytes_tokenDigest_inj]

/-- Tokens are keyed alike only where they are digested alike. As far as neither the digest nor the
slow function collides on two tokens, what is stored of one accepts the other only if they are the
same. Whatever is stored, a comparison answers whether it matches. -/
theorem tokens_told_apart (core : Bcrypt.Core) (token other : String) :
    (Bcrypt.effectiveKey (tokenDigest token) = tokenDigest token ++ [0] ∧
      (Bcrypt.effectiveKey (tokenDigest other) = Bcrypt.effectiveKey (tokenDigest token) ↔
        Sha2.sha256 (Utf8.ofString other) = Sha2.sha256 (Utf8.ofString token)) ∧
      (Bcrypt.keyBytes (tokenDigest other) = Bcrypt.keyBytes (tokenDigest token) ↔
        Sha2.sha256 (Utf8.ofString other) = Sha2.sha256 (Utf8.ofString token))) ∧
    (∀ cost salt, Bcrypt.Lawful core → Bcrypt.costAllowed cost = true →
      (Sha2.sha256 (Utf8.ofString other) = Sha2.sha256 (Utf8.ofString token) → other = token) →
      Bcrypt.TellsApart core cost salt (tokenDigest other) (tokenDigest token) →
      ∃ stored, (ofCore core cost).hashToken salt token = .ok stored ∧ ∀ later,
        ((ofCore core later).verifyToken other stored = true ↔ other = token)) ∧
    ∀ later stored, ((ofCore core later).verifyToken token stored = true ↔
      Bcrypt.Matches core (tokenDigest token) stored) := by
  refine ⟨⟨effectiveKey_tokenDigest token, effectiveKey_tokenDigest_inj,
    keyBytes_tokenDigest_inj⟩, ?_, fun _ _ => verifyToken_iff⟩
  intro cost salt lawful allowed distinct apart
  obtain ⟨stored, hashed⟩ := Bcrypt.exists_hash_of_allowed allowed core salt (tokenDigest token)
  refine ⟨stored, hashed, fun later => ?_⟩
  rw [verifyToken_iff_of_hash lawful apart hashed later]
  exact ⟨distinct, fun same => by rw [same]⟩

/-- Two tokens with a front of 72 bytes in common. -/
def longToken (last : Char) : String := String.ofList (List.replicate 72 'x' ++ [last])

/-- They are told apart, and what is not a hash is neither's. -/
theorem tokens_told_apart_behind_front :
    Bcrypt.Lawful Bcrypt.spelling ∧ Bcrypt.costAllowed 4 = true ∧
    Bcrypt.TellsApart Bcrypt.spelling 4 (Bcrypt.Salt.ofNat 7) (tokenDigest (longToken 'b'))
      (tokenDigest (longToken 'a')) ∧
    (∃ stored, (ofCore Bcrypt.spelling 4).hashToken (Bcrypt.Salt.ofNat 7) (longToken 'a') =
        .ok stored ∧
      (ofCore Bcrypt.spelling 4).verifyToken (longToken 'b') stored = false) ∧
    (ofCore Bcrypt.spelling 4).verifyToken (longToken 'a') "" = false := by
  have digests : (Bcrypt.spelling 4 (Bcrypt.Salt.ofNat 7).bytes
        (Bcrypt.effectiveKey (tokenDigest (longToken 'b')))).take Bcrypt.digestSize ≠
      (Bcrypt.spelling 4 (Bcrypt.Salt.ofNat 7).bytes
        (Bcrypt.effectiveKey (tokenDigest (longToken 'a')))).take Bcrypt.digestSize := by
    decide +kernel
  have apart : Bcrypt.TellsApart Bcrypt.spelling 4 (Bcrypt.Salt.ofNat 7)
      (tokenDigest (longToken 'b')) (tokenDigest (longToken 'a')) := fun _ => digests
  have different : longToken 'b' ≠ longToken 'a' := by
    intro same
    rw [same] at digests
    exact digests rfl
  have distinct : Sha2.sha256 (Utf8.ofString (longToken 'b')) =
      Sha2.sha256 (Utf8.ofString (longToken 'a')) → longToken 'b' = longToken 'a' := by
    intro same
    rw [tokenDigest_inj.mpr same] at digests
    exact absurd rfl digests
  have unread : ¬Bcrypt.Matches Bcrypt.spelling (tokenDigest (longToken 'a')) "" := by
    rintro ⟨parts, salt, hparts, -⟩
    have hsplit : Bcrypt.split "" = .error (.hash "") := by rfl
    rw [hsplit] at hparts
    cases hparts
  have allowed : Bcrypt.costAllowed 4 = true := by decide
  obtain ⟨-, told, answers⟩ :=
    tokens_told_apart Bcrypt.spelling (longToken 'a') (longToken 'b')
  obtain ⟨stored, hashed, accepts⟩ :=
    told 4 (Bcrypt.Salt.ofNat 7) Bcrypt.lawful_spelling allowed distinct apart
  exact ⟨Bcrypt.lawful_spelling, allowed, apart,
    ⟨stored, hashed, Bool.eq_false_iff.mpr (mt (accepts 4).mp different)⟩,
    Bool.eq_false_iff.mpr (mt (answers 4 "").mp unread)⟩

end SecretHasher

end SessionAuth
