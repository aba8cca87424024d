import Mathlib.Data.List.GetD
import SessionAuth.Proofs.Secret

/-!
# What a slow hash is keyed with

A slow function reads its key over and over, up to 72 bytes, and knows nothing else of a secret.
So no hash tells two secrets apart of which these bytes agree: one may go on behind the bytes that
count, or repeat itself behind a zero. For secrets without a zero byte the first is the only way.
Where two secrets do differ in these bytes, what is stored of one is the other's only if the slow
function happens to give both the same digest.

## Main definitions

* `Bcrypt.keyBytes` — the bytes that a slow function is keyed with
* `Bcrypt.Lawful` — a slow function that knows nothing else of a secret
* `Bcrypt.TellsApart` — the digests of two secrets differ as their key bytes do

## Main results

* `Bcrypt.lawful_blowfish` — the slow function in use is lawful
* `Bcrypt.keyBytes_eq_iff` — which secrets without a zero have the same key bytes
* `Bcrypt.keyBytes_repeated` — those with a zero may repeat themselves
* `Bcrypt.verify_eq_of_hash` — key bytes decide whether a secret belongs to what is stored
-/

namespace SessionAuth

namespace Bcrypt

variable {core : Core} {cost : Nat} {salt : Salt} {secret other : List UInt8} {stored : String}

/-! ## The bytes of a key -/

/-- A key read over and over, up to the most bytes that count. -/
def cycled (key : List UInt8) : List UInt8 :=
  (List.range maxKey).map fun place => key.getD (place % key.length) 0

/-- The bytes that a slow function is keyed with: what counts of a secret, over and over. -/
def keyBytes (secret : List UInt8) : List UInt8 := cycled (effectiveKey secret)

/-- A slow function gives enough bytes, and of a secret it knows only its key bytes. -/
structure Lawful (core : Core) : Prop where
  size : ∀ cost salt key, digestSize ≤ (core cost salt key).length
  keyed : ∀ cost salt (secret other : List UInt8), keyBytes secret = keyBytes other →
    core cost salt (effectiveKey secret) = core cost salt (effectiveKey other)

theorem length_cycled (key : List UInt8) : (cycled key).length = maxKey := by
  rw [cycled, List.length_map, List.length_range]

theorem getD_cycled (key : List UInt8) {place : Nat} (h : place < maxKey) :
    (cycled key).getD place 0 = key.getD (place % key.length) 0 := by
  have hplace : (List.range maxKey)[place]? = some place := List.getElem?_range h
  rw [cycled, List.getD_eq_getElem?_getD, List.getElem?_map, hplace, Option.map_some,
    Option.getD_some]

/-- The words of a key are those of the bytes that it is read as. -/
theorem cycledWords_eq (key : List UInt8) :
    Blowfish.cycledWords 18 key = Array.ofFn fun i : Fin 18 =>
      Blowfish.wordOf ((List.range 4).map fun j => (cycled key).getD (4 * i + j) 0) := by
  refine congrArg Array.ofFn (funext fun i => congrArg Blowfish.wordOf ?_)
  refine List.map_congr_left fun j hj => ?_
  have hi := i.isLt
  have hj : j < 4 := List.mem_range.mp hj
  have hplace : 4 * i.val + j < maxKey := by
    unfold maxKey
    omega
  rw [getD_cycled key hplace, List.size_toArray, Array.getD_eq_getD_getElem?, List.getElem?_toArray,
    List.getD_eq_getElem?_getD]

theorem lawful_blowfish : Lawful blowfish where
  size := digestSize_le_blowfish
  keyed cost salt secret other same := by
    have words : Blowfish.cycledWords 18 (effectiveKey secret) =
        Blowfish.cycledWords 18 (effectiveKey other) := by
      rw [cycledWords_eq, cycledWords_eq]
      exact congrArg (fun bytes : List UInt8 => Array.ofFn fun i : Fin 18 =>
        Blowfish.wordOf ((List.range 4).map fun j => bytes.getD (4 * i + j) 0)) same
    simp only [blowfish, words]

/-! ## Secrets with the same key bytes -/

theorem length_effectiveKey (secret : List UInt8) :
    (effectiveKey secret).length = min maxKey (secret.length + 1) := by
  rw [effectiveKey, List.length_take, List.length_append, List.length_singleton]

/-- Each key byte is one of the secret with a zero behind it, read over and over. -/
theorem getD_keyBytes (secret : List UInt8) {place : Nat} (h : place < maxKey) :
    (keyBytes secret).getD place 0 = (secret ++ [0]).getD (place % (secret.length + 1)) 0 := by
  rw [keyBytes, getD_cycled _ h, length_effectiveKey, effectiveKey]
  by_cases fits : secret.length + 1 ≤ maxKey
  · rw [Nat.min_eq_right fits, List.take_of_length_le (by simpa using fits)]
  -- A key that is cut is not read a second time.
  · have hcut : place % min maxKey (secret.length + 1) = place := Nat.mod_eq_of_lt (by omega)
    rw [hcut, Nat.mod_eq_of_lt (by omega), List.getD_eq_getElem?_getD, List.getElem?_take_of_lt h,
      List.getD_eq_getElem?_getD]

/-- What stands behind the first bytes of a secret does not count. -/
theorem effectiveKey_take (secret : List UInt8) :
    effectiveKey (secret.take maxKey) = effectiveKey secret := by
  have hrest : maxKey - min maxKey secret.length = maxKey - secret.length := by omega
  rw [effectiveKey, effectiveKey, List.take_append, List.take_append, List.take_take, Nat.min_self,
    List.length_take, hrest]

/-- A key of at most as many bytes as count is read from its front to its end, and then on. -/
theorem prefix_cycled {key : List UInt8} (fits : key.length ≤ maxKey) : key <+: cycled key := by
  have front :
      (List.range key.length).map (fun place => key.getD (place % key.length) 0) = key := by
    refine List.ext_getElem (by simp) fun place h _ => ?_
    have hplace : place < key.length := by simpa using h
    simp [Nat.mod_eq_of_lt hplace, hplace]
  refine ⟨(List.range (maxKey - key.length)).map fun place =>
    key.getD ((key.length + place) % key.length) 0, ?_⟩
  have hrange : List.range maxKey = List.range key.length ++
      (List.range (maxKey - key.length)).map (key.length + ·) := by
    rw [← List.range_add, Nat.add_sub_cancel' fits]
  rw [cycled, hrange, List.map_append, front, List.map_map]
  rfl

/-- The bytes in front of the first zero are those of the secret, where it holds none. -/
theorem takeWhile_keyBytes (noZero : 0 ∉ secret) :
    (keyBytes secret).takeWhile (· ≠ 0) = secret.take maxKey := by
  have fits : (effectiveKey secret).length ≤ maxKey := by
    rw [length_effectiveKey]
    exact Nat.min_le_left _ _
  obtain ⟨rest, hrest⟩ := prefix_cycled fits
  have nonzero : ∀ b ∈ secret, decide (b ≠ 0) = true := by
    intro b mem
    simpa using fun zero : b = 0 => noZero (zero ▸ mem)
  rw [keyBytes, ← hrest]
  by_cases short : secret.length < maxKey
  -- The zero behind the secret is the first.
  · have hkey : effectiveKey secret = secret ++ [0] := by
      rw [effectiveKey, List.take_of_length_le (by simp; omega)]
    rw [hkey, List.append_assoc, List.takeWhile_append_of_pos nonzero,
      List.take_of_length_le (Nat.le_of_lt short)]
    simp
  -- The secret fills all that counts.
  · have hkey : effectiveKey secret = secret.take maxKey := by
      rw [effectiveKey, List.take_append_of_le_length (by omega)]
    have hall : rest = [] := by
      have hlength := congrArg List.length hrest
      rw [List.length_append, length_effectiveKey, length_cycled] at hlength
      exact List.length_eq_zero_iff.mp (by omega)
    rw [hall, hkey, List.takeWhile_append_of_pos fun b mem => nonzero b (List.mem_of_mem_take mem),
      List.takeWhile_nil, List.append_nil]

/-- Secrets without a zero have the same key bytes where they agree as far as they count. -/
theorem keyBytes_eq_iff (noZero : 0 ∉ secret) (noZero' : 0 ∉ other) :
    keyBytes secret = keyBytes other ↔ secret.take maxKey = other.take maxKey := by
  constructor
  · intro same
    rw [← takeWhile_keyBytes noZero, same, takeWhile_keyBytes noZero']
  · intro same
    rw [keyBytes, ← effectiveKey_take, same, effectiveKey_take, keyBytes]

/-- A secret that repeats itself behind a zero has the same key bytes. -/
theorem keyBytes_repeated (secret : List UInt8) :
    keyBytes (secret ++ 0 :: secret) = keyBytes secret := by
  have same {place : Nat} (h : place < maxKey) :
      (keyBytes (secret ++ 0 :: secret)).getD place 0 = (keyBytes secret).getD place 0 := by
    have htwice : secret ++ 0 :: secret ++ [0] = (secret ++ [0]) ++ (secret ++ [0]) := by simp
    have hlength : (secret ++ 0 :: secret).length + 1 = (secret.length + 1) * 2 := by
      simp only [List.length_append, List.length_cons]
      omega
    rw [getD_keyBytes _ h, getD_keyBytes _ h, htwice, hlength, Nat.mod_mul]
    rcases Nat.mod_two_eq_zero_or_one (place / (secret.length + 1)) with even | odd
    · rw [even, Nat.mul_zero, Nat.add_zero, List.getD_append]
      simpa using Nat.mod_lt place (Nat.succ_pos _)
    · rw [odd, Nat.mul_one, List.getD_append_right _ _ _ _ (by simp)]
      simp
  have hlength : (keyBytes (secret ++ 0 :: secret)).length = (keyBytes secret).length :=
    (length_cycled _).trans (length_cycled _).symm
  refine List.ext_getElem hlength fun place hplace hplace' => ?_
  have h : place < maxKey := (length_cycled _).symm ▸ hplace'
  rw [← List.getD_eq_getElem _ 0 hplace, ← List.getD_eq_getElem _ 0 hplace', same h]

/-! ## Comparing with what is stored -/

/-- The digests of two secrets differ where their key bytes do. -/
def TellsApart (core : Core) (cost : Nat) (salt : Salt) (secret other : List UInt8) : Prop :=
  keyBytes secret ≠ keyBytes other →
    (core cost salt.bytes (effectiveKey secret)).take digestSize ≠
      (core cost salt.bytes (effectiveKey other)).take digestSize

/-- Every secret with the same key bytes belongs to what is stored of a secret. -/
theorem verify_of_keyBytes_eq (lawful : Lawful core) (h : hash core cost salt secret = .ok stored)
    (same : keyBytes other = keyBytes secret) : verify core other stored = .ok true := by
  rw [verify_of_hash lawful.size h, lawful.keyed cost salt.bytes other secret same,
    beq_self_eq_true]

/-- Where digests differ as key bytes do, these decide whether a secret belongs to what is stored
of another. -/
theorem verify_eq_of_hash (lawful : Lawful core) (h : hash core cost salt secret = .ok stored)
    (apart : TellsApart core cost salt other secret) :
    verify core other stored = .ok (decide (keyBytes other = keyBytes secret)) := by
  by_cases same : keyBytes other = keyBytes secret
  · rw [verify_of_keyBytes_eq lawful h same, decide_eq_true same]
  · rw [verify_of_hash lawful.size h, decide_eq_false same, beq_eq_false_iff_ne.mpr (apart same)]

/-- A slow function whose digest is the key itself. -/
def spelling : Core := fun _ _ key => cycled key

theorem lawful_spelling : Lawful spelling where
  size _ _ key := by
    rw [spelling, length_cycled]
    decide
  keyed _ _ _ _ same := same

end Bcrypt

end SessionAuth
