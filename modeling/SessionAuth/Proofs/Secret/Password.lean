import SessionAuth.Proofs.Effect
import SessionAuth.Proofs.Secret.Keying

/-!
# Which passwords a stored hash accepts

Passwords go to the slow function as they are. What is stored of a password accepts this one and
every other with the same key bytes, and then an account lets either in. Passwords without a zero
character are told apart as far as their first 72 bytes go, so what is longer is let in with any
end. With no more bytes than these, and where the slow function gives different keys different
digests, a stored hash accepts nothing but its own password.

## Main definitions

* `SecretHasher.Alike` — passwords that no stored hash tells apart

## Main results

* `SecretHasher.alike_iff_take`, `SecretHasher.alike_iff_eq` — which passwords are alike
* `SecretHasher.alike_of_front`, `SecretHasher.alike_repeated` — how they differ nevertheless
* `SecretHasher.password_decides` — what is stored of a password accepts those that are alike
-/

namespace SessionAuth

namespace SecretHasher

variable {core : Bcrypt.Core} {cost : Nat} {password other : String}

/-- The slow function is keyed with the same bytes for both passwords. -/
def Alike (password other : String) : Prop :=
  Bcrypt.keyBytes (Utf8.ofString other) = Bcrypt.keyBytes (Utf8.ofString password)

instance (password other : String) : Decidable (Alike password other) :=
  inferInstanceAs (Decidable (_ = _))

/-! ## Passwords that are alike -/

/-- Without a zero, passwords are alike where they agree as far as they count. -/
theorem alike_iff_take (plain : '\x00' ∉ password.toList) (plain' : '\x00' ∉ other.toList) :
    Alike password other ↔
      (Utf8.ofString other).take Bcrypt.maxKey = (Utf8.ofString password).take Bcrypt.maxKey :=
  Bcrypt.keyBytes_eq_iff (mt Utf8.zero_mem_encode_iff.mp plain')
    (mt Utf8.zero_mem_encode_iff.mp plain)

/-- Without a zero, and where all of them counts, passwords are like none but themselves. -/
theorem alike_iff_eq (plain : '\x00' ∉ password.toList) (plain' : '\x00' ∉ other.toList)
    (fits : (Utf8.ofString password).length ≤ Bcrypt.maxKey)
    (fits' : (Utf8.ofString other).length ≤ Bcrypt.maxKey) :
    Alike password other ↔ other = password := by
  rw [alike_iff_take plain plain', List.take_of_length_le fits, List.take_of_length_le fits']
  exact Utf8.ofString_inj

/-- What stands behind a front that fills the key does not count. -/
theorem alike_of_front {front : List Char} (full : Bcrypt.maxKey ≤ (Utf8.encode front).length)
    (back back' : List Char) :
    Alike (String.ofList (front ++ back)) (String.ofList (front ++ back')) := by
  have key (back : List Char) : Bcrypt.effectiveKey (Utf8.encode (front ++ back)) =
      (Utf8.encode front).take Bcrypt.maxKey := by
    rw [Bcrypt.effectiveKey, Utf8.encode_append, List.append_assoc,
      List.take_append_of_le_length full]
  unfold Alike Utf8.ofString Bcrypt.keyBytes
  rw [String.toList_ofList, String.toList_ofList, key, key]

/-- A password is like itself repeated behind a zero. -/
theorem alike_repeated (password : String) : Alike password (password ++ "\x00" ++ password) := by
  have hbytes : Utf8.ofString (password ++ "\x00" ++ password) =
      Utf8.ofString password ++ 0 :: Utf8.ofString password := by
    unfold Utf8.ofString
    rw [String.toList_append, String.toList_append, Utf8.encode_append, Utf8.encode_append,
      List.append_assoc]
    rfl
  unfold Alike
  rw [hbytes, Bcrypt.keyBytes_repeated]

/-! ## Passwords and what is stored of them -/

/-- What is stored of a password accepts this one, and of others those that are alike, as far as
the slow function tells the two apart; and so does the account. Passwords without a zero are alike
where they agree as far as they count. -/
theorem password_decides (lawful : Bcrypt.Lawful core) (allowed : Bcrypt.costAllowed cost = true)
    (salt : Bcrypt.Salt)
    (apart : Bcrypt.TellsApart core cost salt (Utf8.ofString other) (Utf8.ofString password)) :
    (∃ stored, (ofCore core cost).hashPassword salt password = .ok stored ∧ ∀ later,
      (ofCore core later).verifyPassword password stored = .ok true ∧
      (ofCore core later).verifyPassword other stored = .ok (decide (Alike password other)) ∧
      ∀ (sessions : Sessions) (store : Store) (account : Account),
        sessions.hasher = ofCore core later →
        store.accountByEmail? account.email = some account → account.passwordHash = stored →
        (sessions.authenticate account.email other).exec store =
          (if Alike password other then account.checkStatus.map fun _ => account
            else .error .wrongCredentials, store)) ∧
    ('\x00' ∉ password.toList → '\x00' ∉ other.toList →
      (Alike password other ↔ (Utf8.ofString other).take Bcrypt.maxKey =
        (Utf8.ofString password).take Bcrypt.maxKey) ∧
      ((Utf8.ofString password).length ≤ Bcrypt.maxKey →
        (Utf8.ofString other).length ≤ Bcrypt.maxKey →
        (Alike password other ↔ other = password))) := by
  refine ⟨?_, fun plain plain' => ⟨alike_iff_take plain plain', alike_iff_eq plain plain'⟩⟩
  obtain ⟨stored, hashed⟩ :=
    Bcrypt.exists_hash_of_allowed allowed core salt (Utf8.ofString password)
  have accepts := Bcrypt.verify_eq_of_hash lawful hashed apart
  refine ⟨stored, hashed, fun later => ⟨Bcrypt.verify_hash lawful.size hashed, accepts, ?_⟩⟩
  intro sessions store account hasher found kept
  have verified : sessions.hasher.verifyPassword other account.passwordHash =
      .ok (decide (Alike password other)) := by
    rw [hasher, kept]
    exact accepts
  simp only [Sessions.exec_authenticate_eq, found, verified]
  by_cases alike : Alike password other
  · simp only [alike, decide_true, Account.identified, if_true]
  · simp only [alike, decide_false, Account.identified, if_false]

/-- A password of few characters is told from one that goes on behind it. -/
theorem password_decides_longer :
    Bcrypt.Lawful Bcrypt.spelling ∧ Bcrypt.costAllowed 4 = true ∧
    Bcrypt.TellsApart Bcrypt.spelling 4 (Bcrypt.Salt.ofNat 7) (Utf8.ofString "correct horses")
      (Utf8.ofString "correct horse") ∧
    ∃ stored, (ofCore Bcrypt.spelling 4).hashPassword (Bcrypt.Salt.ofNat 7) "correct horse" =
        .ok stored ∧
      (ofCore Bcrypt.spelling 4).verifyPassword "correct horse" stored = .ok true ∧
      (ofCore Bcrypt.spelling 4).verifyPassword "correct horses" stored = .ok false := by
  have allowed : Bcrypt.costAllowed 4 = true := by decide
  have apart : Bcrypt.TellsApart Bcrypt.spelling 4 (Bcrypt.Salt.ofNat 7)
      (Utf8.ofString "correct horses") (Utf8.ofString "correct horse") :=
    fun _ => by decide +kernel
  obtain ⟨⟨stored, hashed, accepts⟩, decides⟩ :=
    password_decides Bcrypt.lawful_spelling allowed (Bcrypt.Salt.ofNat 7) apart
  obtain ⟨own, other, -⟩ := accepts 4
  obtain ⟨-, alike⟩ := decides (by decide) (by decide)
  have different : ¬Alike "correct horse" "correct horses" :=
    mt (alike (by decide) (by decide)).mp (by decide)
  rw [decide_eq_false different] at other
  exact ⟨Bcrypt.lawful_spelling, allowed, apart, stored, hashed, own, other⟩

/-- What is stored of a password of 73 bytes accepts another one, which ends differently. -/
theorem password_not_told_from_other_end :
    String.ofList (List.replicate 72 'x' ++ ['a']) ≠
      String.ofList (List.replicate 72 'x' ++ ['b']) ∧
    Bcrypt.costAllowed 4 = true ∧
    ∃ stored, (ofCost 4).hashPassword (Bcrypt.Salt.ofNat 7)
        (String.ofList (List.replicate 72 'x' ++ ['a'])) = .ok stored ∧
      (ofCost 4).verifyPassword (String.ofList (List.replicate 72 'x' ++ ['b'])) stored =
        .ok true := by
  have allowed : Bcrypt.costAllowed 4 = true := by decide
  have different : String.ofList (List.replicate 72 'x' ++ ['a']) ≠
      String.ofList (List.replicate 72 'x' ++ ['b']) := by
    rw [ne_eq, String.ofList_inj]
    decide
  have full : Bcrypt.maxKey ≤ (Utf8.encode (List.replicate 72 'x')).length := by decide
  obtain ⟨stored, hashed⟩ := Bcrypt.exists_hash_of_allowed allowed Bcrypt.blowfish
    (Bcrypt.Salt.ofNat 7) (Utf8.ofString (String.ofList (List.replicate 72 'x' ++ ['a'])))
  exact ⟨different, allowed, stored, hashed,
    Bcrypt.verify_of_keyBytes_eq Bcrypt.lawful_blowfish hashed (alike_of_front full ['a'] ['b'])⟩

end SecretHasher

end SessionAuth
