import SessionAuth.Store

/-!
# What is found in a store

A store is seen through what it answers: the account and the record of an identifier. Each
operation that changes a store is described here by what is found afterwards, so that
nothing else has to look into its lists.

## Main results

* `Store.account?_modifyAccount` — only the account of the identifier is changed
* `Store.createAccount_eq_ok_iff` — when an account is made
* `Store.token?_insertToken`, `Store.token?_revokeToken` — the record of an identifier behind
  an insertion and a revocation
* `Store.accounts_respond`, `Store.tokens_respond` — an operation keeps the half it does not
  go to
-/

namespace SessionAuth.Store

variable {store after : Store} {id other : Int32} {change : Account → Account}

/-! ## Accounts -/

/-- A change that keeps identifiers changes the account of one of them and no other. -/
theorem account?_modifyAccount (keeps : ∀ account, (change account).id = account.id) :
    (store.modifyAccount id change).account? other =
      (store.account? other).map fun account =>
        if account.id = id then change account else account := by
  unfold account? modifyAccount
  rw [List.find?_map]
  congr 2
  funext account
  by_cases h : account.id = id
  · simp [h, keeps]
  · simp [h]

theorem account?_modifyAccount_self (keeps : ∀ account, (change account).id = account.id) :
    (store.modifyAccount id change).account? id = (store.account? id).map change := by
  rw [account?_modifyAccount keeps]
  cases h : store.account? id with
  | none => rfl
  | some account => simp [account?_id h]

theorem account?_modifyAccount_of_ne (keeps : ∀ account, (change account).id = account.id)
    (h : other ≠ id) :
    (store.modifyAccount id change).account? other = store.account? other := by
  rw [account?_modifyAccount keeps]
  cases hother : store.account? other with
  | none => rfl
  | some account => simp [account?_id hother, h]

/-- A change of an account keeps the records of personal tokens, whatever is answered. -/
theorem tokens_changeAccount : (store.changeAccount id change).2.tokens = store.tokens := by
  unfold changeAccount
  split <;> rfl

/-- An account is made exactly where its email address is new. -/
theorem createAccount_eq_ok_iff {new : NewAccount} {now : Instant} {account : Account} :
    store.createAccount new now = (.ok account, after) ↔
      store.accountByEmail? new.email = none ∧
        account = Account.create (store.lastId + 1) new now ∧
        after = { store with
          lastId := store.lastId + 1, accounts := store.accounts ++ [account] } := by
  unfold createAccount
  constructor
  · intro h
    split at h
    · cases h
    · next hnew =>
      cases h
      exact ⟨by simpa using hnew, rfl, rfl⟩
  · rintro ⟨hnew, rfl, rfl⟩
    rw [if_neg (by simp [hnew])]
    rfl

/-- Where the hash is not the expected one nothing changes. -/
theorem eq_of_swapRefreshHash_eq_false {expected new : String} {now : Instant}
    (h : store.swapRefreshHash id expected new now = (.ok false, after)) : after = store := by
  unfold swapRefreshHash at h
  split at h
  · cases h
  · split at h
    · cases h
    · cases h
      rfl

/-! ## Records of personal tokens -/

/-- An insertion puts its record under the record's identifier, in place of one that may have
been there, and keeps every other. -/
theorem token?_insertToken {record : PersonalToken} {key : Uuid}
    (h : store.insertToken record = (.ok (), after)) :
    after.token? key = if key = record.id then some record else store.token? key := by
  unfold insertToken at h
  split at h
  · cases h
  cases h
  unfold token?
  rw [List.find?_append]
  by_cases hkey : key = record.id
  · subst hkey
    -- Nothing of the identifier is left in front of the new record.
    have hnone : (store.tokens.filter (·.id ≠ record.id)).find? (·.id = record.id) = none := by
      rw [List.find?_eq_none]
      intro other hother
      simpa using (List.mem_filter.mp hother).2
    rw [hnone, if_pos rfl]
    simp
  · have hfront : (store.tokens.filter (·.id ≠ record.id)).find? (·.id = key) =
        store.tokens.find? (·.id = key) := by
      rw [List.find?_filter]
      congr 1
      funext other
      by_cases hother : other.id = key
      · simp [hother, hkey]
      · simp [hother]
    have hlast : ¬record.id = key := fun heq => hkey heq.symm
    rw [hfront, if_neg hkey]
    simp [hlast]

/-- A revocation succeeds exactly on a record that is there and not revoked. -/
theorem revokeToken_fst_iff {key : Uuid} :
    (store.revokeToken key).1 = true ↔
      ∃ record, store.token? key = some record ∧ record.revoked = false := by
  unfold revokeToken
  constructor
  · intro h
    split at h
    · next record hrecord =>
      split at h
      · cases h
      · next hactive => exact ⟨record, hrecord, by simpa using hactive⟩
    · cases h
  · rintro ⟨record, hrecord, hactive⟩
    rw [hrecord]
    simp [hactive]

/-- After a revocation the record of the identifier is revoked, and every other is as before. -/
theorem token?_revokeToken {key place : Uuid} :
    (store.revokeToken key).2.token? place =
      (store.token? place).map fun record =>
        if record.id = key then { record with revoked := true } else record := by
  unfold revokeToken
  split
  · next record hrecord =>
    split
    · next hrevoked =>
      -- The record was revoked already, so that setting the mark changes nothing.
      cases hplace : store.token? place with
      | none => rfl
      | some found =>
        by_cases hfound : found.id = key
        · have hsame : found = record := by
            rw [token?_id hplace] at hfound
            subst hfound
            exact Option.some.inj (hplace.symm.trans hrecord)
          subst hsame
          obtain ⟨fid, owner, name, createdAt, expiresAt, tokenHash, revoked⟩ := found
          cases hrevoked
          simp
        · simp [hfound]
    · unfold token?
      rw [List.find?_map]
      congr 2
      funext found
      by_cases h : found.id = key
      · simp [h]
      · simp [h]
  · next hnone =>
    cases hplace : store.token? place with
    | none => rfl
    | some found =>
      have hne : found.id ≠ key := by
        intro heq
        rw [token?_id hplace] at heq
        subst heq
        rw [hplace] at hnone
        cases hnone
      simp [hne]

/-- The list of an owner's records holds exactly these. -/
theorem mem_tokensOf {owner : Int32} {record : PersonalToken} :
    record ∈ store.tokensOf owner ↔ record ∈ store.tokens ∧ record.owner = owner := by
  simp [tokensOf]

/-! ## The other half -/

/-- An operation on records of personal tokens keeps the accounts. -/
theorem accounts_respond {op : StoreCall} (side : op.side = .tokens) :
    (store.respond op).2.accounts = store.accounts ∧
      (store.respond op).2.lastId = store.lastId := by
  cases op with
  | insertToken record =>
    simp only [respond, insertToken]
    split <;> exact ⟨rfl, rfl⟩
  | revokeToken key =>
    simp only [respond, revokeToken]
    split
    · split <;> exact ⟨rfl, rfl⟩
    · exact ⟨rfl, rfl⟩
  | findToken | tokensOf | findActiveToken => exact ⟨rfl, rfl⟩
  | _ => cases side

/-- An operation on accounts keeps the records of personal tokens. -/
theorem tokens_respond {op : StoreCall} (side : op.side = .accounts) :
    (store.respond op).2.tokens = store.tokens := by
  cases op with
  | createAccount new now =>
    simp only [respond, createAccount]
    split <;> rfl
  | swapRefreshHash id expected new now =>
    simp only [respond, swapRefreshHash]
    split
    · rfl
    · split <;> rfl
  | recordLogin | recordLogout | updateStatus | updateRole => exact tokens_changeAccount
  | ping | findAccount | findByEmail => rfl
  | _ => cases side

end SessionAuth.Store
