import SessionAuth.Proofs.SideBySide
import SessionAuth.Proofs.Store.Uniqueness

/-!
# Stores that agree for an owner

Two stores agree for an owner if they keep the same accounts and the same records of this owner,
whatever records of others they keep, and in whatever order. An operation on accounts has the
same answer on both and leaves them in agreement. So has an operation on the records of the
owner, but for the order of records that were made at the same time. Only under an identifier
that belongs to someone else the stores may have different things, and then neither of them has
a record of the owner there.

## Main definitions

* `Store.AgreesFor` — two stores differ in the records of others at most

## Main results

* `Store.AgreesFor.respond_accounts` — operations on accounts are responded to alike
* `Store.AgreesFor.token?_cases` — both stores find the same record of the owner, or neither does
* `Store.tokensOf_of_perm` — the order in which records are kept does not matter to their list
* `Store.AgreesFor.tokensOf` — the records of the owner are listed alike
* `Store.AgreesFor.insertToken`, `Store.AgreesFor.revokeToken` — a record of the owner is put in
  and revoked alike
-/

namespace SessionAuth.Store

/-- Two stores keep the same accounts and the same records of an owner, and no two records in
either of them share an identifier. -/
structure AgreesFor (owner : Int32) (store other : Store) : Prop where
  lastId : other.lastId = store.lastId
  accounts : other.accounts = store.accounts
  records : ∀ record : PersonalToken, record.owner = owner →
    (record ∈ other.tokens ↔ record ∈ store.tokens)
  ids : (store.tokens.map (·.id)).Nodup
  otherIds : (other.tokens.map (·.id)).Nodup

variable {store other : Store} {owner : Int32} {record : PersonalToken} {id : Uuid}

/-- In stores that operations lead to, identifiers are not shared. -/
theorem AgreesFor.of_reachable (reachable : store.Reachable) (reachable' : other.Reachable)
    (lastId : other.lastId = store.lastId) (accounts : other.accounts = store.accounts)
    (records : ∀ record : PersonalToken, record.owner = owner →
      (record ∈ other.tokens ↔ record ∈ store.tokens)) : store.AgreesFor owner other :=
  ⟨lastId, accounts, records, reachable.distinct.records, reachable'.distinct.records⟩

namespace AgreesFor

theorem symm (agrees : store.AgreesFor owner other) : other.AgreesFor owner store :=
  ⟨agrees.lastId.symm, agrees.accounts.symm, fun record own => (agrees.records record own).symm,
    agrees.otherIds, agrees.ids⟩

theorem account? (agrees : store.AgreesFor owner other) (id : Int32) :
    other.account? id = store.account? id := by
  rw [Store.account?, Store.account?, agrees.accounts]

end AgreesFor

/-! ## Operations on accounts -/

/-- An operation on accounts does not look at the records. -/
theorem respond_withTokens (store : Store) {op : StoreCall} (side : op.side = .accounts)
    (tokens : List PersonalToken) :
    respond { store with tokens := tokens } op =
      ((store.respond op).1, { (store.respond op).2 with tokens := tokens }) := by
  -- Accounts are looked up without the records.
  have found (id : Int32) : account? { store with tokens := tokens } id = store.account? id := rfl
  have foundByEmail (email : String) :
      accountByEmail? { store with tokens := tokens } email = store.accountByEmail? email := rfl
  cases op with
  | ping | findAccount | findByEmail => rfl
  | createAccount new now =>
    rw [respond_createAccount, respond_createAccount, foundByEmail]
    split <;> rfl
  | recordLogin id hash now =>
    rw [respond_recordLogin, respond_recordLogin, found]
    split <;> rfl
  | recordLogout id now =>
    rw [respond_recordLogout, respond_recordLogout, found]
    split <;> rfl
  | swapRefreshHash id expected new now =>
    rw [respond_swapRefreshHash, respond_swapRefreshHash, found]
    cases store.account? id with
    | none => rfl
    | some account =>
      simp only
      split <;> rfl
  | updateStatus id change =>
    rw [respond_updateStatus, respond_updateStatus, found]
    cases store.account? id <;> rfl
  | updateRole id role =>
    rw [respond_updateRole, respond_updateRole, found]
    cases store.account? id <;> rfl
  | insertToken | findToken | tokensOf | findActiveToken | revokeToken => cases side

namespace AgreesFor

/-- Stores that agree respond alike to an operation on accounts, and go on to agree. -/
theorem respond_accounts (agrees : store.AgreesFor owner other) {op : StoreCall}
    (side : op.side = .accounts) : RespondAlike (AgreesFor owner) store other op := by
  have hother : other = { store with tokens := other.tokens } := by
    rw [← agrees.accounts, ← agrees.lastId]
  have right := store.respond_withTokens side other.tokens
  rw [← hother] at right
  have tokens := store.tokens_respond side
  constructor
  case answers => rw [right]
  case stores =>
    rw [right]
    refine ⟨rfl, rfl, ?_, ?_, agrees.otherIds⟩
    · rw [tokens]
      exact agrees.records
    · rw [tokens]
      exact agrees.ids

/-! ## Records of the owner -/

theorem token?_iff (agrees : store.AgreesFor owner other) (own : record.owner = owner) :
    other.token? id = some record ↔ store.token? id = some record := by
  rw [token?_eq_some_iff agrees.ids, token?_eq_some_iff agrees.otherIds,
    agrees.records record own]

/-- Under an identifier both stores find the same record of the owner, or neither finds one. -/
theorem token?_cases (agrees : store.AgreesFor owner other) (id : Uuid) :
    (∃ record, record.owner = owner ∧ store.token? id = some record ∧
      other.token? id = some record) ∨
    (∀ record, store.token? id = some record → record.owner ≠ owner) ∧
      ∀ record, other.token? id = some record → record.owner ≠ owner := by
  by_cases found : ∃ record, store.token? id = some record ∧ record.owner = owner
  · obtain ⟨record, hrecord, own⟩ := found
    exact .inl ⟨record, own, hrecord, (agrees.token?_iff own).mpr hrecord⟩
  · exact .inr ⟨fun record hrecord own => found ⟨record, hrecord, own⟩,
      fun record hrecord own => found ⟨record, (agrees.token?_iff own).mp hrecord, own⟩⟩

/-- A name is taken in both stores or in neither. -/
theorem isSome_activeToken? (agrees : store.AgreesFor owner other) (name : String) :
    (other.activeToken? owner name).isSome = (store.activeToken? owner name).isSome := by
  have own {record : PersonalToken} (active : isActive owner name record = true) :
      record.owner = owner := by
    simp only [isActive, Bool.and_eq_true, decide_eq_true_eq] at active
    exact active.1.1
  rw [Bool.eq_iff_iff, activeToken?, activeToken?, List.find?_isSome, List.find?_isSome]
  constructor
  · rintro ⟨record, mem, active⟩
    exact ⟨record, (agrees.records record (own active)).mp mem, active⟩
  · rintro ⟨record, mem, active⟩
    exact ⟨record, (agrees.records record (own active)).mpr mem, active⟩

end AgreesFor

/-- The records of an owner are listed by the time of their making, the newest first. -/
theorem pairwise_tokensOf (store : Store) (owner : Int32) :
    ((store.tokensOf owner).map (·.createdAt)).Pairwise fun s t => t ≤ s := by
  rw [List.pairwise_map]
  apply List.pairwise_mergeSort
  · exact fun a b c hab hbc => Instant.le_trans hbc hab
  · intro a b
    rw [Bool.or_eq_true]
    exact Instant.le_total b.createdAt a.createdAt

/-- The records of an owner are listed, each once. -/
theorem perm_tokensOf (store : Store) (owner : Int32) :
    (store.tokensOf owner).Perm (store.tokens.filter (·.owner = owner)) :=
  List.mergeSort_perm _ _

/-- The same records are listed with the same times one behind the other, in whatever order they
are kept. So only records of the same time may stand in another order. -/
theorem tokensOf_of_perm (perm : (other.tokens.filter (·.owner = owner)).Perm
      (store.tokens.filter (·.owner = owner))) :
    (other.tokensOf owner).Perm (store.tokensOf owner) ∧
      (other.tokensOf owner).map (·.createdAt) = (store.tokensOf owner).map (·.createdAt) := by
  have hperm : (other.tokensOf owner).Perm (store.tokensOf owner) :=
    (perm_tokensOf other owner).trans (perm.trans (perm_tokensOf store owner).symm)
  refine ⟨hperm, ?_⟩
  exact (hperm.map _).eq_of_pairwise (fun s t _ _ hts hst => Instant.le_antisymm hst hts)
    (pairwise_tokensOf other owner) (pairwise_tokensOf store owner)

namespace AgreesFor

/-- The records of the owner are listed alike. -/
theorem tokensOf (agrees : store.AgreesFor owner other) :
    (other.tokensOf owner).Perm (store.tokensOf owner) ∧
      (other.tokensOf owner).map (·.createdAt) = (store.tokensOf owner).map (·.createdAt) := by
  apply tokensOf_of_perm
  rw [List.perm_ext_iff_of_nodup ((List.Nodup.of_map _ agrees.otherIds).filter _)
    ((List.Nodup.of_map _ agrees.ids).filter _)]
  intro record
  rw [List.mem_filter, List.mem_filter, decide_eq_true_eq]
  exact and_congr_left (agrees.records record)

/-- A record of the owner is put into both stores, or its name is taken in both. -/
theorem insertToken (agrees : store.AgreesFor owner other) (record : PersonalToken)
    (own : record.owner = owner) :
    RespondAlike (AgreesFor owner) store other (.insertToken record) := by
  have taken := agrees.isSome_activeToken? record.name
  rw [← own] at taken
  have left : store.respond (.insertToken record) = _ := respond_insertToken
  have right : other.respond (.insertToken record) = _ := respond_insertToken
  rw [taken] at right
  split at left
  · next h =>
    rw [if_pos h] at right
    exact .of_respond left right agrees
  · next h =>
    rw [if_neg h] at right
    have ids := (store.tokensChange_respond (.insertToken record)).records agrees.ids
    have otherIds := (other.tokensChange_respond (.insertToken record)).records agrees.otherIds
    rw [left] at ids
    rw [right] at otherIds
    refine .of_respond left right ⟨agrees.lastId, agrees.accounts, ?_, ids, otherIds⟩
    intro kept own
    simp only [List.mem_append, List.mem_filter, agrees.records kept own]

/-- A record of the owner that both stores have is revoked in both, or was so already. -/
theorem revokeToken (agrees : store.AgreesFor owner other) (own : record.owner = owner)
    (found : store.token? id = some record) :
    RespondAlike (AgreesFor owner) store other (.revokeToken id) := by
  have left : store.respond (.revokeToken id) = _ := respond_revokeToken
  have right : other.respond (.revokeToken id) = _ := respond_revokeToken
  rw [Store.revokeToken, found] at left
  rw [Store.revokeToken, (agrees.token?_iff own).mpr found] at right
  simp only at left right
  cases revoked : record.revoked with
  | true =>
    rw [revoked] at left right
    exact .of_respond left right agrees
  | false =>
    rw [revoked] at left right
    have ids := (store.tokensChange_respond (.revokeToken id)).records agrees.ids
    have otherIds := (other.tokensChange_respond (.revokeToken id)).records agrees.otherIds
    rw [left] at ids
    rw [right] at otherIds
    refine .of_respond left right ⟨agrees.lastId, agrees.accounts, ?_, ids, otherIds⟩
    intro kept ownKept
    -- The mark does not change the owner, so what was marked was a record of the owner.
    have before {t : PersonalToken}
        (marked : (if t.id = id then { t with revoked := true } else t) = kept) :
        t.owner = owner := by
      rw [← ownKept, ← marked]
      split <;> rfl
    simp only [Bool.false_eq_true, if_false, List.mem_map]
    constructor
    · rintro ⟨t, mem, marked⟩
      exact ⟨t, (agrees.records t (before marked)).mp mem, marked⟩
    · rintro ⟨t, mem, marked⟩
      exact ⟨t, (agrees.records t (before marked)).mpr mem, marked⟩

end AgreesFor

end SessionAuth.Store
