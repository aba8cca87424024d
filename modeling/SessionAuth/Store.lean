import SessionAuth.Error
import SessionAuth.PersonalToken

/-!
# The store

The store keeps accounts and the records of personal tokens. Every operation answers or
fails, and leaves a store in either case. One that fails leaves the store as it was.

## Main definitions

* `Store` — what is kept
* `StoreCall` — the operations, with the type of their answers
* `Store.respond` — what an operation is answered, and the store that it leaves

## Main results

* `Store.account?_id`, `Store.token?_id` — what is found under an identifier has it
* `Store.respond_eq_self` — an operation that fails leaves the store as it was
-/

namespace SessionAuth

/-- What is kept: accounts in the order in which they were made, and the records of
personal tokens. -/
structure Store where
  /-- The identifier of the account that was made last, 0 before the first. -/
  lastId : Int32
  accounts : List Account
  tokens : List PersonalToken

/-- The operations of a store. -/
inductive StoreCall where
  /-- Answers if the accounts can be reached. -/
  | ping
  | findAccount (id : Int32)
  | findByEmail (email : String)
  | createAccount (new : NewAccount) (now : Instant)
  /-- Starts a session with the hash of its refresh token. -/
  | recordLogin (id : Int32) (hash : String) (now : Instant)
  /-- Replaces the hash of the refresh token if it is still the expected one. -/
  | swapRefreshHash (id : Int32) (expected new : String) (now : Instant)
  /-- Ends the session. -/
  | recordLogout (id : Int32) (now : Instant)
  | updateStatus (id : Int32) (change : StatusChange)
  | updateRole (id : Int32) (role : Role)
  | insertToken (record : PersonalToken)
  | findToken (id : Uuid)
  /-- All records of an owner, the newest first. -/
  | tokensOf (owner : Int32)
  /-- The record of an owner that has a name and is not revoked. -/
  | findActiveToken (owner : Int32) (name : String)
  /-- Revokes a record that is not revoked yet. -/
  | revokeToken (id : Uuid)

namespace StoreCall

/-- What an operation answers. -/
abbrev Answer : StoreCall → Type
  | ping => Unit
  | findAccount _ => Option Account
  | findByEmail _ => Option Account
  | createAccount _ _ => Account
  | recordLogin _ _ _ => Unit
  | swapRefreshHash _ _ _ _ => Bool
  | recordLogout _ _ => Unit
  | updateStatus _ _ => Account
  | updateRole _ _ => Account
  | insertToken _ => Unit
  | findToken _ => Option PersonalToken
  | tokensOf _ => List PersonalToken
  | findActiveToken _ _ => Option PersonalToken
  | revokeToken _ => Bool

/-- The two halves of a store, which may fail on their own. -/
inductive Side where
  | accounts
  | tokens
  deriving DecidableEq

/-- The half that an operation goes to. -/
def side : StoreCall → Side
  | insertToken _ | findToken _ | tokensOf _ | findActiveToken _ _ | revokeToken _ => .tokens
  | _ => .accounts

end StoreCall

namespace Store

/-- The store in which nothing is kept. -/
def empty : Store := ⟨0, [], []⟩

/-- The account of an identifier. -/
def account? (store : Store) (id : Int32) : Option Account := store.accounts.find? (·.id = id)

/-- The account of an email address. -/
def accountByEmail? (store : Store) (email : String) : Option Account :=
  store.accounts.find? (·.email = email)

/-- The record of an identifier. -/
def token? (store : Store) (id : Uuid) : Option PersonalToken := store.tokens.find? (·.id = id)

/-- Whether a record belongs to an owner, has a name and is not revoked. -/
def isActive (owner : Int32) (name : String) (record : PersonalToken) : Bool :=
  record.owner = owner && record.name = name && !record.revoked

/-- The record of an owner that has a name and is not revoked. -/
def activeToken? (store : Store) (owner : Int32) (name : String) : Option PersonalToken :=
  store.tokens.find? (isActive owner name)

/-- The records of an owner, the newest first. -/
def tokensOf (store : Store) (owner : Int32) : List PersonalToken :=
  (store.tokens.filter (·.owner = owner)).mergeSort fun a b => b.createdAt.le a.createdAt

/-- A store with the account of an identifier changed. -/
def modifyAccount (store : Store) (id : Int32) (change : Account → Account) : Store :=
  { store with accounts := store.accounts.map fun a => if a.id = id then change a else a }

/-- Changes the account of an identifier, which must be there. -/
def changeAccount (store : Store) (id : Int32) (change : Account → Account) :
    Except AuthError Account × Store :=
  match store.account? id with
  | none => (.error (.noAccount id), store)
  | some account => (.ok (change account), store.modifyAccount id change)

/-- A new account under the next identifier. Its email address must be new. -/
def createAccount (store : Store) (new : NewAccount) (now : Instant) :
    Except AuthError Account × Store :=
  if (store.accountByEmail? new.email).isSome then (.error .emailTaken, store)
  else
    let account := Account.create (store.lastId + 1) new now
    (.ok account, { store with lastId := account.id, accounts := store.accounts ++ [account] })

/-- Replaces the hash of the refresh token of an account if it is the expected one. -/
def swapRefreshHash (store : Store) (id : Int32) (expected new : String) (now : Instant) :
    Except AuthError Bool × Store :=
  match store.account? id with
  | none => (.error (.noAccount id), store)
  | some account =>
    if account.refreshHash = some expected then
      (.ok true, store.modifyAccount id fun a =>
        { a with refreshHash := some new, lastRefresh := some now })
    else (.ok false, store)

/-- Keeps a record. Its owner must have no other record of that name that is not revoked. -/
def insertToken (store : Store) (record : PersonalToken) : Except AuthError Unit × Store :=
  if (store.activeToken? record.owner record.name).isSome then
    (.error (.tokenNameTaken record.name), store)
  else (.ok (), { store with tokens := store.tokens.filter (·.id ≠ record.id) ++ [record] })

/-- Revokes the record of an identifier; answers whether it was there and not revoked. -/
def revokeToken (store : Store) (id : Uuid) : Bool × Store :=
  match store.token? id with
  | some record =>
    if record.revoked then (false, store)
    else
      (true, { store with
        tokens := store.tokens.map fun t => if t.id = id then { t with revoked := true } else t })
  | none => (false, store)

/-- What is responded where only the change counts. -/
def unanswered {α : Type} (responded : Except AuthError α × Store) :
    Except AuthError Unit × Store :=
  (responded.1.map fun _ => (), responded.2)

/-- What an operation is answered, and the store that it leaves. -/
def respond (store : Store) : (call : StoreCall) → Except AuthError call.Answer × Store
  | .ping => (.ok (), store)
  | .findAccount id => (.ok (store.account? id), store)
  | .findByEmail email => (.ok (store.accountByEmail? email), store)
  | .createAccount new now => store.createAccount new now
  | .recordLogin id hash now =>
    unanswered <| store.changeAccount id fun a =>
      { a with refreshHash := some hash, lastLogin := some now }
  | .swapRefreshHash id expected new now => store.swapRefreshHash id expected new now
  | .recordLogout id now =>
    unanswered <| store.changeAccount id fun a =>
      { a with refreshHash := none, lastLogout := some now }
  | .updateStatus id change =>
    store.changeAccount id fun a =>
      { a with banned := change.banned.getD a.banned, locked := change.locked.getD a.locked }
  | .updateRole id role => store.changeAccount id fun a => { a with role := role }
  | .insertToken record => store.insertToken record
  | .findToken id => (.ok (store.token? id), store)
  | .tokensOf owner => (.ok (store.tokensOf owner), store)
  | .findActiveToken owner name => (.ok (store.activeToken? owner name), store)
  | .revokeToken id => (.ok (store.revokeToken id).1, (store.revokeToken id).2)

theorem account?_id {store : Store} {id : Int32} {account : Account}
    (h : store.account? id = some account) : account.id = id := by
  simpa using List.find?_some h

theorem token?_id {store : Store} {id : Uuid} {record : PersonalToken}
    (h : store.token? id = some record) : record.id = id := by
  simpa using List.find?_some h

/-! ## Failures

Each operation that may fail does so before it changes anything. -/

section Failures

variable {store : Store} {id : Int32} {e : AuthError}

theorem changeAccount_eq_self {change : Account → Account}
    (h : (store.changeAccount id change).1 = .error e) :
    (store.changeAccount id change).2 = store := by
  unfold changeAccount at h ⊢
  cases found : store.account? id with
  | none => rfl
  | some account =>
    rw [found] at h
    cases h

theorem createAccount_eq_self {new : NewAccount} {now : Instant}
    (h : (store.createAccount new now).1 = .error e) : (store.createAccount new now).2 = store := by
  unfold createAccount at h ⊢
  by_cases taken : (store.accountByEmail? new.email).isSome
  · rw [if_pos taken]
  · rw [if_neg taken] at h
    cases h

theorem swapRefreshHash_eq_self {expected new : String} {now : Instant}
    (h : (store.swapRefreshHash id expected new now).1 = .error e) :
    (store.swapRefreshHash id expected new now).2 = store := by
  unfold swapRefreshHash at h ⊢
  cases found : store.account? id with
  | none => rfl
  | some account =>
    simp only [found] at h
    split at h <;> cases h

theorem insertToken_eq_self {record : PersonalToken}
    (h : (store.insertToken record).1 = .error e) : (store.insertToken record).2 = store := by
  unfold insertToken at h ⊢
  by_cases taken : (store.activeToken? record.owner record.name).isSome
  · rw [if_pos taken]
  · rw [if_neg taken] at h
    cases h

theorem error_of_unanswered {α : Type} {responded : Except AuthError α × Store}
    (h : (unanswered responded).1 = .error e) : responded.1 = .error e := by
  obtain ⟨answer, after⟩ := responded
  cases answer with
  | ok a => cases h
  | error found => exact congrArg _ (Except.error.inj h)

/-- An operation that fails leaves the store as it was. -/
theorem respond_eq_self {op : StoreCall} (h : (store.respond op).1 = .error e) :
    (store.respond op).2 = store := by
  cases op with
  | createAccount new now => exact createAccount_eq_self h
  | recordLogin id hash now => exact changeAccount_eq_self (error_of_unanswered h)
  | swapRefreshHash id expected new now => exact swapRefreshHash_eq_self h
  | recordLogout id now => exact changeAccount_eq_self (error_of_unanswered h)
  | updateStatus id change => exact changeAccount_eq_self h
  | updateRole id role => exact changeAccount_eq_self h
  | insertToken record => exact insertToken_eq_self h
  | ping | findAccount | findByEmail | findToken | tokensOf | findActiveToken | revokeToken =>
    cases h

end Failures

end Store

end SessionAuth
