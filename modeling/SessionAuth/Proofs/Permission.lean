import SessionAuth.Proofs.Effect
import SessionAuth.Proofs.Store.Reachable

/-!
# Who may change what

A request behind the gate keeps every account and every record of a personal token, and of
what is kept in them it changes only what it is entitled to change. The store before the
request is one that operations lead to, its numbers have not run out, and the identifier that
the request draws for a record is a new one.

## Main definitions

* `AccountKept`, `TokenKept` — what may become of an account and of a record
* `Permitted` — what may become of a store

## Main results

* `Effect.permitted` — every effect is permitted
* `App.handle_permitted` — a request behind the gate ends and does only what is permitted
-/

namespace SessionAuth

section Kept

variable (service : Service) (occasion : Occasion) (request : Request) (store : Store)

/-- What may become of an account: it stays the same account, and each part of it that differs
is one that the request is entitled to change. -/
structure AccountKept (account after : Account) : Prop where
  id : after.id = account.id
  username : after.username = account.username
  email : after.email = account.email
  passwordHash : after.passwordHash = account.passwordHash
  createdAt : after.createdAt = account.createdAt
  status : after.banned ≠ account.banned ∨ after.locked ≠ account.locked →
    Entitled service occasion request store (.updateStatus account)
  role : after.role ≠ account.role →
    Entitled service occasion request store (.updateRole account)
  session : after.refreshHash ≠ account.refreshHash ∨ after.lastLogin ≠ account.lastLogin ∨
      after.lastRefresh ≠ account.lastRefresh ∨ after.lastLogout ≠ account.lastLogout →
    Entitled service occasion request store (.login account) ∨
      Entitled service occasion request store (.refresh account) ∨
      Entitled service occasion request store (.logout account)

/-- What may become of the record of a personal token: it stays as it is, or it is revoked. -/
structure TokenKept (record after : PersonalToken) : Prop where
  rest : after = { record with revoked := after.revoked }
  revoked : record.revoked = true → after.revoked = true
  revocation : after.revoked ≠ record.revoked →
    Entitled service occasion request store (.revokeToken record)

/-- What may become of a store. -/
structure Permitted (after : Store) : Prop where
  account : ∀ id account, store.account? id = some account → ∃ kept,
    after.account? id = some kept ∧ AccountKept service occasion request store account kept
  newAccount : ∀ id account, store.account? id = none → after.account? id = some account →
    Entitled service occasion request store .register ∧ account.role = .user
  token : ∀ id record, store.token? id = some record → ∃ kept,
    after.token? id = some kept ∧ TokenKept service occasion request store record kept
  newToken : ∀ id record, store.token? id = none → after.token? id = some record →
    Entitled service occasion request store (.createToken record.owner) ∧ record.revoked = false

end Kept

section Effects

variable {service : Service} {occasion : Occasion} {request : Request} {store after : Store}

theorem AccountKept.refl (account : Account) :
    AccountKept service occasion request store account account := by
  constructor <;> simp

theorem TokenKept.refl (record : PersonalToken) :
    TokenKept service occasion request store record record := by
  constructor <;> simp

namespace Permitted

/-- Where the records of personal tokens stay as they are, the accounts decide. -/
theorem of_accounts (tokens : after.tokens = store.tokens)
    (account : ∀ id account, store.account? id = some account → ∃ kept,
      after.account? id = some kept ∧ AccountKept service occasion request store account kept)
    (newAccount : ∀ id account, store.account? id = none → after.account? id = some account →
      Entitled service occasion request store .register ∧ account.role = .user) :
    Permitted service occasion request store after := by
  have same (id : Uuid) : after.token? id = store.token? id := by
    unfold Store.token?
    rw [tokens]
  refine ⟨account, newAccount, ?_, ?_⟩
  · intro id record found
    exact ⟨record, (same id).trans found, .refl record⟩
  · intro id record missing found
    rw [same, missing] at found
    cases found

theorem refl : Permitted service occasion request store store := by
  apply of_accounts rfl (fun _ account stored => ⟨account, stored, .refl account⟩)
  intro _ _ missing stored
  rw [missing] at stored
  cases stored

/-- Where the accounts stay as they are, the records of personal tokens decide. -/
theorem of_tokens (accounts : after.accounts = store.accounts)
    (token : ∀ id record, store.token? id = some record → ∃ kept,
      after.token? id = some kept ∧ TokenKept service occasion request store record kept)
    (newToken : ∀ id record, store.token? id = none → after.token? id = some record →
      Entitled service occasion request store (.createToken record.owner) ∧
        record.revoked = false) :
    Permitted service occasion request store after := by
  have same (id : Int32) : after.account? id = store.account? id := by
    unfold Store.account?
    rw [accounts]
  refine ⟨?_, ?_, token, newToken⟩
  · intro id account found
    exact ⟨account, (same id).trans found, .refl account⟩
  · intro id account missing found
    rw [same, missing] at found
    cases found

/-- A change of one account is permitted if what it makes of the account is. -/
theorem of_modifyAccount {target : Account} {change : Account → Account}
    (found : store.account? target.id = some target)
    (keeps : ∀ account, (change account).id = account.id)
    (kept : AccountKept service occasion request store target (change target)) :
    Permitted service occasion request store (store.modifyAccount target.id change) := by
  refine of_accounts rfl ?_ ?_
  · intro id account stored
    rw [Store.account?_modifyAccount keeps, stored]
    by_cases same : account.id = target.id
    -- Under one identifier one account is found, so the changed one is the target.
    · have hid : id = target.id := (Store.account?_id stored).symm.trans same
      rw [hid, found] at stored
      obtain rfl := Option.some.inj stored
      exact ⟨change target, by simp, kept⟩
    · exact ⟨account, by simp [same], .refl account⟩
  · intro id account missing stored
    rw [Store.account?_modifyAccount keeps, missing] at stored
    cases stored

/-- A new account is permitted in a registration, if it has the lowest role. -/
theorem of_newAccount {next : Int32} {created : Account}
    (entitled : Entitled service occasion request store .register) (role : created.role = .user)
    (tokens : after.tokens = store.tokens)
    (accounts : ∀ id, after.account? id =
      (store.account? id).or (if next = id then some created else none)) :
    Permitted service occasion request store after := by
  refine of_accounts tokens ?_ ?_
  · intro id account stored
    exact ⟨account, by rw [accounts, stored]; rfl, .refl account⟩
  · intro id account missing stored
    rw [accounts, missing, Option.none_or] at stored
    split at stored
    · obtain rfl := Option.some.inj stored
      exact ⟨entitled, role⟩
    · cases stored

/-- A new record is permitted for the caller, under an identifier that no other record has. -/
theorem of_insertToken {record : PersonalToken}
    (entitled : Entitled service occasion request store (.createToken record.owner))
    (active : record.revoked = false) (inserted : store.insertToken record = (.ok (), after))
    (fresh : store.token? record.id = none) :
    Permitted service occasion request store after := by
  have performed : store.respond (.insertToken record) = (.ok (), after) := inserted
  have accounts : (store.respond (.insertToken record)).2.accounts = store.accounts :=
    (Store.accounts_respond rfl).1
  rw [performed] at accounts
  refine of_tokens accounts ?_ ?_
  · intro id other stored
    rw [Store.token?_insertToken inserted]
    by_cases same : id = record.id
    -- A record under the identifier that was drawn would be replaced, but there is none.
    · rw [same, fresh] at stored
      cases stored
    · exact ⟨other, by rw [if_neg same, stored], .refl other⟩
  · intro id other missing stored
    rw [Store.token?_insertToken inserted, missing] at stored
    split at stored
    · obtain rfl := Option.some.inj stored
      exact ⟨entitled, active⟩
    · cases stored

/-- The revocation of a record is permitted for its owner and for administrators. -/
theorem of_revokeToken {record : PersonalToken}
    (entitled : Entitled service occasion request store (.revokeToken record))
    (found : store.token? record.id = some record) :
    Permitted service occasion request store (store.revokeToken record.id).2 := by
  have accounts : (store.respond (.revokeToken record.id)).2.accounts = store.accounts :=
    (Store.accounts_respond rfl).1
  refine of_tokens accounts ?_ ?_
  · intro id other stored
    rw [Store.token?_revokeToken, stored]
    by_cases same : other.id = record.id
    · have hid : id = record.id := (Store.token?_id stored).symm.trans same
      rw [hid, found] at stored
      obtain rfl := Option.some.inj stored
      exact ⟨{ record with revoked := true }, by simp, ⟨rfl, fun _ => rfl, fun _ => entitled⟩⟩
    · exact ⟨other, by simp [same], .refl other⟩
  · intro id other missing stored
    rw [Store.token?_revokeToken, missing] at stored
    cases stored

end Permitted

namespace Store

/-- Behind the accounts that there are a new one is found under the next identifier. -/
theorem account?_respond_createAccount {new : NewAccount} {now : Instant}
    (free : store.accountByEmail? new.email = none) (id : Int32) :
    (store.respond (.createAccount new now)).2.account? id =
      (store.account? id).or (if store.lastId + 1 = id then
        some (Account.create (store.lastId + 1) new now) else none) := by
  rw [respond_createAccount, free]
  unfold account?
  simp only [Option.isSome_none, Bool.false_eq_true, if_false, List.find?_append]
  congr 1
  by_cases next : store.lastId + 1 = id <;> simp [Account.create, next]

/-- A change of the account under the next identifier leaves all others. -/
theorem account?_modifyAccount_next {new : NewAccount} {now : Instant}
    {change : Account → Account} (keeps : ∀ account, (change account).id = account.id)
    (free : store.accountByEmail? new.email = none)
    (next : store.account? (store.lastId + 1) = none) (id : Int32) :
    ((store.respond (.createAccount new now)).2.modifyAccount (store.lastId + 1) change).account?
        id =
      (store.account? id).or (if store.lastId + 1 = id then
        some (change (Account.create (store.lastId + 1) new now)) else none) := by
  rw [account?_modifyAccount keeps, account?_respond_createAccount free]
  cases stored : store.account? id with
  | none =>
    by_cases hid : store.lastId + 1 = id <;> simp [hid, Account.create]
  | some account =>
    -- An account that was there before does not have the next identifier.
    have other : account.id ≠ store.lastId + 1 := by
      intro same
      rw [← same, account?_id stored, stored] at next
      cases next
    simp [other]

end Store

/-- Every effect is permitted: what is changed belongs to what the request is entitled to. -/
theorem Effect.permitted (effect : Effect service occasion request store after)
    (reachable : store.Reachable) (room : store.accounts.length < 2147483647)
    (fresh : store.token? occasion.recordId = none) :
    Permitted service occasion request store after := by
  cases effect with
  | nothing => exact .refl
  | register entitled role free =>
    exact .of_newAccount entitled role (Store.tokens_respond rfl)
      (Store.account?_respond_createAccount free)
  | registerAndLogin entitled role free =>
    have next := reachable.account?_next room
    refine .of_newAccount entitled role (Store.tokens_respond rfl)
      (Store.account?_modifyAccount_next ?_ free next)
    exact fun _ => rfl
  | login entitled found =>
    -- The login finds its account by address and changes it by identifier.
    have found := reachable.account?_of_accountByEmail? (Nat.le_of_lt room) found
    refine .of_modifyAccount found (fun _ => rfl) ?_
    constructor <;> simp [entitled]
  | refresh entitled found | logout entitled found | updateStatus entitled found
  | updateRole entitled found =>
    refine .of_modifyAccount found (fun _ => rfl) ?_
    constructor <;> simp [entitled]
  | createToken entitled drawn active inserted =>
    exact .of_insertToken entitled active inserted (by rw [drawn, fresh])
  | revokeToken entitled found => exact .of_revokeToken entitled found

/-- Every request behind the gate ends, on every store that operations lead to, and does only
what it is entitled to. Accounts and records of personal tokens stay. An account appears in a
registration, with the lowest role; its status and its role change by a caller who may change
them, and its session by its password, its refresh token or its holder. A record appears for the
caller, and is revoked by its owner or an administrator. -/
theorem App.handle_permitted (answers : ∀ subject resource action, ∃ allowed,
      service.policy.enforce subject resource action = .ok allowed)
    (reachable : store.Reachable) (room : store.accounts.length < 2147483647)
    (occasion : Occasion) (request : Request) (fresh : store.token? occasion.recordId = none) :
    ∃ response after, ((App.gated (some service)).handle occasion request).run .healthy store =
      some (response, after) ∧ Permitted service occasion request store after := by
  have ends := Program.run_healthy ((App.gated (some service)).handle occasion request) store
  refine ⟨_, _, ends, ?_⟩
  exact (App.effect_handle answers ends).permitted reachable room fresh

end Effects

namespace LoginRequest

/-- A service with the standard policy and the exempt paths that are the default. -/
def service : Service where
  settings := { AdminRequest.gate.settings with exemptPaths := AuthSettings.defaultExemptPaths }
  issuer := .echo
  hasher := AdminRequest.gate.hasher
  policy := RolePolicy.standard.engine

/-- A store with one account. -/
def store : Store :=
  (Store.empty.respond (.createAccount ⟨"name", "a@b.c", "password", .user⟩ .epoch)).2

/-- A time and values that are drawn then. -/
def occasion : Occasion :=
  ⟨AdminRequest.now, .nil, .nil, .nil, .ofNat 0, .ofNat 0, fun _ => ""⟩

/-- The holder of the account logs in. -/
def request : Request where
  method := "POST"
  target := "/auth/login"
  headers := [("Content-Type", "application/json")]
  body := "\x7b\"email\": \"a@b.c\", \"password\": \"password\"\x7d"

/-- A login ends, does only what is permitted, and notes its time. -/
theorem handle_permitted_login : ∃ response after,
    ((App.gated (some service)).handle occasion request).run .healthy store =
      some (response, after) ∧ Permitted service occasion request store after ∧
    (after.account? 1).map (·.lastLogin) = some (some AdminRequest.now) := by
  have answers (subject resource action : String) : ∃ allowed,
      service.policy.enforce subject resource action = .ok allowed := ⟨_, rfl⟩
  have reachable : store.Reachable := .respond .empty _
  obtain ⟨response, after, ends, permitted⟩ :=
    App.handle_permitted answers reachable (by decide) occasion request rfl
  refine ⟨response, after, ends, permitted, ?_⟩
  have noted : (((App.gated (some service)).handle occasion request).run .healthy store).map
      (fun left => (left.2.account? 1).map (·.lastLogin)) =
        some (some (some AdminRequest.now)) := by
    decide +kernel
  rw [ends] at noted
  exact Option.some.inj noted

end LoginRequest

end SessionAuth
