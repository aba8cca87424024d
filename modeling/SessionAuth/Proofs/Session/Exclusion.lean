import SessionAuth.Proofs.Atomicity
import SessionAuth.Proofs.Permission
import SessionAuth.Proofs.Store.Uniqueness

/-!
# Accounts that are shut out

An account that is banned or locked is refused wherever it could come in: at the gate with any
token, at a login with any password, and at the exchange of any refresh token. So no request is
answered with tokens for it, and none is carried out on its behalf. Its session stays as it was,
through any number of requests, until a caller with another account clears both marks.

## Main definitions

* `Account.IsShutOut`, `Account.exclusion` — an account is banned or locked, and the error for it
* `Account.SameSession` — nothing happened to the session of an account
* `Response.Withholds` — a response holds no tokens for an account
* `App.ChangesStatus` — a caller with another account may change the status of one
* `App.Serves` — requests are answered one behind the other
* `Store.ShutsOut` — an account is refused everywhere

## Main results

* `Service.ensures_answer` — no endpoint hands out tokens for it or touches its session
* `App.excludes` — nor does any request, and only another caller clears its marks
* `Store.shutsOut` — an account that is banned or locked is shut out until then
-/

namespace SessionAuth

/-! ## Standing -/

namespace Account

/-- An account is banned or locked. -/
def IsShutOut (account : Account) : Prop := account.banned = true ∨ account.locked = true

/-- The error for an account that is shut out; being banned counts first. -/
def exclusion (account : Account) : AuthError := if account.banned then .banned else .locked

/-- Nothing happened to the session of an account. -/
structure SameSession (account after : Account) : Prop where
  refreshHash : after.refreshHash = account.refreshHash
  lastLogin : after.lastLogin = account.lastLogin
  lastRefresh : after.lastRefresh = account.lastRefresh
  lastLogout : after.lastLogout = account.lastLogout

variable {account after later : Account}

theorem SameSession.refl (account : Account) : account.SameSession account := ⟨rfl, rfl, rfl, rfl⟩

theorem SameSession.trans (h : account.SameSession after) (h' : after.SameSession later) :
    account.SameSession later where
  refreshHash := h'.refreshHash.trans h.refreshHash
  lastLogin := h'.lastLogin.trans h.lastLogin
  lastRefresh := h'.lastRefresh.trans h.lastRefresh
  lastLogout := h'.lastLogout.trans h.lastLogout

theorem IsShutOut.checkStatus (shut : account.IsShutOut) :
    account.checkStatus = .error account.exclusion := by
  unfold Account.checkStatus exclusion
  cases banned : account.banned with
  | true => rfl
  | false =>
    have locked : account.locked = true := shut.resolve_left (by simp [banned])
    rw [locked]
    rfl

/-- An account that passes the check of its status is not the one that is shut out. -/
theorem IsShutOut.ne_of_checkStatus (shut : account.IsShutOut) {store : Store} {found : Account}
    (known : store.account? account.id = some account)
    (stored : store.account? found.id = some found) (standing : found.checkStatus = .ok ()) :
    found.id ≠ account.id := by
  intro same
  rw [same, known] at stored
  obtain rfl := Option.some.inj stored
  rw [shut.checkStatus] at standing
  cases standing

end Account

/-! ## Sessions -/

namespace Sessions

variable {sessions : Sessions} {occasion : Occasion} {store : Store}

/-- What can come of a login. -/
inductive LoginOutcome (sessions : Sessions) (occasion : Occasion) (account : Account)
    (store : Store) : Except AuthError SessionTokens → Store → Prop
  | failed (e : AuthError) : LoginOutcome sessions occasion account store (.error e) store
  | done {tokens : SessionTokens} {hash : String}
      (issued : sessions.issuePair occasion account = .ok tokens) :
      LoginOutcome sessions occasion account store (.ok tokens)
        (store.modifyAccount account.id fun account =>
          { account with refreshHash := some hash, lastLogin := some occasion.now })

theorem ensures_login (account : Account) :
    (sessions.login occasion account).Ensures store
      (LoginOutcome sessions occasion account store) := by
  refine (settles_login account).mono fun result after settled => ?_
  cases settled with
  | nothing e => exact .failed e
  | all done =>
    obtain ⟨hash, grants, changes⟩ := done
    rw [changes.eq_modifyAccount]
    exact .done grants.issued

/-- What can come of an authentication: an account in good standing with the address, or an
error. Nothing is changed. -/
inductive Authenticated (email : String) (store : Store) : Except AuthError Account → Store → Prop
  | failed (e : AuthError) : Authenticated email store (.error e) store
  | done {account : Account} (found : store.accountByEmail? email = some account)
      (standing : account.checkStatus = .ok ()) : Authenticated email store (.ok account) store

theorem ensures_authenticate (email password : String) :
    (sessions.authenticate email password).Ensures store (Authenticated email store) := by
  refine (settles_authenticate email password).mono fun result after settled => ?_
  cases settled with
  | nothing e => exact .failed e
  | all done =>
    obtain ⟨rfl, found, standing⟩ := done
    exact .done found standing

/-- What can come of an exchange: new tokens for an account in good standing, or an error. -/
inductive Exchanged (sessions : Sessions) (occasion : Occasion) (store : Store) :
    Except AuthError (Account × SessionTokens) → Store → Prop
  | failed (e : AuthError) : Exchanged sessions occasion store (.error e) store
  | done {account : Account} {tokens : SessionTokens} {hash : String}
      (stored : store.account? account.id = some account)
      (standing : account.checkStatus = .ok ())
      (issued : sessions.issuePair occasion account = .ok tokens) :
      Exchanged sessions occasion store (.ok (account, tokens))
        (store.modifyAccount account.id fun account =>
          { account with refreshHash := some hash, lastRefresh := some occasion.now })

theorem ensures_exchange (presented : String) :
    (sessions.exchange occasion presented).Ensures store
      (Exchanged sessions occasion store) := by
  refine (settles_exchange presented).mono fun result after settled => ?_
  cases settled with
  | nothing e => exact .failed e
  | @all granted _ done =>
    obtain ⟨stored, standing, hash, grants, changes⟩ := done
    rw [changes.eq_modifyAccount]
    exact .done stored standing grants.issued

/-- With the right password the status is what an account that is shut out is refused for. -/
theorem exec_authenticate_of_isShutOut {account : Account} {password : String}
    (found : store.accountByEmail? account.email = some account) (shut : account.IsShutOut)
    (verified : sessions.hasher.verifyPassword password account.passwordHash = .ok true) :
    (sessions.authenticate account.email password).exec store =
      (.error account.exclusion, store) := by
  simp only [exec_authenticate_eq, found, verified, Account.identified, shut.checkStatus]
  rfl

/-- With a token that holds the status is what an account that is shut out is refused for. -/
theorem exec_exchange_of_isShutOut {account : Account} {presented : String} {claims : Claims}
    (found : store.account? claims.subject = some account) (shut : account.IsShutOut)
    (valid : sessions.issuer.validate occasion.now presented = .ok claims)
    (kind : claims.kind = .refresh) :
    (sessions.exchange occasion presented).exec store = (.error account.exclusion, store) := by
  rw [exchange, valid, Action.ofExcept_ok, Action.pure_bind, if_neg (not_not_intro kind),
    Action.exec_bind, Action.exec_ask, Store.respond_findAccount, found]
  simp only [shut.checkStatus, Action.ofExcept_error]
  rfl

end Sessions

/-! ## What is left of an account -/

/-- A store keeps an account with its session, and keeps it shut out unless something happened
that may clear its marks. -/
def Store.Excludes (store : Store) (account : Account) (cleared : Prop) : Prop :=
  ∃ kept, store.account? account.id = some kept ∧ account.SameSession kept ∧
    (kept.IsShutOut ∨ cleared)

namespace Store.Excludes

variable {store after : Store} {account : Account} {cleared : Prop}

theorem refl (known : store.account? account.id = some account) (shut : account.IsShutOut) :
    store.Excludes account cleared := ⟨account, known, .refl account, .inl shut⟩

theorem of_accounts (accounts : after.accounts = store.accounts)
    (excludes : store.Excludes account cleared) : after.Excludes account cleared := by
  unfold Store.Excludes Store.account?
  rw [accounts]
  exact excludes

/-- A change of another account does not matter. -/
theorem modifyAccount {id : Int32} {change : Account → Account}
    (keeps : ∀ account, (change account).id = account.id) (other : id ≠ account.id)
    (excludes : store.Excludes account cleared) :
    (store.modifyAccount id change).Excludes account cleared := by
  unfold Store.Excludes
  rw [Store.account?_modifyAccount_of_ne keeps other.symm]
  exact excludes

end Store.Excludes

/-! ## What is answered -/

/-- A response holds no tokens for an account: it holds none at all, or it starts the session of
another account. -/
inductive Response.Withholds (occasion : Occasion) (id : Int32) : Response → Prop
  | noTokens {response : Response}
      (body : ∀ grant : SessionGrant, response.body ≠ some grant.toJson)
      (cookies : ∀ cookie ∈ response.cookies, cookie.value = "") : Withholds occasion id response
  | other {service : Service} {account : Account} {tokens : SessionTokens} {response : Response}
      (status : Nat) (other : account.id ≠ id)
      (issued : service.sessions.issuePair occasion account = .ok tokens)
      (granted : service.grant occasion.now status account.id tokens = .ok response) :
      Withholds occasion id response

namespace Response.Withholds

variable {occasion : Occasion} {id : Int32}

/-- A body that does not start like a grant holds no tokens. -/
theorem json {status : Nat} {body : Json.Value}
    (h : ∀ grant : SessionGrant, body ≠ grant.toJson) :
    (Response.json status body).Withholds occasion id :=
  .noTokens (fun grant hbody => h grant (Option.some.inj hbody)) (by simp [Response.json])

theorem record {status : Nat} {name : String} {value : Json.Value}
    {members : List (String × Json.Value)} (other : name ≠ "access_token") :
    (Response.json status (.record ((name, value) :: members))).Withholds occasion id := by
  refine json fun grant h => other ?_
  simp [SessionGrant.toJson, Json.Value.record] at h
  exact h.1.1

theorem empty (status : Nat) : (Response.empty status).Withholds occasion id :=
  .noTokens (fun _ h => by cases h) (by simp [Response.empty])

end Response.Withholds

/-- What may come of an action for an account that is shut out. -/
structure Excluded (occasion : Occasion) (account : Account) (cleared : Prop)
    (result : Except AuthError Response) (after : Store) : Prop where
  response : ∀ response, result = .ok response → response.Withholds occasion account.id
  store : after.Excludes account cleared

namespace Excluded

variable {occasion : Occasion} {account : Account} {cleared : Prop} {store : Store}

theorem error (excludes : store.Excludes account cleared) (e : AuthError) :
    Excluded occasion account cleared (.error e) store := by
  refine ⟨?_, excludes⟩
  intro response h
  cases h

theorem ok {response : Response} (withholds : response.Withholds occasion account.id)
    (excludes : store.Excludes account cleared) :
    Excluded occasion account cleared (.ok response) store := by
  refine ⟨?_, excludes⟩
  rintro _ ⟨⟩
  exact withholds

end Excluded

/-! ## Endpoints -/

namespace Service

variable {service : Service} {occasion : Occasion} {request : Request} {store : Store}
  {account : Account} {cleared : Prop} {caller : Caller}

/-- A session that starts for another account does not matter. -/
theorem ensures_session {found : Account} (other : found.id ≠ account.id) (status : Nat)
    (excludes : store.Excludes account cleared) :
    (do
      let tokens ← service.sessions.login occasion found
      Action.ofExcept (service.grant occasion.now status found.id tokens)).Ensures store
      (Excluded occasion account cleared) := by
  refine (Sessions.ensures_login found).bind ?_ ?_
  · rintro e after ⟨⟩
    exact .error excludes e
  · intro tokens after outcome
    cases outcome with
    | done issued =>
      refine ensures_grant fun response granted => .ok (.other status other issued granted) ?_
      exact excludes.modifyAccount (fun _ => rfl) other

theorem ensures_login (reachable : store.Reachable) (room : store.accounts.length < 2147483647)
    (known : store.account? account.id = some account) (shut : account.IsShutOut)
    (form : LoginForm) :
    (service.login occasion form).Ensures store (Excluded occasion account cleared) := by
  have excludes : store.Excludes account cleared := .refl known shut
  unfold login
  refine Action.ensures_ofExcept_bind (fun e _ => .error excludes e) fun _ _ => ?_
  refine (Sessions.ensures_authenticate form.email form.password).bind ?_ ?_
  · rintro e after ⟨⟩
    exact .error excludes e
  · intro found after authenticated
    cases authenticated with
    | done found standing =>
      have stored := reachable.account?_of_accountByEmail? (Nat.le_of_lt room) found
      exact ensures_session (shut.ne_of_checkStatus known stored standing) 200 excludes

theorem ensures_register (reachable : store.Reachable)
    (room : store.accounts.length < 2147483647)
    (known : store.account? account.id = some account) (shut : account.IsShutOut)
    (form : RegistrationForm) :
    (service.register occasion form).Ensures store (Excluded occasion account cleared) := by
  have excludes : store.Excludes account cleared := .refl known shut
  unfold register
  refine Action.ensures_ofExcept_bind (fun e _ => .error excludes e) fun _ _ => ?_
  refine Action.ensures_lift_bind (.error excludes) fun hash _ => ?_
  refine Action.ensures_ask_bind (.error excludes) fun created answered => ?_
  obtain ⟨free, hid⟩ := Store.created answered
  -- The next identifier was nobody's, so it is not the one of the account.
  have other : created.id ≠ account.id := by
    intro same
    have next := reachable.account?_next room
    rw [← hid, same, known] at next
    cases next
  refine ensures_session other 201 ?_
  refine ⟨account, ?_, .refl account, .inl shut⟩
  rw [Store.account?_respond_createAccount free, known]
  rfl

theorem ensures_refresh (known : store.account? account.id = some account)
    (shut : account.IsShutOut) :
    (service.refresh occasion request).Ensures store (Excluded occasion account cleared) := by
  have excludes : store.Excludes account cleared := .refl known shut
  unfold refresh
  refine Action.ensures_ofExcept_bind (fun e _ => .error excludes e) fun presented _ => ?_
  refine (Sessions.ensures_exchange presented).bind ?_ ?_
  · rintro e after ⟨⟩
    exact .error excludes e
  · rintro ⟨found, tokens⟩ after exchanged
    cases exchanged with
    | done stored standing issued =>
      have other := shut.ne_of_checkStatus known stored standing
      refine ensures_grant fun response granted => .ok (.other 200 other issued granted) ?_
      exact excludes.modifyAccount (fun _ => rfl) other

theorem ensures_logout (known : store.account? account.id = some account)
    (shut : account.IsShutOut) (other : caller.account.id ≠ account.id) :
    (service.logout occasion caller).Ensures store (Excluded occasion account cleared) := by
  have excludes : store.Excludes account cleared := .refl known shut
  unfold logout Sessions.logout
  refine Action.ensures_ask_bind (.error excludes) fun _ recorded => Action.ensures_pure ?_
  refine .ok (.noTokens (fun _ h => by cases h) ?_) ?_
  · simp [cookies, SessionCookies.cleared, SessionCookies.build]
  · rw [Store.respond_recordLogout]
    split
    · exact excludes.modifyAccount (fun _ => rfl) other
    · exact excludes

/-- A change that leaves the session of an account leaves it shut out, unless it clears marks. -/
theorem excludes_modifyAccount {id : Int32} {change : Account → Account}
    (known : store.account? account.id = some account)
    (shut : account.IsShutOut) (keeps : ∀ account, (change account).id = account.id)
    (session : account.SameSession (change account))
    (marks : id = account.id → (change account).IsShutOut ∨ cleared) :
    (store.modifyAccount id change).Excludes account cleared := by
  by_cases same : id = account.id
  · refine ⟨change account, ?_, session, marks same⟩
    rw [same, Store.account?_modifyAccount_self keeps, known]
    rfl
  · exact Store.Excludes.modifyAccount keeps same (.refl known shut)

theorem ensures_updateStatus (known : store.account? account.id = some account)
    (shut : account.IsShutOut) {id : Int32} (clears : id = account.id → cleared)
    (change : StatusChange) :
    (updateStatus caller id change).Ensures store (Excluded occasion account cleared) := by
  have excludes : store.Excludes account cleared := .refl known shut
  unfold updateStatus
  refine Action.ensures_ofExcept_bind (fun e _ => .error excludes e) fun _ _ => ?_
  refine Action.ensures_read_bind Store.respond_findAccount (.error excludes) ?_
  cases found : store.account? id with
  | none => exact Action.ensures_throw (.error excludes _)
  | some target =>
    simp only
    split
    · exact Action.ensures_throw (.error excludes _)
    · refine Action.ensures_ask_bind (.error excludes) fun changed _ => Action.ensures_pure ?_
      refine .ok (.record (by decide)) ?_
      rw [Store.respond_updateStatus, found]
      exact excludes_modifyAccount known shut (fun _ => rfl) ⟨rfl, rfl, rfl, rfl⟩
        fun same => .inr (clears same)

theorem ensures_updateRole (known : store.account? account.id = some account)
    (shut : account.IsShutOut) (id : Int32) (change : RoleChange) :
    (updateRole caller id change).Ensures store (Excluded occasion account cleared) := by
  have excludes : store.Excludes account cleared := .refl known shut
  unfold updateRole
  refine Action.ensures_ofExcept_bind (fun e _ => .error excludes e) fun _ _ => ?_
  refine Action.ensures_ask_bind (.error excludes) fun changed _ => Action.ensures_pure ?_
  refine .ok (.record (by decide)) ?_
  rw [Store.respond_updateRole]
  split
  · exact excludes
  · exact excludes_modifyAccount known shut (fun _ => rfl) ⟨rfl, rfl, rfl, rfl⟩ fun _ => .inl shut

/-- A single operation on the records asks for nothing of the accounts. -/
theorem uses_tokens {op : StoreCall} (side : op.side = .tokens) :
    (Action.ask op).Uses (·.side = .tokens) := Action.uses_ask side

/-- Personal tokens are made without a look at the accounts. -/
theorem uses_create (tokens : PersonalTokens) (claims : Claims) (name expiry : String) :
    (tokens.create occasion claims name expiry).Uses (·.side = .tokens) := by
  refine (uses_tokens rfl).bind fun taken => ?_
  split
  · exact Action.uses_throw _
  refine (Action.uses_ofExcept _).bind fun expiresAt => ?_
  split
  · exact Action.uses_throw _
  refine (Action.uses_lift _ _).bind fun issued => (Action.uses_lift _ _).bind fun hash => ?_
  exact (uses_tokens rfl).bind fun _ => Action.uses_pure _

theorem uses_revoke (tokens : PersonalTokens) (record : PersonalToken) :
    (tokens.revoke record).Uses (·.side = .tokens) := by
  unfold PersonalTokens.revoke
  split
  · exact Action.uses_throw _
  refine (uses_tokens rfl).bind fun revoked => ?_
  split
  · exact Action.uses_throw _
  · exact Action.uses_pure _

/-- What goes to the records keeps the accounts. -/
theorem excludes_of_tokens (op : StoreCall) (side : op.side = .tokens) (store : Store)
    (excludes : store.Excludes account cleared) :
    (store.respond op).2.Excludes account cleared :=
  .of_accounts (Store.accounts_respond side).1 excludes

theorem ensures_createToken (excludes : store.Excludes account cleared) (form : TokenForm) :
    (service.createToken occasion caller form).Ensures store
      (Excluded occasion account cleared) := by
  unfold createToken
  refine Action.ensures_ofExcept_bind (fun e _ => .error excludes e) fun _ _ => ?_
  refine ((uses_create _ _ _ _).ensures excludes_of_tokens excludes).bind ?_ ?_
  · exact fun e _ excludes => .error excludes e
  · exact fun _ _ excludes => Action.ensures_pure (.ok (.record (by decide)) excludes)

theorem ensures_listTokens (excludes : store.Excludes account cleared) :
    (service.listTokens caller).Ensures store (Excluded occasion account cleared) := by
  refine Action.ensures_read_bind Store.respond_tokensOf (.error excludes) ?_
  exact Action.ensures_pure (.ok (.json fun _ h => by cases h) excludes)

theorem ensures_visibleToken (excludes : store.Excludes account cleared) (id : Uuid) :
    (service.visibleToken caller id).Ensures store fun _ after =>
      after.Excludes account cleared := by
  refine (reads_visibleToken caller id).ensures (fun op read store excludes => ?_) excludes
  rwa [read store]

theorem ensures_readToken (excludes : store.Excludes account cleared) (id : Uuid) :
    (service.readToken caller id).Ensures store (Excluded occasion account cleared) := by
  refine (ensures_visibleToken excludes id).bind ?_ ?_
  · exact fun e _ excludes => .error excludes e
  · exact fun _ _ excludes => Action.ensures_pure (.ok (.record (by decide)) excludes)

theorem ensures_revokeToken (excludes : store.Excludes account cleared) (id : Uuid) :
    (service.revokeToken caller id).Ensures store (Excluded occasion account cleared) := by
  refine (ensures_visibleToken excludes id).bind ?_ ?_
  · exact fun e _ excludes => .error excludes e
  · intro record after excludes
    refine ((uses_revoke _ record).ensures excludes_of_tokens excludes).bind ?_ ?_
    · exact fun e _ excludes => .error excludes e
    · exact fun _ _ excludes => Action.ensures_pure (.ok (.empty 204) excludes)

/-! ## Whole requests -/

section Shared

variable {α : Type} {post : Except AuthError Response → Store → Prop} {next : α → Action Response}

theorem ensures_withJson {read? : Json.Value → Option α}
    (empty : ∀ status, post (.ok (.empty status)) store)
    (h : ∀ body, (next body).Ensures store post) :
    (withJson request read? next).Ensures store post :=
  withJson_rule (P := (·.Ensures store post)) (fun _ => Action.ensures_pure (empty _))
    fun body _ => h body

theorem ensures_withSegment {vary : List Segment} {read? : List Char → Option α}
    (empty : ∀ status, post (.ok (.empty status)) store)
    (h : ∀ segment a, vary = [segment] → (Percent.decodeSegment? segment).bind read? = some a →
      (next a).Ensures store post) : (withSegment vary read? next).Ensures store post :=
  withSegment_rule (P := (·.Ensures store post)) (Action.ensures_pure (empty _)) h

theorem ensures_withCaller {established : Option Caller} {next : Caller → Action Response}
    (fails : ∀ e, post (.error e) store)
    (h : ∀ caller, established = some caller → (next caller).Ensures store post) :
    (withCaller established next).Ensures store post :=
  withCaller_rule (P := (·.Ensures store post)) (fun _ => Action.ensures_throw (fails _)) h

end Shared

theorem ensures_health (excludes : store.Excludes account cleared) (now : Instant) :
    (health now).Ensures store (Excluded occasion account cleared) := by
  refine Action.ensures_attempt_bind rfl fun answer => ?_
  exact Action.ensures_pure (.ok (.record (by decide)) excludes)

/-- Whatever a request asks an endpoint for, as long as nobody is taken for an account that is
shut out, it gets no tokens for it and leaves its session. -/
theorem ensures_answer (reachable : store.Reachable) (room : store.accounts.length < 2147483647)
    (known : store.account? account.id = some account) (shut : account.IsShutOut)
    {established : Option Caller} {endpoint : Endpoint} {vary : List Segment}
    (others : ∀ caller, established = some caller → caller.account.id ≠ account.id)
    (clears : ∀ caller segment, established = some caller → endpoint = .updateStatus →
      vary = [segment] → (Percent.decodeSegment? segment).bind Decimal.int32? = some account.id →
      cleared) :
    (service.answer occasion request established endpoint vary).Ensures store
      (Excluded occasion account cleared) := by
  have excludes : store.Excludes account cleared := .refl known shut
  have fails (e : AuthError) : Excluded occasion account cleared (.error e) store :=
    .error excludes e
  have empty (status : Nat) : Excluded occasion account cleared (.ok (.empty status)) store :=
    .ok (.empty status) excludes
  cases endpoint with
  | health => exact ensures_health excludes _
  | login => exact ensures_withJson empty (ensures_login reachable room known shut)
  | register => exact ensures_withJson empty (ensures_register reachable room known shut)
  | refresh => exact ensures_refresh known shut
  | logout =>
    exact ensures_withCaller fails fun caller h => ensures_logout known shut (others caller h)
  | me =>
    exact ensures_withCaller fails fun caller _ =>
      Action.ensures_pure (.ok (.record (by decide)) excludes)
  | updateStatus =>
    refine ensures_withCaller fails fun caller h => ?_
    refine ensures_withSegment empty fun segment id hvary named => ?_
    refine ensures_withJson empty fun change => ensures_updateStatus known shut ?_ change
    rintro rfl
    exact clears caller segment h rfl hvary named
  | updateRole =>
    refine ensures_withCaller fails fun caller _ => ?_
    refine ensures_withSegment empty fun _ id _ _ => ?_
    exact ensures_withJson empty (ensures_updateRole known shut id)
  | createToken =>
    refine ensures_withCaller fails fun caller _ => ?_
    exact ensures_withJson empty (ensures_createToken excludes)
  | listTokens => exact ensures_withCaller fails fun _ _ => ensures_listTokens excludes
  | readToken =>
    refine ensures_withCaller fails fun caller _ => ?_
    exact ensures_withSegment empty fun _ id _ _ => ensures_readToken excludes id
  | revokeToken =>
    refine ensures_withCaller fails fun caller _ => ?_
    exact ensures_withSegment empty fun _ id _ _ => ensures_revokeToken excludes id

theorem ensures_dispatch (reachable : store.Reachable)
    (room : store.accounts.length < 2147483647)
    (known : store.account? account.id = some account) (shut : account.IsShutOut)
    {established : Option Caller}
    (others : ∀ caller, established = some caller → caller.account.id ≠ account.id)
    (clears : ∀ caller segment, established = some caller →
      request.Asks .updateStatus [segment] →
      (Percent.decodeSegment? segment).bind Decimal.int32? = some account.id → cleared) :
    (service.dispatch occasion request established).Ensures store
      (Excluded occasion account cleared) := by
  unfold dispatch
  split
  · next endpoint vary found =>
    have asks := Request.asks_of_find? found
    refine ensures_answer reachable room known shut others ?_
    rintro caller segment h rfl rfl named
    exact clears caller segment h asks named
  · exact Action.ensures_pure (.ok (.empty 404) (.refl known shut))

end Service

/-! ## The gate -/

/-- Nobody passes the gate as an account that is shut out. -/
theorem Gate.ne_of_allowed {gate : Gate} {backend : Backend} {now : Instant}
    {request : GateRequest} {caller : Caller} {store after : Store} {account : Account}
    (known : store.account? account.id = some account) (shut : account.IsShutOut)
    (allowed : (gate.authorize now request).run.run backend store =
      some (.ok (.allowed caller), after)) : caller.account.id ≠ account.id := by
  obtain ⟨token, working⟩ :=
    working_of_verdict (verdict_of_decision (decision_of_run_authorize allowed))
  have stored : store.account? caller.account.id = some caller.account := by
    rw [Store.account?_id working.account, working.account]
  exact shut.ne_of_checkStatus known stored
    (Account.checkStatus_eq_ok working.notBanned working.notLocked)

/-! ## Single requests -/

namespace App

variable {occasion : Occasion} {request : Request} {backend : Backend} {store after : Store}
  {account : Account}

/-- The gate lets a caller with another account pass, and the request is for a change of the
status of the account. -/
inductive ChangesStatus (store : Store) (occasion : Occasion) (request : Request) (id : Int32) :
    App → Prop
  | intro {service : Service} {caller : Caller} {segment : Segment}
      (allowed : (service.gate.authorize occasion.now
        (request.toGate service.settings.csrfHeader)).run.run .healthy store =
          some (.ok (.allowed caller), store))
      (other : caller.account.id ≠ id) (asks : request.Asks .updateStatus [segment])
      (named : (Percent.decodeSegment? segment).bind Decimal.int32? = some id) :
      ChangesStatus store occasion request id (.gated (some service))

/-- Nobody is led to an endpoint as an account that is shut out. -/
theorem Dispatches.ne {app : App} {service : Service} {established : Option Caller}
    (dispatches : app.Dispatches occasion request backend store service established)
    (known : store.account? account.id = some account) (shut : account.IsShutOut) :
    ∀ caller, established = some caller → caller.account.id ≠ account.id := by
  rintro caller rfl
  cases dispatches with
  | allowed allowed => exact Gate.ne_of_allowed known shut allowed

/-- A request gets no tokens for an account that is shut out and leaves its session, and it is
another caller who clears its marks. -/
theorem excludes {app : App} (reachable : store.Reachable)
    (room : store.accounts.length < 2147483647)
    (known : store.account? account.id = some account) (shut : account.IsShutOut)
    {response : Response}
    (ends : (app.handle occasion request).run backend store = some (response, after)) :
    response.Withholds occasion account.id ∧
      after.Excludes account (app.ChangesStatus store occasion request account.id) := by
  have denied (e : AuthError) : e.response.Withholds occasion account.id :=
    .record (by decide)
  rcases app.dispatches_or_denied occasion request backend store with
    ⟨service, established, dispatches, hrun⟩ | ⟨e, hrun⟩
  · have others := dispatches.ne known shut
    have excluded : (service.dispatch occasion request established).Ensures store
        (Excluded occasion account (app.ChangesStatus store occasion request account.id)) := by
      refine Service.ensures_dispatch reachable room known shut others ?_
      rintro caller segment rfl asks named
      cases dispatches with
      | allowed allowed =>
        refine .intro ?_ (others caller rfl) asks named
        rw [Gate.run_authorize_healthy, Gate.decision_of_run_authorize allowed]
    rw [hrun] at ends
    obtain ⟨⟨result, left⟩, hresult, hends⟩ := Option.map_eq_some_iff.mp ends
    obtain ⟨rfl, rfl⟩ := Prod.mk.inj hends
    have hexcluded := excluded backend result left hresult
    refine ⟨?_, hexcluded.store⟩
    cases result with
    | ok response => exact hexcluded.response response rfl
    | error e => exact denied e
  · rw [hrun] at ends
    cases ends
    exact ⟨denied e, .refl known shut⟩

/-- On a store that answers every request ends. -/
theorem exists_run (app : App) (occasion : Occasion) (request : Request) (store : Store) :
    ∃ response after, (app.handle occasion request).run .healthy store = some (response, after) :=
  ⟨_, _, Program.run_healthy _ _⟩

/-! ## Requests in a row -/

/-- Requests are answered one behind the other, each on the store that the one before it left. -/
inductive Serves (app : App) : Store → List (Occasion × Request) → Store → Prop
  | nil (store : Store) : Serves app store [] store
  | cons {store between after : Store} {occasion : Occasion} {request : Request}
      {backend : Backend} {response : Response} {requests : List (Occasion × Request)}
      (ends : (app.handle occasion request).run backend store = some (response, between))
      (rest : Serves app between requests after) :
      Serves app store ((occasion, request) :: requests) after

/-- Among requests is one by which a caller with another account clears both marks of an account.
Before it the account was shut out, and its session is still the same behind it. -/
inductive Clears (app : App) (account : Account) (store : Store)
    (requests : List (Occasion × Request)) (after : Store) : Prop
  | intro {front back : List (Occasion × Request)} {occasion : Occasion} {request : Request}
      {backend : Backend} {response : Response} {before behind : Store} {kept : Account}
      (split : requests = front ++ (occasion, request) :: back)
      (front : app.Serves store front before) (still : before.Excludes account False)
      (changes : app.ChangesStatus before occasion request account.id)
      (ends : (app.handle occasion request).run backend before = some (response, behind))
      (stored : behind.account? account.id = some kept) (session : account.SameSession kept)
      (cleared : kept.banned = false ∧ kept.locked = false)
      (back : app.Serves behind back after) : Clears app account store requests after

theorem reachable_of_run {app : App} {response : Response} (reachable : store.Reachable)
    (ends : (app.handle occasion request).run backend store = some (response, after)) :
    after.Reachable :=
  Program.respond_of_run (fun _ reachable op => reachable.respond op) ends reachable

/-- Accounts are never removed. -/
theorem length_le_of_run {app : App} {response : Response}
    (ends : (app.handle occasion request).run backend store = some (response, after)) :
    store.accounts.length ≤ after.accounts.length := by
  have step (other : Store) (enough : store.accounts.length ≤ other.accounts.length)
      (op : StoreCall) : store.accounts.length ≤ (other.respond op).2.accounts.length := by
    refine Nat.le_trans enough ?_
    have ids := congrArg List.length (other.accountsChange_respond op).ids
    simp only [List.length_map, List.length_append] at ids
    omega
  exact Program.respond_of_run step ends (Nat.le_refl _)

theorem Serves.length_le {app : App} {requests : List (Occasion × Request)}
    (served : app.Serves store requests after) :
    store.accounts.length ≤ after.accounts.length := by
  induction served with
  | nil => exact Nat.le_refl _
  | cons ends _ ih => exact Nat.le_trans (length_le_of_run ends) ih

/-- An account stays shut out with its session through any number of requests, until another
caller clears its marks. -/
theorem Serves.excludes {app : App} {requests : List (Occasion × Request)}
    (served : app.Serves store requests after) (reachable : store.Reachable)
    (room : after.accounts.length < 2147483647) (shut : store.Excludes account False) :
    after.Excludes account False ∨ app.Clears account store requests after := by
  induction served with
  | nil => exact .inl shut
  | @cons store between after occasion request backend response requests ends rest ih =>
    obtain ⟨current, stored, session, standing⟩ := shut
    have hid : current.id = account.id := Store.account?_id stored
    have here := Nat.lt_of_le_of_lt (Nat.le_trans (length_le_of_run ends) rest.length_le) room
    obtain ⟨-, kept, hkept, hsession, hstanding⟩ := App.excludes reachable here
      (by rw [hid, stored]) (standing.resolve_right id) ends
    rw [hid] at hkept hstanding
    have hsession := session.trans hsession
    by_cases out : kept.IsShutOut
    · rcases ih (reachable_of_run reachable ends) room ⟨kept, hkept, hsession, .inl out⟩ with
        still | ⟨split, front, still, changes, hends, hstored, hsame, cleared, back⟩
      · exact .inl still
      · exact .inr (.intro (congrArg _ split) (.cons ends front) still changes hends hstored hsame
          cleared back)
    · have cleared : kept.banned = false ∧ kept.locked = false := by
        simpa [Account.IsShutOut] using out
      exact .inr (.intro rfl (.nil _) ⟨current, stored, session, standing⟩
        (hstanding.resolve_left out) ends hkept hsession cleared rest)

end App

/-! ## Shut out everywhere -/

theorem Store.Distinct.accountByEmail?_of_mem {store : Store} (distinct : store.Distinct)
    {account : Account} (mem : account ∈ store.accounts) :
    store.accountByEmail? account.email = some account := by
  cases found : store.accountByEmail? account.email with
  | none => simpa using List.find?_eq_none.mp found account mem
  | some other =>
    have hmem : other ∈ store.accounts := List.mem_of_find?_eq_some found
    have email : other.email = account.email := by simpa using List.find?_some found
    rw [List.inj_on_of_nodup_map distinct.emails hmem mem email]

/-- An account is refused everywhere: whoever passes the gate has another account, no password
logs in under its address, no refresh token is exchanged for it, and no request is carried out on
its behalf. While there are numbers for new accounts, none is answered with tokens for it or
touches its session. What would be accepted if the account were in good standing is refused for its
status. -/
structure Store.ShutsOut (store : Store) (account : Account) : Prop where
  gate : ∀ (gate : Gate) (backend : Backend) (now : Instant) (request : GateRequest)
    (caller : Caller) (after : Store),
    (gate.authorize now request).run.run backend store = some (.ok (.allowed caller), after) →
    caller.account.id ≠ account.id
  login : ∀ (sessions : Sessions) (backend : Backend) (password : String) (found : Account)
    (after : Store),
    (sessions.authenticate account.email password).run.run backend store ≠
      some (.ok found, after)
  exchange : ∀ (sessions : Sessions) (backend : Backend) (occasion : Occasion)
    (presented : String) (found : Account) (tokens : SessionTokens) (after : Store),
    (sessions.exchange occasion presented).run.run backend store =
      some (.ok (found, tokens), after) →
    found.id ≠ account.id
  carriedOut : ∀ (app : App) (backend : Backend) (occasion : Occasion) (request : Request),
    (∃ (service : Service) (established : Option Caller),
      (∀ caller, established = some caller → caller.account.id ≠ account.id) ∧
      (app.handle occasion request).run backend store =
        ((service.dispatch occasion request established).run.run backend store).map
          fun (result, after) => (.ofResult result, after)) ∨
    ∃ e : AuthError, (app.handle occasion request).run backend store = some (e.response, store)
  answered : store.accounts.length < 2147483647 → ∀ (app : App) (backend : Backend)
    (occasion : Occasion) (request : Request) (response : Response) (after : Store),
    (app.handle occasion request).run backend store = some (response, after) →
    response.Withholds occasion account.id ∧
      after.Excludes account (app.ChangesStatus store occasion request account.id)
  gateError : ∀ (gate : Gate) (now : Instant) (request : GateRequest) (token : String)
    (caller : Caller), Recognized gate store now request token caller →
    caller.account.id = account.id → gate.settings.isExempt request.path = false →
    (gate.authorize now request).run.run .healthy store = some (.error account.exclusion, store)
  loginError : ∀ (sessions : Sessions) (password : String),
    sessions.hasher.verifyPassword password account.passwordHash = .ok true →
    (sessions.authenticate account.email password).run.run .healthy store =
      some (.error account.exclusion, store)
  exchangeError : ∀ (sessions : Sessions) (occasion : Occasion) (presented : String)
    (claims : Claims), sessions.issuer.validate occasion.now presented = .ok claims →
    claims.kind = .refresh → claims.subject = account.id →
    (sessions.exchange occasion presented).run.run .healthy store =
      some (.error account.exclusion, store)

/-- An account that is banned or locked is shut out everywhere, in every store that operations
lead to, and if it is both it is refused as banned. Its session stays the same through any number
of requests, as long as the numbers for accounts last, until a caller with another account clears
both marks. -/
theorem Store.shutsOut {store : Store} {account : Account} (reachable : store.Reachable)
    (known : store.account? account.id = some account)
    (shut : account.banned = true ∨ account.locked = true) :
    store.ShutsOut account ∧
    (account.banned = true → account.locked = true → account.exclusion = .banned) ∧
    ∀ (app : App) (requests : List (Occasion × Request)) (after : Store),
      app.Serves store requests after → after.accounts.length < 2147483647 →
      after.Excludes account False ∨ app.Clears account store requests after := by
  have shut : account.IsShutOut := shut
  have email : store.accountByEmail? account.email = some account :=
    reachable.distinct.accountByEmail?_of_mem (List.mem_of_find?_eq_some known)
  refine ⟨?_, fun banned _ => if_pos banned, ?_⟩
  · constructor
    case gate =>
      intro gate backend now request caller after allowed
      exact Gate.ne_of_allowed known shut allowed
    case login =>
      intro sessions backend password found after accepted
      cases Sessions.ensures_authenticate _ _ backend _ after accepted with
      | done found standing =>
        rw [email] at found
        obtain rfl := Option.some.inj found
        rw [shut.checkStatus] at standing
        cases standing
    case exchange =>
      intro sessions backend occasion presented found tokens after exchanged
      cases Sessions.ensures_exchange _ backend _ after exchanged with
      | done stored standing => exact shut.ne_of_checkStatus known stored standing
    case carriedOut =>
      intro app backend occasion request
      refine (app.dispatches_or_denied occasion request backend store).imp_left ?_
      rintro ⟨service, established, dispatches, hrun⟩
      exact ⟨service, established, dispatches.ne known shut, hrun⟩
    case answered =>
      intro room app backend occasion request response after ends
      exact App.excludes reachable room known shut ends
    case gateError =>
      intro gate now request token caller recognized same notExempt
      have stored : store.account? caller.account.id = some caller.account := by
        rw [Store.account?_id recognized.account, recognized.account]
      rw [same, known] at stored
      have refused : caller.account.checkStatus = .error account.exclusion := by
        rw [← Option.some.inj stored, shut.checkStatus]
      rw [Gate.run_authorize_healthy, Gate.decision, notExempt,
        Gate.verdict_of_recognized recognized, Gate.judge, refused]
      rfl
    case loginError =>
      intro sessions password verified
      rw [Program.run_healthy]
      exact congrArg some (Sessions.exec_authenticate_of_isShutOut email shut verified)
    case exchangeError =>
      intro sessions occasion presented claims valid kind subject
      rw [Program.run_healthy]
      rw [← subject] at known
      exact congrArg some (Sessions.exec_exchange_of_isShutOut known shut valid kind)
  · intro app requests after served room
    exact served.excludes reachable room (.refl known shut)

namespace LoginRequest

/-- The account is banned and locked. -/
def shutOut : Account :=
  { Account.create 1 ⟨"name", "a@b.c", "password", .user⟩ .epoch with
    banned := true
    locked := true }

/-- The store behind the change of status. -/
def shutStore : Store := (store.respond (.updateStatus 1 ⟨some true, some true⟩)).2

/-- The login of an account that is banned and locked is refused as banned, whatever its
password, and leaves its session. -/
theorem shutsOut_of_both_marks :
    shutStore.account? shutOut.id = some shutOut ∧ shutOut.banned = true ∧
    shutStore.ShutsOut shutOut ∧
    (service.sessions.authenticate "a@b.c" "password").run.run .healthy shutStore =
      some (.error .banned, shutStore) ∧
    ∃ after, (App.gated (some service)).Serves shutStore [(occasion, request)] after ∧
      after.Excludes shutOut False := by
  have reachable : shutStore.Reachable := .respond (.respond .empty _) _
  have known : shutStore.account? shutOut.id = some shutOut := by decide +kernel
  obtain ⟨shuts, asBanned, serves⟩ := Store.shutsOut reachable known (.inl rfl)
  have refused := shuts.loginError service.sessions "password" rfl
  rw [asBanned rfl rfl] at refused
  obtain ⟨response, after, ends⟩ :=
    App.exists_run (.gated (some service)) occasion request shutStore
  have served : (App.gated (some service)).Serves shutStore [(occasion, request)] after :=
    .cons ends (.nil after)
  have room : after.accounts.length < 2147483647 := by
    have hroom : (((App.gated (some service)).handle occasion request).run .healthy shutStore).map
        (fun left => decide (left.2.accounts.length < 2147483647)) = some true := by
      decide +kernel
    rw [ends] at hroom
    exact of_decide_eq_true (Option.some.inj hroom)
  refine ⟨known, rfl, shuts, refused, after, served, ?_⟩
  rcases serves _ _ _ served room with
    still | @⟨_, _, time, asked, _, _, _, _, _, split, _, _, changes⟩
  · exact still
  -- A login is no request for a change of status.
  · have mem : (time, asked) ∈ [(occasion, request)] := by simp [split]
    obtain ⟨rfl, rfl⟩ := Prod.mk.inj (List.mem_singleton.mp mem)
    cases changes with
    | intro _ _ asks => exact absurd asks.1 (by decide)

end LoginRequest

end SessionAuth
