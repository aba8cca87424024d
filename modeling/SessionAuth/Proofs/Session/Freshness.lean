import SessionAuth.Proofs.Atomicity
import SessionAuth.Proofs.Http.Clearance
import SessionAuth.Proofs.Http.Forgery
import SessionAuth.Proofs.Token.Acceptance

/-!
# A fresh session works

What a login or an exchange hands out is accepted by those that it is meant for. The gate takes
the access token, as a bearer token or as a cookie with the value that is handed out in the cookie
beside it, and the refresh token is exchanged for new ones. Between then and now any operations
may have been performed on the store. The gate only asks that the account is in good standing and
has not lost the role that it had, and an exchange that nothing has happened to the session.

Signatures are accepted by the keys that made them, and stored tokens are recognized. A clock that
stands within the first minute of 1970 cannot tell whether a token holds.

## Main definitions

* `Store.Leads` — operations lead from one store to another
* `KeyPair.Signs`, `KeyPair.Steady` — keys that sign every message, or every one if any
* `TokenIssuer.InRange` — lifetimes that end in time
* `Sessions.Begins` — a login or an exchange hands out tokens for a stored account
* `GateRequest.Returns`, `Service.Presents` — a request comes with the tokens that were handed out

## Main results

* `Store.Leads.refreshHash?_eq` — a session lasts while no operation changes it
* `Sessions.exists_grants` — whoever was granted tokens can be granted others
* `Service.fresh_session_works` — the tokens of a session are accepted
-/

namespace SessionAuth

/-! ## What operations leave -/

/-- Operations lead from one store to another, each of them permitted with its answer. -/
inductive Store.Leads (permitted : Answered → Prop) (store : Store) : Store → Prop
  | refl : Leads permitted store store
  | respond {later : Store} (leads : Leads permitted store later) (op : StoreCall)
      (allowed : permitted ⟨op, (later.respond op).1⟩) :
      Leads permitted store (later.respond op).2

namespace Store

variable {store later : Store} {id : Int32} {permitted : Answered → Prop}

/-- An account that is there is there behind every operation. -/
theorem isSome_account?_respond (op : StoreCall) (known : (store.account? id).isSome = true) :
    ((store.respond op).2.account? id).isSome = true := by
  have change := store.accountsChange_respond op
  generalize (store.respond op).2 = after at change ⊢
  generalize op.made (store.respond op).1 = made at change
  rw [account?, List.find?_isSome] at known ⊢
  obtain ⟨account, mem, hid⟩ := known
  -- Accounts are rewritten under their identifiers, or one more is put in behind them.
  cases change with
  | rewritten change keepsId _ accounts =>
    rw [accounts]
    exact ⟨change account, List.mem_map_of_mem mem, by simpa [keepsId] using hid⟩
  | made _ _ accounts =>
    rw [accounts]
    exact ⟨account, List.mem_append_left _ mem, hid⟩

theorem Leads.isSome_account? (leads : store.Leads permitted later)
    (known : (store.account? id).isSome = true) : (later.account? id).isSome = true := by
  induction leads with
  | refl => exact known
  | respond _ op _ ih => exact isSome_account?_respond op ih

/-- A session lasts while no operation changes it. -/
theorem Leads.refreshHash?_eq (leads : store.Leads (fun did => did.change? id = none) later) :
    later.refreshHash? id = store.refreshHash? id := by
  induction leads with
  | refl => rfl
  | respond _ op quiet ih => rw [refreshHash?_respond, quiet, ih]

end Store

/-! ## Keys and lifetimes -/

/-- Keys that sign every message. -/
def KeyPair.Signs (keys : KeyPair) : Prop :=
  ∀ message, ∃ signature, keys.sign message = .ok signature

/-- Keys that were read sign every message. -/
theorem KeyPair.signs_ofData {data key seed : List UInt8} (read : seed? data = some seed) :
    (ofData data key).Signs := by
  intro message
  exact ⟨Ed25519.sign seed message, by simp [ofData, read]⟩

/-- Keys that have signed a message sign every other. -/
def KeyPair.Steady (keys : KeyPair) : Prop :=
  ∀ message signature, keys.sign message = .ok signature →
    ∀ other, ∃ signature', keys.sign other = .ok signature'

/-- Whether keys sign depends on the private half alone. -/
theorem KeyPair.steady_ofData (data key : List UInt8) : (ofData data key).Steady := by
  intro message signature h
  cases hseed : seed? data with
  | none => simp [ofData, hseed] at h
  | some seed => exact signs_ofData hseed

namespace TokenIssuer

variable {issuer : TokenIssuer} {now : Instant} {issued : IssuedToken} {kind : TokenKind}
  {subject : Int32} {id : Uuid} {lifetime : Duration} {roles : List Role}

/-- The tokens of a session that begins at an instant end within the limits of time. -/
structure InRange (issuer : TokenIssuer) (now : Instant) : Prop where
  access : (now.add? issuer.accessLifetime).isSome = true
  refresh : (now.add? issuer.refreshLifetime).isSome = true

theorem exists_sign {keys : KeyPair} (signs : keys.Signs) (claims : Claims) :
    ∃ token, sign keys claims = .ok token := by
  obtain ⟨signature, hsignature⟩ := signs (unsigned claims).signedBytes
  exact ⟨_, bind_eq_ok_iff.mpr ⟨signature, hsignature, rfl⟩⟩

/-- Keys that sign issue every token that ends within the limits of time. -/
theorem exists_issue (signs : issuer.keys.Signs) (kind : TokenKind) (subject : Int32)
    (id : Uuid) (roles : List Role) (inRange : (now.add? lifetime).isSome = true) :
    ∃ issued, issuer.issue now kind subject id lifetime roles = .ok issued := by
  obtain ⟨expiry, hexpiry⟩ := Option.isSome_iff_exists.mp inRange
  obtain ⟨claims, hclaims⟩ : ∃ claims,
      issuer.claimsFor? now kind subject id lifetime roles = some claims :=
    ⟨_, congrArg (Option.map _) hexpiry⟩
  obtain ⟨token, htoken⟩ := exists_sign signs claims
  refine ⟨⟨token, claims⟩, ?_⟩
  unfold issue
  simp only [hclaims, htoken]

/-- Steady keys by which a token was issued sign. -/
theorem signs_of_issue (steady : issuer.keys.Steady)
    (h : issuer.issue now kind subject id lifetime roles = .ok issued) : issuer.keys.Signs := by
  obtain ⟨signature, hsignature, -⟩ := sign_eq_ok (issues_of_issue h).signed
  exact steady _ _ hsignature

/-- What is issued in or behind 1970 for no negative time ends there too. -/
theorem expires_nonneg (h : issuer.issue now kind subject id lifetime roles = .ok issued)
    (started : 0 ≤ now.seconds) (lasts : 0 ≤ lifetime.nanoseconds) :
    0 ≤ issued.claims.expires.toInt := by
  rw [(issues_of_issue h).expires, Instant.toNanoseconds]
  have hunit : Duration.perSecond = 1000000000 := rfl
  rw [hunit]
  omega

end TokenIssuer

/-! ## The beginning of a session -/

namespace Sessions

variable {sessions : Sessions} {occasion later : Occasion} {store after : Store}
  {account other : Account} {tokens : SessionTokens} {hash : String}

/-- Keys that sign issue the tokens of every session whose tokens end within the limits of time. -/
theorem exists_issuePair (signs : sessions.issuer.keys.Signs)
    (inRange : sessions.issuer.InRange occasion.now) (account : Account) :
    ∃ tokens, sessions.issuePair occasion account = .ok tokens := by
  obtain ⟨access, haccess⟩ := TokenIssuer.exists_issue signs .access account.id
    occasion.accessId [account.role] inRange.access
  obtain ⟨refresh, hrefresh⟩ := TokenIssuer.exists_issue signs .refresh account.id
    occasion.refreshId [] inRange.refresh
  exact ⟨⟨access, refresh⟩, issuePair_eq_ok_iff.mpr ⟨haccess, hrefresh⟩⟩

/-- Where tokens could be granted they can be granted again, on another occasion and for another
account. -/
theorem exists_grants (steady : sessions.issuer.keys.Steady) (faithful : sessions.hasher.Faithful)
    (grants : sessions.Grants occasion account tokens hash) (other : Account)
    (inRange : sessions.issuer.InRange later.now) :
    ∃ tokens' hash', sessions.Grants later other tokens' hash' := by
  have signs := TokenIssuer.signs_of_issue steady (issuePair_eq_ok_iff.mp grants.issued).1
  obtain ⟨tokens', issued⟩ := exists_issuePair signs inRange other
  obtain ⟨hash', hashed⟩ :=
    faithful.steady _ _ _ grants.hashed later.tokenSalt tokens'.refresh.token
  exact ⟨tokens', hash', issued, hashed⟩

/-- Tokens are handed out for an account that is stored: by a login, at a time in or behind 1970,
or by an exchange, however the store answers. -/
inductive Begins (sessions : Sessions) (occasion : Occasion) (store : Store) (account : Account)
    (tokens : SessionTokens) (after : Store) : Prop
  | login {backend : Backend} (stored : store.account? account.id = some account)
      (started : 0 ≤ occasion.now.seconds)
      (succeeds : (sessions.login occasion account).run.run backend store =
        some (.ok tokens, after))
  | exchange {backend : Backend} {presented : String}
      (succeeds : (sessions.exchange occasion presented).run.run backend store =
        some (.ok (account, tokens), after))

/-- Nothing is exchanged that is no token. -/
theorem validate_of_run_exchange {backend : Backend} {presented : String}
    {granted : Account × SessionTokens}
    (h : (sessions.exchange occasion presented).run.run backend store = some (.ok granted, after)) :
    ∃ claims, sessions.issuer.validate occasion.now presented = .ok claims := by
  cases hvalid : sessions.issuer.validate occasion.now presented with
  | ok claims => exact ⟨claims, rfl⟩
  | error e =>
    unfold exchange at h
    rw [hvalid, Action.ofExcept_error, Action.throw_bind] at h
    cases h

theorem Begins.started (begins : sessions.Begins occasion store account tokens after) :
    0 ≤ occasion.now.seconds := by
  cases begins with
  | login _ started _ => exact started
  | exchange succeeds =>
    obtain ⟨claims, valid⟩ := validate_of_run_exchange succeeds
    obtain ⟨running, -⟩ := TokenIssuer.validate_eq_ok_iff.mp valid
    omega

/-- When a session begins, the account is kept with the hash of the refresh token. -/
theorem Begins.exists_grants (begins : sessions.Begins occasion store account tokens after) :
    ∃ hash, sessions.Grants occasion account tokens hash ∧
      ∃ kept, after.account? account.id = some kept ∧ kept.refreshHash = some hash := by
  cases begins with
  | login _ _ succeeds =>
    cases settles_login account _ _ _ succeeds with
    | all settled =>
      obtain ⟨hash, grants, changes⟩ := settled
      obtain ⟨current, -, kept⟩ := changes.known
      exact ⟨hash, grants, _, kept, rfl⟩
  | exchange succeeds =>
    cases settles_exchange _ _ _ _ succeeds with
    | all settled =>
      obtain ⟨-, -, hash, grants, changes⟩ := settled
      obtain ⟨current, -, kept⟩ := changes.known
      exact ⟨hash, grants, _, kept, rfl⟩

end Sessions

/-! ## Requests with the tokens of a session -/

/-- The value of the cookie of a name among those that were set. -/
def Cookie.value? (cookies : List Cookie) (name : String) : Option String :=
  (cookies.find? (·.name = name)).map (·.value)

/-- A request of a page returns cookies: the access token comes along, and the page repeats in a
header the value that scripts may read. -/
structure GateRequest.Returns (request : GateRequest) (cookies : List Cookie) : Prop where
  noBearer : request.bearer.getD "" = ""
  access : request.accessCookie = Cookie.value? cookies SessionCookies.accessName
  csrfCookie : request.csrfCookie = Cookie.value? cookies SessionCookies.csrfName
  csrfHeader : request.csrfHeader = Cookie.value? cookies SessionCookies.csrfName

/-- A request comes with the access token of a session, as a bearer token or with the cookies that
were set when the session began. -/
inductive Service.Presents (service : Service) (began : Instant) (tokens : SessionTokens)
    (request : GateRequest) : Prop
  | bearer (bearer : request.bearer = some tokens.access.token)
  | cookies {status : Nat} {userId : Int32} {response : Response}
      (granted : service.grant began status userId tokens = .ok response)
      (returns : request.Returns response.cookies)

/-- A role that a list of rules asks for is enough. -/
theorem RolePolicy.checkRoles_engine (policy : RolePolicy) {path method : String} {role : Role}
    (enough : (policy.requiredRole path method).rank ≤ role.rank) :
    Gate.checkRoles policy.engine path method [role] = .ok () := by
  have covered : role.covers (policy.requiredRole path method) = true :=
    Role.covers_iff.mpr enough
  simp only [Gate.checkRoles, policy.enforce_engine, covered]

namespace Service

variable {service : Service} {occasion : Occasion} {tokens : SessionTokens} {account : Account}
  {request : GateRequest}

/-- A request that comes with a token is guarded if it is one of a page. -/
theorem Presents.carries (presents : service.Presents occasion.now tokens request)
    (nonempty : tokens.access.token ≠ "") :
    ∃ source, request.Carries tokens.access.token source ∧ (source = .cookie →
      service.gate.guard.verify tokens.access.token request.csrfCookie request.csrfHeader =
        .ok ()) := by
  cases presents with
  | bearer bearer => exact ⟨.header, .header bearer nonempty, nofun⟩
  | cookies granted returns =>
    obtain ⟨csrf, handed, rfl⟩ := grant_eq_ok_iff.mp granted
    refine ⟨.cookie, .cookie returns.noBearer returns.access nonempty, fun _ => ?_⟩
    have csrfCookie : request.csrfCookie = some csrf := returns.csrfCookie
    have csrfHeader : request.csrfHeader = some csrf := returns.csrfHeader
    rw [csrfCookie, csrfHeader]
    exact CsrfGuard.verify_of_tokenFor (CsrfGuard.ne_empty_of_tokenFor handed) handed

/-- The access token of a session passes the gate, for an account in good standing that has not
lost the role it had. -/
theorem allowed_of_access (standard : service.policy = RolePolicy.standard.engine)
    (trusts : service.issuer.keys.Trusts service.issuer.keys)
    (lasts : 0 ≤ service.issuer.accessLifetime.nanoseconds) {hash : String}
    (grants : service.sessions.Grants occasion account tokens hash)
    (started : 0 ≤ occasion.now.seconds) {later : Store} {current : Account}
    (known : later.account? account.id = some current) (notBanned : current.banned = false)
    (notLocked : current.locked = false) (rank : account.role.rank ≤ current.role.rank)
    {now : Instant} (since : occasion.now.seconds ≤ now.seconds) (running : 60 ≤ now.seconds)
    (inTime : now.seconds ≤ tokens.access.claims.expires.toInt + 60)
    (notExempt : service.settings.isExempt request.path = false)
    (enough : (RolePolicy.standard.requiredRole request.path request.method).rank ≤
      account.role.rank)
    (presents : service.Presents occasion.now tokens request) :
    ∃ source, (service.gate.authorize now request).run.run .healthy later =
      some (.ok (.allowed ⟨tokens.access.claims, current, source⟩), later) := by
  obtain ⟨haccess, -⟩ := Sessions.issuePair_eq_ok_iff.mp grants.issued
  have issues := grants.access
  have expires := TokenIssuer.expires_nonneg haccess started lasts
  have valid : service.gate.issuer.validate now tokens.access.token = .ok tokens.access.claims :=
    TokenIssuer.validate_of_issue trusts haccess started since running expires inTime
  obtain ⟨source, carries, unforged⟩ :=
    presents.carries (TokenIssuer.ne_empty_of_sign issues.signed)
  have working : Working service.gate later now request tokens.access.token
      ⟨tokens.access.claims, current, source⟩ :=
    { carries, valid
      kind := by simp [issues.kind]
      account := issues.subject ▸ known
      notBanned, notLocked
      unforged := fun cookie _ => unforged cookie
      record := by simp [issues.kind] }
  have effective : Gate.effectiveRoles tokens.access.claims current = [account.role] := by
    simp [Gate.effectiveRoles, issues.roles, rank]
  have permitted : Gate.checkRoles service.gate.policy request.path request.method
      (Gate.effectiveRoles tokens.access.claims current) = .ok () := by
    change Gate.checkRoles service.policy _ _ _ = _
    rw [effective, standard]
    exact RolePolicy.checkRoles_engine _ enough
  exact ⟨source, Gate.run_authorize_of_working working notExempt permitted⟩

/-- The refresh token of a session is exchanged, for an account in good standing that keeps its
hash. -/
theorem exchanged_of_refresh (trusts : service.issuer.keys.Trusts service.issuer.keys)
    (steady : service.issuer.keys.Steady) (faithful : service.hasher.Faithful)
    (lasts : 0 ≤ service.issuer.refreshLifetime.nanoseconds) {hash : String}
    (grants : service.sessions.Grants occasion account tokens hash)
    (started : 0 ≤ occasion.now.seconds) {later : Store} {current : Account}
    (known : later.account? account.id = some current) (notBanned : current.banned = false)
    (notLocked : current.locked = false) (kept : current.refreshHash = some hash)
    {now : Occasion} (since : occasion.now.seconds ≤ now.now.seconds)
    (running : 60 ≤ now.now.seconds)
    (inTime : now.now.seconds ≤ tokens.refresh.claims.expires.toInt + 60)
    (inRange : service.issuer.InRange now.now) :
    ∃ renewed left, (service.sessions.exchange now tokens.refresh.token).run.run .healthy later =
      some (.ok (current, renewed), left) := by
  obtain ⟨-, hrefresh⟩ := Sessions.issuePair_eq_ok_iff.mp grants.issued
  have issues := grants.refresh
  have expires := TokenIssuer.expires_nonneg hrefresh started lasts
  have valid : service.sessions.issuer.validate now.now tokens.refresh.token =
      .ok tokens.refresh.claims :=
    TokenIssuer.validate_of_issue trusts hrefresh started since running expires inTime
  obtain ⟨renewed, hash', again⟩ := Sessions.exists_grants steady faithful grants current inRange
  have exchanged := Sessions.exec_exchange valid issues.kind (issues.subject ▸ known)
    (Account.checkStatus_eq_ok notBanned notLocked) kept (faithful.filled _ _ _ grants.hashed)
    (grants.verifies faithful.recognizes) again
  rw [Program.run_healthy]
  exact ⟨renewed, _, congrArg some exchanged⟩

/-- The tokens of a session are accepted. Whatever has been done on the store since a login or an
exchange handed them out, the account is still there. While it is neither banned nor locked, the
access token passes the gate until a minute behind its expiry wherever the standard rules ask for
no more than the role that the account had then and still has. It does so as a bearer token and
with the cookies that were set. The refresh token is exchanged until a minute behind its expiry, as
long as no login, exchange or logout of the account has changed its session, and new tokens can
still be issued. -/
theorem fresh_session_works (service : Service)
    (standard : service.policy = RolePolicy.standard.engine)
    (trusts : service.issuer.keys.Trusts service.issuer.keys)
    (steady : service.issuer.keys.Steady) (faithful : service.hasher.Faithful)
    (accessLasts : 0 ≤ service.issuer.accessLifetime.nanoseconds)
    (refreshLasts : 0 ≤ service.issuer.refreshLifetime.nanoseconds)
    {occasion : Occasion} {store after later : Store} {account : Account} {tokens : SessionTokens}
    (begins : service.sessions.Begins occasion store account tokens after)
    (leads : after.Leads (fun _ => True) later) :
    ∃ current, later.account? account.id = some current ∧
      (current.banned = false → current.locked = false →
        (account.role.rank ≤ current.role.rank → ∀ (now : Instant) (request : GateRequest),
          occasion.now.seconds ≤ now.seconds → 60 ≤ now.seconds →
          now.seconds ≤ tokens.access.claims.expires.toInt + 60 →
          service.settings.isExempt request.path = false →
          (RolePolicy.standard.requiredRole request.path request.method).rank ≤
            account.role.rank →
          service.Presents occasion.now tokens request →
          ∃ source, (service.gate.authorize now request).run.run .healthy later =
            some (.ok (.allowed ⟨tokens.access.claims, current, source⟩), later)) ∧
        (after.Leads (fun did => did.change? account.id = none) later → ∀ now : Occasion,
          occasion.now.seconds ≤ now.now.seconds → 60 ≤ now.now.seconds →
          now.now.seconds ≤ tokens.refresh.claims.expires.toInt + 60 →
          service.issuer.InRange now.now →
          ∃ renewed left,
            (service.sessions.exchange now tokens.refresh.token).run.run .healthy later =
              some (.ok (current, renewed), left))) := by
  obtain ⟨hash, grants, kept, hkept, hhash⟩ := begins.exists_grants
  have hsome : (after.account? account.id).isSome = true := by rw [hkept]; rfl
  obtain ⟨current, known⟩ := Option.isSome_iff_exists.mp (leads.isSome_account? hsome)
  refine ⟨current, known, fun notBanned notLocked => ⟨?_, ?_⟩⟩
  · intro rank now request since running inTime notExempt enough presents
    exact allowed_of_access standard trusts accessLasts grants begins.started known notBanned
      notLocked rank since running inTime notExempt enough presents
  · intro quiet now since running inTime inRange
    -- The hash that was kept when the session began is kept still.
    have same := quiet.refreshHash?_eq
    simp only [Store.refreshHash?, known, hkept, Option.bind_some, hhash] at same
    exact exchanged_of_refresh trusts steady faithful refreshLasts grants begins.started known
      notBanned notLocked same since running inTime inRange

end Service

namespace FreshSession

open AdminRequest (account now occasion store)

/-- The service of the administrator, with stored secrets hashed as they are in use. -/
def service : Service := { AdminRequest.service with hasher := .ofCost 12 }

/-- The time of an exchange, five seconds after the login, with other identifiers. -/
def later : Occasion :=
  { occasion with now := (Instant.ofSeconds? 105).getD .epoch, accessId := .version4 1 }

/-- A change is asked for with the cookies that were set. -/
def change (tokens : SessionTokens) (csrf : String) : GateRequest where
  method := "PUT"
  path := "/api/users/8/status"
  bearer := none
  accessCookie := some tokens.access.token
  csrfCookie := some csrf
  csrfHeader := some csrf

/-- The account behind a login. -/
def loggedIn (hash : String) : Account :=
  { account with refreshHash := some hash, lastLogin := some now }

/-- The store that is left when somebody else has registered behind the login. -/
def joined (hash : String) : Store :=
  (Store.respond ⟨7, [loggedIn hash], []⟩
    (.createAccount ⟨"other", "elsewhere", "password", .user⟩ now)).2

variable {tokens : SessionTokens} {hash : String}

theorem begins (grants : service.sessions.Grants occasion account tokens hash) :
    service.sessions.Begins occasion store account tokens ⟨7, [loggedIn hash], []⟩ := by
  have hexec : Program.exec (service.sessions.login occasion account).run store = _ :=
    Sessions.exec_login grants rfl
  have succeeds := Program.run_healthy (service.sessions.login occasion account).run store
  rw [hexec] at succeeds
  exact .login rfl (by decide) succeeds

theorem quiet : Store.Leads (fun did => did.change? account.id = none) ⟨7, [loggedIn hash], []⟩
    (joined hash) :=
  .respond .refl _ rfl

/-- An administrator has logged in, and somebody else has registered since. The administrator may
list the accounts and change another one, and the session can be renewed. -/
theorem fresh_session_of_administrator : ∃ tokens hash csrf source source' renewed left,
    service.sessions.Begins occasion store account tokens ⟨7, [loggedIn hash], []⟩ ∧
    service.gate.guard.tokenFor tokens.access.token = .ok csrf ∧
    (service.gate.authorize now (AdminRequest.request tokens.access.token)).run.run .healthy
      (joined hash) = some (.ok (.allowed ⟨tokens.access.claims, loggedIn hash, source⟩),
        joined hash) ∧
    (service.gate.authorize now (change tokens csrf)).run.run .healthy (joined hash) =
      some (.ok (.allowed ⟨tokens.access.claims, loggedIn hash, source'⟩), joined hash) ∧
    (service.sessions.exchange later tokens.refresh.token).run.run .healthy (joined hash) =
      some (.ok (loggedIn hash, renewed), left) := by
  obtain ⟨tokens, issued⟩ : ∃ tokens, service.sessions.issuePair occasion account = .ok tokens :=
    ⟨_, rfl⟩
  obtain ⟨hash, hashed⟩ : ∃ hash,
      service.hasher.hashToken occasion.tokenSalt tokens.refresh.token = .ok hash := ⟨_, rfl⟩
  have grants : service.sessions.Grants occasion account tokens hash := ⟨issued, hashed⟩
  have accessEnd : tokens.access.claims.expires.toInt = 700 := grants.access.expires
  have refreshEnd : tokens.refresh.claims.expires.toInt = 86500 := grants.refresh.expires
  have hnow : now.seconds = 100 := rfl
  have hlater : later.now.seconds = 105 := rfl
  have start := begins grants
  obtain ⟨current, known, works⟩ := service.fresh_session_works rfl TokenIssuer.echo_trusts_echo
    (fun message signature h other => ⟨other, rfl⟩) (SecretHasher.faithful_ofCost 12) (by decide)
    (by decide) start (.respond .refl
      (.createAccount ⟨"other", "elsewhere", "password", .user⟩ now) trivial)
  obtain rfl : loggedIn hash = current := Option.some.inj known
  obtain ⟨passes, renews⟩ := works rfl rfl
  have listing : (RolePolicy.standard.requiredRole "/api/users/" "GET").rank ≤
      account.role.rank := by decide +kernel
  have changing : (RolePolicy.standard.requiredRole "/api/users/8/status" "PUT").rank ≤
      account.role.rank := by decide +kernel
  obtain ⟨response, granted⟩ := service.exists_grant now 200 7 tokens
  obtain ⟨csrf, handed, rfl⟩ := Service.grant_eq_ok_iff.mp granted
  obtain ⟨source, lists⟩ := passes (Nat.le_refl _) now (AdminRequest.request tokens.access.token)
    (Int.le_refl _) (by omega) (by omega) rfl listing (.bearer rfl)
  obtain ⟨source', changes⟩ := passes (Nat.le_refl _) now (change tokens csrf) (Int.le_refl _)
    (by omega) (by omega) rfl changing (.cookies granted ⟨rfl, rfl, rfl, rfl⟩)
  obtain ⟨renewed, left, exchanged⟩ := renews quiet later (by decide) (by omega) (by omega)
    ⟨rfl, rfl⟩
  exact ⟨tokens, hash, csrf, source, source', renewed, left, start, handed, lists, changes,
    exchanged⟩

end FreshSession

end SessionAuth
