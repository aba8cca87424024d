import SessionAuth.Proofs.Session.Concealment
import SessionAuth.Proofs.Session.Exclusion
import SessionAuth.Proofs.Session.Freshness

/-!
# Registered accounts

Who has registered can log in with what was sent to register. The address of the account leads
to it from then on, with the password that it was made with: accounts are never removed, none
changes its address or its password, and no address is taken twice. So a login goes through at
any later time, unless the account is banned or locked, and nobody registers with the address
again. What stands between a request and its endpoint is the gate, where the service is put up
behind one, and whatever paths it exempts is a matter of its settings.

## Main definitions

* `Store.HasLogin` — an address leads to an account with the hash of a password
* `Service.Registers` — what a registration has brought about when it succeeds
* `App.Remembers` — an address and a password open an account, and the address is taken

## Main results

* `Store.Leads.hasLogin` — whatever operations are performed, an address leads where it led
* `App.Serves.leads` — requests that are answered are operations that are performed
* `App.remembers` — a registered account can log in
-/

namespace SessionAuth

/-! ## Where an address leads -/

/-- An address leads to an account, which has an identifier and the hash of a password. -/
def Store.HasLogin (store : Store) (email : String) (id : Int32) (passwordHash : String) : Prop :=
  ∃ account, store.accountByEmail? email = some account ∧ account.id = id ∧
    account.passwordHash = passwordHash

section Addresses

variable {store after later : Store} {email passwordHash : String} {id : Int32}

theorem Store.AccountsChange.hasLogin {made : List Account}
    (change : AccountsChange store made after) (login : store.HasLogin email id passwordHash) :
    after.HasLogin email id passwordHash := by
  obtain ⟨account, found, hid, hpassword⟩ := login
  unfold HasLogin accountByEmail?
  cases change with
  | rewritten change keepsId keepsEmail accounts _ keepsPassword =>
    refine ⟨change account, ?_, (keepsId account).trans hid,
      (keepsPassword account).trans hpassword⟩
    -- The address is the same before the change and behind it.
    have same : ((fun a : Account => decide (a.email = email)) ∘ change) =
        fun a => decide (a.email = email) := by
      funext a
      simp [keepsEmail]
    rw [accounts, List.find?_map, same]
    exact congrArg (Option.map change) found
  | made _ _ accounts =>
    refine ⟨account, ?_, hid, hpassword⟩
    rw [accounts, List.find?_append]
    exact congrArg (Option.or · _) found

/-- The address of a new account leads to it. -/
theorem Store.hasLogin_of_created {new : NewAccount} {now : Instant} {account : Account}
    (answered : (store.respond (.createAccount new now)).1 = .ok account) :
    (store.respond (.createAccount new now)).2.HasLogin new.email account.id new.passwordHash := by
  have made : store.createAccount new now =
      (.ok account, (store.respond (.createAccount new now)).2) := Prod.ext answered rfl
  obtain ⟨free, rfl, hafter⟩ := createAccount_eq_ok_iff.mp made
  refine ⟨_, ?_, rfl, rfl⟩
  -- Nobody had the address before, so the new account is the first that has it.
  rw [hafter, accountByEmail?, List.find?_append]
  change (store.accountByEmail? new.email).or _ = _
  rw [free, Option.none_or]
  exact List.find?_cons_of_pos (decide_eq_true rfl)

/-- Whatever operations are performed, an address leads where it led. -/
theorem Store.Leads.hasLogin {permitted : Answered → Prop} (leads : store.Leads permitted later)
    (login : store.HasLogin email id passwordHash) : later.HasLogin email id passwordHash := by
  induction leads with
  | refl => exact login
  | respond _ op _ ih => exact (Store.accountsChange_respond _ op).hasLogin ih

/-- Requests that are answered are operations that are performed. -/
theorem App.Serves.leads {app : App} {requests : List (Occasion × Request)}
    (served : app.Serves after requests later) (leads : store.Leads (fun _ => True) after) :
    store.Leads (fun _ => True) later := by
  induction served with
  | nil => exact leads
  | cons ends _ ih =>
    exact ih (Program.respond_of_run (fun _ leads op => leads.respond op trivial) ends leads)

end Addresses

/-! ## Registration -/

/-- A registration has succeeded: the form passed its checks, tokens were handed out for a new
account, and the address leads to it with a hash of the password. -/
structure Service.Registers (service : Service) (occasion : Occasion) (form : RegistrationForm)
    (id : Int32) (tokens : SessionTokens) (after : Store) : Prop where
  valid : form.faults = []
  granted : ∃ account hash, service.sessions.Grants occasion account tokens hash
  stored : ∃ passwordHash,
    service.hasher.hashPassword occasion.passwordSalt form.password = .ok passwordHash ∧
      after.HasLogin form.email id passwordHash

namespace Service

variable {service : Service} {occasion : Occasion} {store : Store}

/-- Where the endpoint answers with a response it has registered an account. -/
theorem ensures_registers (form : RegistrationForm) :
    (service.register occasion form).Ensures store fun result after =>
      ∀ response, result = .ok response → ∃ id tokens,
        service.grant occasion.now 201 id tokens = .ok response ∧
          service.Registers occasion form id tokens after := by
  have fails {e : AuthError} {response : Response} {p : Prop}
      (h : (.error e : Except AuthError Response) = .ok response) : p := by cases h
  unfold register
  refine Action.ensures_ofExcept_bind (fun _ _ _ => fails) fun _ passed => ?_
  refine Action.ensures_lift_bind (fun _ _ => fails) fun passwordHash hashed => ?_
  refine Action.ensures_ask_bind (fun _ _ => fails) fun created answered => ?_
  have valid : form.faults = [] := by
    by_contra faulty
    rw [checkFields, if_neg faulty] at passed
    cases passed
  have login : (store.respond (.createAccount ⟨form.username, form.email, passwordHash, .user⟩
      occasion.now)).2.HasLogin form.email created.id passwordHash :=
    Store.hasLogin_of_created answered
  refine (Sessions.settles_login created).bind ?_ ?_
  · rintro e after - response
    exact fails
  · intro tokens after settled
    refine ensures_grant fun handed granted => ?_
    rintro response ⟨⟩
    cases settled with
    | all settled =>
      obtain ⟨hash, grants, changes⟩ := settled
      refine ⟨created.id, tokens, granted, valid, ⟨created, hash, grants⟩, passwordHash, hashed,
        ?_⟩
      rw [changes.eq_modifyAccount]
      refine Store.AccountsChange.hasLogin (.of_modifyAccount ?_ ?_ ?_) login
      all_goals exact fun _ => rfl

end Service

/-- The identifier that a client is sent is that of the account. -/
theorem SessionGrant.userId_eq {grant other : SessionGrant} (same : grant.toJson = other.toJson) :
    grant.userId = other.userId := by
  simp only [toJson, Json.Value.record, Json.Value.object.injEq, List.map_cons, List.cons.injEq,
    Prod.mk.injEq] at same
  obtain ⟨-, -, ⟨-, same⟩, -⟩ := same
  have read := congrArg Json.Value.int32? same
  rw [Json.Value.int32?_int, Json.Value.int32?_int] at read
  exact Option.some.inj read

/-- So a response that starts a session tells of which account. -/
theorem Service.userId_eq_of_grant {service : Service} {now : Instant} {status : Nat}
    {userId other : Int32} {tokens granted : SessionTokens} {response : Response}
    (h : service.grant now status userId tokens = .ok response)
    (h' : service.grant now status other granted = .ok response) : userId = other := by
  obtain ⟨csrf, -, rfl⟩ := grant_eq_ok_iff.mp h
  obtain ⟨csrf', -, same⟩ := grant_eq_ok_iff.mp h'
  exact SessionGrant.userId_eq (Option.some.inj (congrArg Response.body same))

/-! ## Later requests -/

section Later

variable {service : Service} {occasion : Occasion} {request : Request} {store : Store}

/-- An account in good standing is authenticated by its address and its password. -/
theorem Sessions.exec_authenticate_of_found (sessions : Sessions) {email password : String}
    {account : Account} (found : store.accountByEmail? email = some account)
    (verified : sessions.hasher.verifyPassword password account.passwordHash = .ok true)
    (standing : account.checkStatus = .ok ()) :
    (sessions.authenticate email password).exec store = (.ok account, store) := by
  simp only [exec_authenticate_eq, found, verified, Account.identified, standing]
  rfl

namespace Service

/-- A login succeeds where its account is authenticated and tokens can be handed out. -/
theorem exec_login_of_authenticate {form : LoginForm} {account current : Account}
    {tokens : SessionTokens} {hash : String} {response : Response} (valid : form.faults = [])
    (authenticated : (service.sessions.authenticate form.email form.password).exec store =
      (.ok account, store))
    (known : store.account? account.id = some current)
    (grants : service.sessions.Grants occasion account tokens hash)
    (granted : service.grant occasion.now 200 account.id tokens = .ok response) :
    (service.login occasion form).exec store =
      (.ok response, store.modifyAccount account.id fun account =>
        { account with refreshHash := some hash, lastLogin := some occasion.now }) := by
  have passes : checkFields occasion form.faults = .ok () := if_pos valid
  unfold login
  rw [passes, Action.ofExcept_ok, Action.pure_bind, Action.exec_bind, authenticated]
  simp only
  rw [Action.exec_bind, Sessions.exec_login grants known]
  exact exec_grant granted

/-- A registration with an address that leads to an account is refused. -/
theorem exec_register_of_taken {form : RegistrationForm} {account : Account}
    {passwordHash : String} (valid : form.faults = [])
    (hashed : service.hasher.hashPassword occasion.passwordSalt form.password = .ok passwordHash)
    (taken : store.accountByEmail? form.email = some account) :
    (service.register occasion form).exec store = (.error .emailTaken, store) := by
  have passes : checkFields occasion form.faults = .ok () := if_pos valid
  unfold register
  rw [passes, hashed, Action.ofExcept_ok, Action.pure_bind, Action.lift_ok, Action.pure_bind,
    Action.exec_bind, Action.exec_ask, Store.respond_createAccount, taken]
  rfl

end Service

namespace App

variable {app : App}

/-- The service of an application is the one that it leads requests to. -/
theorem Dispatches.service?_eq {backend : Backend} {established : Option Caller}
    (dispatches : app.Dispatches occasion request backend store service established) :
    app.service? = some service := by
  cases dispatches <;> rfl

/-- An address and a password open the account of an identifier on a store, and nobody else can
register with the address. This is said of requests that the gate, if there is one, lets pass, and
of logins at a time at which tokens end within the limits of time. -/
structure Remembers (app : App) (service : Service) (email password : String) (id : Int32)
    (store : Store) : Prop where
  valid : (LoginForm.mk email password).faults = []
  login : (∀ account ∈ store.accounts, account.id = id →
      account.banned = false ∧ account.locked = false) →
    ∃ account, account.id = id ∧
      (service.sessions.authenticate email password).run.run .healthy store =
        some (.ok account, store) ∧
      ∀ (occasion : Occasion) (request : Request) (established : Option Caller),
        service.issuer.InRange occasion.now → request.Asks .login [] →
        request.json LoginForm.ofJson? = .ok ⟨email, password⟩ →
        app.Dispatches occasion request .healthy store service established →
        ∃ tokens response after, service.grant occasion.now 200 id tokens = .ok response ∧
          (app.handle occasion request).run .healthy store = some (response, after)
  taken : ∀ (occasion : Occasion) (request : Request) (form : RegistrationForm)
      (established : Option Caller), request.Asks .register [] →
    request.json RegistrationForm.ofJson? = .ok form → form.email = email → form.faults = [] →
    app.Dispatches occasion request .healthy store service established →
    ∃ refusal, refusal.status = 409 ∧
      (app.handle occasion request).run .healthy store = some (refusal, store)

/-- On a store that answers, a request that is led to its endpoint is answered by its result. -/
theorem Dispatches.run_handle_of_exec {established : Option Caller} {endpoint : Endpoint}
    {result : Except AuthError Response} {after : Store}
    (dispatches : app.Dispatches occasion request .healthy store service established)
    (asks : request.Asks endpoint []) (needsNone : endpoint.needsCaller = false)
    (answered : (service.answer occasion request established endpoint []).exec store =
      (result, after)) :
    (app.handle occasion request).run .healthy store = some (.ofResult result, after) := by
  have ends : Program.exec (service.answer occasion request established endpoint []).run store =
    (result, after) := answered
  rw [dispatches.run_handle, Service.dispatch_of_find? _ (asks.find?_of_needsCaller needsNone),
    Program.run_healthy, ends]
  rfl

/-- Where an address leads to an account, a registration with it that is led to its endpoint is
refused and changes nothing. -/
theorem Dispatches.refused_of_taken {established : Option Caller} {form : RegistrationForm}
    {account : Account} {passwordHash : String}
    (dispatches : app.Dispatches occasion request .healthy store service established)
    (asks : request.Asks .register []) (body : request.json RegistrationForm.ofJson? = .ok form)
    (valid : form.faults = [])
    (hashed : service.hasher.hashPassword occasion.passwordSalt form.password = .ok passwordHash)
    (taken : store.accountByEmail? form.email = some account) :
    ∃ refusal, refusal.status = 409 ∧
      (app.handle occasion request).run .healthy store = some (refusal, store) := by
  have answered := Service.exec_register_of_taken valid hashed taken
  rw [← Service.answer_register established body] at answered
  exact ⟨AuthError.emailTaken.response, rfl, dispatches.run_handle_of_exec asks rfl answered⟩

/-- Where a registration has succeeded, its address and its password open the account on every
store that operations lead to. -/
theorem remembers_of_registers {form : RegistrationForm} {id : Int32} {tokens : SessionTokens}
    {after later : Store} (steady : service.issuer.keys.Steady) (faithful : service.hasher.Faithful)
    (passwords : service.hasher.KnowsPasswords)
    (registers : service.Registers occasion form id tokens after)
    (leads : after.Leads (fun _ => True) later) :
    app.Remembers service form.email form.password id later := by
  obtain ⟨passwordHash, hashed, stored⟩ := registers.stored
  obtain ⟨account, found, rfl, hpassword⟩ := leads.hasLogin stored
  have verified : service.hasher.verifyPassword form.password account.passwordHash = .ok true := by
    rw [hpassword]
    exact passwords.recognizes _ _ _ hashed
  have mem : account ∈ later.accounts := List.mem_of_find?_eq_some found
  -- The two forms have the checks of the address and the password in common.
  have valid : (LoginForm.mk form.email form.password).faults = [] := by
    have passed := registers.valid
    simp only [RegistrationForm.faults, List.append_eq_nil_iff] at passed
    exact List.append_eq_nil_iff.mpr ⟨passed.1.2, passed.2⟩
  constructor
  case valid => exact valid
  case login =>
    intro good
    obtain ⟨notBanned, notLocked⟩ := good account mem rfl
    have authenticated := Sessions.exec_authenticate_of_found service.sessions found
      verified (Account.checkStatus_eq_ok notBanned notLocked)
    refine ⟨account, rfl, (Program.run_healthy _ _).trans (congrArg some authenticated), ?_⟩
    intro again request established inRange asks body dispatches
    obtain ⟨other, otherHash, granted⟩ := registers.granted
    obtain ⟨tokens, hash, grants⟩ :=
      Sessions.exists_grants steady faithful granted account inRange
    obtain ⟨current, known⟩ : ∃ current, later.account? account.id = some current :=
      Option.isSome_iff_exists.mp (List.find?_isSome.mpr ⟨account, mem, decide_eq_true rfl⟩)
    obtain ⟨response, handed⟩ := service.exists_grant again.now 200 account.id tokens
    have answered := Service.exec_login_of_authenticate valid authenticated known grants handed
    rw [← Service.answer_login established body] at answered
    exact ⟨tokens, response, _, handed, dispatches.run_handle_of_exec asks rfl answered⟩
  case taken =>
    intro again request other established asks body same passed dispatches
    obtain ⟨hash, hashed⟩ := passwords.steady _ _ _ hashed again.passwordSalt other.password
    exact dispatches.refused_of_taken asks body passed hashed (same ▸ found)

/-- A request for a registration that is answered with the status for it has registered an
account. -/
theorem registers_of_run (serves : app.service? = some service) {form : RegistrationForm}
    {backend : Backend} {response : Response} {after : Store} (asks : request.Asks .register [])
    (body : request.json RegistrationForm.ofJson? = .ok form)
    (ends : (app.handle occasion request).run backend store = some (response, after))
    (created : response.status = 201) :
    ∃ id tokens, service.grant occasion.now 201 id tokens = .ok response ∧
      service.Registers occasion form id tokens after := by
  have failed {e : AuthError} {p : Prop} (h : e.response = response) : p := by
    have least := AuthError.le_status e
    rw [← h] at created
    change e.status = 201 at created
    omega
  rcases app.dispatches_or_denied occasion request backend store with
    ⟨other, established, dispatches, hrun⟩ | ⟨e, hrun⟩
  · obtain rfl := Option.some.inj (serves.symm.trans dispatches.service?_eq)
    rw [hrun, Service.dispatch_of_find? _ (asks.find?_of_needsCaller rfl),
      Service.answer_register established body] at ends
    obtain ⟨⟨result, left⟩, answered, same⟩ := Option.map_eq_some_iff.mp ends
    obtain ⟨rfl, rfl⟩ := Prod.mk.inj same
    cases result with
    | error e => exact failed rfl
    | ok response => exact Service.ensures_registers form backend _ _ answered response rfl
  · rw [hrun] at ends
    exact failed (Prod.mk.inj (Option.some.inj ends)).1

/-- A registered account can log in. Where a registration was answered with its status and an
identifier, whatever operations have been performed since, by requests or otherwise: the address
and the password pass the checks of a login and are those of the account, unless it is banned or
locked. A login with them is answered with the identifier, as soon as the gate lets it pass, and
another registration with the address finds it taken. -/
theorem remembers (serves : app.service? = some service) (steady : service.issuer.keys.Steady)
    (faithful : service.hasher.Faithful) (passwords : service.hasher.KnowsPasswords)
    {form : RegistrationForm} {backend : Backend} {response : Response} {after : Store}
    (asks : request.Asks .register []) (body : request.json RegistrationForm.ofJson? = .ok form)
    (ends : (app.handle occasion request).run backend store = some (response, after))
    (created : response.status = 201) :
    ∃ id tokens, service.grant occasion.now 201 id tokens = .ok response ∧
      ∀ later, after.Leads (fun _ => True) later →
        app.Remembers service form.email form.password id later := by
  obtain ⟨id, tokens, granted, registers⟩ := registers_of_run serves asks body ends created
  refine ⟨id, tokens, granted, fun later leads => ?_⟩
  exact remembers_of_registers steady faithful passwords registers leads

end App

end Later

namespace NewAccount

open LoginRequest (occasion)

/-- A service with the exempt paths that are the default, and stored secrets hashed as they are in
use. -/
def service : Service := { LoginRequest.service with hasher := .ofCost 12 }

/-- What is sent to register. -/
def form : RegistrationForm := ⟨"name", "a@b.c", "password"⟩

/-- Somebody registers. -/
def request : Request := { LoginRequest.request with
  target := "/auth/register"
  body := "\x7b\"username\": \"name\", \"email\": \"a@b.c\", \"password\": \"password\"\x7d" }

/-- The account that is made. -/
def account (passwordHash : String) : Account :=
  Account.create 1 ⟨"name", "a@b.c", passwordHash, .user⟩ occasion.now

/-- The store that is left, with the session that begins with the account. -/
def store (passwordHash hash : String) : Store :=
  ⟨1, [{ account passwordHash with refreshHash := some hash, lastLogin := some occasion.now }], []⟩

theorem asks_request : request.Asks .register [] := by
  have path : segments request.path = Endpoint.register.segments [] := by decide
  exact ⟨rfl, path⟩

theorem asks_login : LoginRequest.request.Asks .login [] := by
  have path : segments LoginRequest.request.path = Endpoint.login.segments [] := by decide
  exact ⟨rfl, path⟩

theorem json_request : request.json RegistrationForm.ofJson? = .ok form := by decide +kernel

/-- On an exempt path every request is led to its endpoint. -/
theorem dispatches {request : Request} (exempt : service.settings.isExempt request.path = true)
    (store : Store) :
    (App.gated (some service)).Dispatches occasion request .healthy store service none :=
  .exempt (Gate.run_authorize_of_exempt exempt)

variable {passwordHash hash : String} {tokens : SessionTokens} {response : Response}

/-- The registration succeeds. -/
theorem run_handle_request
    (hashed : service.hasher.hashPassword occasion.passwordSalt form.password = .ok passwordHash)
    (grants : service.sessions.Grants occasion (account passwordHash) tokens hash)
    (granted : service.grant occasion.now 201 1 tokens = .ok response) :
    ((App.gated (some service)).handle occasion request).run .healthy .empty =
      some (response, store passwordHash hash) := by
  have exempt : service.settings.isExempt request.path = true := by decide +kernel
  have valid : form.faults = [] := by decide +kernel
  have known : (Store.respond .empty (.createAccount ⟨form.username, form.email, passwordHash,
      .user⟩ occasion.now)).2.account? (account passwordHash).id =
        some (account passwordHash) := rfl
  have answered : (service.register occasion form).exec .empty =
      (.ok response, store passwordHash hash) := by
    have passes : Service.checkFields occasion form.faults = .ok () := if_pos valid
    unfold Service.register
    rw [passes, hashed, Action.ofExcept_ok, Action.pure_bind, Action.lift_ok, Action.pure_bind,
      Action.exec_bind]
    change Action.exec (service.sessions.login occasion (account passwordHash) >>= _) _ = _
    rw [Action.exec_bind, Sessions.exec_login grants known]
    exact Service.exec_grant granted
  rw [← Service.answer_register none json_request] at answered
  exact (dispatches exempt .empty).run_handle_of_exec asks_request rfl answered

/-- Behind a registration its address is taken, which another request is told, and the password
opens the account. -/
theorem remembers_new_account : ∃ response after refusal tokens opened left,
    ((App.gated (some service)).handle occasion request).run .healthy .empty =
      some (response, after) ∧ response.status = 201 ∧
    ((App.gated (some service)).handle occasion request).run .healthy after =
      some (refusal, after) ∧ refusal.status = 409 ∧
    service.grant occasion.now 200 1 tokens = .ok opened ∧
    ((App.gated (some service)).handle occasion LoginRequest.request).run .healthy after =
      some (opened, left) := by
  obtain ⟨passwordHash, hashed⟩ : ∃ passwordHash,
      service.hasher.hashPassword occasion.passwordSalt form.password = .ok passwordHash :=
    ⟨_, rfl⟩
  obtain ⟨tokens, issued⟩ : ∃ tokens,
      service.sessions.issuePair occasion (account passwordHash) = .ok tokens := ⟨_, rfl⟩
  obtain ⟨hash, kept⟩ : ∃ hash,
      service.hasher.hashToken occasion.tokenSalt tokens.refresh.token = .ok hash := ⟨_, rfl⟩
  obtain ⟨response, handed⟩ := service.exists_grant occasion.now 201 1 tokens
  have created := Service.status_of_grant handed
  have ends := run_handle_request hashed ⟨issued, kept⟩ handed
  have serves : (App.gated (some service)).service? = some service := rfl
  obtain ⟨id, granted, same, remembers⟩ := App.remembers serves
    (fun message signature h other => ⟨other, rfl⟩) (SecretHasher.faithful_ofCost 12)
    (SecretHasher.knowsPasswords_ofCost 12) asks_request json_request ends created
  obtain rfl : 1 = id := Service.userId_eq_of_grant handed same
  obtain ⟨refusal, status, refused⟩ := (remembers _ .refl).taken occasion request form none
    asks_request json_request rfl (by decide +kernel) (dispatches (by decide +kernel) _)
  have served : (App.gated (some service)).Serves (store passwordHash hash) [(occasion, request)]
      (store passwordHash hash) := .cons refused (.nil _)
  obtain ⟨found, -, -, logsIn⟩ := (remembers _ (served.leads .refl)).login fun other mem _ => by
    obtain rfl := List.mem_singleton.mp mem
    exact ⟨rfl, rfl⟩
  obtain ⟨again, opened, left, regranted, loggedIn⟩ := logsIn occasion LoginRequest.request none
    ⟨rfl, rfl⟩ asks_login (by decide +kernel) (dispatches (by decide +kernel) _)
  exact ⟨_, _, refusal, again, opened, left, ends, created, refused, status, regranted, loggedIn⟩

end NewAccount

namespace GuardedLogin

open LoginRequest (occasion)

/-- A service that exempts the registration and nothing else. -/
def service : Service := { LoginRequest.service with
  settings := { LoginRequest.service.settings with exemptPaths := ["/auth/register"] } }

theorem knowsPasswords : service.hasher.KnowsPasswords where
  recognizes := by
    rintro salt password _ ⟨⟩
    exact congrArg Except.ok (decide_eq_true rfl)
  steady salt password hash h salt' password' := ⟨password', rfl⟩

/-- Where the path of the login is not exempt, the gate refuses who has just registered and comes
with nothing but the address and the password: it asks for a credential. -/
theorem refuses_login_behind_registration : ∃ response after refusal,
    service.hasher.KnowsPasswords ∧ service.issuer.InRange occasion.now ∧
    ((App.gated (some service)).handle occasion NewAccount.request).run .healthy .empty =
      some (response, after) ∧ response.status = 201 ∧
    (after.accounts.map fun account => (account.id, account.banned, account.locked)) =
      [(1, false, false)] ∧
    ((App.gated (some service)).handle occasion LoginRequest.request).run .healthy after =
      some (refusal, after) ∧ refusal.status = 401 := by
  obtain ⟨response, after, ends⟩ :=
    App.exists_run (.gated (some service)) occasion NewAccount.request .empty
  have registered : (((App.gated (some service)).handle occasion NewAccount.request).run .healthy
      .empty).map (fun left => (left.1.status,
        left.2.accounts.map fun account => (account.id, account.banned, account.locked))) =
      some (201, [(1, false, false)]) := by
    decide +kernel
  rw [ends] at registered
  obtain ⟨created, standing⟩ := Prod.mk.inj (Option.some.inj registered)
  have guarded : service.settings.isExempt LoginRequest.request.path = false := by decide +kernel
  have missing : (LoginRequest.request.toGate service.settings.csrfHeader).credential? = none := by
    decide +kernel
  exact ⟨response, after, AuthError.missingToken.response, knowsPasswords, ⟨rfl, rfl⟩, ends,
    created, standing,
    App.run_handle_of_denied (Gate.run_authorize_of_missing guarded missing), rfl⟩

end GuardedLogin

end SessionAuth
