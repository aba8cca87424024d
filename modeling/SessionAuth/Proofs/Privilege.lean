import SessionAuth.Proofs.Handout

/-!
# The roles in tokens were held

An access token has the one role that its account had when the call loaded it, a refresh token has
none, and a personal token has the roles of the credential that it was made by, which may be a
personal token itself. So whatever promotions and demotions a run is made of, each role in a token
goes back to an account that had it at some moment, along the personal tokens that made one another.

A token gives no more than what its account still has, since the gate only counts the roles that are
not above the stored one.

Whoever can sign may put any role in a token. That nobody forges a credential is assumed of a run
where it is needed, in the form that each accepted credential has been handed out before.

## Main definitions

* `App.pool` — requests that are answered side by side
* `Service.Backs` — what the roles of a token rest on
* `HeldIn` — an account had a role at some moment of a run
* `App.Unforged` — credentials have been handed out before they are used
* `Gate.PassedIn` — the gate let a caller pass by what was stored then

## Main results

* `App.backs_of_run` — every token that is handed out is backed
* `App.heldIn_of_run` — every role in a token was held before
* `Gate.LetsPass.passedIn`, `Gate.passedIn_of_run` — the gate decides by what is stored at a moment
  of its examination
* `App.roles_were_held` — the roles in tokens never exceed what the account held
-/

namespace SessionAuth

/-! ## Runs -/

section Runs

variable {ι : Type}

/-- An account of an identifier has a role. -/
def Store.Holds (store : Store) (id : Int32) (role : Role) : Prop :=
  ∃ account ∈ store.accounts, account.id = id ∧ account.role = role

/-- At some moment of a run that began with the empty store, an account of an identifier had a
role. -/
def HeldIn (log : List (Event ι)) (id : Int32) (role : Role) : Prop :=
  ∃ front, front <+: log ∧ (Store.empty.performAll (front.map (·.did.op))).Holds id role

/-- Requests that are answered side by side, on a store in which nothing is kept yet. -/
def App.pool (app : App) (occasion : ι → Occasion) (request : ι → Request) : Pool ι Response :=
  ⟨.empty, fun i => app.handle (occasion i) (request i)⟩

variable [DecidableEq ι] {app : App} {service : Service} {occasion : ι → Occasion}
  {request : ι → Request} {log : List (Event ι)} {pool : Pool ι Response} {i : ι}

/-- What the roles of a token rest on that a call hands out. An access token has the one role of
its account as the call loaded it right before it kept the session, and a refresh token has none. A
personal token has those of the credential that the request came with, which is for the same
account. -/
inductive Service.Backs (service : Service) (occasion : ι → Occasion) (request : ι → Request)
    (log : List (Event ι)) (i : ι) (claims : Claims) : Prop
  | access {front back : List (Event ι)} {load : Event ι} {commit : Answered} {account : Account}
      {hash : String} (kind : claims.kind = .access) (subject : claims.subject = account.id)
      (roles : claims.roles = [account.role]) (split : log = front ++ load :: back)
      (actor : load.actor = some i) (loads : load.did.account? = some account)
      (stored : account ∈
        (Store.empty.performAll ((front ++ [load]).map (·.did.op))).accounts)
      (last : doneBy i back = [commit])
      (keeps : commit.change? account.id = some (.granted hash))
  | refresh (kind : claims.kind = .refresh) (roles : claims.roles = [])
  | personal {front back : List (Event ι)} {insert : Event ι} {token : String}
      {source : CredentialSource} {credential : Claims} (kind : claims.kind = .personal)
      (accepted : Accepted service.gate (occasion i).now
        ((request i).toGate service.settings.csrfHeader) token source credential)
      (subject : claims.subject = credential.subject) (roles : claims.roles = credential.roles)
      (split : log = front ++ insert :: back) (actor : insert.actor = some i)

/-- Every token that is handed out is backed. -/
theorem App.backs_of_run {others : StoreCall → Prop} (offers : app.Offers service)
    (run : Pool.Run others (app.pool occasion request) log pool) {response : Response}
    (ended : pool.thread i = .done response) {text : String} (mem : text ∈ response.tokens) :
    ∃ claims, TokenIssuer.sign service.issuer.keys claims = .ok text ∧
      service.Backs occasion request log i claims := by
  have hands := run.suits (App.yields_handle offers (occasion i) (request i)) ended
  cases hands with
  | nothing none =>
    rw [none] at mem
    cases mem
  | @session before load commit account tokens hash status history loads keeps grants granted =>
    -- The account was loaded by an event of the run, and the call did one thing behind it.
    obtain ⟨front, event, back, rfl, actor, rfl, -, last⟩ := exists_of_doneBy history
    rcases (Response.mem_tokens_grant granted).mp mem with rfl | rfl
    · have issues := grants.access
      have stored : account ∈
          (Store.empty.performAll ((front ++ [event]).map (·.did.op))).accounts := by
        rw [run.answered] at loads
        rw [List.map_append, Store.performAll_append]
        exact Store.mem_accounts_of_account? loads
      exact ⟨_, issues.signed,
        .access issues.kind issues.subject issues.roles rfl actor loads stored last keeps⟩
    · have issues := grants.refresh
      exact ⟨_, issues.signed, .refresh issues.kind issues.roles⟩
  | @personal before record issued caller name expiry history authorized makes created =>
    obtain ⟨front, event, back, rfl, actor, -, -, -⟩ := exists_of_doneBy history
    obtain ⟨token, source, accepted⟩ := authorized
    have issues := TokenIssuer.issues_of_issue makes.signed
    rw [created, Response.tokens_created] at mem
    obtain rfl := List.mem_singleton.mp mem
    exact ⟨_, issues.signed, .personal issues.kind accepted (issues.subject.trans makes.owner)
      issues.roles rfl actor⟩

/-- Nobody comes with a credential that holds but whoever has been handed it: in front of every
operation of such a call, some call had ended and handed the credential out. -/
def App.Unforged (app : App) (service : Service) (occasion : ι → Occasion) (request : ι → Request)
    (log : List (Event ι)) : Prop :=
  ∀ front event back i token source claims, log = front ++ event :: back →
    event.actor = some i →
    Accepted service.gate (occasion i).now ((request i).toGate service.settings.csrfHeader) token
      source claims →
    ∃ pool j response, Pool.Run (fun _ => True) (app.pool occasion request) front pool ∧
      pool.thread j = .done response ∧ token ∈ response.tokens

/-- What is so of a run was so up to each moment of it. -/
theorem App.Unforged.of_append {front back : List (Event ι)}
    (unforged : app.Unforged service occasion request (front ++ back)) :
    app.Unforged service occasion request front := by
  rintro before event behind i token source claims rfl
  exact unforged before event (behind ++ back) i token source claims (by simp)

/-- No credential is forged in a run that goes on with credentials that have been handed out. -/
theorem App.Unforged.append {more : List (Event ι)} {between : Pool ι Response}
    (unforged : app.Unforged service occasion request log)
    (run : Pool.Run (fun _ => True) (app.pool occasion request) log between)
    (further : Pool.Run (fun _ => True) between more pool)
    (handed : ∀ event ∈ more, ∀ i token source claims, event.actor = some i →
      Accepted service.gate (occasion i).now ((request i).toGate service.settings.csrfHeader) token
        source claims →
      ∃ j response, between.thread j = .done response ∧ token ∈ response.tokens) :
    app.Unforged service occasion request (log ++ more) := by
  intro front event back i token source claims split actor accepted
  -- The event lies in the log that there was, or behind it.
  rcases List.append_eq_append_iff.mp split with ⟨rest, rfl, rfl⟩ | ⟨rest, rfl, hback⟩
  · obtain ⟨j, response, ended, mem⟩ :=
      handed event (by simp) i token source claims actor accepted
    obtain ⟨before, -, hrest, -, -⟩ := further.exists_split
    exact ⟨before, j, response, run.trans hrest, hrest.done_of_done ended, mem⟩
  · cases rest with
    | nil =>
      obtain rfl : event :: back = more := hback
      obtain ⟨j, response, ended, mem⟩ :=
        handed event (by simp) i token source claims actor accepted
      rw [List.append_nil] at run
      exact ⟨between, j, response, run, ended, mem⟩
    | cons head rest =>
      obtain ⟨rfl, -⟩ := List.cons.inj hback
      exact unforged front event rest i token source claims rfl actor accepted

/-- Every role in a token was held before the token was handed out. -/
theorem App.heldIn_of_run (offers : app.Offers service)
    (run : Pool.Run (fun _ => True) (app.pool occasion request) log pool)
    (unforged : app.Unforged service occasion request log) {response : Response}
    (ended : pool.thread i = .done response) {text : String} (mem : text ∈ response.tokens)
    {claims : Claims} (signed : TokenIssuer.sign service.issuer.keys claims = .ok text)
    {role : Role} (carried : role ∈ claims.roles) : HeldIn log claims.subject role := by
  -- By induction on the length of the log, for all calls at once: what a personal token was made by
  -- comes from another call, in front of the operation that put its record in.
  induction hn : log.length using Nat.strongRecOn
    generalizing log pool i response text claims with
  | ind n ih =>
    obtain ⟨found, hsign, backs⟩ := App.backs_of_run offers run ended mem
    obtain rfl := TokenIssuer.sign_injective hsign signed
    cases backs with
    | @access front back load commit account hash _ subject roles split _ _ stored =>
      rw [roles] at carried
      obtain rfl := List.mem_singleton.mp carried
      exact ⟨front ++ [load], ⟨back, by simp [split]⟩, account, stored, subject.symm, rfl⟩
    | refresh _ roles =>
      rw [roles] at carried
      cases carried
    | @personal front back event token source credential _ accepted subject roles split actor =>
      obtain ⟨earlier, j, handed, hrun, hended, hmem⟩ :=
        unforged front event back i token source credential split actor accepted
      obtain ⟨original, horiginal, -⟩ := App.backs_of_run offers hrun hended hmem
      -- What is accepted as the credential are the claims that were signed as it.
      obtain rfl := TokenIssuer.claims_of_validate_sign horiginal accepted.valid
      have shorter : front.length < n := by
        rw [← hn, split]
        simp
      rw [roles] at carried
      obtain ⟨moment, early, held⟩ := ih front.length shorter hrun (split ▸ unforged).of_append
        hended hmem horiginal carried rfl
      rw [subject]
      exact ⟨moment, early.trans ⟨event :: back, split.symm⟩, held⟩

/-- The gate let a caller pass by what was stored at a moment of its examination, in a run that
began with some store. The account was stored then, the credential of the request is one that holds,
and the policy allowed a role of it that is not above the one of the account. -/
inductive Gate.PassedIn (gate : Gate) (now : Instant) (asked : GateRequest) (store : Store)
    (log : List (Event ι)) (i : ι) (caller : Caller) : Prop
  | intro {front back : List (Event ι)} {event : Event ι} (split : log = front ++ event :: back)
      (actor : event.actor = some i)
      (stored : (store.performAll (front.map (·.did.op))).account? caller.claims.subject =
        some caller.account)
      (accepted : ∃ token, Accepted gate now asked token caller.source caller.claims)
      (permitted : ∃ role ∈ caller.claims.roles, role.rank ≤ caller.account.role.rank ∧
        gate.policy.enforce role.name asked.path asked.method = .ok true)

/-- Whom the gate lets pass by the history of a program in a run, it lets pass by what is stored at
a moment of the run. -/
theorem Gate.LetsPass.passedIn {α : Type} {gate : Gate} {now : Instant} {asked : GateRequest}
    {others : StoreCall → Prop} {start final : Pool ι α} {caller : Caller}
    (passes : gate.LetsPass now asked (doneBy i log) caller)
    (run : Pool.Run others start log final) : gate.PassedIn now asked start.store log i caller := by
  obtain ⟨accepted, loaded, permitted⟩ := passes
  obtain ⟨front, event, back, rfl, actor, did⟩ := exists_of_mem_doneBy loaded
  have answered := run.answered
  rw [did] at answered
  simp only [Store.respond_findAccount, Answered.mk.injEq, heq_eq_eq, true_and,
    Except.ok.injEq] at answered
  exact .intro rfl actor answered.symm accepted permitted

/-- Whom the gate lets pass in a run, wherever it began and whatever else is at work, it lets pass
by what is stored at a moment of the examination. -/
theorem Gate.passedIn_of_run {gate : Gate} {now : Instant} {asked : GateRequest}
    {others : StoreCall → Prop} {start final : Pool ι (Except AuthError GateOutcome)}
    {caller : Caller} (examines : start.thread i = (gate.authorize now asked).run)
    (run : Pool.Run others start log final)
    (ended : final.thread i = .done (.ok (.allowed caller))) :
    gate.PassedIn now asked start.store log i caller := by
  have yields : (gate.authorize now asked).Yields (fun past outcome => ∀ caller,
      outcome = .allowed caller → gate.LetsPass now asked past caller) [] := yields_authorize
  unfold Action.Yields at yields
  rw [← examines] at yields
  exact (run.suits yields ended _ rfl caller rfl).passedIn run

/-- The roles in tokens never exceed what the account held, in every run of requests and of
operations of the store from the store in which nothing is kept, under any policy.

What a call hands out is backed: an access token has the one role that its account had when the call
loaded it, a refresh token has none, and a personal token has those of the credential that the
request came with. So where no credential is forged, an account had every role of its tokens at some
moment of the run. And whenever the gate lets a request pass, the policy allowed a role of its
credential that is not above the one that is stored at that moment: a demotion counts at once, for
tokens from before it too. -/
theorem App.roles_were_held (offers : app.Offers service)
    (run : Pool.Run (fun _ => True) (app.pool occasion request) log pool) :
    (∀ i response text, pool.thread i = .done response → text ∈ response.tokens →
      ∃ claims, TokenIssuer.sign service.issuer.keys claims = .ok text ∧
        service.Backs occasion request log i claims) ∧
    (app.Unforged service occasion request log → ∀ i response text claims,
      pool.thread i = .done response → text ∈ response.tokens →
      TokenIssuer.sign service.issuer.keys claims = .ok text →
      ∀ role ∈ claims.roles, HeldIn log claims.subject role) ∧
    ∀ (now : Instant) (asked : GateRequest) (others : StoreCall → Prop)
      (start final : Pool ι (Except AuthError GateOutcome)) (log : List (Event ι)) (i : ι)
      (caller : Caller), start.thread i = (service.gate.authorize now asked).run →
      Pool.Run others start log final → final.thread i = .done (.ok (.allowed caller)) →
      service.gate.PassedIn now asked start.store log i caller := by
  refine ⟨?_, ?_, ?_⟩
  · intro i response text ended mem
    exact App.backs_of_run offers run ended mem
  · intro unforged i response text claims ended mem signed role carried
    exact App.heldIn_of_run offers run unforged ended mem signed carried
  · intro now asked others start final log i caller examines run ended
    exact Gate.passedIn_of_run examines run ended

end Runs

namespace TokenRequest

open LoginRequest (service occasion store)

/-- A personal token is asked for, with a bearer token. -/
def ask (token : String) : Request where
  method := "POST"
  target := "/api/tokens"
  headers := [("Authorization", "Bearer " ++ token), ("Content-Type", "application/json")]
  body := "\x7b\"name\": \"ci\", \"expires_at\": \"1970-01-02\"\x7d"

/-- A login, and a personal token that is asked for with a bearer token. -/
def requests (token : String) : Bool → Request
  | false => LoginRequest.request
  | true => ask token

/-- The service behind the gate. -/
def app : App := .gated (some service)

/-- The account that is stored. -/
def account : Account := .create 1 ⟨"name", "a@b.c", "password", .user⟩ .epoch

/-- The account behind its login. -/
def loggedIn (hash : String) : Account :=
  { account with refreshHash := some hash, lastLogin := some occasion.now }

variable {tokens : SessionTokens} {hash : String} {response : Response}

/-- The login succeeds. -/
theorem exec_login (grants : service.sessions.Grants occasion account tokens hash)
    (granted : service.grant occasion.now 200 1 tokens = .ok response) :
    (app.handle occasion LoginRequest.request).exec store =
      (response, ⟨1, [loggedIn hash], []⟩) := by
  have exempt : service.gate.authorize occasion.now
      (LoginRequest.request.toGate service.settings.csrfHeader) = pure .exempt :=
    if_pos (by decide +kernel)
  have found : Route.find? LoginRequest.request.method LoginRequest.request.path =
      some (.login, []) := by
    decide +kernel
  have form : LoginRequest.request.json LoginForm.ofJson? = .ok ⟨"a@b.c", "password"⟩ := by
    decide +kernel
  have passes : Service.checkFields occasion (LoginForm.faults ⟨"a@b.c", "password"⟩) = .ok () :=
    if_pos (by decide +kernel)
  have authenticated : (service.sessions.authenticate "a@b.c" "password").exec store =
      (.ok account, store) := rfl
  have started : (service.sessions.login occasion account).exec store =
      (.ok tokens, ⟨1, [loggedIn hash], []⟩) := Sessions.exec_login grants rfl
  have answered : (app.action occasion LoginRequest.request).exec store =
      (.ok response, ⟨1, [loggedIn hash], []⟩) := by
    change (service.gated occasion LoginRequest.request).exec store = _
    rw [Service.gated, exempt, Action.pure_bind]
    change (service.dispatch occasion LoginRequest.request none).exec store = _
    rw [Service.dispatch, found]
    change (Service.withJson LoginRequest.request LoginForm.ofJson?
      (service.login occasion)).exec store = _
    rw [Service.withJson, form]
    change (service.login occasion _).exec store = _
    rw [Service.login, passes, Action.ofExcept_ok, Action.pure_bind, Action.exec_bind,
      authenticated]
    change (service.sessions.login occasion account >>= _).exec store = _
    rw [Action.exec_bind, started]
    exact Service.exec_grant granted
  rw [App.exec_handle, answered]
  rfl

/-- The body is read, whatever the bearer token is. -/
theorem json_ask (token : String) :
    (ask token).json TokenForm.ofJson? = .ok ⟨"ci", "1970-01-02"⟩ := by
  refine Request.json_of_bearer rfl ?_ ?_
  · change (ask "").body.utf8ByteSize ≤ _
    decide +kernel
  · change (Json.parse? (ask "").body.toList).bind TokenForm.ofJson? = _
    decide +kernel

theorem path_ask (token : String) : (ask token).path = "/api/tokens" := by
  change Percent.decodePath (String.ofList ("/api/tokens".toList.takeWhile _)) = _
  decide +kernel

theorem find?_ask (token : String) :
    Route.find? (ask token).method (ask token).path = some (.createToken, []) := by
  change Route.find? "POST" _ = _
  rw [path_ask]
  decide +kernel

/-- The bearer token is the credential. -/
theorem carries_ask {claims : Claims} {token : String}
    (signed : TokenIssuer.sign service.issuer.keys claims = .ok token) :
    ((ask token).toGate service.settings.csrfHeader).Carries token .header :=
  Request.carries_of_sign signed (by simp [ask, Request.rawHeader?]) _

/-- The gate lets the request pass behind the login. -/
theorem exec_authorize (grants : service.sessions.Grants occasion account tokens hash) :
    (service.gate.authorize occasion.now
      ((ask tokens.access.token).toGate service.settings.csrfHeader)).run.exec
        ⟨1, [loggedIn hash], []⟩ =
      (.ok (.allowed ⟨tokens.access.claims, loggedIn hash, .header⟩),
        ⟨1, [loggedIn hash], []⟩) := by
  obtain ⟨hissue, -⟩ := Sessions.issuePair_eq_ok_iff.mp grants.issued
  have known : Store.account? ⟨1, [loggedIn hash], []⟩ (loggedIn hash).id =
      some (loggedIn hash) := rfl
  have notExempt : service.settings.isExempt (ask tokens.access.token).path = false := by
    rw [path_ask]
    decide +kernel
  have permitted : Gate.checkRoles service.gate.policy (ask tokens.access.token).path "POST"
      ([.user].filter fun role => (loggedIn hash).role.covers role) = .ok () := by
    rw [path_ask]
    change Gate.checkRoles _ _ _ [.user] = _
    decide +kernel
  exact AdminRequest.exec_authorize_of_bearer service.gate rfl known rfl rfl hissue
    (by simp [ask, Request.rawHeader?]) _ notExempt permitted

/-- The personal token is made, for the claims of the access token. -/
theorem exec_ask (grants : service.sessions.Grants occasion account tokens hash) :
    ∃ (created : CreatedToken) (after : Store) (claims : Claims),
      (app.handle occasion (ask tokens.access.token)).exec ⟨1, [loggedIn hash], []⟩ =
        (.json 201 created.toJson, after) ∧
      TokenIssuer.sign service.issuer.keys claims = .ok created.token ∧
      claims.kind = .personal ∧ claims.subject = 1 ∧ claims.roles = [.user] := by
  have access := grants.access
  have passes : Service.checkFields occasion (TokenForm.faults ⟨"ci", "1970-01-02"⟩) = .ok () :=
    if_pos (by decide +kernel)
  obtain ⟨created, after, creates⟩ : ∃ created after,
      (service.personalTokens.create occasion tokens.access.claims "ci" "1970-01-02").exec
        ⟨1, [loggedIn hash], []⟩ = (.ok created, after) := by
    unfold PersonalTokens.create
    rw [access.subject, access.roles]
    exact ⟨_, _, rfl⟩
  have answered : (app.action occasion (ask tokens.access.token)).exec ⟨1, [loggedIn hash], []⟩ =
      (.ok (.json 201 created.toJson), after) := by
    change (service.gated occasion (ask tokens.access.token)).exec _ = _
    rw [Service.gated_of_needsCaller (find?_ask _) rfl, Action.exec_bind, Action.exec,
      exec_authorize grants]
    change (Service.withJson (ask tokens.access.token) TokenForm.ofJson?
      (service.createToken occasion ⟨tokens.access.claims, loggedIn hash, .header⟩)).exec _ = _
    rw [Service.withJson, json_ask]
    change (service.createToken occasion _ _).exec _ = _
    rw [Service.createToken, passes, Action.ofExcept_ok, Action.pure_bind, Action.exec_bind,
      creates]
    rfl
  obtain ⟨record, issued, makes, rfl, -⟩ := PersonalTokens.makes_of_exec_create creates
  have issues := TokenIssuer.issues_of_issue makes.signed
  refine ⟨⟨record.view, issued.token⟩, after, issued.claims, ?_, issues.signed, issues.kind, ?_,
    issues.roles.trans access.roles⟩
  · rw [App.exec_handle, answered]
    rfl
  · exact issues.subject.trans (makes.owner.trans access.subject)

/-- A login comes with no credential. -/
theorem not_accepted_login {now : Instant} {token : String} {source : CredentialSource}
    {claims : Claims} : ¬Accepted service.gate now
      (LoginRequest.request.toGate service.settings.csrfHeader) token source claims := by
  intro accepted
  have none : (LoginRequest.request.toGate service.settings.csrfHeader).credential? = none := by
    decide +kernel
  cases none.symm.trans (GateRequest.carries_iff.mp accepted.carries)

/-- The two requests, on a store in which nothing is kept. -/
def start (token : String) : Pool Bool Response := app.pool (fun _ => occasion) (requests token)

/-- The two requests behind the login. -/
def behindLogin (token hash : String) (response : Response) : Pool Bool Response where
  store := ⟨1, [loggedIn hash], []⟩
  thread := Function.update (start token).thread false (.done response)

section Runs

variable {request : Bool → Request}

/-- The account is put in, and its holder logs in, whatever the second request is. -/
theorem exists_run_of_login (login : request false = LoginRequest.request)
    (grants : service.sessions.Grants occasion account tokens hash)
    (granted : service.grant occasion.now 200 1 tokens = .ok response) :
    ∃ log, Pool.Run (fun _ => True) (app.pool (fun _ => occasion) request) log
        ⟨⟨1, [loggedIn hash], []⟩, Function.update (app.pool (fun _ => occasion) request).thread
          false (.done response)⟩ ∧
      ∀ event ∈ log, ∀ i, event.actor = some i → i = false := by
  have put : Pool.Step (fun _ => True) (app.pool (fun _ => occasion) request)
      ⟨none, .createAccount _ _, _⟩ ⟨store, (app.pool (fun _ => occasion) request).thread⟩ :=
    .other trivial
  have ends : (app.handle occasion (request false)).exec store =
      (response, ⟨1, [loggedIn hash], []⟩) := login ▸ exec_login grants granted
  have answered : ∃ log, Pool.Run (fun _ => True)
      ⟨store, (app.pool (fun _ => occasion) request).thread⟩ log _ ∧
        ∀ event ∈ log, event.actor = some false := Pool.exists_run_of_exec _ ends
  obtain ⟨log, run, own⟩ := answered
  refine ⟨_, (Pool.Run.refl.tail put).trans run, ?_⟩
  intro event mem i actor
  rcases List.mem_append.mp mem with first | later
  · obtain rfl := List.mem_singleton.mp first
    cases actor
  · exact Option.some.inj (actor.symm.trans (own event later))

/-- The login comes with no credential, and the second request with the access token that the login
handed out. -/
theorem unforged_of_login (login : request false = LoginRequest.request)
    (granted : service.grant occasion.now 200 1 tokens = .ok response)
    (carries : ((request true).toGate service.settings.csrfHeader).Carries tokens.access.token
      .header)
    {first second : List (Event Bool)} {between pool : Pool Bool Response}
    (run : Pool.Run (fun _ => True) (app.pool (fun _ => occasion) request) first between)
    (ended : between.thread false = .done response)
    (ownFirst : ∀ event ∈ first, ∀ i, event.actor = some i → i = false)
    (further : Pool.Run (fun _ => True) between second pool)
    (ownSecond : ∀ event ∈ second, ∀ i, event.actor = some i → i = true) :
    app.Unforged service (fun _ => occasion) request (first ++ second) := by
  refine App.Unforged.append ?_ run further ?_
  · rintro front event back i _ _ _ rfl actor accepted
    obtain rfl := ownFirst event (by simp) i actor
    exact absurd (login ▸ accepted) not_accepted_login
  · intro event mem i token source claims actor accepted
    obtain rfl := ownSecond event mem i actor
    have same := (GateRequest.carries_iff.mp carries).symm.trans
      (GateRequest.carries_iff.mp accepted.carries)
    obtain ⟨rfl, rfl⟩ := Prod.mk.inj (Option.some.inj same)
    exact ⟨false, _, ended, (Response.mem_tokens_grant granted).mpr (.inl rfl)⟩

end Runs

theorem exists_run_login (grants : service.sessions.Grants occasion account tokens hash)
    (granted : service.grant occasion.now 200 1 tokens = .ok response) :
    ∃ log, Pool.Run (fun _ => True) (start tokens.access.token) log
        (behindLogin tokens.access.token hash response) ∧
      ∀ event ∈ log, ∀ i, event.actor = some i → i = false :=
  exists_run_of_login rfl grants granted

theorem unforged_append (grants : service.sessions.Grants occasion account tokens hash)
    (granted : service.grant occasion.now 200 1 tokens = .ok response)
    {first second : List (Event Bool)} {pool : Pool Bool Response}
    (login : Pool.Run (fun _ => True) (start tokens.access.token) first
      (behindLogin tokens.access.token hash response))
    (ownFirst : ∀ event ∈ first, ∀ i, event.actor = some i → i = false)
    (asks : Pool.Run (fun _ => True) (behindLogin tokens.access.token hash response) second pool)
    (ownSecond : ∀ event ∈ second, event.actor = some true) :
    app.Unforged service (fun _ => occasion) (requests tokens.access.token) (first ++ second) := by
  refine unforged_of_login rfl granted (carries_ask grants.access.signed) login rfl ownFirst asks ?_
  intro event mem i actor
  exact Option.some.inj (actor.symm.trans (ownSecond event mem))

/-- The second request is examined alone, behind the login. -/
theorem exists_run_authorize (grants : service.sessions.Grants occasion account tokens hash) :
    ∃ (log : List (Event Bool)) (first final : Pool Bool (Except AuthError GateOutcome)),
      first.store = ⟨1, [loggedIn hash], []⟩ ∧
      first.thread true = (service.gate.authorize occasion.now
        ((ask tokens.access.token).toGate service.settings.csrfHeader)).run ∧
      Pool.Run (fun _ => True) first log final ∧
      final.thread true =
        .done (.ok (.allowed ⟨tokens.access.claims, loggedIn hash, .header⟩)) := by
  have ends := exec_authorize grants
  -- What the gate does is of no account from here on, and must not be computed.
  generalize (service.gate.authorize occasion.now
    ((ask tokens.access.token).toGate service.settings.csrfHeader)).run = examination at ends ⊢
  obtain ⟨log, run⟩ := Pool.exists_run_performed (fun _ => True)
    ⟨⟨1, [loggedIn hash], []⟩, fun _ : Bool => examination⟩ true
  refine ⟨log, _, _, rfl, rfl, run, ?_⟩
  simp [Pool.performed, ends]

/-- A login is made, and its access token is used to make a personal token, whose role was held. The
gate lets that request pass by what is stored behind the login. -/
theorem roles_were_held_of_personal_token :
    ∃ (token hash : String) (log : List (Event Bool)) (pool : Pool Bool Response)
      (created : CreatedToken) (claims : Claims),
      Pool.Run (fun _ => True) (start token) log pool ∧
      app.Unforged service (fun _ => occasion) (requests token) log ∧
      pool.thread true = .done (.json 201 created.toJson) ∧
      TokenIssuer.sign service.issuer.keys claims = .ok created.token ∧
      claims.kind = .personal ∧ claims.roles = [.user] ∧
      service.Backs (fun _ => occasion) (requests token) log true claims ∧
      HeldIn log 1 .user ∧
      ∃ (examination : List (Event Bool)) (caller : Caller),
        service.gate.PassedIn occasion.now ((ask token).toGate service.settings.csrfHeader)
          ⟨1, [loggedIn hash], []⟩ examination true caller := by
  obtain ⟨tokens, issued⟩ : ∃ tokens, service.sessions.issuePair occasion account = .ok tokens :=
    ⟨_, rfl⟩
  have grants : service.sessions.Grants occasion account tokens tokens.refresh.token :=
    ⟨issued, rfl⟩
  obtain ⟨response, granted⟩ := service.exists_grant occasion.now 200 1 tokens
  obtain ⟨created, after, claims, asked, signed, kind, subject, roles⟩ := exec_ask grants
  obtain ⟨first, login, ownFirst⟩ := exists_run_login grants granted
  have asks : ∃ log, Pool.Run (fun _ => True)
      (behindLogin tokens.access.token tokens.refresh.token response) log
      ⟨after, Function.update
        (behindLogin tokens.access.token tokens.refresh.token response).thread true
        (.done (.json 201 created.toJson))⟩ ∧ ∀ event ∈ log, event.actor = some true :=
    Pool.exists_run_of_exec _ asked
  obtain ⟨second, asks, ownSecond⟩ := asks
  have run := login.trans asks
  have unforged := unforged_append grants granted login ownFirst asks ownSecond
  obtain ⟨examination, _, _, behind, examines, runs, allowed⟩ := exists_run_authorize grants
  have mem : created.token ∈ (Response.json 201 created.toJson).tokens :=
    List.mem_singleton_self _
  obtain ⟨backed, held, passes⟩ := App.roles_were_held (.inr (.inl rfl)) run
  obtain ⟨found, hfound, backs⟩ := backed true _ created.token rfl mem
  obtain rfl := TokenIssuer.sign_injective hfound signed
  have carried : Role.user ∈ found.roles := by simp [roles]
  exact ⟨tokens.access.token, tokens.refresh.token, _, _, created, found, run, unforged, rfl,
    signed, kind, roles, backs, subject ▸ held unforged true _ _ _ rfl mem signed .user carried,
    examination, _, behind ▸ passes _ _ _ _ _ _ true _ examines runs allowed⟩

end TokenRequest

end SessionAuth
