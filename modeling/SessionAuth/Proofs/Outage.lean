import SessionAuth.Proofs.Admission
import SessionAuth.Proofs.Http.Request
import SessionAuth.Service

/-!
# The gate during outages

Each half of a store may refuse every operation or stay silent, and the policy may fail whatever
it is asked. A program that only reads, waits for no answer without a limit and ends with the
error of the first operation that fails cannot be led astray by this: it comes to the result that
it comes to on a store that answers, or it reports that the service is unavailable. The gate is
such a program.

## Main definitions

* `FailsClosed` — a result is the expected one, or unavailability
* `Program.Cautious` — a program reads, waits within limits and ends with the first failure
* `Gate.withFault`, `Service.withFault` — the policy as it is, or failing with an error
* `Response.unavailable` — the response to every failure of a store or the policy

## Main results

* `Program.Cautious.run_failsClosed` — a cautious program fails closed
* `Gate.cautious_authorize` — the gate is cautious
* `Service.fails_closed` — the gate fails closed, and tells nothing of the fault
-/

namespace SessionAuth

variable {α β : Type}

/-- A result is the expected one, or that the service is unavailable. -/
def FailsClosed (expected actual : Except AuthError α) : Prop :=
  actual = expected ∨ ∃ e : AuthError, actual = .error e ∧ e.kind = .serviceUnavailable

namespace FailsClosed

variable {expected actual further : Except AuthError α}

theorem refl (expected : Except AuthError α) : FailsClosed expected expected := .inl rfl

theorem of_kind {e : AuthError} (h : e.kind = .serviceUnavailable) :
    FailsClosed expected (.error e) := .inr ⟨e, rfl, h⟩

theorem trans (h : FailsClosed expected actual) (h' : FailsClosed actual further) :
    FailsClosed expected further := by
  rcases h' with rfl | h'
  · exact h
  · exact .inr h'

/-- What succeeds during an outage succeeds without one. -/
theorem eq_ok {a : α} (h : FailsClosed expected actual) (ok : actual = .ok a) :
    expected = .ok a := by
  rcases h with rfl | ⟨e, herror, -⟩
  · exact ok
  · rw [ok] at herror
    cases herror

/-- A sequence fails closed if its second part does, whatever the first one hands on. -/
theorem bind {f g : α → Except AuthError β} (result : Except AuthError α)
    (next : ∀ a, FailsClosed (f a) (g a)) : FailsClosed (result >>= f) (result >>= g) := by
  cases result with
  | ok a => exact next a
  | error e => exact .refl _

theorem map {f : α → β} (h : FailsClosed expected actual) :
    FailsClosed (expected.map f) (actual.map f) := by
  rcases h with rfl | ⟨e, rfl, kind⟩
  · exact .refl _
  · exact .of_kind kind

end FailsClosed

/-! ## Cautious programs -/

namespace Program

/-- To an operation with a limit a store answers truthfully, or the service is unavailable. -/
theorem answer_bounded (backend : Backend) (store : Store) (op : StoreCall) :
    answer backend store op true = some (store.respond op) ∨
      ∃ e : AuthError, e.kind = .serviceUnavailable ∧
        answer backend store op true = some (.error e, store) := by
  unfold answer
  cases backend.health op with
  | truthful => exact .inl rfl
  | refusing reason => exact .inr ⟨.storeUnreachable reason, rfl, rfl⟩
  | silent => exact .inr ⟨.storeTimedOut, rfl, rfl⟩

/-- A program only reads, waits for every answer within a limit, and ends with the error of the
first operation that fails. -/
inductive Cautious : Program (Except AuthError α) → Prop
  | done (result : Except AuthError α) : Cautious (.done result)
  | call {op : StoreCall} {next : Except AuthError op.Answer → Program (Except AuthError α)}
      (reads : ∀ store : Store, (store.respond op).2 = store)
      (ends : ∀ e, next (.error e) = .done (.error e))
      (goesOn : ∀ answer, Cautious (next (.ok answer))) : Cautious (.call op true next)

/-- A cautious program leaves the store as it is and fails closed. -/
theorem Cautious.run_failsClosed {program : Program (Except AuthError α)}
    (cautious : Cautious program) (backend : Backend) (store : Store) :
    ∃ actual, program.run backend store = some (actual, store) ∧
      FailsClosed (program.exec store).1 actual := by
  induction cautious with
  | done result => exact ⟨result, rfl, .refl result⟩
  | @call op next reads ends goesOn ih =>
    rw [run, exec, reads]
    rcases answer_bounded backend store op with truthful | ⟨e, kind, failed⟩
    · rw [truthful]
      cases hresult : (store.respond op).1 with
      | ok answer =>
        have hrespond : store.respond op = (.ok answer, store) := Prod.ext hresult (reads store)
        rw [hrespond]
        exact ih answer
      | error e =>
        have hrespond : store.respond op = (.error e, store) := Prod.ext hresult (reads store)
        simp only [hrespond, ends]
        exact ⟨.error e, rfl, .refl _⟩
    -- The error of the fault is where the program ends.
    · simp only [failed, ends]
      exact ⟨.error e, rfl, .of_kind kind⟩

/-- A cautious program may go on with a cautious action. -/
theorem Cautious.bindCont {program : Program (Except AuthError α)} {f : α → Action β}
    (cautious : Cautious program) (next : ∀ a, Cautious (f a).run) :
    Cautious (program.bind (ExceptT.bindCont f)) := by
  induction cautious with
  | done result =>
    cases result with
    | ok a => exact next a
    | error e => exact .done _
  | call reads ends _ ih =>
    -- A failure ends the first part, and there is nothing to go on with.
    refine .call reads (fun e => ?_) ih
    rw [ends]
    rfl

end Program

namespace Action

/-- An action is cautious as a program. -/
def Cautious (action : Action α) : Prop := Program.Cautious action.run

theorem cautious_pure (a : α) : Cautious (pure a : Action α) := .done _

theorem cautious_throw (e : AuthError) : Cautious (throw e : Action α) := .done _

theorem cautious_ofExcept (result : Except AuthError α) : Cautious (ofExcept result) := by
  cases result <;> exact .done _

theorem cautious_askBounded {op : StoreCall}
    (reads : ∀ store : Store, (store.respond op).2 = store) : Cautious (askBounded op) :=
  .call reads (fun _ => rfl) fun _ => .done _

/-- Cautious actions may follow one another. -/
theorem Cautious.bind {action : Action α} {f : α → Action β} (cautious : Cautious action)
    (next : ∀ a, Cautious (f a)) : Cautious (action >>= f) :=
  Program.Cautious.bindCont cautious next

/-- A sequence of actions goes on where the first one succeeds, whatever the store is like. -/
theorem run_bind (backend : Backend) (action : Action α) (f : α → Action β) (store : Store) :
    (action >>= f).run.run backend store =
      (action.run.run backend store).bind fun (result, after) =>
        match result with
        | .ok a => (f a).run.run backend after
        | .error e => some (.error e, after) := by
  change (Program.bind action.run (ExceptT.bindCont f)).run backend store = _
  rw [Program.run_bind]
  congr 1
  funext ⟨result, after⟩
  cases result <;> rfl

end Action

/-! ## The gate -/

namespace Gate

variable {gate : Gate} {now : Instant} {request : GateRequest}

theorem cautious_checkPersonal (claims : Claims) (token : String) :
    (gate.checkPersonal now claims token).Cautious := by
  refine (Action.cautious_askBounded fun _ => rfl).bind fun record? => ?_
  cases record? with
  | none => exact Action.cautious_throw _
  | some record =>
    by_cases owner : record.owner ≠ claims.subject
    · simp only [if_pos owner]
      exact Action.cautious_throw _
    · simp only [if_neg owner]
      exact Action.cautious_ofExcept _

theorem cautious_examine : (gate.examine now request).Cautious := by
  unfold examine
  cases request.credential? with
  | none => exact Action.cautious_throw _
  | some credential =>
    refine (Action.cautious_ofExcept _).bind fun claims => ?_
    refine (Action.cautious_askBounded fun _ => rfl).bind fun account? => ?_
    cases account? with
    | none => exact Action.cautious_throw _
    | some account =>
      refine (Action.cautious_ofExcept _).bind fun _ => ?_
      refine (Action.cautious_ofExcept _).bind fun _ => ?_
      have checkRest : ((Action.ofExcept (checkRoles gate.policy request.path request.method
          (effectiveRoles claims account))) >>= fun _ =>
            (pure ⟨claims, account, credential.2⟩ : Action Caller)).Cautious :=
        (Action.cautious_ofExcept _).bind fun _ => Action.cautious_pure _
      split
      · exact (cautious_checkPersonal claims credential.1).bind fun _ => checkRest
      · exact checkRest

/-- The gate only reads, within limits, and ends with the first failure. -/
theorem cautious_authorize : (gate.authorize now request).Cautious := by
  unfold authorize
  split
  · exact Action.cautious_pure _
  · exact cautious_examine.bind fun _ => Action.cautious_pure _

end Gate

/-! ## The policy -/

/-- A policy that fails with one error, whatever it is asked. -/
def PolicyEngine.failing (e : AuthError) : PolicyEngine := ⟨fun _ _ _ => .error e⟩

/-- The gate with its policy as it is, or failing with an error. -/
def Gate.withFault (gate : Gate) : Option AuthError → Gate
  | none => gate
  | some e => { gate with policy := .failing e }

/-- The service with its policy as it is, or failing with an error. -/
def Service.withFault (service : Service) : Option AuthError → Service
  | none => service
  | some e => { service with policy := .failing e }

theorem Service.gate_withFault (service : Service) (fault : Option AuthError) :
    (service.withFault fault).gate = service.gate.withFault fault := by
  cases fault <;> rfl

theorem Service.settings_withFault (service : Service) (fault : Option AuthError) :
    (service.withFault fault).settings = service.settings := by
  cases fault <;> rfl

namespace Gate

variable {gate : Gate} {store : Store} {now : Instant} {request : GateRequest}

theorem kind_policyError (e : AuthError) : (policyError e).kind = .serviceUnavailable := by
  unfold policyError
  split
  · assumption
  · rfl

/-- A failing policy is noticed as soon as it is asked for a role. -/
theorem checkRoles_failsClosed (policy : PolicyEngine) (e : AuthError) (path method : String)
    (roles : List Role) :
    FailsClosed (checkRoles policy path method roles)
      (checkRoles (.failing e) path method roles) := by
  cases roles with
  | nil => exact .refl _
  | cons role roles => exact .of_kind (kind_policyError e)

/-- The policy is asked last, so that all checks before it decide as they do. -/
theorem verdict_failsClosed (fault : Option AuthError) :
    FailsClosed (gate.verdict store now request)
      ((gate.withFault fault).verdict store now request) := by
  cases fault with
  | none => exact .refl _
  | some e =>
    unfold verdict
    cases request.credential? with
    | none => exact .refl _
    | some credential =>
      refine .bind (gate.claimsOf now credential.1) fun claims => ?_
      cases store.account? claims.subject with
      | none => exact .refl _
      | some account =>
        refine .bind account.checkStatus fun _ => ?_
        refine .bind (gate.checkForgery request credential.1 credential.2) fun _ => ?_
        have checkRest : FailsClosed
            (checkRoles gate.policy request.path request.method (effectiveRoles claims account) >>=
              fun _ => pure (⟨claims, account, credential.2⟩ : Caller))
            (checkRoles (.failing e) request.path request.method (effectiveRoles claims account) >>=
              fun _ => pure ⟨claims, account, credential.2⟩) := by
          exact (checkRoles_failsClosed gate.policy e request.path request.method _).map
        by_cases personal : claims.kind = .personal
        · simp only [if_pos personal]
          exact .bind (gate.personalVerdict store now claims credential.1) fun _ => checkRest
        · simp only [if_neg personal]
          exact checkRest

theorem decision_failsClosed (fault : Option AuthError) :
    FailsClosed (gate.decision store now request)
      ((gate.withFault fault).decision store now request) := by
  have hsettings : (gate.withFault fault).settings = gate.settings := by
    cases fault <;> rfl
  unfold decision
  rw [hsettings]
  split
  · exact .refl _
  · exact (verdict_failsClosed fault).map

theorem run_authorize_healthy (gate : Gate) (store : Store) (now : Instant)
    (request : GateRequest) :
    (gate.authorize now request).run.run .healthy store =
      some (gate.decision store now request, store) := by
  rw [Program.run_healthy]
  exact congrArg some exec_authorize

/-- What is not exempt is let pass with a token that works, if the policy allows a role. -/
theorem run_authorize_of_working {token : String} {caller : Caller}
    (working : Working gate store now request token caller)
    (notExempt : gate.settings.isExempt request.path = false)
    (permitted : checkRoles gate.policy request.path request.method
      (effectiveRoles caller.claims caller.account) = .ok ()) :
    (gate.authorize now request).run.run .healthy store =
      some (.ok (.allowed caller), store) := by
  rw [run_authorize_healthy, decision, verdict_of_working working, permitted, notExempt]
  rfl

/-- The gate ends whatever the store and the policy are like, leaves the store as it is, and
fails closed. -/
theorem run_authorize (gate : Gate) (store : Store) (now : Instant) (request : GateRequest)
    (backend : Backend) (fault : Option AuthError) :
    ∃ actual, ((gate.withFault fault).authorize now request).run.run backend store =
      some (actual, store) ∧ FailsClosed (gate.decision store now request) actual := by
  have cautious : ((gate.withFault fault).authorize now request).Cautious := cautious_authorize
  obtain ⟨actual, hrun, hactual⟩ := cautious.run_failsClosed backend store
  have hexec : Program.exec ((gate.withFault fault).authorize now request).run store = _ :=
    exec_authorize
  rw [hexec] at hactual
  exact ⟨actual, hrun, (decision_failsClosed fault).trans hactual⟩

/-- Whoever passes, whatever the store is like, passes by the decision of the gate. -/
theorem decision_of_run_authorize {backend : Backend} {outcome : GateOutcome} {after : Store}
    (h : (gate.authorize now request).run.run backend store = some (.ok outcome, after)) :
    gate.decision store now request = .ok outcome := by
  obtain ⟨actual, hrun, closed⟩ := run_authorize gate store now request backend none
  change (gate.authorize now request).run.run backend store = _ at hrun
  obtain ⟨hactual, -⟩ := Prod.mk.inj (Option.some.inj (hrun.symm.trans h))
  exact closed.eq_ok hactual

end Gate

/-! ## Responses -/

/-- The response to the result of an action. -/
def Response.ofResult : Except AuthError Response → Response
  | .ok response => response
  | .error e => e.response

/-- The response to every failure of a store or the policy. -/
def Response.unavailable : Response :=
  .json 503 (.record [("error", .text "Service temporarily unavailable"),
    ("code", .text "service_unavailable")])

/-- Nothing of what makes the service unavailable is told. -/
theorem AuthError.response_of_unavailable {e : AuthError} (h : e.kind = .serviceUnavailable) :
    e.response = .unavailable := by
  simp only [response, status, body, publicMessage, code, h]
  rfl

/-- A request is answered by the result of its action. -/
theorem App.handle_eq (app : App) (occasion : Occasion) (request : Request) :
    app.handle occasion request =
      Program.bind (app.action occasion request).run fun result => .done (.ofResult result) := by
  apply congrArg (Program.bind (app.action occasion request).run)
  funext result
  cases result <;> rfl

/-- A request is examined by the gate, and led to its endpoint if it is let pass. -/
theorem App.exists_behind_gate (service : Service) (occasion : Occasion) (request : Request) :
    ∃ rest : Except AuthError GateOutcome → Program Response,
      (App.gated (some service)).handle occasion request =
        Program.bind (service.gate.authorize occasion.now
          (request.toGate service.settings.csrfHeader)).run rest ∧
      ∀ caller, rest (.ok (.allowed caller)) =
        Program.bind (service.dispatch occasion request (some caller)).run
          fun result => .done (.ofResult result) := by
  rw [handle_eq]
  exact ⟨_, Program.bind_assoc _ _ _, fun _ => rfl⟩

theorem App.run_handle (app : App) (occasion : Occasion) (request : Request) (backend : Backend)
    (store : Store) : (app.handle occasion request).run backend store =
      ((app.action occasion request).run.run backend store).map
        fun (result, after) => (.ofResult result, after) := by
  rw [handle_eq, Program.run_bind]
  cases (app.action occasion request).run.run backend store <;> rfl

theorem App.exec_handle (app : App) (occasion : Occasion) (request : Request) (store : Store) :
    (app.handle occasion request).exec store =
      (.ofResult ((app.action occasion request).exec store).1,
        ((app.action occasion request).exec store).2) := by
  have ends := Program.run_healthy (app.handle occasion request) store
  rw [run_handle, Program.run_healthy] at ends
  exact (Option.some.inj ends).symm

/-- A request that the gate refuses is answered by the error of the gate. -/
theorem App.run_handle_of_denied {service : Service} {occasion : Occasion} {request : Request}
    {backend : Backend} {store after : Store} {e : AuthError}
    (denied : (service.gate.authorize occasion.now
      (request.toGate service.settings.csrfHeader)).run.run backend store =
        some (.error e, after)) :
    ((App.gated (some service)).handle occasion request).run backend store =
      some (e.response, after) := by
  rw [run_handle, action, Service.gated, Action.run_bind, denied]
  rfl

/-- Whatever fails, the store in either half or the policy with whatever error, the gate decides
as it would if nothing failed, or reports that the service is unavailable. So nobody passes who
would not pass otherwise, and no refusal turns into a success. The response is then the same
whatever it was that failed, and the store stays as it is. -/
theorem Service.fails_closed (service : Service) (fault : Option AuthError) (backend : Backend)
    (store : Store) :
    (∀ (now : Instant) (request : GateRequest), ∃ expected actual,
      (service.gate.authorize now request).run.run .healthy store = some (expected, store) ∧
      ((service.withFault fault).gate.authorize now request).run.run backend store =
        some (actual, store) ∧
      (actual = expected ∨
        ∃ e : AuthError, actual = .error e ∧ e.kind = .serviceUnavailable) ∧
      ∀ outcome, actual = .ok outcome → expected = .ok outcome) ∧
    ∀ (occasion : Occasion) (request : Request) (e : AuthError),
      ((service.withFault fault).gate.authorize occasion.now
        (request.toGate service.settings.csrfHeader)).run.run backend store =
          some (.error e, store) →
      e.kind = .serviceUnavailable →
      ((App.gated (some (service.withFault fault))).handle occasion request).run backend store =
        some (.unavailable, store) := by
  refine ⟨?_, ?_⟩
  · intro now request
    obtain ⟨actual, hrun, closed⟩ := Gate.run_authorize service.gate store now request backend fault
    rw [gate_withFault]
    exact ⟨_, actual, Gate.run_authorize_healthy _ _ _ _, hrun, closed, fun _ => closed.eq_ok⟩
  · intro occasion request e refused kind
    rw [← service.settings_withFault fault] at refused
    rw [App.run_handle_of_denied refused, AuthError.response_of_unavailable kind]

/-- A signed token in the authorisation header is the credential. -/
theorem Request.carries_of_sign {request : Request} {keys : KeyPair} {claims : Claims}
    {token : String} (signed : TokenIssuer.sign keys claims = .ok token)
    (header : request.rawHeader? "Authorization" = some ("Bearer " ++ token))
    (csrfHeader : String) : (request.toGate csrfHeader).Carries token .header :=
  .header (bearer?_of_sign signed header) (TokenIssuer.ne_empty_of_sign signed)

namespace AdminRequest

/-- The service behind the gate. -/
def service : Service := ⟨gate.settings, gate.issuer, gate.hasher, gate.policy⟩

/-- A time, and nothing drawn that matters. -/
def occasion : Occasion := ⟨now, .nil, .nil, .nil, .ofNat 0, .ofNat 0, fun _ => ""⟩

/-- The store with the account of the administrator. -/
def store : Store := ⟨7, [account], []⟩

/-- A page is asked for over HTTP, with a bearer token. -/
def get (target token : String) : Request :=
  ⟨"GET", target, [("Authorization", "Bearer " ++ token)], ""⟩

@[simp] theorem rawHeader?_get (target token : String) :
    (get target token).rawHeader? "Authorization" = some ("Bearer " ++ token) := by
  simp [get, Request.rawHeader?]

/-- A token that was just issued names its account, wherever it comes from. -/
theorem standing_of_issue (gate : Gate) (issuer : gate.issuer = .echo) {kind : TokenKind}
    {subject : Int32} {id : Uuid} {lifetime : Duration} {roles : List Role} {issued : IssuedToken}
    (h : TokenIssuer.echo.issue now kind subject id lifetime roles = .ok issued)
    (notRefresh : kind ≠ .refresh) (lasts : 100 ≤ issued.claims.expires.toInt) {store : Store}
    {account : Account} (known : store.account? subject = some account)
    (notBanned : account.banned = false) (notLocked : account.locked = false)
    {request : GateRequest} {source : CredentialSource}
    (carries : request.Carries issued.token source) :
    InGoodStanding gate store now request issued.token ⟨issued.claims, account, source⟩ := by
  have issues := TokenIssuer.issues_of_issue h
  have valid : gate.issuer.validate now issued.token = .ok issued.claims := by
    have hnow : now.seconds = 100 := rfl
    rw [issuer]
    exact TokenIssuer.validate_of_issue TokenIssuer.echo_trusts_echo h (by omega) (by omega)
      (by omega) (by omega) (by omega)
  exact ⟨⟨⟨carries, valid, issues.kind ▸ notRefresh⟩, issues.subject ▸ known⟩, notBanned, notLocked⟩

/-- An access token names the account of the administrator, wherever it comes from. -/
theorem standing_of_carries (gate : Gate) (issuer : gate.issuer = .echo) {issued : IssuedToken}
    (h : TokenIssuer.echo.issueAccess now .nil 7 [.admin, .user] = .ok issued)
    {request : GateRequest} {source : CredentialSource}
    (carries : request.Carries issued.token source) :
    InGoodStanding gate store now request issued.token ⟨issued.claims, account, source⟩ := by
  have hend : issued.claims.expires.toInt = 700 := (TokenIssuer.issues_of_issue h).expires
  exact standing_of_issue gate issuer h nofun (by omega) rfl rfl rfl carries

/-- An access token is no personal token, and needs no record. -/
theorem kind_of_issueAccess {issued : IssuedToken}
    (h : TokenIssuer.echo.issueAccess now .nil 7 [.admin, .user] = .ok issued) :
    issued.claims.kind = .access :=
  (TokenIssuer.issues_of_issue h).kind

/-- An access token of the administrator works in the header, whatever is asked for. -/
theorem working_of_bearer (gate : Gate) (issuer : gate.issuer = .echo) {issued : IssuedToken}
    (h : TokenIssuer.echo.issueAccess now .nil 7 [.admin, .user] = .ok issued) {request : Request}
    (header : request.rawHeader? "Authorization" = some ("Bearer " ++ issued.token))
    (csrfHeader : String) :
    Working gate store now (request.toGate csrfHeader) issued.token
      ⟨issued.claims, account, .header⟩ := by
  have carries := Request.carries_of_sign (TokenIssuer.issues_of_issue h).signed header csrfHeader
  exact ⟨⟨standing_of_carries gate issuer h carries, by simp⟩, by simp [kind_of_issueAccess h]⟩

/-- With an access token that was just issued the gate lets a request pass, wherever the account is
kept, if the policy allows a role of the token that the account covers. -/
theorem exec_authorize_of_bearer (gate : Gate) (issuer : gate.issuer = .echo) {store : Store}
    {holder : Account} {roles : List Role} {issued : IssuedToken}
    (known : store.account? holder.id = some holder) (notBanned : holder.banned = false)
    (notLocked : holder.locked = false)
    (h : TokenIssuer.echo.issueAccess now .nil holder.id roles = .ok issued) {request : Request}
    (header : request.rawHeader? "Authorization" = some ("Bearer " ++ issued.token))
    (csrfHeader : String) (notExempt : gate.settings.isExempt request.path = false)
    (permitted : Gate.checkRoles gate.policy request.path request.method
      (roles.filter fun role => holder.role.covers role) = .ok ()) :
    (gate.authorize now (request.toGate csrfHeader)).run.exec store =
      (.ok (.allowed ⟨issued.claims, holder, .header⟩), store) := by
  have issues := TokenIssuer.issues_of_issue h
  have hend : issued.claims.expires.toInt = 700 := issues.expires
  have carries := Request.carries_of_sign issues.signed header csrfHeader
  have working : Working gate store now (request.toGate csrfHeader) issued.token
      ⟨issued.claims, holder, .header⟩ :=
    ⟨⟨standing_of_issue gate issuer h nofun (by omega) known notBanned notLocked carries, by simp⟩,
      by simp [issues.kind]⟩
  have allowed := Gate.run_authorize_of_working working notExempt
    (by rwa [Gate.effectiveRoles, issues.roles])
  rw [Program.run_healthy] at allowed
  exact Option.some.inj allowed

theorem working_get (gate : Gate) (issuer : gate.issuer = .echo) {issued : IssuedToken}
    (h : TokenIssuer.echo.issueAccess now .nil 7 [.admin, .user] = .ok issued)
    (target csrfHeader : String) :
    Working gate store now ((get target issued.token).toGate csrfHeader) issued.token
      ⟨issued.claims, account, .header⟩ :=
  working_of_bearer gate issuer h (rawHeader?_get target issued.token) csrfHeader

/-- The account covers both of its roles. -/
theorem effectiveRoles_get {issued : IssuedToken}
    (h : TokenIssuer.echo.issueAccess now .nil 7 [.admin, .user] = .ok issued) :
    Gate.effectiveRoles issued.claims account = [.admin, .user] := by
  rw [Gate.effectiveRoles, (TokenIssuer.issues_of_issue h).roles]
  decide

/-- The service with a policy that fails in words of its own. -/
def failing : Service := service.withFault (some (.reported .forbidden "down"))

/-- A policy that fails makes the service unavailable, and its words stay inside. -/
theorem unavailable_of_failing_policy : ∃ (token : String) (e : AuthError),
    e.kind = .serviceUnavailable ∧
    (failing.gate.authorize now
      ((get "/api/users/" token).toGate service.settings.csrfHeader)).run.run .healthy store =
        some (.error e, store) ∧
    ((App.gated (some failing)).handle occasion (get "/api/users/" token)).run .healthy store =
      some (.unavailable, store) := by
  obtain ⟨issued, hissued⟩ : ∃ issued,
      TokenIssuer.echo.issueAccess now .nil 7 [.admin, .user] = .ok issued := ⟨_, rfl⟩
  have hdecision : failing.gate.decision store now
      ((get "/api/users/" issued.token).toGate service.settings.csrfHeader) =
        .error (.policyFailed (.reported .forbidden "down")) := by
    have hverdict := Gate.verdict_of_working
      (working_get failing.gate rfl hissued "/api/users/" service.settings.csrfHeader)
    rw [effectiveRoles_get hissued] at hverdict
    exact congrArg (Except.map GateOutcome.allowed) hverdict
  have hrun := Gate.run_authorize_healthy failing.gate store now
    ((get "/api/users/" issued.token).toGate service.settings.csrfHeader)
  rw [hdecision] at hrun
  exact ⟨issued.token, _, rfl, hrun,
    (service.fails_closed _ .healthy store).2 occasion _ _ hrun rfl⟩

end AdminRequest

end SessionAuth
