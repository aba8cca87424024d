import SessionAuth.Proofs.Http.Mediation
import SessionAuth.Proofs.Outcome
import SessionAuth.Proofs.Permission

/-!
# Failed logins

A login fails for an address that no account has, and for one whose account has another
password. The two are answered alike, and whatever else is stored makes no difference: the
response to a failed login is known without a look at the accounts. It depends on how the
service is put up, on how the store answers and on what the request brings along. Where fields of
the form fail their checks, it also depends on the words for these faults, which are drawn anew
each time, and drawn without a look at the accounts too.

## Main definitions

* `Store.Mismatches` — the address and the password of a form belong to no account
* `LoginForm.denial?`, `App.denial?` — the error of a failed login
* `App.RejectsCredential` — the gate refuses a credential that comes with a request

## Main results

* `Sessions.run_authenticate_of_mismatches` — a wrong password is found out before the standing of
  the account counts
* `App.conceals_accounts` — a failed login is answered alike whatever is stored
-/

namespace SessionAuth

/-- The address and the password of a form belong to no account: no account has the address, or
the hash of the one that has it can be read and is that of another password. -/
def Store.Mismatches (store : Store) (hasher : SecretHasher) (form : LoginForm) : Prop :=
  ∀ account, store.accountByEmail? form.email = some account →
    hasher.verifyPassword form.password account.passwordHash = .ok false

/-- What becomes of a form that opens no account; nothing if the store never answers. -/
def LoginForm.denial? (form : LoginForm) (wording : List FieldFault → String) (backend : Backend) :
    Option AuthError :=
  if form.faults = [] then
    match backend.accounts with
    | .truthful => some .wrongCredentials
    | .refusing reason => some (.storeUnreachable reason)
    | .silent => none
  else some (.invalidFields form.faults (wording form.faults))

section Logins

variable {service : Service} {occasion : Occasion} {request : Request} {form : LoginForm}
  {wording other : List FieldFault → String} {backend : Backend} {store : Store}

/-- Of the words only those for the faults of the form count. -/
theorem LoginForm.denial?_congr
    (same : form.faults ≠ [] → wording form.faults = other form.faults) :
    form.denial? wording backend = form.denial? other backend := by
  unfold denial?
  by_cases valid : form.faults = []
  · rw [if_pos valid, if_pos valid]
  · rw [if_neg valid, if_neg valid, same valid]

/-! ## The endpoint -/

/-- A wrong password is found out before the standing of the account counts. -/
theorem Sessions.run_authenticate_of_mismatches (sessions : Sessions)
    (mismatches : store.Mismatches sessions.hasher form) (valid : form.faults = []) :
    (sessions.authenticate form.email form.password).run.run backend store =
      (form.denial? wording backend).map fun e => (.error e, store) := by
  have side : backend.health (.findByEmail form.email) = backend.accounts := rfl
  unfold authenticate LoginForm.denial?
  rw [if_pos valid, Action.run_bind]
  change Option.bind (Program.run backend (.call (.findByEmail form.email) false .done) store) _ = _
  rw [Program.run, Program.answer, side]
  cases backend.accounts with
  | truthful =>
    rw [Store.respond_findByEmail]
    cases found : store.accountByEmail? form.email with
    | none => rfl
    | some account =>
      change ((Action.lift _ (sessions.hasher.verifyPassword _ account.passwordHash)) >>=
        _ : Action Account).run.run backend store = _
      rw [mismatches account found]
      rfl
  | refusing reason => rfl
  | silent => rfl

/-- The endpoint denies a form that opens no account, and looks for one only if the fields of the
form pass their checks. -/
theorem Service.run_login_of_mismatches (mismatches : store.Mismatches service.hasher form) :
    (service.login occasion form).run.run backend store =
      (form.denial? occasion.wording backend).map fun e => (.error e, store) := by
  unfold login
  by_cases valid : form.faults = []
  · have passes : checkFields occasion form.faults = .ok () := if_pos valid
    rw [passes, Action.ofExcept_ok, Action.pure_bind, Action.run_bind,
      Sessions.run_authenticate_of_mismatches service.sessions mismatches valid]
    cases form.denial? occasion.wording backend with
    | none => rfl
    | some e => rfl
  · have fails : checkFields occasion form.faults =
        .error (.invalidFields form.faults (occasion.wording form.faults)) := if_neg valid
    rw [fails, LoginForm.denial?, if_neg valid]
    rfl

/-- So does a request that is led to the endpoint, whoever is the caller. -/
theorem Service.run_dispatch_of_mismatches (asks : request.Asks .login [])
    (body : request.json LoginForm.ofJson? = .ok form)
    (mismatches : store.Mismatches service.hasher form) (established : Option Caller) :
    (service.dispatch occasion request established).run.run backend store =
      (form.denial? occasion.wording backend).map fun e => (.error e, store) := by
  rw [dispatch_of_find? established (asks.find?_of_needsCaller rfl), answer_login established body]
  exact run_login_of_mismatches mismatches

/-! ## The gate -/

/-- What needs a credential and comes with none is refused without a look at the store. -/
theorem Gate.run_authorize_of_missing {gate : Gate} {now : Instant} {request : GateRequest}
    (guarded : gate.settings.isExempt request.path = false)
    (missing : request.credential? = none) :
    (gate.authorize now request).run.run backend store = some (.error .missingToken, store) := by
  unfold authorize examine
  rw [guarded, missing]
  rfl

/-- What is exempt passes without a look at the store. -/
theorem Gate.run_authorize_of_exempt {gate : Gate} {now : Instant} {request : GateRequest}
    (exempt : gate.settings.isExempt request.path = true) :
    (gate.authorize now request).run.run backend store = some (.ok .exempt, store) := by
  unfold authorize
  rw [if_pos exempt]
  rfl

/-- So whatever is refused is guarded. -/
theorem Gate.isExempt_of_run_authorize {gate : Gate} {now : Instant} {request : GateRequest}
    {after : Store} {e : AuthError}
    (refused : (gate.authorize now request).run.run backend store = some (.error e, after)) :
    gate.settings.isExempt request.path = false := by
  by_contra exempt
  rw [run_authorize_of_exempt (Bool.not_eq_false _ ▸ exempt)] at refused
  cases refused

namespace App

/-- The service of an application, if there is one. -/
def service? : App → Option Service
  | bare service => some service
  | gated service => service

/-- The error of a login that opens no account; nothing if the store never answers. -/
def denial? (app : App) (wording : List FieldFault → String) (backend : Backend)
    (request : Request) (form : LoginForm) : Option AuthError :=
  match app with
  | bare _ => form.denial? wording backend
  | gated none => some .noService
  | gated (some service) =>
    if service.settings.isExempt request.path = false ∧
        (request.toGate service.settings.csrfHeader).credential? = none then
      some .missingToken
    else form.denial? wording backend

/-- The gate refuses a credential that comes with a request for what is not exempt. -/
inductive RejectsCredential (occasion : Occasion) (request : Request) (backend : Backend)
    (store : Store) : App → AuthError → Prop
  | intro {service : Service} {token : String} {source : CredentialSource} {e : AuthError}
      (guarded : service.settings.isExempt request.path = false)
      (carries : (request.toGate service.settings.csrfHeader).Carries token source)
      (denied : (service.gate.authorize occasion.now
        (request.toGate service.settings.csrfHeader)).run.run backend store =
          some (.error e, store)) :
      RejectsCredential occasion request backend store (.gated (some service)) e

/-- On a store that answers a login that opens no account ends. -/
theorem isSome_denial?_healthy (app : App) (wording : List FieldFault → String)
    (request : Request) (form : LoginForm) :
    (app.denial? wording .healthy request form).isSome = true := by
  have ends : (form.denial? wording .healthy).isSome = true := by
    unfold LoginForm.denial?
    split <;> rfl
  match app with
  | .bare _ => exact ends
  | .gated none => rfl
  | .gated (some service) =>
    rw [denial?]
    split
    · rfl
    · exact ends

theorem denial?_congr (app : App)
    (same : form.faults ≠ [] → wording form.faults = other form.faults) :
    app.denial? wording backend request form = app.denial? other backend request form := by
  have denials : form.denial? wording backend = form.denial? other backend :=
    LoginForm.denial?_congr same
  match app with
  | .bare _ => exact denials
  | .gated none => rfl
  | .gated (some service) => rw [denial?, denial?, denials]

theorem run_handle_of_dispatches {app : App} {established : Option Caller}
    (asks : request.Asks .login []) (body : request.json LoginForm.ofJson? = .ok form)
    (mismatches : store.Mismatches service.hasher form)
    (dispatches : app.Dispatches occasion request backend store service established) :
    (app.handle occasion request).run backend store =
      ((form.denial? occasion.wording backend).map AuthError.response).map
        fun response => (response, store) := by
  rw [dispatches.run_handle, Service.run_dispatch_of_mismatches asks body mismatches]
  cases form.denial? occasion.wording backend with
  | none => rfl
  | some e => rfl

/-- Behind a gate a login that opens no account is denied, or its credential is refused. -/
theorem run_handle_gated_of_mismatches (asks : request.Asks .login [])
    (body : request.json LoginForm.ofJson? = .ok form)
    (mismatches : store.Mismatches service.hasher form) :
    ((gated (some service)).handle occasion request).run backend store =
        (((gated (some service)).denial? occasion.wording backend request form).map
          AuthError.response).map (fun response => (response, store)) ∨
      ∃ e, (gated (some service)).RejectsCredential occasion request backend store e ∧
        ((gated (some service)).handle occasion request).run backend store =
          some (e.response, store) := by
  by_cases missing : service.settings.isExempt request.path = false ∧
      (request.toGate service.settings.csrfHeader).credential? = none
  · simp only [denial?, if_pos missing]
    exact .inl (run_handle_of_denied (Gate.run_authorize_of_missing missing.1 missing.2))
  simp only [denial?, if_neg missing]
  -- The gate ends. Whom it lets pass is of no importance to the endpoint.
  obtain ⟨outcome, hrun, -⟩ := Gate.run_authorize service.gate store occasion.now
    (request.toGate service.settings.csrfHeader) backend none
  match outcome with
  | .ok .exempt => exact .inl (run_handle_of_dispatches asks body mismatches (.exempt hrun))
  | .ok (.allowed caller) =>
    exact .inl (run_handle_of_dispatches asks body mismatches (.allowed hrun))
  | .error e =>
    have guarded : service.settings.isExempt request.path = false :=
      Gate.isExempt_of_run_authorize hrun
    obtain ⟨⟨token, source⟩, hcredential⟩ :=
      Option.ne_none_iff_exists'.mp fun none => missing ⟨guarded, none⟩
    exact .inr ⟨e, .intro guarded (GateRequest.carries_iff.mpr hcredential) hrun,
      run_handle_of_denied hrun⟩

/-- A failed login is answered alike whatever is stored. There is one response to a form whose
fields pass their checks, the same at any time and on every store on which the form opens no
account: whether an account has the address does not matter, nor do its role, its marks and its
session. To a form with faults there is one for each way to tell them. The store stays as it is.
Only a credential that comes with the request, where the gate asks for one, may be refused
instead. -/
theorem conceals_accounts (app : App) (backend : Backend) {request : Request} {form : LoginForm}
    (asks : request.Asks .login []) (body : request.json LoginForm.ofJson? = .ok form) :
    ∃ answer : (List FieldFault → String) → Option Response,
      (backend = .healthy → ∀ wording, (answer wording).isSome = true) ∧
      (∀ wording other, (form.faults ≠ [] → wording form.faults = other form.faults) →
        answer wording = answer other) ∧
      ∀ (occasion : Occasion) (store : Store),
        (∀ service, app.service? = some service → store.Mismatches service.hasher form) →
        (app.handle occasion request).run backend store =
            (answer occasion.wording).map (fun response => (response, store)) ∨
          ∃ e, app.RejectsCredential occasion request backend store e ∧
            (app.handle occasion request).run backend store = some (e.response, store) := by
  refine ⟨fun wording => (app.denial? wording backend request form).map AuthError.response,
    ?_, ?_, ?_⟩
  · intro healthy wording
    rw [healthy, Option.isSome_map]
    exact app.isSome_denial?_healthy wording request form
  · intro wording other same
    exact congrArg (Option.map AuthError.response) (app.denial?_congr same)
  · intro occasion store mismatches
    match app with
    | .bare service =>
      exact .inl (run_handle_of_dispatches asks body (mismatches service rfl) (.bare service))
    | .gated none => exact .inl rfl
    | .gated (some service) =>
      exact run_handle_gated_of_mismatches asks body (mismatches service rfl)

end App

end Logins

namespace FailedLogin

open LoginRequest (occasion)

/-- An attempt to log in with a password that is not the one of the account. -/
def request : Request := { LoginRequest.request with
  body := "\x7b\"email\": \"a@b.c\", \"password\": \"passw0rd\"\x7d" }

/-- The account has the highest role and is banned. -/
def bannedStore : Store :=
  LoginRequest.store.modifyAccount 1 fun account => { account with role := .super, banned := true }

theorem asks_request : request.Asks .login [] := by
  have path : segments request.path = Endpoint.login.segments [] := by decide
  exact ⟨rfl, path⟩

/-- With a wrong password, the holder of a banned account is answered as if there were no
account. -/
theorem conceals_banned_account : ∃ response,
    ((App.gated (some LoginRequest.service)).handle occasion request).run .healthy bannedStore =
      some (response, bannedStore) ∧
    ((App.gated (some LoginRequest.service)).handle occasion request).run .healthy .empty =
      some (response, .empty) := by
  have body : request.json LoginForm.ofJson? = .ok ⟨"a@b.c", "passw0rd"⟩ := by decide +kernel
  have exempt : LoginRequest.service.settings.isExempt request.path = true := by decide +kernel
  obtain ⟨answer, answered, -, conceals⟩ := App.conceals_accounts
    (.gated (some LoginRequest.service)) .healthy asks_request body
  obtain ⟨response, hanswer⟩ := Option.isSome_iff_exists.mp (answered rfl occasion.wording)
  have accepts {store : Store} {e : AuthError} :
      ¬(App.gated (some LoginRequest.service)).RejectsCredential occasion request .healthy store
        e := by
    rintro ⟨guarded, -, -⟩
    rw [exempt] at guarded
    cases guarded
  have conceals (store : Store) := conceals occasion store
  simp only [hanswer, Option.map_some] at conceals
  refine ⟨response, ?_, ?_⟩
  · refine (conceals bannedStore ?_).resolve_right fun ⟨_, rejects, _⟩ => accepts rejects
    rintro service ⟨⟩ account found
    obtain rfl : _ = account := Option.some.inj found
    rfl
  · refine (conceals .empty ?_).resolve_right fun ⟨_, rejects, _⟩ => accepts rejects
    rintro service ⟨⟩ account ⟨⟩

end FailedLogin

end SessionAuth
