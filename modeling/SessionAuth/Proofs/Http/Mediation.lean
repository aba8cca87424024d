import SessionAuth.Proofs.Http.Route
import SessionAuth.Proofs.Outage
import SessionAuth.Proofs.Permission

/-!
# Complete mediation

An endpoint that needs a caller does nothing without one, and a caller comes from the gate alone.
So such an endpoint is at work only behind a gate that let the very request pass, and sees what
the gate established of it. Every other request for it is answered by an error, whether there is
no gate, nothing behind it, an exemption or a refusal.

By default no exemption leads to such an endpoint: the exempt paths and the paths of these
endpoints part within their first three segments.

## Main definitions

* `Endpoint.needsCaller` — an endpoint needs a caller
* `App.Refused` — why an endpoint that needs a caller is not reached

## Main results

* `Service.gated_of_needsCaller` — the gate hands its caller to the endpoint, or nothing is done
* `Endpoint.needsCaller_eq_false_of_exempt` — default exemptions lead to no such endpoint
* `App.mediates` — nobody gets around the gate
-/

namespace SessionAuth

/-- Whether an endpoint needs a caller. -/
def Endpoint.needsCaller : Endpoint → Bool
  | health | login | register | refresh => false
  | logout | me | updateStatus | updateRole | createToken | listTokens | readToken
  | revokeToken => true

section Requests

variable {service : Service} {occasion : Occasion} {request : Request} {endpoint : Endpoint}
  {vary : List Segment} {backend : Backend} {store : Store}

/-! ## Endpoints without a caller -/

/-- Without a caller an endpoint that needs one does nothing. -/
theorem Service.answer_none (needs : endpoint.needsCaller = true) :
    service.answer occasion request none endpoint vary = throw .noCaller := by
  cases endpoint with
  | health | login | register | refresh => cases needs
  | _ => rfl

theorem Service.dispatch_of_find? (caller : Option Caller)
    (found : Route.find? request.method request.path = some (endpoint, vary)) :
    service.dispatch occasion request caller =
      service.answer occasion request caller endpoint vary := by
  simp only [dispatch, found]

/-- A login goes on with the form that was read, whoever is the caller. -/
theorem Service.answer_login {form : LoginForm} (established : Option Caller)
    (body : request.json LoginForm.ofJson? = .ok form) :
    service.answer occasion request established .login vary = service.login occasion form := by
  simp only [answer, withJson, body]

theorem Service.answer_register {form : RegistrationForm} (established : Option Caller)
    (body : request.json RegistrationForm.ofJson? = .ok form) :
    service.answer occasion request established .register vary =
      service.register occasion form := by
  simp only [answer, withJson, body]

/-- A request for an endpoint that needs no caller is led to it. -/
theorem Request.Asks.find?_of_needsCaller (asks : request.Asks endpoint [])
    (needsNone : endpoint.needsCaller = false) :
    Route.find? request.method request.path = some (endpoint, []) := by
  refine asks.find?_of_places ?_
  cases endpoint with
  | health | login | register | refresh => rfl
  | _ => cases needsNone

/-- Behind the gate an endpoint that needs a caller gets the one that was established, and an
exempt request gets no further. -/
theorem Service.gated_of_needsCaller
    (found : Route.find? request.method request.path = some (endpoint, vary))
    (needs : endpoint.needsCaller = true) :
    service.gated occasion request = (do
      match ← service.gate.authorize occasion.now (request.toGate service.settings.csrfHeader) with
      | .exempt => throw .noCaller
      | .allowed caller => service.answer occasion request (some caller) endpoint vary) := by
  refine congrArg (service.gate.authorize occasion.now _ >>= ·) (funext fun outcome => ?_)
  cases outcome with
  | exempt => exact (dispatch_of_find? none found).trans (answer_none needs)
  | allowed caller => exact dispatch_of_find? (some caller) found

/-! ## Exempt paths -/

/-- An endpoint that needs a caller lies under one path, but for the end of a session. -/
theorem Endpoint.segments_of_needsCaller (needs : endpoint.needsCaller = true)
    (vary : List Segment) :
    [[], "api".toList] <+: endpoint.segments vary ∨
      endpoint.segments vary = [[], "auth".toList, "logout".toList] := by
  cases endpoint with
  | health | login | register | refresh => cases needs
  | logout => exact .inr rfl
  | _ => exact .inl ⟨_, rfl⟩

/-- What is exempt by default is not for an endpoint that needs a caller. -/
theorem Endpoint.needsCaller_eq_false_of_exempt {settings : AuthSettings}
    (default : settings.exemptPaths = AuthSettings.defaultExemptPaths)
    (exempt : settings.isExempt request.path = true)
    (found : Route.find? request.method request.path = some (endpoint, vary)) :
    endpoint.needsCaller = false := by
  obtain ⟨path, hpath, covered⟩ := AuthSettings.isExempt_iff.mp exempt
  rw [default] at hpath
  rw [(Request.asks_of_find? found).2] at covered
  by_contra needs
  rcases segments_of_needsCaller (Bool.of_not_eq_false needs) vary with api | logout
  · have hlong : ∀ path ∈ AuthSettings.defaultExemptPaths,
        2 ≤ (SessionAuth.segments path).length := by
      decide
    have hapart : ∀ path ∈ AuthSettings.defaultExemptPaths,
        ¬[[], "api".toList] <+: SessionAuth.segments path := by
      decide
    exact hapart path hpath (List.prefix_of_prefix_length_le api covered (hlong path hpath))
  · have hapart : ∀ path ∈ AuthSettings.defaultExemptPaths,
        ¬SessionAuth.segments path <+: [[], "auth".toList, "logout".toList] := by
      decide
    exact hapart path hpath (logout ▸ covered)

/-! ## The whole application -/

/-- Why a request for an endpoint that needs a caller does not reach it. -/
inductive App.Refused (occasion : Occasion) (request : Request) (backend : Backend)
    (store : Store) : App → AuthError → Prop
  | bare (service : Service) : Refused occasion request backend store (.bare service) .noCaller
  | noService : Refused occasion request backend store (.gated none) .noService
  | exempt {service : Service}
      (exempt : (service.gate.authorize occasion.now
        (request.toGate service.settings.csrfHeader)).run.run backend store =
          some (.ok .exempt, store)) :
      Refused occasion request backend store (.gated (some service)) .noCaller
  | denied {service : Service} {e : AuthError}
      (denied : (service.gate.authorize occasion.now
        (request.toGate service.settings.csrfHeader)).run.run backend store =
          some (.error e, store)) :
      Refused occasion request backend store (.gated (some service)) e

/-- The status of an error is that of a failure. -/
theorem AuthError.le_status (e : AuthError) : 400 ≤ e.status := by
  unfold status
  cases e.kind <;> decide

/-- A request that does not reach its endpoint is answered by an error, and changes nothing. -/
theorem App.Refused.run_handle {app : App} {e : AuthError}
    (refused : app.Refused occasion request backend store e)
    (found : Route.find? request.method request.path = some (endpoint, vary))
    (needs : endpoint.needsCaller = true) :
    (app.handle occasion request).run backend store = some (e.response, store) := by
  cases refused with
  | bare service =>
    rw [App.run_handle, App.action, Service.dispatch_of_find? _ found, Service.answer_none needs]
    rfl
  | noService => rfl
  | exempt exempt =>
    rw [App.run_handle, App.action, Service.gated_of_needsCaller found needs, Action.run_bind,
      exempt]
    rfl
  | denied denied => exact App.run_handle_of_denied denied

/-- Nobody gets around the gate. Whatever the application is like, a request for an endpoint that
needs a caller is either let pass by the gate, and is then answered by the endpoint with what the
gate established, or it is answered by an error and changes nothing. With the exempt paths that
are the default, what the gate lets pass as exempt is never for such an endpoint. -/
theorem App.mediates (app : App) (backend : Backend) (store : Store) (occasion : Occasion)
    (request : Request) :
    (∀ (endpoint : Endpoint) (vary : List Segment),
      Route.find? request.method request.path = some (endpoint, vary) →
      endpoint.needsCaller = true →
      (∃ service caller, app = .gated (some service) ∧
        (service.gate.authorize occasion.now
          (request.toGate service.settings.csrfHeader)).run.run backend store =
            some (.ok (.allowed caller), store) ∧
        (app.handle occasion request).run backend store =
          ((service.answer occasion request (some caller) endpoint vary).run.run backend store).map
            fun (result, after) => (.ofResult result, after)) ∨
      ∃ e, app.Refused occasion request backend store e ∧ 400 ≤ e.response.status ∧
        (app.handle occasion request).run backend store = some (e.response, store)) ∧
    ∀ (service : Service) (after : Store),
      service.settings.exemptPaths = AuthSettings.defaultExemptPaths →
      (service.gate.authorize occasion.now
        (request.toGate service.settings.csrfHeader)).run.run backend store =
          some (.ok .exempt, after) →
      ∀ (endpoint : Endpoint) (vary : List Segment),
        Route.find? request.method request.path = some (endpoint, vary) →
        endpoint ∈ [.health, .login, .register, .refresh] := by
  refine ⟨?_, ?_⟩
  · intro endpoint vary found needs
    have answered {e : AuthError} (refused : app.Refused occasion request backend store e) :
        ∃ e, app.Refused occasion request backend store e ∧ 400 ≤ e.response.status ∧
          (app.handle occasion request).run backend store = some (e.response, store) :=
      ⟨e, refused, e.le_status, refused.run_handle found needs⟩
    match app with
    | .bare service => exact .inr (answered (.bare service))
    | .gated none => exact .inr (answered .noService)
    | .gated (some service) =>
      obtain ⟨outcome, hrun, -⟩ := Gate.run_authorize service.gate store occasion.now
        (request.toGate service.settings.csrfHeader) backend none
      change (service.gate.authorize _ _).run.run backend store = _ at hrun
      match outcome with
      | .error e => exact .inr (answered (.denied hrun))
      | .ok .exempt => exact .inr (answered (.exempt hrun))
      | .ok (.allowed caller) =>
        refine .inl ⟨service, caller, rfl, hrun, ?_⟩
        rw [run_handle, action, Service.gated_of_needsCaller found needs, Action.run_bind, hrun]
        rfl
  · intro service after default hexempt endpoint vary found
    have exempt := Gate.isExempt_of_decision (Gate.decision_of_run_authorize hexempt)
    have free := Endpoint.needsCaller_eq_false_of_exempt default exempt found
    cases endpoint with
    | health | login | register | refresh => simp
    | _ => cases free

end Requests

namespace AdminRequest

theorem allowed_of_working {gate : Gate} {issued : IssuedToken}
    (h : TokenIssuer.echo.issueAccess now .nil 7 [.admin, .user] = .ok issued)
    {request : GateRequest} {source : CredentialSource}
    (working : Working gate store now request issued.token ⟨issued.claims, account, source⟩)
    (notExempt : gate.settings.isExempt request.path = false)
    (permitted :
      Gate.checkRoles gate.policy request.path request.method [.admin, .user] = .ok ()) :
    (gate.authorize now request).run.run .healthy store =
      some (.ok (.allowed ⟨issued.claims, account, source⟩), store) := by
  refine Gate.run_authorize_of_working working notExempt ?_
  rw [effectiveRoles_get h]
  exact permitted

theorem allowed_of_bearer (gate : Gate) (issuer : gate.issuer = .echo) {issued : IssuedToken}
    (h : TokenIssuer.echo.issueAccess now .nil 7 [.admin, .user] = .ok issued) {request : Request}
    (header : request.rawHeader? "Authorization" = some ("Bearer " ++ issued.token))
    (csrfHeader : String) (notExempt : gate.settings.isExempt request.path = false)
    (permitted :
      Gate.checkRoles gate.policy request.path request.method [.admin, .user] = .ok ()) :
    (gate.authorize now (request.toGate csrfHeader)).run.run .healthy store =
      some (.ok (.allowed ⟨issued.claims, account, .header⟩), store) :=
  allowed_of_working h (working_of_bearer gate issuer h header csrfHeader) notExempt permitted

theorem allowed_get (gate : Gate) (issuer : gate.issuer = .echo) {issued : IssuedToken}
    (h : TokenIssuer.echo.issueAccess now .nil 7 [.admin, .user] = .ok issued)
    {target path : String} (csrfHeader : String) (hpath : (get target issued.token).path = path)
    (notExempt : gate.settings.isExempt path = false)
    (permitted : Gate.checkRoles gate.policy path "GET" [.admin, .user] = .ok ()) :
    (gate.authorize now ((get target issued.token).toGate csrfHeader)).run.run .healthy store =
      some (.ok (.allowed ⟨issued.claims, account, .header⟩), store) := by
  subst hpath
  exact allowed_of_bearer gate issuer h (rawHeader?_get target issued.token) csrfHeader notExempt
    permitted

end AdminRequest

namespace LoginRequest

open AdminRequest (account get)

/-- The page of the caller is shown behind the gate with a token, and not without a gate. The
gate lets a login pass as exempt, which leads to its own endpoint. -/
theorem mediates_me_and_login : ∃ (token : String) (e : AuthError),
    ((App.gated (some service)).handle occasion (get "/api/users/me" token)).run .healthy
      AdminRequest.store = some (.json 200 account.toJson, AdminRequest.store) ∧
    400 ≤ e.response.status ∧
    ((App.bare service).handle occasion (get "/api/users/me" token)).run .healthy
      AdminRequest.store = some (e.response, AdminRequest.store) ∧
    ∃ endpoint, Route.find? request.method request.path = some (endpoint, []) ∧
      endpoint ∈ [.health, .login, .register, .refresh] := by
  obtain ⟨issued, hissued⟩ : ∃ issued,
      TokenIssuer.echo.issueAccess AdminRequest.now .nil 7 [.admin, .user] = .ok issued :=
    ⟨_, rfl⟩
  have hpath : (get "/api/users/me" issued.token).path = "/api/users/me" := by
    change Percent.decodePath (String.ofList ("/api/users/me".toList.takeWhile _)) = _
    decide +kernel
  have hfound : Route.find? (get "/api/users/me" issued.token).method
      (get "/api/users/me" issued.token).path = some (.me, []) := by
    change Route.find? "GET" _ = _
    rw [hpath]
    decide +kernel
  have hallowed := AdminRequest.allowed_get service.gate rfl hissued service.settings.csrfHeader
    hpath (by decide +kernel) (by decide +kernel)
  have hlogin : Route.find? request.method request.path = some (.login, []) := by decide +kernel
  have hexempt : (service.gate.authorize occasion.now
      (request.toGate service.settings.csrfHeader)).run.run .healthy AdminRequest.store =
        some (.ok .exempt, AdminRequest.store) := by
    have hcovered : service.settings.isExempt request.path = true := by decide +kernel
    rw [Gate.run_authorize_healthy, Gate.decision]
    change some (if service.settings.isExempt request.path then _ else _, _) = _
    rw [hcovered]
    rfl
  have hshown : ((App.gated (some service)).handle occasion
      (get "/api/users/me" issued.token)).run .healthy AdminRequest.store =
        some (.json 200 account.toJson, AdminRequest.store) := by
    rcases (App.mediates (.gated (some service)) .healthy AdminRequest.store occasion _).1 .me []
      hfound rfl with ⟨other, caller, happ, hcaller, hanswer⟩ | ⟨e, refused, -⟩
    · obtain rfl : service = other := Option.some.inj (App.gated.inj happ)
      have hsame := Option.some.inj (hcaller.symm.trans hallowed)
      obtain rfl : caller = ⟨issued.claims, account, .header⟩ :=
        GateOutcome.allowed.inj (Except.ok.inj (Prod.mk.inj hsame).1)
      exact hanswer
    -- The gate lets the request pass, so it is not refused.
    · cases refused with
      | exempt exempt => cases hallowed.symm.trans exempt
      | denied denied => cases hallowed.symm.trans denied
  rcases (App.mediates (.bare service) .healthy AdminRequest.store occasion _).1 .me [] hfound rfl
    with ⟨other, caller, happ, -⟩ | ⟨e, -, hstatus, hrefused⟩
  · cases happ
  · exact ⟨issued.token, e, hshown, hstatus, hrefused, .login, hlogin,
      (App.mediates (.gated (some service)) .healthy AdminRequest.store occasion request).2 service
        _ rfl hexempt .login [] hlogin⟩

end LoginRequest

end SessionAuth
