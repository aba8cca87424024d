import SessionAuth.Proofs.Csrf
import SessionAuth.Proofs.Http.Mediation
import SessionAuth.Proofs.Outcome

/-!
# Forged requests

Another site can make a browser send a request with its cookies, but it can neither read these
nor add a header. So a request that is authorised by its cookies must repeat the code that goes
with the access cookie, unless its method is a safe one. The endpoints that have a safe method
only ask the store for what it keeps. So whatever a request without a bearer token changes, and
whatever it is answered as done, it has shown to come from a page of this site.

## Main definitions

* `Request.Vouched` — a request repeats the code that goes with its access cookie

## Main results

* `App.reads_handle` — a request with a safe method only reads
* `App.unforged` — a request that is authorised by its cookies is vouched for, or does nothing
-/

namespace SessionAuth

/-! ## Endpoints with a safe method -/

namespace Service

variable {service : Service} {occasion : Occasion} {request : Request}

theorem reads_health (now : Instant) : (health now).Uses StoreCall.IsRead :=
  (Action.uses_attempt fun _ => rfl).bind fun _ => Action.uses_pure _

/-- What has a safe method reports on the service or shows the caller, or records. -/
theorem reads_answer {established : Option Caller} {endpoint : Endpoint} {vary : List Segment}
    (safe : endpoint.method ∈ safeMethods) :
    (service.answer occasion request established endpoint vary).Uses StoreCall.IsRead := by
  cases endpoint with
  | health => exact reads_health _
  | me => exact uses_withCaller fun _ => Action.uses_pure _
  | listTokens =>
    exact uses_withCaller fun caller =>
      (Action.uses_ask fun _ => rfl).bind fun _ => Action.uses_pure _
  | readToken =>
    refine uses_withCaller fun caller => uses_withSegment fun id => ?_
    exact (reads_visibleToken caller id).bind fun _ => Action.uses_pure _
  | login | register | refresh | logout | updateStatus | updateRole | createToken | revokeToken =>
    exact absurd safe (by decide)

theorem reads_dispatch (safe : request.method ∈ safeMethods) (established : Option Caller) :
    (service.dispatch occasion request established).Uses StoreCall.IsRead := by
  unfold dispatch
  split
  · next endpoint vary found =>
    exact reads_answer ((Request.asks_of_find? found).1 ▸ safe)
  · exact Action.uses_pure _

end Service

namespace App

variable {occasion : Occasion} {request : Request}

/-- A request with a safe method only reads, behind the gate or without one. -/
theorem reads_handle (app : App) (safe : request.method ∈ safeMethods) :
    (app.handle occasion request).Uses StoreCall.IsRead := by
  have reads_action : (app.action occasion request).Uses StoreCall.IsRead := by
    match app with
    | .bare service => exact Service.reads_dispatch safe none
    | .gated none => exact Action.uses_throw _
    | .gated (some service) =>
      refine Action.Uses.bind Gate.cautious_authorize.uses fun outcome => ?_
      cases outcome <;> exact Service.reads_dispatch safe _
  refine Program.Uses.bind reads_action fun result => ?_
  cases result <;> exact .done _

end App

/-! ## Requests authorised by cookies -/

/-- A request repeats the code that goes with its access cookie, and has the cookie in which the
code is handed out. -/
def Request.Vouched (request : Request) (settings : AuthSettings) : Prop :=
  ∃ access cookie header code,
    request.cookie? SessionCookies.accessName = some access ∧ access ≠ "" ∧
    request.cookie? SessionCookies.csrfName = some cookie ∧ cookie ≠ "" ∧
    request.header? settings.csrfHeader = some header ∧
    Hmac.sha256 (Utf8.ofString settings.csrfSecret) (Utf8.ofString access) = .ok code ∧
    Hex.decode? header.toList = some code

/-- A caller with a credential that works, and no bearer token, is vouched for where the method
may change something. -/
theorem Working.vouched {service : Service} {store : Store} {now : Instant} {request : Request}
    {token : String} {caller : Caller}
    (working : Working service.gate store now (request.toGate service.settings.csrfHeader) token
      caller)
    (noBearer : ∀ bearer, request.bearer? = some bearer → bearer = "")
    (unsafeMethod : request.method ∉ safeMethods) : request.Vouched service.settings := by
  have carries := working.carries
  cases hsource : caller.source with
  | header =>
    rw [hsource] at carries
    cases carries with
    | header bearer nonempty => exact absurd (noBearer _ bearer) nonempty
  | cookie =>
    rw [hsource] at carries
    cases carries with
    | cookie _ access nonempty =>
      obtain ⟨cookie, header, code, hcookie, filled, hheader, coded, digits⟩ :=
        CsrfGuard.of_verify (working.unforged hsource unsafeMethod)
      exact ⟨token, cookie, header, code, access, nonempty, hcookie, filled, hheader, coded, digits⟩

/-- A request that is authorised by its cookies is vouched for, or does nothing. Whatever the
store is like, a request that is not exempt and has no bearer token, or an empty one, changes the
store or is answered as done by an unsafe method only if it repeats the code that goes with its
access cookie. And a request with a safe method, exempt or not and with whatever credential,
ends on a store that answers and changes nothing on any. -/
theorem App.unforged (app : App) (occasion : Occasion) (request : Request) (store : Store) :
    (∀ (behind : Option Service) (backend : Backend) (response : Response) (after : Store),
      app = .gated behind →
      (∀ service ∈ behind, service.settings.isExempt request.path = false) →
      (∀ bearer, request.bearer? = some bearer → bearer = "") →
      (app.handle occasion request).run backend store = some (response, after) →
      after ≠ store ∨
        request.method ∉ safeMethods ∧ 200 ≤ response.status ∧ response.status < 300 →
      ∃ service ∈ behind, request.Vouched service.settings) ∧
    (request.method ∈ safeMethods →
      (∃ response, (app.handle occasion request).run .healthy store = some (response, store)) ∧
      ∀ (backend : Backend) (response : Response) (after : Store),
        (app.handle occasion request).run backend store = some (response, after) →
        after = store) := by
  refine ⟨?_, ?_⟩
  · rintro behind backend response after rfl notExempt noBearer ends acts
    -- With a safe method nothing would have changed.
    have unsafeMethod : request.method ∉ safeMethods := by
      rcases acts with changed | ⟨unsafeMethod, -⟩
      · exact fun safe => changed ((reads_handle _ safe).run_eq ends)
      · exact unsafeMethod
    have failed {e : AuthError} (h : some (e.response, store) = some (response, after)) :
        False := by
      cases h
      rcases acts with changed | ⟨-, -, done⟩
      · exact changed rfl
      · exact absurd e.le_status (Nat.not_le_of_lt (Nat.lt_trans done (by decide)))
    match behind with
    | none => exact (failed ends).elim
    | some service =>
      obtain ⟨outcome, hrun, -⟩ := Gate.run_authorize service.gate store occasion.now
        (request.toGate service.settings.csrfHeader) backend none
      change (service.gate.authorize _ _).run.run backend store = _ at hrun
      match outcome with
      | .error e =>
        rw [run_handle_of_denied hrun] at ends
        exact (failed ends).elim
      | .ok .exempt =>
        have exempt : service.settings.isExempt request.path = true :=
          Gate.isExempt_of_decision (Gate.decision_of_run_authorize hrun)
        rw [notExempt service rfl] at exempt
        cases exempt
      | .ok (.allowed caller) =>
        obtain ⟨token, working⟩ := Gate.working_of_verdict
          (Gate.verdict_of_decision (Gate.decision_of_run_authorize hrun))
        exact ⟨service, rfl, working.vouched noBearer unsafeMethod⟩
  · intro safe
    have keeps {backend : Backend} {response : Response} {after : Store}
        (ends : (app.handle occasion request).run backend store = some (response, after)) :
        after = store :=
      (reads_handle app safe).run_eq ends
    refine ⟨?_, fun _ _ _ => keeps⟩
    have ends := Program.run_healthy (app.handle occasion request) store
    exact ⟨_, ends.trans (congrArg some (Prod.ext rfl (keeps ends)))⟩

namespace AdminRequest

/-- Something is asked for over HTTP with cookies and a code. The scheme in lower case announces
no bearer token. -/
def post (target token code : String) : Request where
  method := "POST"
  target := target
  headers := [("Authorization", "bearer token"),
    ("Cookie", "csrf_token=x;access_token=" ++ token), ("X-CSRF-Token", code)]
  body := ""

variable (target : String) {issued : IssuedToken}

theorem bearer?_post (target token code : String) : (post target token code).bearer? = none := by
  have header : (post target token code).header? "Authorization" = some "bearer token" := by
    simp [post, Request.header?, Request.rawHeader?]
    decide
  rw [Request.bearer?, header]
  decide

theorem cookies_post (h : TokenIssuer.echo.issueAccess now .nil 7 [.admin, .user] = .ok issued)
    (code : String) : (post target issued.token code).cookies =
      [("csrf_token".toList, ['x']), ("access_token".toList, issued.token.toList)] := by
  have other : Request.lowerName "Authorization" ≠ Request.lowerName "Cookie" := by decide
  have header : (post target issued.token code).rawHeader? "Cookie" =
      some ("csrf_token=x;access_token=" ++ issued.token) := by
    simp [post, Request.rawHeader?, other]
  -- Which characters are plain is computed along each text.
  have csrf : ("csrf_token".toList ≠ [] ∧ '=' ∉ "csrf_token".toList) ∧
      "csrf_token".toList.all Request.isPlain = true ∧ ['x'].all Request.isPlain = true := by
    decide
  have access : ("access_token".toList ≠ [] ∧ '=' ∉ "access_token".toList) ∧
      "access_token".toList.all Request.isPlain = true := by
    decide
  simp only [List.all_eq_true] at csrf access
  refine Request.cookies_eq (by simp) ?_ header ?_
  · intro cookie mem
    rcases List.mem_pair.mp mem with rfl | rfl
    · exact csrf
    · exact ⟨access.1, access.2, TokenIssuer.isPlain_of_sign (TokenIssuer.issue_eq_ok h).2⟩
  · rw [String.toList_append]
    rfl

/-- The digits of a code may stand in a header. -/
theorem header?_post {access code : String}
    (handed : service.gate.guard.tokenFor access = .ok code) :
    (post target issued.token code).header? "X-CSRF-Token" = some code := by
  have digits : ∀ n < 16, Request.isVisible (Hex.digit n) = true := by decide
  have visible : code.toList.all Request.isVisible = true := by
    obtain ⟨bytes, -, rfl⟩ := CsrfGuard.tokenFor_eq_ok_iff.mp handed
    rw [List.all_eq_true, String.toList_ofList]
    intro c mem
    obtain ⟨b, -, hdigit⟩ := List.mem_flatMap.mp mem
    have hbyte : b.toNat < 256 := b.toNat_lt
    rcases List.mem_pair.mp hdigit with rfl | rfl
    · exact digits _ (by omega)
    · exact digits _ (by omega)
  have other : Request.lowerName "Authorization" ≠ Request.lowerName "X-CSRF-Token" ∧
      Request.lowerName "Cookie" ≠ Request.lowerName "X-CSRF-Token" := by
    decide
  have header : (post target issued.token code).rawHeader? "X-CSRF-Token" = some code := by
    simp [post, Request.rawHeader?, other]
  rw [Request.header?, header, Option.filter_some, if_pos visible]

/-- The access token works in its cookie with the code that goes with it. -/
theorem working_post (h : TokenIssuer.echo.issueAccess now .nil 7 [.admin, .user] = .ok issued)
    {code : String} (handed : service.gate.guard.tokenFor issued.token = .ok code) :
    Working service.gate store now ((post target issued.token code).toGate "X-CSRF-Token")
      issued.token ⟨issued.claims, account, .cookie⟩ := by
  have hcookies := cookies_post target h code
  have access : (post target issued.token code).cookie? SessionCookies.accessName =
      some issued.token := by
    rw [Request.cookie?, hcookies, List.find?_cons_of_neg (by decide)]
    exact congrArg some String.ofList_toList
  have csrf : (post target issued.token code).cookie? SessionCookies.csrfName = some "x" := by
    rw [Request.cookie?, hcookies, List.find?_cons_of_pos (by decide)]
    rfl
  have carries : ((post target issued.token code).toGate "X-CSRF-Token").Carries issued.token
      .cookie := by
    refine .cookie ?_ access (TokenIssuer.ne_empty_of_sign (TokenIssuer.issue_eq_ok h).2)
    change (post target _ _).bearer?.getD "" = ""
    rw [bearer?_post]
    rfl
  refine ⟨⟨standing_of_carries _ rfl h carries, fun _ _ => ?_⟩, by simp [kind_of_issueAccess h]⟩
  change service.gate.guard.verify issued.token ((post target _ _).cookie? _)
    ((post target _ _).header? _) = _
  rw [csrf, header?_post target handed]
  exact CsrfGuard.verify_of_tokenFor (by decide) handed

/-- A logout with cookies alone is done since it repeats the code that goes with its access
cookie. To ask for the personal tokens changes nothing. -/
theorem unforged_logout : ∃ (token code : String) (response : Response) (after : Store),
    ((App.gated (some service)).handle occasion (post "/auth/logout" token code)).run .healthy
      store = some (response, after) ∧ response.status = 204 ∧ after ≠ store ∧
    (∃ found ∈ some service, (post "/auth/logout" token code).Vouched found.settings) ∧
    ∃ response, ((App.gated (some service)).handle occasion (get "/api/tokens" token)).run .healthy
      store = some (response, store) := by
  obtain ⟨issued, hissued⟩ : ∃ issued,
      TokenIssuer.echo.issueAccess now .nil 7 [.admin, .user] = .ok issued := ⟨_, rfl⟩
  have hpath (code : String) : (post "/auth/logout" issued.token code).path = "/auth/logout" := by
    change Percent.decodePath (String.ofList ("/auth/logout".toList.takeWhile _)) = _
    decide +kernel
  have hfound (code : String) : Route.find? (post "/auth/logout" issued.token code).method
      (post "/auth/logout" issued.token code).path = some (.logout, []) := by
    change Route.find? "POST" _ = _
    rw [hpath]
    decide +kernel
  have permitted (code : String) : Gate.checkRoles service.gate.policy
      (post "/auth/logout" issued.token code).path "POST" [.admin, .user] = .ok () := by
    rw [hpath]
    decide +kernel
  obtain ⟨code, handed⟩ := service.gate.guard.exists_tokenFor issued.token
  have hallowed : (service.gate.authorize occasion.now
      ((post "/auth/logout" issued.token code).toGate service.settings.csrfHeader)).run.run .healthy
        store = _ :=
    allowed_of_working hissued (working_post _ hissued handed) rfl (permitted _)
  have ends : ((App.gated (some service)).handle occasion
      (post "/auth/logout" issued.token code)).run .healthy store =
        some (⟨204, none, service.cookies.cleared⟩,
          (store.respond (.recordLogout 7 now)).2) := by
    rw [App.run_handle, App.action, Service.gated_of_needsCaller (hfound _) rfl, Action.run_bind]
    rw [hallowed]
    rfl
  have changed : (store.respond (.recordLogout 7 now)).2 ≠ store := by
    intro same
    have hlast := congrArg (fun store => store.accounts.map (·.lastLogout)) same
    revert hlast
    decide
  refine ⟨issued.token, _, _, _, ends, rfl, changed, ?_, ?_⟩
  · refine (App.unforged _ occasion _ store).1 _ .healthy _ _ rfl ?_ ?_ ends (.inl changed)
    · rintro found ⟨⟩
      rfl
    · intro bearer hbearer
      rw [bearer?_post] at hbearer
      cases hbearer
  · have safe : (get "/api/tokens" issued.token).method ∈ safeMethods := List.mem_cons_self
    exact ((App.unforged _ occasion (get "/api/tokens" issued.token) store).2 safe).1

end AdminRequest

end SessionAuth
