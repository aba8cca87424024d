import SessionAuth.Proofs.Atomicity
import SessionAuth.Proofs.Demand
import SessionAuth.Proofs.Http.Endpoint
import SessionAuth.Proofs.Token.Acceptance

/-!
# What a call hands out

The tokens of a response stand in its body and in its cookies. Which tokens a call hands out can be
said by what it was answered on the way: those of a session for an account that the store answered
and that keeps the session, a personal token for a caller whose credential is accepted, or none at
all. Nothing is assumed of the answers, so that this holds however the operations of other calls
fall in between.

The same way the gate lets a caller pass by the account that the look-up answered.

## Main definitions

* `Response.tokens` — the tokens that a response hands out
* `Service.Hands` — what a response hands out, by the history of its call
* `Gate.LetsPass` — the gate lets a caller pass, by the history of its examination
* `App.Offers` — the ways in which a service may be put up

## Main results

* `Gate.yields_authorize` — whom the gate lets pass
* `App.heeds_handle_of_dispatch` — a request asks for what its endpoint asks for behind the gate
* `App.yields_handle` — what a request is answered hands out only what its call is entitled to
-/

namespace SessionAuth

open Json (Value Literal)

/-! ## What a response hands out -/

namespace Json.Value

mutual

/-- The texts that stand under one of some names anywhere in a value. -/
def textsUnder (names : List String) : Value → List String
  | .array items => textsOfItems names items
  | .object members => textsOfMembers names members
  | _ => []

/-- The texts that stand under one of some names in the items of an array. -/
def textsOfItems (names : List String) : List Value → List String
  | [] => []
  | item :: rest => textsUnder names item ++ textsOfItems names rest

/-- The texts that stand under one of some names in the members of an object. -/
def textsOfMembers (names : List String) : List (Literal × Value) → List String
  | [] => []
  | (name, value) :: rest =>
    (if name ∈ names.map Literal.text then value.text?.toList else textsUnder names value) ++
      textsOfMembers names rest

end

end Json.Value

namespace Response

/-- The names under which a body hands out tokens. -/
def tokenNames : List String := ["access_token", "refresh_token", "token"]

/-- The tokens that a response hands out, in its body or in the cookies of a session. -/
def tokens (response : Response) : List String :=
  (response.body.map (Value.textsUnder tokenNames)).getD [] ++
    (response.cookies.filter fun cookie =>
      cookie.name ∈ [SessionCookies.accessName, SessionCookies.refreshName] ∧
        cookie.value ≠ "").map (·.value)

theorem tokens_empty (status : Nat) : (empty status).tokens = [] := rfl

theorem tokens_error (e : AuthError) : e.response.tokens = [] := rfl

theorem tokens_account (status : Nat) (account : Account) :
    (json status account.toJson).tokens = [] := by
  obtain ⟨_, _, _, _, _, _, _, _, lastLogin, lastLogout, lastRefresh, _⟩ := account
  cases lastLogin <;> cases lastLogout <;> cases lastRefresh <;> rfl

theorem tokens_record (status : Nat) (record : PersonalToken) :
    (json status record.toJson).tokens = [] := rfl

theorem tokens_records (status : Nat) (records : List PersonalToken) :
    (json status (.array (records.map PersonalToken.toJson))).tokens = [] := by
  induction records with
  | nil => rfl
  | cons record records ih => exact ih

theorem tokens_created (status : Nat) (created : CreatedToken) :
    (json status created.toJson).tokens = [created.token] := rfl

theorem tokens_cleared (status : Nat) (cookies : SessionCookies) :
    (⟨status, none, cookies.cleared⟩ : Response).tokens = [] := rfl

/-- The cookie that guards against forged requests holds no token. -/
theorem mem_tokens_grant {service : Service} {now : Instant} {status : Nat} {userId : Int32}
    {granted : SessionTokens} {response : Response} {text : String}
    (h : service.grant now status userId granted = .ok response) :
    text ∈ response.tokens ↔ text = granted.access.token ∨ text = granted.refresh.token := by
  obtain ⟨csrf, -, rfl⟩ := Service.grant_eq_ok_iff.mp h
  have body : Value.textsUnder tokenNames
      (SessionGrant.toJson ⟨granted.access.token, granted.refresh.token, userId⟩) =
        [granted.access.token, granted.refresh.token] := rfl
  rw [tokens, Option.map_some, Option.getD_some, body, List.mem_append]
  constructor
  · rintro (inBody | inCookies)
    · simpa using inBody
    · obtain ⟨cookie, hcookie, rfl⟩ := List.mem_map.mp inCookies
      obtain ⟨hmem, hname⟩ := List.mem_filter.mp hcookie
      simp only [SessionCookies.build, List.mem_cons, List.not_mem_nil, or_false] at hmem
      rcases hmem with rfl | rfl | rfl
      · exact .inl rfl
      · exact .inr rfl
      · simp [SessionCookies.csrfName, SessionCookies.accessName, SessionCookies.refreshName]
          at hname
  · intro either
    exact .inl (by simpa using either)

end Response

/-! ## The history of a call -/

/-- The account that an operation was answered. -/
def Answered.account? : Answered → Option Account
  | ⟨.findAccount _, .ok account?⟩ => account?
  | ⟨.findByEmail _, .ok account?⟩ => account?
  | ⟨.createAccount _ _, .ok account⟩ => some account
  | _ => none

/-- What is answered is stored behind the operation. -/
theorem Store.mem_accounts_of_account? {store : Store} {op : StoreCall} {account : Account}
    (loads : Answered.account? ⟨op, (store.respond op).1⟩ = some account) :
    account ∈ (store.respond op).2.accounts := by
  cases op with
  | findAccount id => exact List.mem_of_find?_eq_some loads
  | findByEmail email => exact List.mem_of_find?_eq_some loads
  | createAccount new now =>
    rw [respond_createAccount] at loads ⊢
    split at loads
    · cases loads
    · next free =>
      obtain rfl := Option.some.inj loads
      rw [if_neg free]
      exact List.mem_append_right _ List.mem_cons_self
  | ping | recordLogin | swapRefreshHash | recordLogout | updateStatus | updateRole
  | insertToken | findToken | tokensOf | findActiveToken | revokeToken => cases loads

namespace Action

variable {α β : Type} {past : List Answered}

/-- What follows an action may ignore its result. -/
theorem yields_any_bind {action : Action α} {f : α → Action β} {post : List Answered → β → Prop}
    (rest : ∀ past a, (f a).Yields post past) : (action >>= f).Yields post past := by
  have anything : action.Yields (fun _ _ => True) past :=
    yields_of_forall (fun _ _ => trivial) action past
  exact anything.bind fun past a _ => rest past a

end Action

namespace Sessions

variable {sessions : Sessions} {occasion : Occasion} {past : List Answered}

theorem yields_login (account : Account) :
    (sessions.login occasion account).Yields (fun later tokens => ∃ hash commit,
      later = past ++ [commit] ∧ commit.change? account.id = some (.granted hash) ∧
        sessions.Grants occasion account tokens hash) past := by
  unfold login
  refine Action.yields_lift_bind fun tokens issued => ?_
  refine Action.yields_lift_bind fun hash hashed => ?_
  refine Action.yields_ask_bind fun _ => Action.yields_pure ?_
  exact ⟨hash, _, rfl, Answered.change?_recordLogin, issued, hashed⟩

theorem yields_refresh (account : Account) (presented : String) :
    (sessions.refresh occasion account presented).Yields (fun later tokens => ∃ hash commit,
      later = past ++ [commit] ∧ commit.change? account.id = some (.granted hash) ∧
        sessions.Grants occasion account tokens hash) past := by
  unfold refresh
  refine Action.yields_ofExcept_bind fun stored _ => ?_
  split
  · exact Action.yields_throw
  refine Action.yields_lift_bind fun tokens issued => ?_
  refine Action.yields_lift_bind fun hash hashed => ?_
  refine Action.yields_ask_bind fun swapped => ?_
  cases swapped with
  | false => exact Action.yields_throw
  | true =>
    exact Action.yields_pure ⟨hash, _, rfl, Answered.change?_swapRefreshHash, issued, hashed⟩

theorem yields_authenticate (email password : String) :
    (sessions.authenticate email password).Yields (fun later account => ∃ load,
      later = past ++ [load] ∧ load.account? = some account) past := by
  unfold authenticate
  refine Action.yields_ask_bind fun found => ?_
  cases found with
  | none => exact Action.yields_throw
  | some account =>
    refine Action.yields_lift_bind fun belongs _ => ?_
    split
    · exact Action.yields_throw
    · exact Action.yields_ofExcept_bind fun _ _ => Action.yields_pure ⟨_, rfl, rfl⟩

theorem yields_exchange (presented : String) :
    (sessions.exchange occasion presented).Yields (fun later granted => ∃ hash load commit,
      later = past ++ [load, commit] ∧ load.account? = some granted.1 ∧
        commit.change? granted.1.id = some (.granted hash) ∧
        sessions.Grants occasion granted.1 granted.2 hash) past := by
  unfold exchange
  refine Action.yields_ofExcept_bind fun claims _ => ?_
  split
  · exact Action.yields_throw
  refine Action.yields_ask_bind fun found => ?_
  cases found with
  | none => exact Action.yields_throw
  | some account =>
    refine Action.yields_ofExcept_bind fun _ _ => ?_
    refine (yields_refresh account presented).bind ?_
    rintro _ tokens ⟨hash, commit, rfl, keeps, grants⟩
    exact Action.yields_pure ⟨hash, _, commit, List.append_assoc _ _ _, rfl, keeps, grants⟩

end Sessions

theorem PersonalTokens.yields_create {tokens : PersonalTokens} {occasion : Occasion}
    {past : List Answered} (caller : Claims) (name expiry : String) :
    (tokens.create occasion caller name expiry).Yields (fun later created =>
      ∃ before record issued, later = before ++ [⟨.insertToken record, .ok ()⟩] ∧
        tokens.Makes occasion caller name expiry record issued ∧
        created = ⟨record.view, issued.token⟩) past := by
  unfold create
  refine Action.yields_ask_bind fun taken => ?_
  split
  · exact Action.yields_throw
  refine Action.yields_ofExcept_bind fun expiresAt hexpiry => ?_
  by_cases expired : expiresAt ≤ occasion.now
  · rw [if_pos expired]
    exact Action.yields_throw
  · rw [if_neg expired]
    refine Action.yields_lift_bind fun issued signed => ?_
    refine Action.yields_lift_bind fun hash hashed => ?_
    refine Action.yields_ask_bind fun _ => Action.yields_pure ?_
    have makes : tokens.Makes occasion caller name expiry
        ⟨occasion.recordId, caller.subject, name, occasion.now, expiresAt, hash, false⟩ issued :=
      ⟨rfl, rfl, rfl, rfl, rfl, hexpiry, Instant.not_le.mp expired, signed, hashed⟩
    exact ⟨_, _, issued, rfl, makes, rfl⟩

/-! ## What a call hands out -/

/-- What a response hands out, by the history of its call: nothing, or the tokens of a session for
the account that the last operation but one answered, which the last one keeps, or a personal token
for a caller, whose record the last operation put in. -/
inductive Service.Hands (service : Service) (occasion : Occasion) (authorizes : Claims → Prop)
    (past : List Answered) (response : Response) : Prop
  | nothing (none : response.tokens = [])
  | session {before : List Answered} {load commit : Answered} {account : Account}
      {tokens : SessionTokens} {hash : String} {status : Nat}
      (history : past = before ++ [load, commit]) (loads : load.account? = some account)
      (keeps : commit.change? account.id = some (.granted hash))
      (grants : service.sessions.Grants occasion account tokens hash)
      (granted : service.grant occasion.now status account.id tokens = .ok response)
  | personal {before : List Answered} {record : PersonalToken} {issued : IssuedToken}
      {caller : Claims} {name expiry : String}
      (history : past = before ++ [⟨.insertToken record, .ok ()⟩])
      (authorized : authorizes caller)
      (makes : service.personalTokens.Makes occasion caller name expiry record issued)
      (created : response = .json 201 (CreatedToken.toJson ⟨record.view, issued.token⟩))

namespace Service

variable {service : Service} {occasion : Occasion} {request : Request} {past : List Answered}
  {authorizes : Claims → Prop} {established : Option Caller} {endpoint : Endpoint}
  {vary : List Segment} {caller : Caller}

theorem yields_withJson {α : Type} {read? : Value → Option α} {next : α → Action Response}
    (rest : ∀ a, (next a).Yields (service.Hands occasion authorizes) past) :
    (withJson request read? next).Yields (service.Hands occasion authorizes) past :=
  withJson_rule (P := (·.Yields (service.Hands occasion authorizes) past))
    (fun _ => Action.yields_pure (.nothing (Response.tokens_empty _))) fun a _ => rest a

theorem yields_withSegment {α : Type} {read? : List Char → Option α}
    {next : α → Action Response}
    (rest : ∀ a, (next a).Yields (service.Hands occasion authorizes) past) :
    (withSegment vary read? next).Yields (service.Hands occasion authorizes) past :=
  withSegment_rule (P := (·.Yields (service.Hands occasion authorizes) past))
    (Action.yields_pure (.nothing (Response.tokens_empty _))) fun _ a _ _ => rest a

theorem yields_withCaller {next : Caller → Action Response}
    (rest : ∀ caller, established = some caller →
      (next caller).Yields (service.Hands occasion authorizes) past) :
    (withCaller established next).Yields (service.Hands occasion authorizes) past :=
  withCaller_rule (P := (·.Yields (service.Hands occasion authorizes) past))
    (fun _ => Action.yields_throw) rest

theorem yields_health : (health occasion.now).Yields (service.Hands occasion authorizes) past :=
  Action.yields_any_bind fun _ _ => Action.yields_pure (.nothing rfl)

theorem yields_register (form : RegistrationForm) :
    (service.register occasion form).Yields (service.Hands occasion authorizes) past := by
  unfold register
  refine Action.yields_ofExcept_bind fun _ _ => ?_
  refine Action.yields_lift_bind fun hash _ => ?_
  -- The account that was put in is answered, so it counts as loaded.
  refine Action.yields_ask_bind fun account => ?_
  refine (Sessions.yields_login account).bind ?_
  rintro _ tokens ⟨hash, commit, rfl, keeps, grants⟩
  exact Action.yields_ofExcept fun _ => .session (List.append_assoc _ _ _) rfl keeps grants

theorem yields_login (form : LoginForm) :
    (service.login occasion form).Yields (service.Hands occasion authorizes) past := by
  unfold login
  refine Action.yields_ofExcept_bind fun _ _ => ?_
  refine (Sessions.yields_authenticate form.email form.password).bind ?_
  rintro _ account ⟨load, rfl, loads⟩
  refine (Sessions.yields_login account).bind ?_
  rintro _ tokens ⟨hash, commit, rfl, keeps, grants⟩
  exact Action.yields_ofExcept fun _ => .session (List.append_assoc _ _ _) loads keeps grants

theorem yields_refresh (request : Request) :
    (service.refresh occasion request).Yields (service.Hands occasion authorizes) past := by
  unfold refresh
  refine Action.yields_ofExcept_bind fun presented _ => ?_
  refine (Sessions.yields_exchange presented).bind ?_
  rintro _ ⟨account, tokens⟩ ⟨hash, load, commit, rfl, loads, keeps, grants⟩
  exact Action.yields_ofExcept fun _ => .session rfl loads keeps grants

theorem yields_logout (caller : Caller) :
    (service.logout occasion caller).Yields (service.Hands occasion authorizes) past :=
  Action.yields_any_bind fun _ _ =>
    Action.yields_pure (.nothing (Response.tokens_cleared _ _))

theorem yields_updateStatus (caller : Caller) (id : Int32) (change : StatusChange) :
    (updateStatus caller id change).Yields (service.Hands occasion authorizes) past := by
  unfold updateStatus
  refine Action.yields_ofExcept_bind fun _ _ => Action.yields_ask_bind fun target => ?_
  cases target with
  | none => exact Action.yields_throw
  | some target =>
    dsimp only
    split
    · exact Action.yields_throw
    · exact Action.yields_ask_bind fun account =>
        Action.yields_pure (.nothing (Response.tokens_account _ _))

theorem yields_updateRole (caller : Caller) (id : Int32) (change : RoleChange) :
    (updateRole caller id change).Yields (service.Hands occasion authorizes) past :=
  Action.yields_ofExcept_bind fun _ _ => Action.yields_ask_bind fun _ =>
    Action.yields_pure (.nothing (Response.tokens_account _ _))

theorem yields_createToken (authorized : authorizes caller.claims) (form : TokenForm) :
    (service.createToken occasion caller form).Yields (service.Hands occasion authorizes)
      past := by
  unfold createToken
  refine Action.yields_ofExcept_bind fun _ _ => ?_
  refine (PersonalTokens.yields_create caller.claims form.name form.expiry).bind ?_
  rintro _ created ⟨before, record, issued, rfl, makes, rfl⟩
  exact Action.yields_pure (.personal rfl authorized makes rfl)

theorem yields_listTokens (caller : Caller) :
    (service.listTokens caller).Yields (service.Hands occasion authorizes) past :=
  Action.yields_any_bind fun _ records =>
    Action.yields_pure (.nothing (Response.tokens_records _ records))

theorem yields_readToken (caller : Caller) (id : Uuid) :
    (service.readToken caller id).Yields (service.Hands occasion authorizes) past :=
  Action.yields_any_bind fun _ record =>
    Action.yields_pure (.nothing (Response.tokens_record _ record))

theorem yields_revokeToken (caller : Caller) (id : Uuid) :
    (service.revokeToken caller id).Yields (service.Hands occasion authorizes) past :=
  Action.yields_any_bind fun _ _ => Action.yields_any_bind fun _ _ =>
    Action.yields_pure (.nothing (Response.tokens_empty _))

/-- What an endpoint hands out, whoever the caller is. -/
theorem yields_answer
    (authorized : ∀ caller, established = some caller → authorizes caller.claims) :
    (service.answer occasion request established endpoint vary).Yields
      (service.Hands occasion authorizes) past := by
  cases endpoint with
  | health => exact yields_health
  | login => exact yields_withJson yields_login
  | register => exact yields_withJson yields_register
  | refresh => exact yields_refresh request
  | logout => exact yields_withCaller fun caller _ => yields_logout caller
  | me =>
    exact yields_withCaller fun caller _ =>
      Action.yields_pure (.nothing (Response.tokens_account _ _))
  | updateStatus =>
    exact yields_withCaller fun caller _ => yields_withSegment fun id =>
      yields_withJson (yields_updateStatus caller id)
  | updateRole =>
    exact yields_withCaller fun caller _ => yields_withSegment fun id =>
      yields_withJson (yields_updateRole caller id)
  | createToken =>
    exact yields_withCaller fun caller same =>
      yields_withJson (yields_createToken (authorized caller same))
  | listTokens => exact yields_withCaller fun caller _ => yields_listTokens caller
  | readToken =>
    exact yields_withCaller fun caller _ => yields_withSegment (yields_readToken caller)
  | revokeToken =>
    exact yields_withCaller fun caller _ => yields_withSegment (yields_revokeToken caller)

theorem yields_dispatch
    (authorized : ∀ caller, established = some caller → authorizes caller.claims) :
    (service.dispatch occasion request established).Yields (service.Hands occasion authorizes)
      past := by
  unfold dispatch
  split
  · exact yields_answer authorized
  · exact Action.yields_pure (.nothing (Response.tokens_empty _))

end Service

/-! ## Passing the gate -/

namespace Gate

variable {gate : Gate} {now : Instant} {request : GateRequest} {past : List Answered}

/-- The gate lets a caller pass, by the history of its examination: the credential is accepted, the
account was what the look-up answered, and the policy allowed a role of the credential that is not
above that of the account. -/
structure LetsPass (gate : Gate) (now : Instant) (request : GateRequest) (past : List Answered)
    (caller : Caller) : Prop where
  accepted : ∃ token, Accepted gate now request token caller.source caller.claims
  loaded : ⟨.findAccount caller.claims.subject, .ok (some caller.account)⟩ ∈ past
  permitted : ∃ role ∈ caller.claims.roles, role.rank ≤ caller.account.role.rank ∧
    gate.policy.enforce role.name request.path request.method = .ok true

/-- Whatever the policy is like, the check of roles only succeeds with one that it allowed. -/
theorem allowed_of_checkRoles {policy : PolicyEngine} {path method : String} {roles : List Role}
    (h : checkRoles policy path method roles = .ok ()) :
    ∃ role ∈ roles, policy.enforce role.name path method = .ok true := by
  induction roles with
  | nil => cases h
  | cons role roles ih =>
    rw [checkRoles] at h
    split at h
    · cases h
    · next allowed => exact ⟨role, List.mem_cons_self, allowed⟩
    · obtain ⟨other, mem, allowed⟩ := ih h
      exact ⟨other, List.mem_cons_of_mem _ mem, allowed⟩

theorem yields_examine : (gate.examine now request).Yields (gate.LetsPass now request) past := by
  unfold examine
  cases hcredential : request.credential? with
  | none => exact Action.yields_throw
  | some credential =>
    obtain ⟨token, source⟩ := credential
    refine Action.yields_ofExcept_bind fun claims hclaims => ?_
    have accepted : Accepted gate now request token source claims := by
      obtain ⟨valid, kind⟩ := valid_of_claimsOf hclaims
      exact ⟨GateRequest.carries_iff.mpr hcredential, valid, kind⟩
    refine Action.yields_askBounded_bind fun found => ?_
    cases found with
    | none => exact Action.yields_throw
    | some account =>
      refine Action.yields_ofExcept_bind fun _ _ => ?_
      refine Action.yields_ofExcept_bind fun _ _ => ?_
      -- The check of the record, if there is one, only adds to the history.
      have decided {later : List Answered}
          (loaded : ⟨.findAccount claims.subject, .ok (some account)⟩ ∈ later) :
          (do
            Action.ofExcept (checkRoles gate.policy request.path request.method
              (effectiveRoles claims account))
            return ⟨claims, account, source⟩ : Action Caller).Yields
              (gate.LetsPass now request) later := by
        refine Action.yields_ofExcept_bind fun _ permitted => Action.yields_pure ?_
        obtain ⟨role, mem, allowed⟩ := allowed_of_checkRoles permitted
        obtain ⟨carried, rank⟩ := mem_effectiveRoles.mp mem
        exact ⟨⟨token, accepted⟩, loaded, role, carried, rank, allowed⟩
      have loaded : ⟨.findAccount claims.subject, .ok (some account)⟩ ∈
          past ++ [(⟨.findAccount claims.subject, .ok (some account)⟩ : Answered)] := by
        simp
      split
      · refine (Action.yields_extends _ _).bind fun later _ further => ?_
        exact decided (further.subset loaded)
      · exact decided loaded

/-- Whom the gate lets pass, whatever the store answers. -/
theorem yields_authorize : (gate.authorize now request).Yields
    (fun past outcome => ∀ caller, outcome = .allowed caller →
      gate.LetsPass now request past caller) past := by
  unfold authorize
  split
  · exact Action.yields_pure (by rintro caller ⟨⟩)
  · refine yields_examine.bind fun later caller passes => Action.yields_pure ?_
    rintro _ ⟨⟩
    exact passes

end Gate

/-- Where a request may ask for what the gate looks up, it heeds what its endpoint heeds on behalf
of nobody, and of whom the gate let pass. -/
theorem App.heeds_handle_of_dispatch {app : App} {occasion : Occasion} {request : Request}
    {permits : List Answered → StoreCall → Prop} {post : List Answered → Response → Prop}
    (account : ∀ past id, permits past (.findAccount id))
    (token : ∀ past id, permits past (.findToken id))
    (errors : ∀ past (e : AuthError), post past e.response)
    (dispatch : ∀ (service : Service) (established : Option Caller) (past : List Answered),
      (∀ caller, established = some caller → app = .gated (some service) ∧
        service.gate.LetsPass occasion.now (request.toGate service.settings.csrfHeader) past
          caller) →
      (service.dispatch occasion request established).Heeds permits post past) :
    (app.handle occasion request).Heeds permits post [] := by
  have heeds_action : (app.action occasion request).Heeds permits post [] := by
    match app with
    | .bare service => exact dispatch service none [] (by rintro caller ⟨⟩)
    | .gated none => exact Action.heeds_throw
    | .gated (some service) =>
      have looksUp : (service.gate.authorize occasion.now
          (request.toGate service.settings.csrfHeader)).Uses fun op => ∀ past, permits past op :=
        Gate.uses_authorize (fun id past => account past id) fun id past => token past id
      refine (looksUp.heeds Gate.yields_authorize fun past op here => here past).bind ?_
      intro past outcome passes
      cases outcome with
      | exempt => exact dispatch service none past (by rintro caller ⟨⟩)
      | allowed caller =>
        refine dispatch service (some caller) past ?_
        rintro _ ⟨⟩
        exact ⟨rfl, passes caller rfl⟩
  refine Program.Heeds.bind heeds_action fun past result suits => ?_
  cases result with
  | ok response => exact suits response rfl
  | error e => exact errors past e

/-- How the service may be put up: by itself, or behind the gate, perhaps with nothing to hand
requests to. -/
def App.Offers (app : App) (service : Service) : Prop :=
  app = .bare service ∨ app = .gated (some service) ∨ app = .gated none

/-- The claims of a request by which the gate may let it pass. -/
def Service.Authorizes (service : Service) (now : Instant) (request : Request) (claims : Claims) :
    Prop :=
  ∃ token source, Accepted service.gate now (request.toGate service.settings.csrfHeader) token
    source claims

/-- What a request is answered hands out only what its call is entitled to. -/
theorem App.yields_handle {app : App} {service : Service} (offers : app.Offers service)
    (occasion : Occasion) (request : Request) :
    (app.handle occasion request).Yields
      (service.Hands occasion (service.Authorizes occasion.now request)) [] := by
  have yields_action : (app.action occasion request).Yields
      (service.Hands occasion (service.Authorizes occasion.now request)) [] := by
    -- A caller is established by the gate only, and not on an exempt path.
    rcases offers with rfl | rfl | rfl
    · exact Service.yields_dispatch (by rintro caller ⟨⟩)
    · refine Gate.yields_authorize.bind fun past outcome passes => ?_
      cases outcome with
      | exempt => exact Service.yields_dispatch (by rintro caller ⟨⟩)
      | allowed caller =>
        refine Service.yields_dispatch ?_
        rintro _ ⟨⟩
        obtain ⟨token, accepted⟩ := (passes caller rfl).accepted
        exact ⟨token, caller.source, accepted⟩
    · exact Action.yields_throw
  refine Program.Yields.bind yields_action fun past result hands => ?_
  cases result with
  | ok response => exact hands response rfl
  | error e => exact .nothing (Response.tokens_error e)

end SessionAuth
