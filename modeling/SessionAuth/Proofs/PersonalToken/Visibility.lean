import SessionAuth.Proofs.PersonalToken.Isolation
import SessionAuth.Proofs.Privilege

/-!
# Who sees a personal token

A personal token exists for its owner and for administrators. Who is an administrator is read off
the account as the gate loaded it. The gate itself asks of the credential only for a role that opens
the path, and every role opens this one. A credential may be older than the promotion of its holder.
So whoever sees or revokes the token of somebody else has the role of an administrator or a higher
one, and comes with a credential that has such a role too, or else with one that has a lower role,
which the account had at some earlier moment.

## Main definitions

* `Account.MaySee` — who a record is visible to
* `App.Reaches` — the history by which a request has got at a record
* `Service.Entitles` — the caller of a request may see the records of an owner
* `UnsharedIds` — no two owners have records of one identifier

## Main results

* `Store.exists_inserted` — every record that is stored was put in for its owner
* `App.heeds_reached` — a request shows and revokes only what it has got at
* `App.visible_to_owners_and_administrators` — who sees or revokes a record may see it
-/

namespace SessionAuth

/-- A record is visible to an account: it is that of its owner, or it has the role of an
administrator or a higher one. -/
def Account.MaySee (account : Account) (owner : Int32) : Prop :=
  owner = account.id ∨ Role.admin.rank ≤ account.role.rank

theorem Account.maySee_of_ownsOrCovers {account : Account} {owner : Int32}
    (h : Service.ownsOrCovers account owner .admin = true) : account.MaySee owner := by
  rcases Bool.or_eq_true_iff.mp h with own | covers
  · exact .inl (of_decide_eq_true own).symm
  · exact .inr (Role.covers_iff.mp covers)

/-- The history by which a request has got at a record: the last answer was the record, and before
that the gate had let a caller pass to whom it is visible. -/
inductive App.Reaches (occasion : Occasion) (request : Request) (past : List Answered)
    (record : PersonalToken) : App → Prop
  | intro {service : Service} {caller : Caller} {id : Uuid} {before : List Answered}
      (history : past = before ++ [⟨.findToken id, .ok (some record)⟩])
      (passed : service.gate.LetsPass occasion.now
        (request.toGate service.settings.csrfHeader) before caller)
      (visible : caller.account.MaySee record.owner) :
      Reaches occasion request past record (.gated (some service))

/-- A revocation is asked for only of a record that a request has got at. -/
def App.RevokesReached (app : App) (occasion : Occasion) (request : Request)
    (past : List Answered) (op : StoreCall) : Prop :=
  ∀ id, op = .revokeToken id → ∃ record : PersonalToken, record.id = id ∧
    app.Reaches occasion request past record

/-- A response shows no record but one that the request has got at. -/
def App.ShowsReached (app : App) (occasion : Occasion) (request : Request)
    (past : List Answered) (response : Response) : Prop :=
  ∀ shown : PersonalToken, response.body = some shown.toJson →
    ∃ record : PersonalToken, record.toJson = shown.toJson ∧
      app.Reaches occasion request past record

/-! ## What a response shows -/

/-- The owner can be read off the record as it is shown. -/
theorem PersonalToken.owner_eq_of_toJson {record other : PersonalToken}
    (same : record.toJson = other.toJson) : record.owner = other.owner := by
  simp only [toJson, View.toJson, View.members, Json.Value.record, Json.Value.object.injEq,
    List.map_cons, List.cons.injEq, Prod.mk.injEq] at same
  obtain ⟨-, ⟨-, same⟩, -⟩ := same
  have read := congrArg Json.Value.int32? same
  rw [Json.Value.int32?_int, Json.Value.int32?_int] at read
  exact Option.some.inj read

/-- No error is answered with a record. -/
theorem AuthError.body_response_ne (e : AuthError) (record : PersonalToken) :
    e.response.body ≠ some record.toJson := by
  intro same
  have members := Json.Value.object.inj (Option.some.inj same)
  cases congrArg List.length members

/-! ## What a request asks for -/

section Requests

variable {service : Service} {occasion : Occasion} {request : Request} {past : List Answered}
  {caller : Caller} {app : App}

theorem App.showsReached_empty (status : Nat) :
    app.ShowsReached occasion request past (.empty status) := by
  intro shown same
  exact absurd same.symm (Option.some_ne_none _)

namespace Service

theorem heeds_visibleToken (id : Uuid) (passed : service.gate.LetsPass occasion.now
      (request.toGate service.settings.csrfHeader) past caller) :
    (service.visibleToken caller id).Heeds
      ((App.gated (some service)).RevokesReached occasion request)
      (fun past record => (App.gated (some service)).Reaches occasion request past record)
      past := by
  have reads : (service.personalTokens.read id).Heeds
      ((App.gated (some service)).RevokesReached occasion request)
      (fun later record => later = past ++ [⟨.findToken id, .ok (some record)⟩]) past := by
    refine Action.heeds_ask_bind nofun fun found => ?_
    cases found with
    | none => exact Action.heeds_throw
    | some record => exact Action.heeds_pure rfl
  refine reads.bind ?_
  rintro _ record rfl
  split
  · next visible =>
    exact Action.heeds_pure (.intro rfl passed (Account.maySee_of_ownsOrCovers visible))
  · exact Action.heeds_throw

theorem heeds_readToken (id : Uuid) (passed : service.gate.LetsPass occasion.now
      (request.toGate service.settings.csrfHeader) past caller) :
    (service.readToken caller id).Heeds
      ((App.gated (some service)).RevokesReached occasion request)
      ((App.gated (some service)).ShowsReached occasion request) past := by
  refine (heeds_visibleToken id passed).bind fun later record reaches => ?_
  refine Action.heeds_pure fun shown same => ?_
  exact ⟨record, Option.some.inj same, reaches⟩

theorem heeds_revokeToken (id : Uuid) (passed : service.gate.LetsPass occasion.now
      (request.toGate service.settings.csrfHeader) past caller) :
    (service.revokeToken caller id).Heeds
      ((App.gated (some service)).RevokesReached occasion request)
      ((App.gated (some service)).ShowsReached occasion request) past := by
  refine (heeds_visibleToken id passed).bind fun later record reaches => ?_
  -- The copy of the record may be marked, and then the store is not asked.
  have revokes : (service.personalTokens.revoke record).Heeds
      ((App.gated (some service)).RevokesReached occasion request) (fun _ _ => True) later := by
    unfold PersonalTokens.revoke
    split
    · exact Action.heeds_throw
    refine Action.heeds_ask_bind ?_ fun revoked => ?_
    · rintro _ ⟨⟩
      exact ⟨record, rfl, reaches⟩
    · split
      · exact Action.heeds_throw
      · exact Action.heeds_pure trivial
  exact revokes.bind fun _ _ _ => Action.heeds_pure (App.showsReached_empty 204)

end Service

/-- Two endpoints are found under the path of a record. -/
theorem Endpoint.eq_of_segments {endpoint : Endpoint} {vary : List Segment} {segment : Segment}
    (path : endpoint.segments vary = Endpoint.readToken.segments [segment]) :
    endpoint = .readToken ∨ endpoint = .revokeToken := by
  cases endpoint with
  | readToken => exact .inl rfl
  | revokeToken => exact .inr rfl
  | _ => simp [segments] at path

/-- Under the path of a record an endpoint shows and revokes only what it has got at, and only on
behalf of a caller. -/
theorem Service.heeds_dispatch_of_path {established : Option Caller} {segment : Segment}
    (path : segments request.path = Endpoint.readToken.segments [segment])
    (passed : ∀ caller, established = some caller → app = .gated (some service) ∧
      service.gate.LetsPass occasion.now (request.toGate service.settings.csrfHeader) past
        caller) :
    (service.dispatch occasion request established).Heeds (app.RevokesReached occasion request)
      (app.ShowsReached occasion request) past := by
  unfold dispatch
  split
  · next endpoint vary found =>
    have fitting := (Request.asks_of_find? found).2.symm.trans path
    cases established with
    | none =>
      rcases Endpoint.eq_of_segments fitting with rfl | rfl <;> exact Action.heeds_throw
    | some caller =>
      obtain ⟨rfl, letsPass⟩ := passed caller rfl
      rcases Endpoint.eq_of_segments fitting with rfl | rfl
      · refine withSegment_rule (P := (·.Heeds _ _ past)) ?_ fun _ id _ _ => ?_
        · exact Action.heeds_pure (App.showsReached_empty 404)
        · exact heeds_readToken id letsPass
      · refine withSegment_rule (P := (·.Heeds _ _ past)) ?_ fun _ id _ _ => ?_
        · exact Action.heeds_pure (App.showsReached_empty 404)
        · exact heeds_revokeToken id letsPass
  · exact Action.heeds_pure (App.showsReached_empty 404)

/-- A request under the path of a record shows and revokes only what it has got at. -/
theorem App.heeds_reached (app : App) (occasion : Occasion) {segment : Segment}
    (path : segments request.path = Endpoint.readToken.segments [segment]) :
    (app.handle occasion request).Heeds (app.RevokesReached occasion request)
      (app.ShowsReached occasion request) [] := by
  refine heeds_handle_of_dispatch nofun nofun ?_ ?_
  · exact fun past e shown same => absurd same (e.body_response_ne shown)
  · exact fun service established past passed => Service.heeds_dispatch_of_path path passed

end Requests

/-! ## Where records come from -/

/-- A record that is found behind an operation was there with its owner, or the operation has put it
in. -/
theorem Store.owner_respond {store : Store} {op : StoreCall} {id : Uuid} {record : PersonalToken}
    (stored : (store.respond op).2.token? id = some record) :
    (∃ earlier, store.token? id = some earlier ∧ earlier.owner = record.owner) ∨
      ∃ new, op = .insertToken new ∧ new.id = id ∧ new.owner = record.owner := by
  have kept (same : store.token? id = some record) :
      ∃ earlier, store.token? id = some earlier ∧ earlier.owner = record.owner :=
    ⟨record, same, rfl⟩
  cases op with
  | insertToken new =>
    rw [Store.token?_respond_insertToken] at stored
    split at stored
    · next taken =>
      obtain rfl := Option.some.inj stored
      exact .inr ⟨_, rfl, taken.2.symm, rfl⟩
    · exact .inl (kept stored)
  | revokeToken other =>
    have hafter : (store.revokeToken other).2.token? id = _ := Store.token?_revokeToken
    rw [Store.respond_revokeToken, hafter] at stored
    obtain ⟨earlier, found, rfl⟩ := Option.map_eq_some_iff.mp stored
    refine .inl ⟨earlier, found, ?_⟩
    split <;> rfl
  | findToken | tokensOf | findActiveToken => exact .inl (kept stored)
  | ping | findAccount | findByEmail | createAccount | recordLogin | swapRefreshHash
  | recordLogout | updateStatus | updateRole =>
    rw [Store.token?, Store.tokens_respond rfl] at stored
    exact .inl (kept stored)

/-- Every record that is stored was there at first or was put in for its owner. -/
theorem Store.exists_inserted {store : Store} {ops : List StoreCall} {id : Uuid}
    {record : PersonalToken} (stored : (store.performAll ops).token? id = some record) :
    (∃ earlier, store.token? id = some earlier ∧ earlier.owner = record.owner) ∨
      ∃ new, .insertToken new ∈ ops ∧ new.id = id ∧ new.owner = record.owner := by
  induction ops generalizing store with
  | nil => exact .inl ⟨record, stored, rfl⟩
  | cons op ops ih =>
    rcases ih stored with ⟨between, found, same⟩ | ⟨new, mem, inserted⟩
    · rcases owner_respond found with ⟨earlier, hfound, hsame⟩ | ⟨new, inserts, hid, howner⟩
      · exact .inl ⟨earlier, hfound, hsame.trans same⟩
      · exact .inr ⟨new, inserts ▸ List.mem_cons_self, hid, howner.trans same⟩
    · exact .inr ⟨new, List.mem_cons_of_mem _ mem, inserted⟩

section Runs

variable {ι : Type} [DecidableEq ι]

/-- No identifier is used for records of two owners. -/
def UnsharedIds (log : List (Event ι)) : Prop :=
  ∀ first second : PersonalToken, .insertToken first ∈ log.map (·.did.op) →
    .insertToken second ∈ log.map (·.did.op) → first.id = second.id → first.owner = second.owner

/-- The caller of a request may see the records of an owner. At a moment of the request the account
was stored as it is, and the credential is accepted. The account is the owner, or it has the role of
an administrator or a higher one. Then the credential has such a role too, or it has a lower one,
which the account had at some moment before that. -/
inductive Service.Entitles (service : Service) (occasion : ι → Occasion) (request : ι → Request)
    (log : List (Event ι)) (i : ι) (owner : Int32) : Prop
  | intro {front back : List (Event ι)} {event : Event ι} {caller : Caller} {token : String}
      (split : log = front ++ event :: back) (actor : event.actor = some i)
      (stored : (Store.empty.performAll (front.map (·.did.op))).account? caller.claims.subject =
        some caller.account)
      (accepted : Accepted service.gate (occasion i).now
        ((request i).toGate service.settings.csrfHeader) token caller.source caller.claims)
      (visible : owner = caller.account.id ∨
        Role.admin.rank ≤ caller.account.role.rank ∧
          ((∃ role ∈ caller.claims.roles, Role.admin.rank ≤ role.rank) ∨
            ∃ role ∈ caller.claims.roles, role.rank < Role.admin.rank ∧
              HeldIn front caller.claims.subject role)) :
      Entitles service occasion request log i owner

variable {app : App} {service : Service} {occasion : ι → Occasion} {request : ι → Request}
  {log front back : List (Event ι)} {pool : Pool ι Response} {i : ι} {event : Event ι}

/-- Every role of a credential that is used was held before, where none is forged. -/
theorem App.heldIn_of_accepted (offers : app.Offers service)
    (unforged : app.Unforged service occasion request (front ++ event :: back))
    (actor : event.actor = some i) {token : String} {source : CredentialSource} {claims : Claims}
    (accepted : Accepted service.gate (occasion i).now
      ((request i).toGate service.settings.csrfHeader) token source claims)
    {role : Role} (carried : role ∈ claims.roles) : HeldIn front claims.subject role := by
  obtain ⟨earlier, j, response, run, ended, mem⟩ :=
    unforged front event back i token source claims rfl actor accepted
  obtain ⟨original, signed, -⟩ := App.backs_of_run offers run ended mem
  -- What is accepted as the credential are the claims that were signed as it.
  obtain rfl := TokenIssuer.claims_of_validate_sign signed accepted.valid
  exact App.heldIn_of_run offers run unforged.of_append ended mem signed carried

/-- Whom the gate lets pass may see the records that are visible to the account. -/
theorem App.entitles_of_passedIn (offers : app.Offers service)
    (unforged : app.Unforged service occasion request log) {caller : Caller} {owner : Int32}
    (passed : service.gate.PassedIn (occasion i).now
      ((request i).toGate service.settings.csrfHeader) .empty log i caller)
    (visible : caller.account.MaySee owner) : service.Entitles occasion request log i owner := by
  cases passed with
  | intro split actor stored accepted permitted =>
    subst split
    obtain ⟨token, accepted⟩ := accepted
    refine .intro rfl actor stored accepted (visible.imp_right fun above => ⟨above, ?_⟩)
    by_cases carried : ∃ role ∈ caller.claims.roles, Role.admin.rank ≤ role.rank
    · exact .inl carried
    -- The role that opened the path is a lower one, and is in the credential all the same.
    · obtain ⟨role, mem, -, -⟩ := permitted
      have lower : role.rank < Role.admin.rank := Nat.lt_of_not_le fun h => carried ⟨role, mem, h⟩
      exact .inr ⟨role, mem, lower, App.heldIn_of_accepted offers unforged actor accepted mem⟩

/-- A request that has got at a record in a run is made by a caller who may see it, and the record
was stored. -/
theorem App.entitles_of_reaches (offers : app.Offers service)
    (run : Pool.Run (fun _ => True) (app.pool occasion request) log pool)
    (unforged : app.Unforged service occasion request log) {record : PersonalToken}
    (reaches : app.Reaches (occasion i) (request i) (doneBy i log) record) :
    service.Entitles occasion request log i record.owner ∧
      ∃ front, front <+: log ∧
        (Store.empty.performAll (front.map (·.did.op))).token? record.id = some record := by
  generalize hpast : doneBy i log = past at reaches
  cases reaches with
  | @intro other caller id before history passed visible =>
    obtain rfl : other = service := by
      rcases offers with same | same | same <;> cases same
      rfl
    subst history
    have letsPass : other.gate.LetsPass (occasion i).now
        ((request i).toGate other.settings.csrfHeader) (doneBy i log) caller := by
      rw [hpast]
      exact ⟨passed.accepted, List.mem_append_left _ passed.loaded, passed.permitted⟩
    refine ⟨App.entitles_of_passedIn offers unforged (letsPass.passedIn run) visible, ?_⟩
    obtain ⟨front, event, back, rfl, -, did, -, -⟩ := exists_of_doneBy hpast
    have answered := run.answered
    rw [did] at answered
    simp only [Store.respond_findToken, Answered.mk.injEq, heq_eq_eq, true_and, Except.ok.injEq]
      at answered
    exact ⟨front, List.prefix_append _ _, (Store.token?_id answered.symm).symm ▸ answered.symm⟩

/-- Who sees or revokes the record of a personal token may see it. In every run of requests and of
operations of the store from the store in which nothing is kept, under any policy and where no
credential is forged: a request under the path of a record that is answered with a record, or that
revokes one, comes from the owner, or from an account that had the role of an administrator or a
higher one when the gate loaded it. In the second case the credential has such a role as well,
unless it has a lower one that the account had before, so that it was promoted meanwhile. -/
theorem App.visible_to_owners_and_administrators (offers : app.Offers service)
    (run : Pool.Run (fun _ => True) (app.pool occasion request) log pool)
    (unforged : app.Unforged service occasion request log) {segment : Segment}
    (path : segments (request i).path = Endpoint.readToken.segments [segment]) :
    (∀ (response : Response) (record : PersonalToken), pool.thread i = .done response →
      response.body = some record.toJson →
      service.Entitles occasion request log i record.owner) ∧
    ∀ (front back : List (Event ι)) (id : Uuid) (record : PersonalToken),
      log = front ++ ⟨some i, ⟨.revokeToken id, .ok true⟩⟩ :: back →
      (Store.empty.performAll (front.map (·.did.op))).token? id = some record →
      UnsharedIds front → service.Entitles occasion request front i record.owner := by
  have heeds : ((app.pool occasion request).thread i).Heeds
      (app.RevokesReached (occasion i) (request i)) (app.ShowsReached (occasion i) (request i))
        [] := app.heeds_reached (occasion i) path
  constructor
  · intro response shown ended body
    obtain ⟨record, same, reaches⟩ := run.suits heeds.yields ended shown body
    rw [← PersonalToken.owner_eq_of_toJson same]
    exact (App.entitles_of_reaches offers run unforged reaches).1
  · rintro front back id stored rfl found unshared
    obtain ⟨record, rfl, reaches⟩ := run.permits rfl heeds id rfl
    obtain ⟨between, -, upto, -, -⟩ := run.exists_split
    obtain ⟨entitles, early, ⟨rest, rfl⟩, loaded⟩ :=
      App.entitles_of_reaches offers upto unforged.of_append reaches
    -- The record that is marked has the owner of the one that was looked up, as their identifier is
    -- the same and both have been put in.
    have origin {log : List (Event ι)} {id : Uuid} {record : PersonalToken}
        (found : (Store.empty.performAll (log.map (·.did.op))).token? id = some record) :
        ∃ new, .insertToken new ∈ log.map (·.did.op) ∧ new.id = id ∧ new.owner = record.owner := by
      refine (Store.exists_inserted found).resolve_left ?_
      rintro ⟨earlier, none, -⟩
      cases none
    obtain ⟨first, hfirst, hid, howner⟩ := origin loaded
    obtain ⟨second, hsecond, hid', howner'⟩ := origin found
    have hfirst : .insertToken first ∈ (early ++ rest).map (·.did.op) := by
      rw [List.map_append]
      exact List.mem_append_left _ hfirst
    have same := unshared first second hfirst hsecond (hid.trans hid'.symm)
    rwa [← howner', ← same, howner]

end Runs

namespace PromotedCaller

open LoginRequest (service occasion hiddenPath path_hidden notExempt_hidden)
open TokenRequest (app account loggedIn)

/-- A login, and a look at the record of somebody else with a bearer token. -/
def requests (token : String) : Bool → Request
  | false => LoginRequest.request
  | true => AdminRequest.get hiddenPath token

/-- The account behind its login, with the role of an administrator. -/
def promoted (hash : String) : Account := { loggedIn hash with role := .admin }

/-- The account of somebody else. -/
def owner : Account := .create 2 ⟨"owner", "b@b.c", "password", .user⟩ .epoch

/-- The store with both accounts and a record of the second. -/
def shared (hash : String) : Store := ⟨2, [promoted hash, owner], [LoginRequest.hidden]⟩

/-- The segment that names the record. -/
def segment : Segment := "00000000-0000-4000-8000-000000000000".toList

variable {tokens : SessionTokens} {hash : String}

theorem path_requests (token : String) :
    segments (requests token true).path = Endpoint.readToken.segments [segment] := by
  rw [requests, path_hidden]
  decide

/-- The look comes with the token from the login. -/
theorem carries_look (grants : service.sessions.Grants occasion account tokens hash) :
    ((requests tokens.access.token true).toGate service.settings.csrfHeader).Carries
      tokens.access.token .header :=
  Request.carries_of_sign grants.access.signed (AdminRequest.rawHeader?_get _ _) _

theorem accepted_look (grants : service.sessions.Grants occasion account tokens hash) :
    Accepted service.gate occasion.now
      ((requests tokens.access.token true).toGate service.settings.csrfHeader)
      tokens.access.token .header tokens.access.claims := by
  obtain ⟨hissue, -⟩ := Sessions.issuePair_eq_ok_iff.mp grants.issued
  have hend : tokens.access.claims.expires.toInt = 700 :=
    (TokenIssuer.issues_of_issue hissue).expires
  have known : (shared hash).account? account.id = some (promoted hash) := rfl
  exact (AdminRequest.standing_of_issue service.gate rfl hissue nofun (by omega) known rfl rfl
    (carries_look grants)).toRecognized.toAccepted

/-- The gate lets the look pass with the token from before the promotion. -/
theorem exec_authorize (grants : service.sessions.Grants occasion account tokens hash) :
    (service.gate.authorize occasion.now ((requests tokens.access.token true).toGate
      service.settings.csrfHeader)).run.exec (shared hash) =
      (.ok (.allowed ⟨tokens.access.claims, promoted hash, .header⟩), shared hash) := by
  obtain ⟨hissue, -⟩ := Sessions.issuePair_eq_ok_iff.mp grants.issued
  have known : (shared hash).account? (promoted hash).id = some (promoted hash) := rfl
  have permitted : Gate.checkRoles service.gate.policy (requests tokens.access.token true).path
      "GET" ([.user].filter fun role => (promoted hash).role.covers role) = .ok () := by
    rw [requests, path_hidden]
    change Gate.checkRoles _ _ _ [.user] = _
    decide +kernel
  exact AdminRequest.exec_authorize_of_bearer service.gate rfl known rfl rfl hissue
    (AdminRequest.rawHeader?_get _ _) _ (notExempt_hidden _) permitted

/-- The record of somebody else is shown. -/
theorem exec_look (grants : service.sessions.Grants occasion account tokens hash) :
    (app.handle occasion (requests tokens.access.token true)).exec (shared hash) =
      (.json 200 LoginRequest.hidden.toJson, shared hash) := by
  have found : Route.find? (requests tokens.access.token true).method
      (requests tokens.access.token true).path = some (.readToken, [segment]) := by
    change Route.find? "GET" (AdminRequest.get hiddenPath _).path = _
    rw [path_hidden]
    decide +kernel
  have named : (Percent.decodeSegment? segment).bind Uuid.parse? =
      some LoginRequest.hidden.id := by
    decide +kernel
  have answered : (app.action occasion (requests tokens.access.token true)).exec (shared hash) =
      (.ok (.json 200 LoginRequest.hidden.toJson), shared hash) := by
    change (service.gated occasion _).exec _ = _
    rw [Service.gated_of_needsCaller found rfl, Action.exec_bind, Action.exec,
      exec_authorize grants]
    change (Service.withSegment [segment] Uuid.parse? (service.readToken _)).exec _ = _
    rw [Service.withSegment, named]
    rfl
  rw [App.exec_handle, answered]
  rfl

/-- Somebody else is put in with a record, and the first account is promoted. -/
theorem exists_run_promoted (thread : Bool → Program Response) :
    ∃ log, Pool.Run (fun _ => True) ⟨⟨1, [loggedIn hash], []⟩, thread⟩ log ⟨shared hash, thread⟩ ∧
      ∀ event ∈ log, event.actor = none := by
  have registers : Pool.Step (fun _ => True) ⟨⟨1, [loggedIn hash], []⟩, thread⟩
      ⟨none, .createAccount ⟨"owner", "b@b.c", "password", .user⟩ .epoch, .ok owner⟩
      ⟨⟨2, [loggedIn hash, owner], []⟩, thread⟩ := .other trivial
  have inserts : Pool.Step (fun _ => True) ⟨⟨2, [loggedIn hash, owner], []⟩, thread⟩
      ⟨none, .insertToken LoginRequest.hidden, .ok ()⟩
      ⟨⟨2, [loggedIn hash, owner], [LoginRequest.hidden]⟩, thread⟩ := .other trivial
  have promotes : Pool.Step (fun _ => True)
      ⟨⟨2, [loggedIn hash, owner], [LoginRequest.hidden]⟩, thread⟩
      ⟨none, .updateRole 1 .admin, .ok (promoted hash)⟩ ⟨shared hash, thread⟩ := .other trivial
  refine ⟨_, ((Pool.Run.refl.tail registers).tail inserts).tail promotes, ?_⟩
  simp

/-- The holder of the account logs in and is promoted, and then looks at the record of somebody else
with the token from the login. -/
theorem exists_run_look (grants : service.sessions.Grants occasion account tokens hash) :
    ∃ (log : List (Event Bool)) (pool : Pool Bool Response),
      Pool.Run (fun _ => True) (app.pool (fun _ => occasion) (requests tokens.access.token)) log
        pool ∧
      app.Unforged service (fun _ => occasion) (requests tokens.access.token) log ∧
      pool.thread true = .done (.json 200 LoginRequest.hidden.toJson) := by
  obtain ⟨response, granted⟩ := service.exists_grant occasion.now 200 1 tokens
  have logsIn : ∃ log, Pool.Run (fun _ => True)
      (app.pool (fun _ => occasion) (requests tokens.access.token)) log _ ∧
        ∀ event ∈ log, ∀ i, event.actor = some i → i = false :=
    TokenRequest.exists_run_of_login rfl grants granted
  obtain ⟨first, login, ownFirst⟩ := logsIn
  generalize hthread : Function.update _ false _ = thread at login
  obtain ⟨between, promotion, others⟩ := exists_run_promoted thread
  have ended : thread false = .done response := by
    rw [← hthread]
    exact Function.update_self _ _ _
  have waiting : thread true = app.handle occasion (requests tokens.access.token true) := by
    rw [← hthread]
    exact Function.update_of_ne (by decide) _ _
  have shown : (thread true).exec (shared hash) =
      (.json 200 LoginRequest.hidden.toJson, shared hash) := by
    rw [waiting]
    exact exec_look grants
  have looks : ∃ log, Pool.Run (fun _ => True) ⟨shared hash, thread⟩ log _ ∧
      ∀ event ∈ log, event.actor = some true := Pool.exists_run_of_exec _ shown
  obtain ⟨second, look, ownSecond⟩ := looks
  have further := promotion.trans look
  have ownFurther : ∀ event ∈ between ++ second, ∀ i, event.actor = some i → i = true := by
    intro event mem i actor
    rcases List.mem_append.mp mem with other | own
    · cases (others event other).symm.trans actor
    · exact Option.some.inj (actor.symm.trans (ownSecond event own))
  have unforged :=
    TokenRequest.unforged_of_login rfl granted (carries_look grants) login ended ownFirst further
      ownFurther
  refine ⟨_, _, login.trans further, unforged, ?_⟩
  simp

/-- A record is shown to a caller who is not the owner and whose credential has no role but that of
a user. The role of the account has been raised since the credential was made. -/
theorem shows_record_to_promoted :
    ∃ (token : String) (claims : Claims) (log : List (Event Bool)) (pool : Pool Bool Response)
      (response : Response),
      service.policy = RolePolicy.standard.engine ∧
      Pool.Run (fun _ => True) (app.pool (fun _ => occasion) (requests token)) log pool ∧
      app.Unforged service (fun _ => occasion) (requests token) log ∧
      pool.thread true = .done response ∧
      response.body = some LoginRequest.hidden.toJson ∧
      segments (requests token true).path = Endpoint.readToken.segments [segment] ∧
      Accepted service.gate occasion.now
        ((requests token true).toGate service.settings.csrfHeader) token .header claims ∧
      claims.subject ≠ LoginRequest.hidden.owner ∧
      ∀ role ∈ claims.roles, role.rank < Role.admin.rank := by
  obtain ⟨tokens, issued⟩ : ∃ tokens, service.sessions.issuePair occasion account = .ok tokens :=
    ⟨_, rfl⟩
  have grants : service.sessions.Grants occasion account tokens tokens.refresh.token :=
    ⟨issued, rfl⟩
  obtain ⟨log, pool, run, unforged, shown⟩ := exists_run_look grants
  refine ⟨_, _, log, pool, _, rfl, run, unforged, shown, rfl, path_requests _, accepted_look grants,
    ?_, ?_⟩
  · rw [grants.access.subject]
    decide
  · rw [grants.access.roles]
    decide

/-- The caller may see the record: the role of the account is that of an administrator, and the one
in the credential is a lower one that the account had before. -/
theorem visible_to_promoted :
    ∃ (token : String) (log : List (Event Bool)) (pool : Pool Bool Response),
      Pool.Run (fun _ => True) (app.pool (fun _ => occasion) (requests token)) log pool ∧
      app.Unforged service (fun _ => occasion) (requests token) log ∧
      pool.thread true = .done (.json 200 LoginRequest.hidden.toJson) ∧
      service.Entitles (fun _ => occasion) (requests token) log true LoginRequest.hidden.owner := by
  obtain ⟨tokens, issued⟩ : ∃ tokens, service.sessions.issuePair occasion account = .ok tokens :=
    ⟨_, rfl⟩
  have grants : service.sessions.Grants occasion account tokens tokens.refresh.token :=
    ⟨issued, rfl⟩
  obtain ⟨log, pool, run, unforged, shown⟩ := exists_run_look grants
  obtain ⟨entitles, -⟩ := App.visible_to_owners_and_administrators (.inr (.inl rfl)) run unforged
    (path_requests tokens.access.token)
  exact ⟨_, log, pool, run, unforged, shown, entitles _ _ shown rfl⟩

end PromotedCaller

end SessionAuth
