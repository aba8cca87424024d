import SessionAuth.Proofs.Http.Mediation
import SessionAuth.Proofs.SideBySide
import SessionAuth.Proofs.Store.Agreement

/-!
# Isolation between owners

The records of personal tokens are kept in one place for all owners. A caller with the role of a
user learns of none but their own: on two stores that differ in the records of others, a request
of this caller is answered alike, and leaves stores that differ in the records of others. What
another owner has under an identifier is answered as if there were nothing, whether it is asked
for, revoked, or named by a personal token.

Only four endpoints go to records. What all others ask for is asked of the accounts, which are
the same. These four, and the check of a personal token at the gate, look at a record for its
owner before they tell anything of it. The clock is the same in both runs, and so is what is drawn
for a request: an identifier that is drawn may even be one that somebody else has.

## Main definitions

* `Caller.IsUser` — a caller has the account of an owner, which has the role of a user
* `Response.Alike` — two responses are the same but for the order of records of the same time
* `Store.AgreesForUser` — two stores agree for an owner with the role of a user
* `Action.AlikeFor` — an action comes to ends that are alike on two such stores
* `GateRequest.SpeaksFor` — the credential of a request names an owner
* `App.answerAll` — requests are answered one behind the other

## Main results

* `Service.uses_accounts_answer` — endpoints that are not for personal tokens go to the accounts
* `Service.alikeFor_gated` — a request is answered alike on stores that agree for its owner
* `App.rel_answerAll` — so is any number of requests
* `App.isolates` — a user cannot tell what records others have
-/

namespace SessionAuth

/-! ## What is asked of the accounts -/

/-- An operation goes to the accounts, and changes no role. -/
def StoreCall.KeepsRoles (op : StoreCall) : Prop :=
  op.side = .accounts ∧ ∀ id role, op ≠ .updateRole id role

/-- The account of an identifier is there and has the role of a user. -/
def Store.HasUser (store : Store) (id : Int32) : Prop :=
  ∃ account, store.account? id = some account ∧ account.role = .user

/-- Whether an endpoint is there for personal tokens. -/
def Endpoint.isForTokens : Endpoint → Bool
  | createToken | listTokens | readToken | revokeToken => true
  | health | login | register | refresh | logout | me | updateStatus | updateRole => false

/-- A caller has the account of an owner, by claims that name it, and the role of a user. -/
structure Caller.IsUser (caller : Caller) (owner : Int32) : Prop where
  subject : caller.claims.subject = owner
  account : caller.account.id = owner
  role : caller.account.role = .user

section Accounts

variable {store : Store} {owner : Int32}

theorem Store.HasUser.modifyAccount {id : Int32} {change : Account → Account}
    (user : store.HasUser owner) (keepsId : ∀ account, (change account).id = account.id)
    (keepsRole : ∀ account, (change account).role = account.role) :
    (store.modifyAccount id change).HasUser owner := by
  obtain ⟨account, known, role⟩ := user
  rw [HasUser, Store.account?_modifyAccount keepsId, known]
  refine ⟨_, rfl, ?_⟩
  change (if account.id = id then change account else account).role = .user
  split
  · rw [keepsRole, role]
  · exact role

/-- A user stays a user while no role is changed. -/
theorem Store.HasUser.respond (user : store.HasUser owner) {op : StoreCall}
    (keeps : op.KeepsRoles) : (store.respond op).2.HasUser owner := by
  cases op with
  | ping | findAccount | findByEmail => exact user
  | createAccount new now =>
    rw [respond_createAccount]
    split
    · exact user
    -- Behind the accounts that there are a new one hides none.
    · obtain ⟨account, known, role⟩ := user
      refine ⟨account, ?_, role⟩
      rw [account?] at known ⊢
      rw [List.find?_append, known]
      rfl
  | recordLogin id hash now =>
    rw [respond_recordLogin]
    split
    · exact user.modifyAccount (fun _ => rfl) fun _ => rfl
    · exact user
  | recordLogout id now =>
    rw [respond_recordLogout]
    split
    · exact user.modifyAccount (fun _ => rfl) fun _ => rfl
    · exact user
  | swapRefreshHash id expected new now =>
    rw [respond_swapRefreshHash]
    split
    · exact user
    · split
      · exact user.modifyAccount (fun _ => rfl) fun _ => rfl
      · exact user
  | updateStatus id change =>
    rw [respond_updateStatus]
    split
    · exact user
    · exact user.modifyAccount (fun _ => rfl) fun _ => rfl
  | updateRole id role => exact absurd rfl (keeps.2 id role)
  | insertToken | findToken | tokensOf | findActiveToken | revokeToken => cases keeps.1

end Accounts

namespace Service

variable {service : Service} {occasion : Occasion} {request : Request}

theorem uses_login (sessions : Sessions) (account : Account) :
    (sessions.login occasion account).Uses StoreCall.KeepsRoles := by
  refine (Action.uses_lift _ _).bind fun tokens => ?_
  refine (Action.uses_lift _ _).bind fun hash => ?_
  exact (Action.uses_ask ⟨rfl, nofun⟩).bind fun _ => Action.uses_pure _

theorem uses_authenticate (sessions : Sessions) (email password : String) :
    (sessions.authenticate email password).Uses StoreCall.KeepsRoles := by
  refine (Action.uses_ask ⟨rfl, nofun⟩).bind fun account? => ?_
  cases account? with
  | none => exact Action.uses_throw _
  | some account =>
    refine (Action.uses_lift _ _).bind fun belongs => ?_
    cases belongs with
    | false => exact Action.uses_throw _
    | true => exact (Action.uses_ofExcept _).bind fun _ => Action.uses_pure _

theorem uses_exchange (sessions : Sessions) (presented : String) :
    (sessions.exchange occasion presented).Uses StoreCall.KeepsRoles := by
  refine (Action.uses_ofExcept _).bind fun claims => ?_
  split
  · exact Action.uses_throw _
  refine (Action.uses_ask ⟨rfl, nofun⟩).bind fun account? => ?_
  cases account? with
  | none => exact Action.uses_throw _
  | some account =>
    refine (Action.uses_ofExcept _).bind fun _ => Action.Uses.bind ?_ fun _ => Action.uses_pure _
    refine (Action.uses_ofExcept _).bind fun stored => ?_
    split
    · exact Action.uses_throw _
    refine (Action.uses_lift _ _).bind fun tokens => ?_
    refine (Action.uses_lift _ _).bind fun hash => ?_
    refine (Action.uses_ask ⟨rfl, nofun⟩).bind fun swapped => ?_
    cases swapped with
    | false => exact Action.uses_throw _
    | true => exact Action.uses_pure _

theorem uses_updateStatus (caller : Caller) (id : Int32) (change : StatusChange) :
    (updateStatus caller id change).Uses StoreCall.KeepsRoles := by
  refine (Action.uses_ofExcept _).bind fun _ => ?_
  refine (Action.uses_ask ⟨rfl, nofun⟩).bind fun target? => ?_
  cases target? with
  | none => exact Action.uses_throw _
  | some target =>
    simp only
    split
    · exact Action.uses_throw _
    · exact (Action.uses_ask ⟨rfl, nofun⟩).bind fun _ => Action.uses_pure _

/-- An endpoint that is not for personal tokens goes to the accounts, and changes no role on
behalf of a user. -/
theorem uses_accounts_answer {owner : Int32} {established : Option Caller} {endpoint : Endpoint}
    (apart : endpoint.isForTokens = false) (user : ∀ caller ∈ established, caller.IsUser owner)
    (vary : List Segment) :
    (service.answer occasion request established endpoint vary).Uses StoreCall.KeepsRoles := by
  cases endpoint with
  | createToken | listTokens | readToken | revokeToken => cases apart
  | health => exact (Action.uses_attempt ⟨rfl, nofun⟩).bind fun _ => Action.uses_pure _
  | login =>
    refine uses_withJson fun form => (Action.uses_ofExcept _).bind fun _ => ?_
    refine (uses_authenticate _ _ _).bind fun account => ?_
    exact (uses_login _ _).bind fun _ => Action.uses_ofExcept _
  | register =>
    refine uses_withJson fun form => (Action.uses_ofExcept _).bind fun _ => ?_
    refine (Action.uses_lift _ _).bind fun hash => ?_
    refine (Action.uses_ask ⟨rfl, nofun⟩).bind fun account => ?_
    exact (uses_login _ _).bind fun _ => Action.uses_ofExcept _
  | refresh =>
    refine (Action.uses_ofExcept _).bind fun presented => ?_
    exact (uses_exchange _ _).bind fun _ => Action.uses_ofExcept _
  | logout =>
    refine uses_withCaller fun caller => ?_
    exact (Action.uses_ask ⟨rfl, nofun⟩).bind fun _ => Action.uses_pure _
  | me => exact uses_withCaller fun caller => Action.uses_pure _
  | updateStatus =>
    refine uses_withCaller fun caller => uses_withSegment fun id => ?_
    exact uses_withJson fun change => uses_updateStatus caller id change
  | updateRole =>
    cases established with
    | none => exact Action.uses_throw _
    | some caller =>
      refine uses_withSegment fun id => uses_withJson fun change => ?_
      -- A user is refused before anything is asked for.
      have refused : requireRole caller .super = .error .insufficientRole := by
        rw [requireRole, (user caller rfl).role]
        rfl
      rw [updateRole, refused]
      exact Action.uses_throw _

end Service

/-! ## What is asked of the records -/

/-- Two responses are the same, or list the same records with the same times one behind the
other. So only records of the same time may stand in another order. -/
inductive Response.Alike : Response → Response → Prop
  | same (response : Response) : Alike response response
  | listed {records others : List PersonalToken} (perm : others.Perm records)
      (times : others.map (·.createdAt) = records.map (·.createdAt)) :
      Alike (.json 200 (.array (records.map PersonalToken.toJson)))
        (.json 200 (.array (others.map PersonalToken.toJson)))

/-- Two stores agree for an owner, who has the role of a user in them. -/
structure Store.AgreesForUser (owner : Int32) (store other : Store) : Prop extends
    Store.AgreesFor owner store other where
  user : store.HasUser owner

/-- On two stores that agree for a user an action ends with results that are related, or with the
same error, and the stores agree for the user from then on. -/
def Action.AlikeFor {α : Type} (owner : Int32) (same : α → α → Prop) (action : Action α)
    (store other : Store) : Prop :=
  Action.Alike (Store.AgreesForUser owner)
    (fun a after b after' => same a b ∧ after.AgreesForUser owner after') action store action other

/-- What a caller may know of what is found under an identifier. -/
def Caller.knows (caller : Caller) (id : Uuid) (found : Option PersonalToken) :
    Except AuthError PersonalToken :=
  match found with
  | some record =>
    if Service.ownsOrCovers caller.account record.owner .admin then .ok record
    else .error (.noTokenId id)
  | none => .error (.noTokenId id)

section Records

variable {service : Service} {occasion : Occasion} {request : Request} {owner : Int32}
  {store other : Store} {caller : Caller} {id : Uuid}

namespace Caller.IsUser

theorem knows_own (user : caller.IsUser owner) {record : PersonalToken}
    (own : record.owner = owner) : caller.knows id (some record) = .ok record := by
  simp [knows, Service.ownsOrCovers, user.account, own]

/-- What belongs to others is as good as nothing. -/
theorem knows_other (user : caller.IsUser owner) {found : Option PersonalToken}
    (foreign : ∀ record, found = some record → record.owner ≠ owner) :
    caller.knows id found = .error (.noTokenId id) := by
  cases found with
  | none => rfl
  | some record =>
    have apart : owner ≠ record.owner := (foreign record rfl).symm
    have below : Role.user.covers .admin = false := by decide
    simp [knows, Service.ownsOrCovers, user.account, user.role, apart, below]

end Caller.IsUser

namespace Store.AgreesForUser

theorem respondAlike (agrees : store.AgreesForUser owner other) (op : StoreCall)
    (keeps : op.KeepsRoles) : RespondAlike (AgreesForUser owner) store other op := by
  obtain ⟨answers, stores⟩ := agrees.respond_accounts keeps.1
  exact ⟨answers, stores, agrees.user.respond keeps⟩

/-- An operation on records keeps the accounts, and so the role of the owner. -/
theorem respondAlike_of_tokens (agrees : store.AgreesForUser owner other) {op : StoreCall}
    (side : op.side = .tokens) (alike : RespondAlike (AgreesFor owner) store other op) :
    RespondAlike (AgreesForUser owner) store other op := by
  obtain ⟨account, known, role⟩ := agrees.user
  refine ⟨alike.answers, alike.stores, account, ?_, role⟩
  rw [Store.account?, (Store.accounts_respond side).1]
  exact known

end Store.AgreesForUser

namespace Action

variable {α : Type} {same : α → α → Prop}

theorem alikeFor_pure {a : α} (agrees : store.AgreesForUser owner other) (refl : same a a) :
    (pure a : Action α).AlikeFor owner same store other :=
  alike_pure ⟨refl, agrees⟩

theorem alikeFor_throw (e : AuthError) (agrees : store.AgreesForUser owner other) :
    (throw e : Action α).AlikeFor owner same store other :=
  alike_throw e agrees

/-- What goes to the accounts is answered the same. -/
theorem alikeFor_of_uses {action : Action α} (uses : action.Uses StoreCall.KeepsRoles)
    (agrees : store.AgreesForUser owner other) (refl : ∀ a, same a a) :
    action.AlikeFor owner same store other := by
  refine (uses.alike Store.AgreesForUser.respondAlike agrees).mono ?_
  rintro _ _ a _ ⟨rfl, agrees⟩
  exact ⟨refl a, agrees⟩

end Action

namespace Service

/-- A caller sees what is found under an identifier as far as they may know of it. -/
theorem visibleToken_eq : service.visibleToken caller id =
    Action.ask (.findToken id) >>= fun found => Action.ofExcept (caller.knows id found) := by
  refine (Action.bind_assoc _ _ _).trans ?_
  congr 1
  funext found
  cases found with
  | none => rfl
  | some record =>
    change (if ownsOrCovers caller.account record.owner .admin then _ else _) = _
    rw [Caller.knows]
    split <;> rfl

/-- A record that belongs to the owner is found in both stores, and any other in neither. -/
theorem alikeFor_visibleToken_bind {α : Type} {same : α → α → Prop}
    (agrees : store.AgreesForUser owner other) (user : caller.IsUser owner)
    {f : PersonalToken → Action α}
    (own : ∀ record, record.owner = owner → store.token? id = some record →
      (f record).AlikeFor owner same store other) :
    (service.visibleToken caller id >>= f).AlikeFor owner same store other := by
  rw [visibleToken_eq, Action.bind_assoc]
  refine Action.alike_read_bind agrees Store.respond_findToken Store.respond_findToken ?_
  rcases agrees.token?_cases id with ⟨record, owned, found, found'⟩ | ⟨foreign, foreign'⟩
  · rw [found, found', user.knows_own owned]
    exact own record owned found
  · rw [user.knows_other foreign, user.knows_other foreign']
    exact Action.alikeFor_throw _ agrees

/-- A token is made for the owner in both stores, or it cannot be made in either. -/
theorem alikeFor_create (tokens : PersonalTokens) (agrees : store.AgreesForUser owner other)
    {claims : Claims} (subject : claims.subject = owner) (name expiry : String) :
    (tokens.create occasion claims name expiry).AlikeFor owner (fun created created' =>
      created' = created) store other := by
  refine Action.alike_read_bind agrees Store.respond_findActiveToken
    Store.respond_findActiveToken ?_
  -- The two stores may have different records of the name, but both have one or neither.
  rw [subject, agrees.isSome_activeToken?]
  split
  · exact Action.alike_throw _ agrees
  refine Action.alike_ofExcept_bind agrees fun expiresAt _ => ?_
  split
  · exact Action.alike_throw _ agrees
  refine Action.alike_lift_bind agrees fun issued _ => ?_
  refine Action.alike_lift_bind agrees fun hash _ => ?_
  have inserted := agrees.insertToken
    ⟨occasion.recordId, owner, name, occasion.now, expiresAt, hash, false⟩ rfl
  refine (Action.alike_ask agrees (agrees.respondAlike_of_tokens rfl inserted)).bind ?_
  rintro _ _ _ _ ⟨-, agrees⟩
  exact Action.alikeFor_pure agrees rfl

theorem alikeFor_createToken (agrees : store.AgreesForUser owner other)
    (user : caller.IsUser owner) (form : TokenForm) :
    (service.createToken occasion caller form).AlikeFor owner Response.Alike store other := by
  refine Action.alike_ofExcept_bind agrees fun _ _ => ?_
  refine (alikeFor_create _ agrees user.subject _ _).bind ?_
  rintro _ _ created _ ⟨rfl, agrees⟩
  exact Action.alikeFor_pure agrees (.same _)

theorem alikeFor_listTokens (agrees : store.AgreesForUser owner other)
    (user : caller.IsUser owner) :
    (service.listTokens caller).AlikeFor owner Response.Alike store other := by
  obtain ⟨perm, times⟩ := agrees.tokensOf
  refine Action.alike_read_bind agrees Store.respond_tokensOf Store.respond_tokensOf ?_
  rw [user.account]
  exact Action.alike_pure ⟨.listed perm times, agrees⟩

theorem alikeFor_readToken (agrees : store.AgreesForUser owner other)
    (user : caller.IsUser owner) :
    (service.readToken caller id).AlikeFor owner Response.Alike store other :=
  alikeFor_visibleToken_bind agrees user fun _ _ _ => Action.alikeFor_pure agrees (.same _)

theorem alikeFor_revokeToken (agrees : store.AgreesForUser owner other)
    (user : caller.IsUser owner) :
    (service.revokeToken caller id).AlikeFor owner Response.Alike store other := by
  refine alikeFor_visibleToken_bind agrees user fun record own found => ?_
  unfold PersonalTokens.revoke
  split
  · exact Action.alikeFor_throw _ agrees
  have revoked := agrees.revokeToken own found
  rw [← Store.token?_id found] at revoked
  rw [Action.bind_assoc]
  refine (Action.alike_ask agrees (agrees.respondAlike_of_tokens rfl revoked)).bind ?_
  rintro _ _ answer _ ⟨rfl, agrees⟩
  cases answer with
  | true => exact Action.alikeFor_pure agrees (.same _)
  | false => exact Action.alikeFor_throw _ agrees

theorem alikeFor_withSegment {vary : List Segment} {next : Uuid → Action Response}
    (agrees : store.AgreesForUser owner other)
    (h : ∀ id, (next id).AlikeFor owner Response.Alike store other) :
    (withSegment vary Uuid.parse? next).AlikeFor owner Response.Alike store other := by
  unfold withSegment
  split
  · split
    · exact h _
    · exact Action.alikeFor_pure agrees (.same _)
  · exact Action.alikeFor_pure agrees (.same _)

/-- Without a caller nothing is asked of the records. -/
theorem answer_none_of_isForTokens {endpoint : Endpoint} (forTokens : endpoint.isForTokens = true)
    (vary : List Segment) :
    service.answer occasion request none endpoint vary = throw .noCaller := by
  apply answer_none
  cases endpoint with
  | createToken | listTokens | readToken | revokeToken => rfl
  | _ => cases forTokens

/-- An endpoint answers a user alike on stores that agree for the user, or without a caller. -/
theorem alikeFor_answer {established : Option Caller} {endpoint : Endpoint} {vary : List Segment}
    (agrees : store.AgreesForUser owner other)
    (user : ∀ caller ∈ established, caller.IsUser owner) :
    (service.answer occasion request established endpoint vary).AlikeFor owner Response.Alike store
      other := by
  cases forTokens : endpoint.isForTokens with
  | false =>
    exact Action.alikeFor_of_uses (uses_accounts_answer forTokens user vary) agrees .same
  | true =>
    cases established with
    | none =>
      rw [answer_none_of_isForTokens forTokens]
      exact Action.alikeFor_throw _ agrees
    | some caller =>
      have user := user caller rfl
      cases endpoint with
      | createToken =>
        change (withJson request _ _).AlikeFor owner Response.Alike store other
        unfold withJson
        split
        · exact alikeFor_createToken agrees user _
        · exact Action.alikeFor_pure agrees (.same _)
      | listTokens => exact alikeFor_listTokens agrees user
      | readToken => exact alikeFor_withSegment agrees fun id => alikeFor_readToken agrees user
      | revokeToken => exact alikeFor_withSegment agrees fun id => alikeFor_revokeToken agrees user
      | _ => cases forTokens

theorem alikeFor_dispatch {established : Option Caller} (agrees : store.AgreesForUser owner other)
    (user : ∀ caller ∈ established, caller.IsUser owner) :
    (service.dispatch occasion request established).AlikeFor owner Response.Alike store other := by
  unfold dispatch
  split
  · exact alikeFor_answer agrees user
  · exact Action.alikeFor_pure agrees (.same _)

end Service

end Records

/-! ## At the gate -/

/-- The credential of a request, if it holds, names an owner. -/
def GateRequest.SpeaksFor (request : GateRequest) (gate : Gate) (now : Instant) (owner : Int32) :
    Prop :=
  ∀ token source claims, request.Carries token source →
    gate.issuer.validate now token = .ok claims → claims.subject = owner

section Gates

variable {gate : Gate} {now : Instant} {request : GateRequest} {owner : Int32}
  {store other : Store} {token : String} {caller : Caller}

theorem Recognized.isUser (recognized : Recognized gate store now request token caller)
    (user : store.HasUser owner) (speaks : request.SpeaksFor gate now owner) :
    caller.IsUser owner := by
  have subject := speaks _ _ _ recognized.carries recognized.valid
  have known := recognized.account
  obtain ⟨account, stored, role⟩ := user
  rw [subject, stored] at known
  obtain rfl := Option.some.inj known
  exact ⟨subject, Store.account?_id stored, role⟩

namespace Gate

/-- What the check of a personal token makes of what is found under its identifier. -/
def checkFound (gate : Gate) (now : Instant) (claims : Claims) (token : String)
    (found : Option PersonalToken) : Except AuthError Unit :=
  match found with
  | none => .error .unknownPersonalToken
  | some record =>
    if record.owner ≠ claims.subject then .error .unknownPersonalToken
    else PersonalTokens.check ⟨gate.issuer, gate.hasher⟩ now record token

theorem checkPersonal_eq (claims : Claims) : gate.checkPersonal now claims token =
    Action.askBounded (.findToken claims.id) >>= fun found =>
      Action.ofExcept (gate.checkFound now claims token found) := by
  refine congrArg (Action.askBounded (.findToken claims.id) >>= ·) (funext fun found => ?_)
  cases found with
  | none => rfl
  | some record =>
    change (if record.owner ≠ claims.subject then _ else _) = _
    rw [checkFound]
    split <;> rfl

/-- By a personal token of the owner both stores decide the same. -/
theorem personalVerdict_eq (agrees : store.AgreesFor owner other) {claims : Claims}
    (subject : claims.subject = owner) :
    gate.personalVerdict other now claims token = gate.personalVerdict store now claims token := by
  subst subject
  rcases agrees.token?_cases claims.id with ⟨record, own, found, found'⟩ | ⟨foreign, foreign'⟩
  · rw [personalVerdict_of_record found own, personalVerdict_of_record found' own]
  · rw [personalVerdict_of_unknown foreign, personalVerdict_of_unknown foreign']

theorem alikeFor_checkPersonal (agrees : store.AgreesForUser owner other) {claims : Claims}
    (subject : claims.subject = owner) :
    (gate.checkPersonal now claims token).AlikeFor owner (fun _ _ => True) store other := by
  rw [checkPersonal_eq]
  refine Action.alike_read_bind agrees Store.respond_findToken Store.respond_findToken ?_
  change Action.Alike _ _ (Action.ofExcept (gate.personalVerdict store now claims token)) _
    (Action.ofExcept (gate.personalVerdict other now claims token)) _
  rw [personalVerdict_eq agrees.toAgreesFor subject]
  exact Action.alikeFor_of_uses (Action.uses_ofExcept _) agrees fun _ => trivial

/-- The gate establishes the same user on both stores, or refuses for the same reason. -/
theorem alikeFor_examine (agrees : store.AgreesForUser owner other)
    (speaks : request.SpeaksFor gate now owner) :
    (gate.examine now request).AlikeFor owner
      (fun caller caller' => caller' = caller ∧ caller.IsUser owner) store other := by
  unfold examine
  cases hcredential : request.credential? with
  | none => exact Action.alikeFor_throw _ agrees
  | some credential =>
    obtain ⟨token, source⟩ := credential
    have carries := GateRequest.carries_iff.mpr hcredential
    refine Action.alike_ofExcept_bind agrees fun claims hclaims => ?_
    obtain ⟨valid, kind⟩ := valid_of_claimsOf hclaims
    have subject := speaks token source claims carries valid
    refine Action.alike_read_bind agrees Store.respond_findAccount Store.respond_findAccount ?_
    rw [agrees.account?]
    cases known : store.account? claims.subject with
    | none => exact Action.alikeFor_throw _ agrees
    | some account =>
      have recognized : Recognized gate store now request token ⟨claims, account, source⟩ :=
        ⟨⟨carries, valid, kind⟩, known⟩
      have user := recognized.isUser agrees.user speaks
      refine Action.alike_ofExcept_bind agrees fun _ _ => ?_
      refine Action.alike_ofExcept_bind agrees fun _ _ => ?_
      -- The policy is asked for the same roles, whether or not there was a record to look at.
      have checkRest {store other : Store} (agrees : store.AgreesForUser owner other) :
          (Action.ofExcept (checkRoles gate.policy request.path request.method
            (effectiveRoles claims account)) >>= fun _ =>
              (pure ⟨claims, account, source⟩ : Action Caller)).AlikeFor owner
            (fun caller caller' => caller' = caller ∧ caller.IsUser owner) store other :=
        Action.alike_ofExcept_bind agrees fun _ _ => Action.alikeFor_pure agrees ⟨rfl, user⟩
      split
      · refine (alikeFor_checkPersonal agrees subject).bind ?_
        rintro _ _ _ _ ⟨-, agrees⟩
        exact checkRest agrees
      · exact checkRest agrees

end Gate

end Gates

/-! ## Requests -/

section Requests

variable {service : Service} {occasion : Occasion} {request : Request} {owner : Int32}
  {store other : Store}

/-- A request of a user is answered alike on stores that agree for the user. -/
theorem Service.alikeFor_gated (agrees : store.AgreesForUser owner other)
    (speaks : (request.toGate service.settings.csrfHeader).SpeaksFor service.gate occasion.now
      owner) :
    (service.gated occasion request).AlikeFor owner Response.Alike store other := by
  unfold gated Gate.authorize
  split
  · refine alikeFor_dispatch agrees ?_
    rintro _ ⟨⟩
  · rw [Action.bind_assoc]
    refine (Gate.alikeFor_examine agrees speaks).bind ?_
    rintro _ _ caller _ ⟨⟨rfl, user⟩, agrees⟩
    refine alikeFor_dispatch agrees ?_
    rintro _ ⟨⟩
    exact user

/-- Whether a token of somebody else is to be shown or revoked, there is nothing of that name. -/
theorem Service.run_answer_other {endpoint : Endpoint} {segment : Segment} {id : Uuid}
    {caller : Caller} (asks : endpoint ∈ [.readToken, .revokeToken])
    (named : (Percent.decodeSegment? segment).bind Uuid.parse? = some id)
    (user : caller.IsUser owner)
    (foreign : ∀ record, store.token? id = some record → record.owner ≠ owner) :
    (service.answer occasion request (some caller) endpoint [segment]).run.run .healthy store =
      some (.error (.noTokenId id), store) := by
  have missing {α : Type} (next : PersonalToken → Action α) :
      (service.visibleToken caller id >>= next).run.run .healthy store =
        some (.error (.noTokenId id), store) := by
    rw [visibleToken_eq, Action.bind_assoc, Program.run_healthy]
    refine congrArg some ((Action.exec_bind _ _).trans ?_)
    rw [Action.exec_ask, Store.respond_findToken]
    simp only [user.knows_other foreign]
    rfl
  have inSegment (next : Uuid → Action Response) :
      withSegment [segment] Uuid.parse? next = next id := by
    simp only [withSegment, named]
  rcases List.mem_pair.mp asks with rfl | rfl
  · change (withSegment [segment] Uuid.parse? (service.readToken caller)).run.run _ _ = _
    rw [inSegment]
    exact missing _
  · change (withSegment [segment] Uuid.parse? (service.revokeToken caller)).run.run _ _ = _
    rw [inSegment]
    exact missing _

/-- Two runs end with responses that are alike, on stores that agree for a user. -/
def EndAlike (owner : Int32) (left right : Response × Store) : Prop :=
  left.1.Alike right.1 ∧ left.2.AgreesForUser owner right.2

theorem App.rel_handle (agrees : store.AgreesForUser owner other)
    (speaks : (request.toGate service.settings.csrfHeader).SpeaksFor service.gate occasion.now
      owner) (backend : Backend) :
    Option.Rel (EndAlike owner)
      (((App.gated (some service)).handle occasion request).run backend store)
      (((App.gated (some service)).handle occasion request).run backend other) := by
  rw [App.run_handle, App.run_handle, App.action]
  refine rel_map (Service.alikeFor_gated agrees speaks backend) ?_
  rintro _ _ (holds | agrees)
  · exact holds
  · exact ⟨.same _, agrees⟩

/-- The responses to requests that are answered one behind the other, each on the store that the
one before it left and with halves that answer as they may, and the store that is left. -/
def App.answerAll (app : App) :
    List (Backend × Occasion × Request) → Store → Option (List Response × Store)
  | [], store => some ([], store)
  | (backend, occasion, request) :: requests, store =>
    ((app.handle occasion request).run backend store).bind fun (response, between) =>
      (app.answerAll requests between).map fun (responses, after) => (response :: responses, after)

/-- Nor does a user learn of others by any number of requests. -/
theorem App.rel_answerAll {requests : List (Backend × Occasion × Request)}
    (speaks : ∀ asked ∈ requests, (asked.2.2.toGate service.settings.csrfHeader).SpeaksFor
      service.gate asked.2.1.now owner) (agrees : store.AgreesForUser owner other) :
    Option.Rel (fun left right => List.Forall₂ Response.Alike left.1 right.1 ∧
        left.2.AgreesForUser owner right.2)
      ((App.gated (some service)).answerAll requests store)
      ((App.gated (some service)).answerAll requests other) := by
  -- Each request leaves stores that agree for what follows.
  induction requests generalizing store other with
  | nil => exact .some ⟨.nil, agrees⟩
  | cons asked requests ih =>
    obtain ⟨backend, occasion, request⟩ := asked
    refine rel_bind (rel_handle agrees (speaks _ List.mem_cons_self) backend) ?_
    intro left right alike
    have later := ih (fun asked mem => speaks asked (List.mem_cons_of_mem _ mem)) alike.2
    exact rel_map later fun _ _ rest => ⟨.cons alike.1 rest.1, rest.2⟩

/-- A user cannot tell what records others have. On two stores that keep the same accounts and
the same records of the user, a request whose credential names the user is answered alike, even
if operations fail, and both stores go on to keep the same accounts and the same records of the
user. The responses are the same, but for the order in which records of the same time are listed.
So a record of somebody else is neither shown nor revoked but answered as one that does not
exist, and a personal token that names such a record is refused as one without a record. -/
theorem App.isolates (service : Service) (occasion : Occasion) (request : Request)
    (agrees : store.AgreesForUser owner other)
    (speaks : (request.toGate service.settings.csrfHeader).SpeaksFor service.gate occasion.now
      owner) :
    (∃ left right, EndAlike owner left right ∧
      ((App.gated (some service)).handle occasion request).run .healthy store = some left ∧
      ((App.gated (some service)).handle occasion request).run .healthy other = some right) ∧
    (∀ backend : Backend, Option.Rel (EndAlike owner)
      (((App.gated (some service)).handle occasion request).run backend store)
      (((App.gated (some service)).handle occasion request).run backend other)) ∧
    (∀ (endpoint : Endpoint) (segment : Segment) (id : Uuid) (caller : Caller),
      endpoint ∈ [.readToken, .revokeToken] →
      Route.find? request.method request.path = some (endpoint, [segment]) →
      (Percent.decodeSegment? segment).bind Uuid.parse? = some id →
      (service.gate.authorize occasion.now
        (request.toGate service.settings.csrfHeader)).run.run .healthy store =
          some (.ok (.allowed caller), store) →
      (∀ record, store.token? id = some record → record.owner ≠ owner) →
      ((App.gated (some service)).handle occasion request).run .healthy store =
        some ((AuthError.noTokenId id).response, store)) ∧
    ∀ (token : String) (caller : Caller),
      service.settings.isExempt request.path = false →
      Guarded service.gate store occasion.now (request.toGate service.settings.csrfHeader) token
        caller →
      caller.claims.kind = .personal →
      (∀ record, store.token? caller.claims.id = some record → record.owner ≠ owner) →
      ((App.gated (some service)).handle occasion request).run .healthy store =
        some (AuthError.unknownPersonalToken.response, store) := by
  refine ⟨?_, rel_handle agrees speaks, ?_, ?_⟩
  · have alike := rel_handle agrees speaks .healthy
    rw [Program.run_healthy, Program.run_healthy] at alike ⊢
    cases alike with
    | some alike => exact ⟨_, _, alike, rfl, rfl⟩
  · intro endpoint segment id caller asks found named allowed foreign
    obtain ⟨_, working⟩ := Gate.working_of_verdict
      (Gate.verdict_of_decision (Gate.decision_of_run_authorize allowed))
    have user := working.toRecognized.isUser agrees.user speaks
    have needs : endpoint.needsCaller = true := by
      rcases List.mem_pair.mp asks with rfl | rfl <;> rfl
    rw [run_handle, action, Service.gated_of_needsCaller found needs, Action.run_bind, allowed]
    change Option.map _ ((service.answer occasion request (some caller) endpoint
      [segment]).run.run .healthy store) = _
    rw [Service.run_answer_other asks named user foreign]
    rfl
  · intro token caller notExempt guarded personal foreign
    have subject := (guarded.toRecognized.isUser agrees.user speaks).subject
    rw [← subject] at foreign
    refine run_handle_of_denied ?_
    rw [Gate.run_authorize_healthy, Gate.decision,
      Gate.verdict_of_unknownRecord guarded personal foreign]
    change some (if service.settings.isExempt request.path then _ else _, _) = _
    rw [notExempt]
    rfl

end Requests

namespace LoginRequest

open AdminRequest (now get)

/-- The account that is stored. -/
def holder : Account := .create 1 ⟨"name", "a@b.c", "password", .user⟩ .epoch

/-- A record of somebody else. -/
def hidden : PersonalToken := ⟨.version4 0, 2, "ci", .epoch, .epoch, "hash", false⟩

/-- The path of this record. -/
def hiddenPath : String := "/api/tokens/00000000-0000-4000-8000-000000000000"

/-- The store with this record. -/
def shared : Store := (store.respond (.insertToken hidden)).2

theorem agrees_shared : shared.AgreesForUser 1 store := by
  have reachable : store.Reachable := .respond .empty _
  refine ⟨.of_reachable (reachable.respond _) reachable rfl rfl ?_, holder, rfl, rfl⟩
  intro record own
  constructor
  · intro mem
    cases mem
  · intro mem
    obtain rfl : record = hidden := List.mem_singleton.mp mem
    cases own

theorem owner_hidden (record : PersonalToken) (found : shared.token? hidden.id = some record) :
    record.owner ≠ 1 := by
  obtain rfl : hidden = record := Option.some.inj found
  decide

theorem path_hidden (token : String) : (get hiddenPath token).path = hiddenPath := by
  change Percent.decodePath (String.ofList (hiddenPath.toList.takeWhile _)) = _
  decide +kernel

theorem notExempt_hidden (token : String) :
    service.settings.isExempt (get hiddenPath token).path = false := by
  rw [path_hidden]
  decide +kernel

section Issued

variable {kind : TokenKind} {id : Uuid} {issued : IssuedToken}

/-- A token for ten minutes, of any kind but one, is guarded in the header of a request. -/
theorem guarded_get
    (h : service.issuer.issue now kind 1 id (.ofSeconds 600) [.user] = .ok issued)
    (notRefresh : kind ≠ .refresh) :
    Guarded service.gate shared now
      ((get hiddenPath issued.token).toGate service.settings.csrfHeader) issued.token
      ⟨issued.claims, holder, .header⟩ := by
  obtain ⟨hsign, -, -, -, -, -, -, -, hend⟩ := TokenIssuer.issues_of_issue h
  have hend : issued.claims.expires.toInt = 700 := hend
  have carries := Request.carries_of_sign hsign
    (AdminRequest.rawHeader?_get hiddenPath issued.token) service.settings.csrfHeader
  have known : shared.account? 1 = some holder := rfl
  exact ⟨AdminRequest.standing_of_issue service.gate rfl h notRefresh (by omega) known rfl rfl
    carries, by simp⟩

theorem speaksFor_get
    (h : service.issuer.issue now kind 1 id (.ofSeconds 600) [.user] = .ok issued)
    (notRefresh : kind ≠ .refresh) :
    ((get hiddenPath issued.token).toGate service.settings.csrfHeader).SpeaksFor service.gate now
      1 := by
  have guarded := guarded_get h notRefresh
  intro token source claims carries valid
  have same := (GateRequest.carries_iff.mp guarded.carries).symm.trans
    (GateRequest.carries_iff.mp carries)
  obtain ⟨rfl, rfl⟩ := Prod.mk.inj (Option.some.inj same)
  obtain rfl := Except.ok.inj (guarded.valid.symm.trans valid)
  exact (TokenIssuer.issues_of_issue h).subject

/-- With an access token the gate lets the request pass. -/
theorem allowed_hidden
    (h : service.issuer.issue now .access 1 id (.ofSeconds 600) [.user] = .ok issued) :
    (service.gate.authorize now ((get hiddenPath issued.token).toGate
      service.settings.csrfHeader)).run.run .healthy shared =
        some (.ok (.allowed ⟨issued.claims, holder, .header⟩), shared) := by
  have issues := TokenIssuer.issues_of_issue h
  refine Gate.run_authorize_of_working ⟨guarded_get h nofun, ?_⟩ (notExempt_hidden _) ?_
  · intro personal
    rw [issues.kind] at personal
    cases personal
  · have roles : Gate.effectiveRoles issued.claims holder = [.user] := by
      rw [Gate.effectiveRoles, issues.roles]
      decide
    change Gate.checkRoles service.gate.policy (get hiddenPath issued.token).path "GET"
      (Gate.effectiveRoles issued.claims holder) = _
    rw [roles, path_hidden]
    decide +kernel

end Issued

/-- The holder of the account asks for the record of somebody else, and is told that it does not
exist, as if it were not there. A personal token that names this record is refused. -/
theorem isolates_shared : ∃ access personal : String,
    (∃ left right, EndAlike 1 left right ∧
      ((App.gated (some service)).handle occasion (get hiddenPath access)).run .healthy shared =
        some left ∧
      ((App.gated (some service)).handle occasion (get hiddenPath access)).run .healthy store =
        some right) ∧
    ((App.gated (some service)).handle occasion (get hiddenPath access)).run .healthy shared =
      some ((AuthError.noTokenId hidden.id).response, shared) ∧
    ((App.gated (some service)).handle occasion (get hiddenPath personal)).run .healthy shared =
      some (AuthError.unknownPersonalToken.response, shared) := by
  obtain ⟨access, haccess⟩ : ∃ issued,
      service.issuer.issue now .access 1 .nil (.ofSeconds 600) [.user] = .ok issued := ⟨_, rfl⟩
  obtain ⟨personal, hpersonal⟩ : ∃ issued,
      service.issuer.issue now .personal 1 hidden.id (.ofSeconds 600) [.user] = .ok issued :=
    ⟨_, rfl⟩
  obtain ⟨-, -, hid, hkind, -⟩ :=
    TokenIssuer.claimsFor?_eq_some (TokenIssuer.issue_eq_ok hpersonal).1
  have hfound : Route.find? (get hiddenPath access.token).method
      (get hiddenPath access.token).path =
        some (.readToken, ["00000000-0000-4000-8000-000000000000".toList]) := by
    change Route.find? "GET" _ = _
    rw [path_hidden]
    decide +kernel
  obtain ⟨alike, -, reads, -⟩ :=
    App.isolates service occasion _ agrees_shared (speaksFor_get haccess nofun)
  obtain ⟨-, -, -, refuses⟩ :=
    App.isolates service occasion _ agrees_shared (speaksFor_get hpersonal nofun)
  refine ⟨access.token, personal.token, alike, ?_, ?_⟩
  · exact reads .readToken _ _ _ List.mem_cons_self hfound (by decide +kernel)
      (allowed_hidden haccess) owner_hidden
  · refine refuses _ _ (notExempt_hidden _) (guarded_get hpersonal nofun) hkind ?_
    rw [hid]
    exact owner_hidden

end LoginRequest

end SessionAuth
