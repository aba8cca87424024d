import SessionAuth.Proofs.Http.Endpoint
import SessionAuth.Proofs.Http.Route
import SessionAuth.Proofs.Outage

/-!
# What a request can do to the store

A request serves one purpose, and is entitled to it by its method and path, its body, the
caller and the records that it names. Behind the gate it changes the store in one of a few
ways or not at all, and each way is one that it is entitled to.

## Main definitions

* `Service.Admits` — the gate lets a request pass for a caller
* `Purpose`, `Entitled` — what requests are for, and which ones may have it done
* `Effect` — the ways in which a request changes the store

## Main results

* `Service.effect_answer` — what an endpoint does is an effect
* `App.effect_handle` — what a request behind the gate does is an effect
-/

namespace SessionAuth

/-- The gate lets a request pass for a caller. -/
def Service.Admits (service : Service) (store : Store) (now : Instant) (request : Request)
    (caller : Caller) : Prop :=
  ∃ token, Admitted service.gate store now (request.toGate service.settings.csrfHeader) token
    caller

/-- What a request is for, with the account or record that is concerned. -/
inductive Purpose where
  | register
  | login (account : Account)
  | refresh (account : Account)
  | logout (account : Account)
  | updateStatus (target : Account)
  | updateRole (target : Account)
  | createToken (owner : Int32)
  | revokeToken (record : PersonalToken)

section Effects

variable (service : Service) (occasion : Occasion) (request : Request) (store : Store)

/-- A request asks for something and has passed what stands before it. -/
inductive Entitled : Purpose → Prop
  | register (asks : request.Asks .register []) : Entitled .register
  | login {form : LoginForm} {account : Account} (asks : request.Asks .login [])
      (body : request.json LoginForm.ofJson? = .ok form) (email : form.email = account.email)
      (verified : service.hasher.verifyPassword form.password account.passwordHash = .ok true) :
      Entitled (.login account)
  | refresh {presented expected : String} {claims : Claims} {account : Account}
      (asks : request.Asks .refresh [])
      (presents : Service.presentedRefresh request = .ok presented)
      (valid : service.issuer.validate occasion.now presented = .ok claims)
      (kind : claims.kind = .refresh) (subject : claims.subject = account.id)
      (stored : account.refreshHash = some expected)
      (verified : service.hasher.verifyToken presented expected = true) :
      Entitled (.refresh account)
  | logout {caller : Caller} (asks : request.Asks .logout [])
      (admits : service.Admits store occasion.now request caller) :
      Entitled (.logout caller.account)
  | updateStatus {caller : Caller} {segment : Segment} {target : Account}
      (asks : request.Asks .updateStatus [segment])
      (named : (Percent.decodeSegment? segment).bind Decimal.int32? = some target.id)
      (admits : service.Admits store occasion.now request caller)
      (above : caller.account.role = .super ∨ Role.admin.rank ≤ caller.account.role.rank ∧
        target.role.rank < caller.account.role.rank) :
      Entitled (.updateStatus target)
  | updateRole {caller : Caller} {segment : Segment} {target : Account}
      (asks : request.Asks .updateRole [segment])
      (named : (Percent.decodeSegment? segment).bind Decimal.int32? = some target.id)
      (admits : service.Admits store occasion.now request caller)
      (highest : caller.account.role = .super) :
      Entitled (.updateRole target)
  | createToken {caller : Caller} (asks : request.Asks .createToken [])
      (admits : service.Admits store occasion.now request caller) :
      Entitled (.createToken caller.account.id)
  | revokeToken {caller : Caller} {segment : Segment} {record : PersonalToken}
      (asks : request.Asks .revokeToken [segment])
      (named : (Percent.decodeSegment? segment).bind Uuid.parse? = some record.id)
      (admits : service.Admits store occasion.now request caller)
      (allowed : record.owner = caller.account.id ∨
        Role.admin.rank ≤ caller.account.role.rank) :
      Entitled (.revokeToken record)

/-- The ways in which a request changes a store. -/
inductive Effect : Store → Prop
  | nothing : Effect store
  | register {new : NewAccount} (entitled : Entitled service occasion request store .register)
      (role : new.role = .user) (free : store.accountByEmail? new.email = none) :
      Effect (store.respond (.createAccount new occasion.now)).2
  | registerAndLogin {new : NewAccount} {hash : String}
      (entitled : Entitled service occasion request store .register) (role : new.role = .user)
      (free : store.accountByEmail? new.email = none) :
      Effect ((store.respond (.createAccount new occasion.now)).2.modifyAccount (store.lastId + 1)
        fun account => { account with refreshHash := some hash, lastLogin := some occasion.now })
  | login {account : Account} {hash : String}
      (entitled : Entitled service occasion request store (.login account))
      (found : store.accountByEmail? account.email = some account) :
      Effect (store.modifyAccount account.id fun account =>
        { account with refreshHash := some hash, lastLogin := some occasion.now })
  | refresh {account : Account} {hash : String}
      (entitled : Entitled service occasion request store (.refresh account))
      (found : store.account? account.id = some account) :
      Effect (store.modifyAccount account.id fun account =>
        { account with refreshHash := some hash, lastRefresh := some occasion.now })
  | logout {account : Account}
      (entitled : Entitled service occasion request store (.logout account))
      (found : store.account? account.id = some account) :
      Effect (store.modifyAccount account.id fun account =>
        { account with refreshHash := none, lastLogout := some occasion.now })
  | updateStatus {target : Account} {change : StatusChange}
      (entitled : Entitled service occasion request store (.updateStatus target))
      (found : store.account? target.id = some target) :
      Effect (store.modifyAccount target.id fun account =>
        { account with
          banned := change.banned.getD account.banned
          locked := change.locked.getD account.locked })
  | updateRole {target : Account} {role : Role}
      (entitled : Entitled service occasion request store (.updateRole target))
      (found : store.account? target.id = some target) :
      Effect (store.modifyAccount target.id fun account => { account with role := role })
  | createToken {record : PersonalToken} {after : Store}
      (entitled : Entitled service occasion request store (.createToken record.owner))
      (drawn : record.id = occasion.recordId) (active : record.revoked = false)
      (inserted : store.insertToken record = (.ok (), after)) : Effect after
  | revokeToken {record : PersonalToken}
      (entitled : Entitled service occasion request store (.revokeToken record))
      (found : store.token? record.id = some record) : Effect (store.revokeToken record.id).2

end Effects

theorem Role.eq_super_of_rank {role : Role} (h : Role.super.rank ≤ role.rank) :
    role = .super := by
  cases role with
  | super => rfl
  | _ => exact absurd h (by decide)

/-- A new account has a new email address and the next identifier. -/
theorem Store.created {store : Store} {new : NewAccount} {now : Instant} {account : Account}
    (h : (store.respond (.createAccount new now)).1 = .ok account) :
    store.accountByEmail? new.email = none ∧ account.id = store.lastId + 1 := by
  obtain ⟨free, rfl, -⟩ := createAccount_eq_ok_iff.mp (Prod.ext h rfl)
  exact ⟨free, rfl⟩

/-- What comes of an account, once it is known whether the password belongs to it. -/
def Account.identified (account : Account) : Except Bcrypt.Fault Bool → Except AuthError Account
  | .error fault => .error (.passwordNotVerified fault)
  | .ok false => .error .wrongCredentials
  | .ok true => account.checkStatus.map fun _ => account

/-- What authentication comes to; nothing is changed. -/
theorem Sessions.exec_authenticate_eq (sessions : Sessions) (email password : String)
    (store : Store) : (sessions.authenticate email password).exec store =
      (match store.accountByEmail? email with
        | none => .error .wrongCredentials
        | some account =>
          account.identified (sessions.hasher.verifyPassword password account.passwordHash),
        store) := by
  unfold authenticate
  rw [Action.exec_bind, Action.exec_ask, Store.respond_findByEmail]
  cases store.accountByEmail? email with
  | none => rfl
  | some account =>
    simp only
    cases sessions.hasher.verifyPassword password account.passwordHash with
    | error fault => rfl
    | ok belongs =>
      cases belongs with
      | false => rfl
      | true =>
        simp only [Account.identified]
        cases account.checkStatus with
        | error e => rfl
        | ok _ => rfl

/-- Only the account itself is identified, and only by its password. -/
theorem Account.of_identified {account other : Account} {belongs : Except Bcrypt.Fault Bool}
    (h : account.identified belongs = .ok other) : account = other ∧ belongs = .ok true := by
  unfold identified at h
  split at h
  · cases h
  · cases h
  · cases hstatus : account.checkStatus with
    | error e =>
      rw [hstatus] at h
      cases h
    | ok _ =>
      rw [hstatus] at h
      exact ⟨Except.ok.inj h, rfl⟩

namespace Service

variable {service : Service} {occasion : Occasion} {request : Request} {store : Store}
  {caller : Caller}

/-! ## Endpoints -/

/-- What a login leaves: the store as it was, or with the session of the account. -/
inductive LoginEffect (now : Instant) (id : Int32) (store : Store) : Store → Prop
  | nothing : LoginEffect now id store store
  | recorded (hash : String) : LoginEffect now id store
      (store.modifyAccount id fun account =>
        { account with refreshHash := some hash, lastLogin := some now })

theorem loginEffect_login (sessions : Sessions) (occasion : Occasion) (account : Account)
    (store : Store) : LoginEffect occasion.now account.id store
      ((sessions.login occasion account).exec store).2 := by
  unfold Sessions.login
  apply Action.leaves_lift_bind .nothing
  intro tokens _
  apply Action.leaves_lift_bind .nothing
  intro hash _
  apply Action.leaves_ask_bind .nothing
  intro _ _
  rw [Action.exec_pure, Store.respond_recordLogin]
  split
  · exact .recorded hash
  · exact .nothing

/-- An account is authenticated by its address and a password that verifies against its hash;
nothing is changed. -/
theorem exec_authenticate (sessions : Sessions) (email password : String) (store : Store) :
    ((sessions.authenticate email password).exec store).2 = store ∧
      ∀ account, ((sessions.authenticate email password).exec store).1 = .ok account →
        store.accountByEmail? email = some account ∧
          sessions.hasher.verifyPassword password account.passwordHash = .ok true := by
  rw [Sessions.exec_authenticate_eq]
  refine ⟨rfl, fun account h => ?_⟩
  cases found : store.accountByEmail? email with
  | none =>
    rw [found] at h
    cases h
  | some loaded =>
    simp only [found] at h
    obtain ⟨rfl, verified⟩ := Account.of_identified h
    exact ⟨rfl, verified⟩

theorem effect_login (asks : request.Asks .login []) {form : LoginForm}
    (body : request.json LoginForm.ofJson? = .ok form) :
    Effect service occasion request store ((service.login occasion form).exec store).2 := by
  obtain ⟨reads, authenticated⟩ :=
    exec_authenticate service.sessions form.email form.password store
  unfold login
  apply Action.leaves_ofExcept_bind .nothing
  intro _ _
  apply Action.leaves_bind reads .nothing
  intro account haccount
  obtain ⟨found, verified⟩ := authenticated account haccount
  rw [Action.exec_bind_ofExcept_snd]
  have hlogin := loginEffect_login service.sessions occasion account store
  generalize ((service.sessions.login occasion account).exec store).2 = after at hlogin ⊢
  cases hlogin with
  | nothing => exact .nothing
  | recorded hash =>
    -- The account that was found under the address of the form has that address.
    have email : account.email = form.email := by simpa using List.find?_some found
    exact .login (.login asks body email.symm verified) (by rw [email, found])

theorem effect_register (asks : request.Asks .register []) (form : RegistrationForm) :
    Effect service occasion request store ((service.register occasion form).exec store).2 := by
  unfold register
  apply Action.leaves_ofExcept_bind .nothing
  intro _ _
  apply Action.leaves_lift_bind .nothing
  intro hash _
  apply Action.leaves_ask_bind .nothing
  intro account created
  rw [Action.exec_bind_ofExcept_snd]
  obtain ⟨free, hid⟩ := Store.created created
  have hlogin := loginEffect_login service.sessions occasion account
    (store.respond (.createAccount ⟨form.username, form.email, hash, .user⟩ occasion.now)).2
  generalize ((service.sessions.login occasion account).exec _).2 = after at hlogin ⊢
  cases hlogin with
  | nothing => exact .register (.register asks) rfl free
  | recorded hash =>
    rw [hid]
    exact .registerAndLogin (.register asks) rfl free

theorem refreshHash_of_acceptedHash {account : Account} {expected : String}
    (h : Sessions.acceptedHash account = .ok expected) : account.refreshHash = some expected := by
  unfold Sessions.acceptedHash at h
  cases hstored : account.refreshHash with
  | none =>
    rw [hstored] at h
    cases h
  | some hash =>
    simp only [hstored] at h
    split at h
    · cases h
    · cases h
      rfl

/-- An exchange leaves the store as it was, or with the hash of a new token for the account
that the presented one names. -/
theorem effect_refresh (asks : request.Asks .refresh []) :
    Effect service occasion request store ((service.refresh occasion request).exec store).2 := by
  unfold refresh
  apply Action.leaves_ofExcept_bind .nothing
  intro presented presents
  rw [Action.exec_bind_ofExcept_snd]
  unfold Sessions.exchange
  apply Action.leaves_ofExcept_bind .nothing
  intro claims valid
  by_cases kind : claims.kind = .refresh
  · rw [if_neg (not_not_intro kind)]
    apply Action.leaves_ask_bind .nothing
    intro account? answered
    obtain rfl := Except.ok.inj answered
    rw [Store.respond_findAccount]
    cases found : store.account? claims.subject with
    | none => exact .nothing
    | some account =>
      apply Action.leaves_ofExcept_bind .nothing
      intro _ _
      rw [Action.exec_bind_pure_snd]
      unfold Sessions.refresh
      apply Action.leaves_ofExcept_bind .nothing
      intro expected accepted
      cases verified : service.sessions.hasher.verifyToken presented expected with
      | false => exact .nothing
      | true =>
        apply Action.leaves_lift_bind .nothing
        intro tokens _
        apply Action.leaves_lift_bind .nothing
        intro hash _
        apply Action.leaves_ask_bind .nothing
        intro swapped _
        have subject : account.id = claims.subject := Store.account?_id found
        have hid : store.account? account.id = some account := by rw [subject, found]
        -- Whether the hash was swapped decides the response, not what is left of the store.
        have same (swapped : Bool) (after : Store) :
            (Action.exec (if (!swapped) = true then throw .refreshTokenUsed else pure tokens)
              after).2 = after := by
          cases swapped <;> rfl
        refine (congrArg (Effect service occasion request store) (same swapped _)).mpr ?_
        rw [Store.respond_swapRefreshHash, hid]
        have stored := refreshHash_of_acceptedHash accepted
        simp only [stored, if_true]
        exact .refresh (.refresh asks presents valid kind subject.symm stored verified) hid
  · rw [if_pos kind]
    exact .nothing

theorem effect_logout (asks : request.Asks .logout [])
    (admits : service.Admits store occasion.now request caller) :
    Effect service occasion request store
      ((service.logout occasion caller).exec store).2 := by
  unfold logout Sessions.logout
  rw [Action.exec_bind_pure_snd, Action.exec_ask, Store.respond_recordLogout]
  split
  · obtain ⟨token, admitted⟩ := admits
    refine .logout (.logout asks ⟨token, admitted⟩) ?_
    rw [Store.account?_id admitted.account, admitted.account]
  · exact .nothing

theorem rank_of_requireRole {role : Role} {u : Unit} (h : requireRole caller role = .ok u) :
    role.rank ≤ caller.account.role.rank := by
  unfold requireRole at h
  split at h
  · next covers => exact Role.covers_iff.mp covers
  · cases h

theorem effect_updateStatus {segment : Segment} {id : Int32}
    (asks : request.Asks .updateStatus [segment])
    (named : (Percent.decodeSegment? segment).bind Decimal.int32? = some id)
    (admits : service.Admits store occasion.now request caller) (change : StatusChange) :
    Effect service occasion request store ((updateStatus caller id change).exec store).2 := by
  unfold updateStatus
  apply Action.leaves_ofExcept_bind .nothing
  intro _ hrole
  apply Action.leaves_ask_bind .nothing
  intro target? answered
  obtain rfl := Except.ok.inj answered
  rw [Store.respond_findAccount]
  cases found : store.account? id with
  | none => exact .nothing
  | some target =>
    simp only
    by_cases outranked : caller.account.role ≠ .super ∧
        caller.account.role.rank ≤ target.role.rank
    · rw [if_pos outranked]
      exact .nothing
    · rw [if_neg outranked, Action.exec_bind_pure_snd, Action.exec_ask,
        Store.respond_updateStatus, found]
      obtain rfl := Store.account?_id found
      refine .updateStatus (.updateStatus asks named admits ?_) found
      -- The comparison of ranks does not count for the highest role.
      by_cases highest : caller.account.role = .super
      · exact .inl highest
      · exact .inr ⟨rank_of_requireRole hrole,
          Nat.lt_of_not_le fun above => outranked ⟨highest, above⟩⟩

theorem effect_updateRole {segment : Segment} {id : Int32}
    (asks : request.Asks .updateRole [segment])
    (named : (Percent.decodeSegment? segment).bind Decimal.int32? = some id)
    (admits : service.Admits store occasion.now request caller) (change : RoleChange) :
    Effect service occasion request store ((updateRole caller id change).exec store).2 := by
  unfold updateRole
  apply Action.leaves_ofExcept_bind .nothing
  intro _ hrole
  rw [Action.exec_bind_pure_snd, Action.exec_ask, Store.respond_updateRole]
  split
  · exact .nothing
  · next target found =>
    obtain rfl := Store.account?_id found
    have highest := Role.eq_super_of_rank (rank_of_requireRole hrole)
    exact .updateRole (.updateRole asks named admits highest) found

theorem effect_createToken (asks : request.Asks .createToken [])
    (admits : service.Admits store occasion.now request caller) (form : TokenForm) :
    Effect service occasion request store
      ((service.createToken occasion caller form).exec store).2 := by
  -- The record is made for the subject of the claims, which is the account of the caller.
  have owner : caller.claims.subject = caller.account.id := by
    obtain ⟨_, admitted⟩ := admits
    exact (Store.account?_id admitted.account).symm
  unfold createToken
  apply Action.leaves_ofExcept_bind .nothing
  intro _ _
  rw [Action.exec_bind_pure_snd]
  unfold PersonalTokens.create
  apply Action.leaves_ask_bind .nothing
  intro taken? _
  rw [Store.respond_findActiveToken]
  cases taken? with
  | some taken => exact .nothing
  | none =>
    apply Action.leaves_ofExcept_bind .nothing
    intro expiry _
    by_cases past : expiry ≤ occasion.now
    · rw [if_pos past]
      exact .nothing
    · rw [if_neg past]
      apply Action.leaves_lift_bind .nothing
      intro issued _
      apply Action.leaves_lift_bind .nothing
      intro hash _
      apply Action.leaves_ask_bind .nothing
      intro _ inserted
      refine .createToken ?_ rfl rfl (Prod.ext inserted rfl)
      rw [owner]
      exact .createToken asks admits

/-- A record is visible to its owner and to administrators; to look at it changes nothing. -/
theorem exec_visibleToken (service : Service) (caller : Caller) (id : Uuid) (store : Store) :
    ((service.visibleToken caller id).exec store).2 = store ∧
      ∀ record, ((service.visibleToken caller id).exec store).1 = .ok record →
        store.token? id = some record ∧
          (record.owner = caller.account.id ∨ Role.admin.rank ≤ caller.account.role.rank) := by
  unfold visibleToken PersonalTokens.read
  rw [Action.exec_bind, Action.exec_bind, Action.exec_ask, Store.respond_findToken]
  cases found : store.token? id with
  | none => exact ⟨rfl, fun _ h => by cases h⟩
  | some record =>
    simp only [Action.exec_pure]
    cases allowed : ownsOrCovers caller.account record.owner .admin with
    | false => exact ⟨rfl, fun _ h => by cases h⟩
    | true =>
      refine ⟨rfl, fun _ h => ?_⟩
      cases h
      refine ⟨rfl, ?_⟩
      rcases Bool.or_eq_true_iff.mp allowed with own | covers
      · exact .inl (of_decide_eq_true own).symm
      · exact .inr (Role.covers_iff.mp covers)

theorem effect_revokeToken {segment : Segment} {id : Uuid}
    (asks : request.Asks .revokeToken [segment])
    (named : (Percent.decodeSegment? segment).bind Uuid.parse? = some id)
    (admits : service.Admits store occasion.now request caller) :
    Effect service occasion request store ((service.revokeToken caller id).exec store).2 := by
  obtain ⟨reads, visible⟩ := exec_visibleToken service caller id store
  unfold revokeToken
  apply Action.leaves_bind reads .nothing
  intro record hrecord
  obtain ⟨found, allowed⟩ := visible record hrecord
  rw [Action.exec_bind_pure_snd]
  unfold PersonalTokens.revoke
  cases revoked : record.revoked with
  | true => exact .nothing
  | false =>
    apply Action.leaves_ask_bind .nothing
    intro answer _
    -- Whether the record was revoked before decides the response alone.
    have same : (Action.exec (if (!answer) = true then throw .alreadyRevoked else pure ())
        (store.respond (.revokeToken record.id)).2).2 =
          (store.respond (.revokeToken record.id)).2 := by
      cases answer <;> rfl
    refine (congrArg (Effect service occasion request store) same).mpr ?_
    rw [Store.respond_revokeToken]
    obtain rfl := Store.token?_id found
    exact .revokeToken (.revokeToken asks named admits allowed) found

/-! ## Answers -/

section Shared

variable {α : Type} {leaves : Store → Prop} {next : α → Action Response}

theorem leaves_withJson {read? : Json.Value → Option α} (here : leaves store)
    (h : ∀ body, request.json read? = .ok body → leaves ((next body).exec store).2) :
    leaves ((withJson request read? next).exec store).2 :=
  withJson_rule (P := fun action => leaves (action.exec store).2) (fun _ => here) h

theorem leaves_withSegment {vary : List Segment} {read? : List Char → Option α}
    (here : leaves store)
    (h : ∀ segment a, vary = [segment] → (Percent.decodeSegment? segment).bind read? = some a →
      leaves ((next a).exec store).2) :
    leaves ((withSegment vary read? next).exec store).2 :=
  withSegment_rule (P := fun action => leaves (action.exec store).2) here h

theorem leaves_withCaller {established : Option Caller} {next : Caller → Action Response}
    (here : leaves store)
    (h : ∀ caller, established = some caller → leaves ((next caller).exec store).2) :
    leaves ((withCaller established next).exec store).2 :=
  withCaller_rule (P := fun action => leaves (action.exec store).2) (fun _ => here) h

end Shared

/-- What an endpoint does with a request that is for it is one of the effects, and the caller
in it is the one that was established. -/
theorem effect_answer {established : Option Caller} {endpoint : Endpoint} {vary : List Segment}
    (asks : request.Asks endpoint vary)
    (admits : ∀ caller, established = some caller →
      service.Admits store occasion.now request caller) :
    Effect service occasion request store
      ((service.answer occasion request established endpoint vary).exec store).2 := by
  cases endpoint with
  | health => exact .nothing
  | login => exact leaves_withJson .nothing fun form body => effect_login asks body
  | register => exact leaves_withJson .nothing fun form _ => effect_register asks form
  | refresh => exact effect_refresh asks
  | logout => exact leaves_withCaller .nothing fun caller h => effect_logout asks (admits caller h)
  | me => exact leaves_withCaller .nothing fun _ _ => .nothing
  | updateStatus =>
    apply leaves_withCaller .nothing
    intro caller h
    apply leaves_withSegment .nothing
    intro segment id hvary named
    apply leaves_withJson .nothing
    intro change _
    exact effect_updateStatus (hvary ▸ asks) named (admits caller h) change
  | updateRole =>
    apply leaves_withCaller .nothing
    intro caller h
    apply leaves_withSegment .nothing
    intro segment id hvary named
    apply leaves_withJson .nothing
    intro change _
    exact effect_updateRole (hvary ▸ asks) named (admits caller h) change
  | createToken =>
    apply leaves_withCaller .nothing
    intro caller h
    exact leaves_withJson .nothing fun form _ => effect_createToken asks (admits caller h) form
  | listTokens => exact leaves_withCaller .nothing fun _ _ => .nothing
  | readToken =>
    apply leaves_withCaller .nothing
    intro caller _
    apply leaves_withSegment .nothing
    intro _ id _ _
    unfold readToken
    rw [Action.exec_bind_pure_snd, (exec_visibleToken service caller id store).1]
    exact .nothing
  | revokeToken =>
    apply leaves_withCaller .nothing
    intro caller h
    apply leaves_withSegment .nothing
    intro segment id hvary named
    exact effect_revokeToken (hvary ▸ asks) named (admits caller h)

theorem effect_dispatch {established : Option Caller}
    (admits : ∀ caller, established = some caller →
      service.Admits store occasion.now request caller) :
    Effect service occasion request store
      ((service.dispatch occasion request established).exec store).2 := by
  unfold dispatch
  split
  · next endpoint vary found => exact effect_answer (Request.asks_of_find? found) admits
  · exact .nothing

theorem effect_gated (answers : ∀ subject resource action, ∃ allowed,
      service.policy.enforce subject resource action = .ok allowed) :
    Effect service occasion request store ((service.gated occasion request).exec store).2 := by
  unfold gated Gate.authorize
  cases service.gate.settings.isExempt (request.toGate service.settings.csrfHeader).path with
  -- No caller is established on an exempt path.
  | true => exact effect_dispatch (fun _ h => by cases h)
  | false =>
    rw [if_neg (by decide), Action.exec_bind, Action.exec_bind, Gate.exec_examine]
    cases verdict : service.gate.verdict store occasion.now
        (request.toGate service.settings.csrfHeader) with
    | error e => exact .nothing
    | ok caller =>
      apply effect_dispatch
      intro other h
      obtain rfl := Option.some.inj h
      exact (Gate.verdict_eq_ok_iff answers store occasion.now _ _).mp verdict

end Service

/-- Whatever a request behind the gate does to a store that answers is one of the effects. -/
theorem App.effect_handle {service : Service} {occasion : Occasion} {request : Request}
    {store after : Store} {response : Response}
    (answers : ∀ subject resource action, ∃ allowed,
      service.policy.enforce subject resource action = .ok allowed)
    (h : ((App.gated (some service)).handle occasion request).run .healthy store =
      some (response, after)) :
    Effect service occasion request store after := by
  rw [Program.run_healthy, exec_handle] at h
  obtain ⟨-, rfl⟩ := Prod.mk.inj (Option.some.inj h)
  exact Service.effect_gated answers

end SessionAuth
