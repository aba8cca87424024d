import SessionAuth.Proofs.Http.Mediation
import SessionAuth.Proofs.Outcome
import SessionAuth.Proofs.PersonalToken.Lifetime
import SessionAuth.Proofs.Secret
import SessionAuth.Proofs.Session.Grant
import SessionAuth.Proofs.Session.Turns

/-!
# All or nothing

An operation of the service that fails leaves the store as it was, down to the number of the last
account. Each of them changes the store once and last, so that nothing can fail behind a change,
and what it changes belongs to one account or one record of a personal token. A session keeps the
hash of the refresh token that is handed out with it.

## Main definitions

* `AllOrNothing` — a failure leaves the store, and a success what it is meant to leave
* `Store.ChangesAccount`, `Store.AddsToken`, `Store.RevokesToken` — one account or record is
  changed, and everything else is as before
* `Store.Atomic`, `Sessions.Atomic`, `PersonalTokens.Atomic` — every operation is all or nothing

## Main results

* `Sessions.settles_exchange`, `PersonalTokens.settles_create` — what an operation comes to, however
  the store answers
* `Service.refreshes_or_denies` — an exchange over HTTP succeeds, or leaves the store
* `Service.all_or_nothing` — all operations are atomic
-/

namespace SessionAuth

variable {α : Type}

/-- What comes of an operation is all or nothing: a failure leaves the store as it was, and a
success leaves what it is meant to. -/
inductive AllOrNothing (store : Store) (done : α → Store → Prop) :
    Except AuthError α → Store → Prop
  | nothing (e : AuthError) : AllOrNothing store done (.error e) store
  | all {a : α} {after : Store} (h : done a after) : AllOrNothing store done (.ok a) after

theorem AllOrNothing.mono {store after : Store} {done other : α → Store → Prop}
    {result : Except AuthError α} (h : AllOrNothing store done result after)
    (weaker : ∀ a after, done a after → other a after) :
    AllOrNothing store other result after := by
  cases h with
  | nothing e => exact .nothing e
  | all h => exact .all (weaker _ _ h)

/-- What a condition on results and stores says may be weakened. -/
theorem Action.Ensures.mono {action : Action α} {store : Store}
    {post other : Except AuthError α → Store → Prop} (h : action.Ensures store post)
    (weaker : ∀ result after, post result after → other result after) :
    action.Ensures store other :=
  fun backend result after run => weaker result after (h backend result after run)

/-! ## Changes -/

namespace Store

/-- One account is changed, and everything else is as before. -/
structure ChangesAccount (store : Store) (id : Int32) (change : Account → Account)
    (after : Store) : Prop where
  known : ∃ account, store.account? id = some account ∧ after.account? id = some (change account)
  others : ∀ other, other ≠ id → after.account? other = store.account? other
  accounts : after.accounts =
    store.accounts.map fun account => if account.id = id then change account else account
  tokens : after.tokens = store.tokens
  lastId : after.lastId = store.lastId

/-- One record is kept besides those that were there, and everything else is as before. A record
under an identifier that was not in use comes last. -/
structure AddsToken (store : Store) (record : PersonalToken) (after : Store) : Prop where
  added : after.token? record.id = some record
  others : ∀ key, key ≠ record.id → after.token? key = store.token? key
  tokens : store.token? record.id = none → after.tokens = store.tokens ++ [record]
  accounts : after.accounts = store.accounts
  lastId : after.lastId = store.lastId

/-- One record is revoked that was not, and everything else is as before. -/
structure RevokesToken (store : Store) (key : Uuid) (after : Store) : Prop where
  revoked : ∃ record, store.token? key = some record ∧ record.revoked = false ∧
    after.token? key = some { record with revoked := true }
  others : ∀ other, other ≠ key → after.token? other = store.token? other
  tokens : after.tokens =
    store.tokens.map fun record =>
      if record.id = key then { record with revoked := true } else record
  accounts : after.accounts = store.accounts
  lastId : after.lastId = store.lastId

variable {store after : Store} {id : Int32} {account : Account} {change : Account → Account}

theorem changesAccount_modifyAccount (keeps : ∀ account, (change account).id = account.id)
    (found : store.account? id = some account) :
    store.ChangesAccount id change (store.modifyAccount id change) where
  known := ⟨account, found, by rw [account?_modifyAccount_self keeps, found]; rfl⟩
  others _ h := account?_modifyAccount_of_ne keeps h
  accounts := rfl
  tokens := rfl
  lastId := rfl

theorem ChangesAccount.eq_modifyAccount (changes : store.ChangesAccount id change after) :
    after = store.modifyAccount id change := by
  obtain ⟨-, -, accounts, tokens, lastId⟩ := changes
  cases after
  subst accounts tokens lastId
  rfl

theorem addsToken_of_insertToken {record : PersonalToken}
    (inserted : store.insertToken record = (.ok (), after)) : store.AddsToken record after := by
  have hplace (key : Uuid) : after.token? key =
      if key = record.id then some record else store.token? key := token?_insertToken inserted
  unfold insertToken at inserted
  split at inserted
  · cases inserted
  · cases inserted
    refine ⟨by rw [hplace, if_pos rfl], fun key h => by rw [hplace, if_neg h], ?_, rfl, rfl⟩
    intro unused
    -- Nothing has to make room for the record.
    have hkept : store.tokens.filter (·.id ≠ record.id) = store.tokens := by
      rw [List.filter_eq_self]
      intro other hother
      have hne := List.find?_eq_none.mp unused other hother
      simpa using hne
    exact congrArg (· ++ [record]) hkept

theorem revokesToken_of_revokeToken {key : Uuid} (h : (store.revokeToken key).1 = true) :
    store.RevokesToken key (store.revokeToken key).2 := by
  obtain ⟨record, found, active⟩ := revokeToken_fst_iff.mp h
  refine ⟨⟨record, found, active, ?_⟩, fun other hother => ?_, ?_, ?_, ?_⟩
  · rw [token?_revokeToken, found]
    simp [token?_id found]
  · rw [token?_revokeToken]
    cases hplace : store.token? other with
    | none => rfl
    | some place => simp [token?_id hplace, hother]
  all_goals simp [revokeToken, found, active]

theorem eq_of_revokeToken_fst {key : Uuid} (h : (store.revokeToken key).1 = false) :
    (store.revokeToken key).2 = store := by
  unfold revokeToken at h ⊢
  split
  · next found =>
    simp only [found] at h
    split
    · rfl
    · next active =>
      rw [if_neg active] at h
      cases h
  · rfl

end Store

/-! ## Sessions -/

namespace Sessions

variable {sessions : Sessions} {occasion : Occasion} {store : Store} {account : Account}
  {tokens : SessionTokens} {hash : String}

/-- Tokens are handed out for an account, and the hash of the refresh token is what is kept. -/
structure Grants (sessions : Sessions) (occasion : Occasion) (account : Account)
    (tokens : SessionTokens) (hash : String) : Prop where
  issued : sessions.issuePair occasion account = .ok tokens
  hashed : sessions.hasher.hashToken occasion.tokenSalt tokens.refresh.token = .ok hash

namespace Grants

/-- The access token has the one role of the account. -/
theorem access (grants : sessions.Grants occasion account tokens hash) :
    sessions.issuer.Issues occasion.now .access account.id occasion.accessId
      sessions.issuer.accessLifetime [account.role] tokens.access :=
  TokenIssuer.issues_of_issue (issuePair_eq_ok_iff.mp grants.issued).1

/-- The refresh token has no role. -/
theorem refresh (grants : sessions.Grants occasion account tokens hash) :
    sessions.issuer.Issues occasion.now .refresh account.id occasion.refreshId
      sessions.issuer.refreshLifetime [] tokens.refresh :=
  TokenIssuer.issues_of_issue (issueRefresh_of_issuePair grants.issued)

end Grants

theorem settles_authenticate (email password : String) :
    (sessions.authenticate email password).Ensures store
      (AllOrNothing store fun account after =>
        after = store ∧ store.accountByEmail? email = some account ∧
          account.checkStatus = .ok ()) := by
  unfold authenticate
  refine Action.ensures_read_bind Store.respond_findByEmail .nothing ?_
  cases found : store.accountByEmail? email with
  | none => exact Action.ensures_throw (.nothing _)
  | some account =>
    refine Action.ensures_lift_bind .nothing fun belongs _ => ?_
    cases belongs with
    | false => exact Action.ensures_throw (.nothing _)
    | true =>
      refine Action.ensures_ofExcept_bind (fun e _ => .nothing e) fun _ standing => ?_
      exact Action.ensures_pure (.all ⟨rfl, rfl, standing⟩)

theorem settles_login (account : Account) :
    (sessions.login occasion account).Ensures store
      (AllOrNothing store fun tokens after => ∃ hash, sessions.Grants occasion account tokens hash ∧
        store.ChangesAccount account.id
          (fun account =>
            { account with refreshHash := some hash, lastLogin := some occasion.now }) after) := by
  unfold login
  refine Action.ensures_lift_bind .nothing fun tokens issued => ?_
  refine Action.ensures_lift_bind .nothing fun hash hashed => ?_
  refine Action.ensures_ask_bind .nothing fun _ recorded => Action.ensures_pure (.all ?_)
  rw [Store.respond_recordLogin] at recorded ⊢
  cases found : store.account? account.id with
  | none =>
    simp only [found, Option.isSome_none, Bool.false_eq_true, if_false] at recorded
    cases recorded
  | some current =>
    exact ⟨hash, ⟨issued, hashed⟩, Store.changesAccount_modifyAccount (fun _ => rfl) found⟩

theorem settles_refresh (account : Account) (presented : String) :
    (sessions.refresh occasion account presented).Ensures store
      (AllOrNothing store fun tokens after => ∃ hash, sessions.Grants occasion account tokens hash ∧
        store.ChangesAccount account.id
          (fun account =>
            { account with
              refreshHash := some hash
              lastRefresh := some occasion.now }) after) := by
  unfold refresh
  refine Action.ensures_ofExcept_bind (fun e _ => .nothing e) fun stored _ => ?_
  split
  · exact Action.ensures_throw (.nothing _)
  refine Action.ensures_lift_bind .nothing fun tokens issued => ?_
  refine Action.ensures_lift_bind .nothing fun hash hashed => ?_
  refine Action.ensures_ask_bind .nothing fun swapped answered => ?_
  -- The store answers whether it changed the account, and only then tokens are handed out.
  rw [Store.respond_swapRefreshHash] at answered ⊢
  cases found : store.account? account.id with
  | none =>
    rw [found] at answered
    cases answered
  | some current =>
    simp only [found] at answered ⊢
    by_cases same : current.refreshHash = some stored
    · rw [if_pos same] at answered ⊢
      cases answered
      exact Action.ensures_pure
        (.all ⟨hash, ⟨issued, hashed⟩, Store.changesAccount_modifyAccount (fun _ => rfl) found⟩)
    · rw [if_neg same] at answered ⊢
      cases answered
      exact Action.ensures_throw (.nothing _)

theorem settles_exchange (presented : String) :
    (sessions.exchange occasion presented).Ensures store
      (AllOrNothing store fun granted after =>
        store.account? granted.1.id = some granted.1 ∧ granted.1.checkStatus = .ok () ∧
        ∃ hash, sessions.Grants occasion granted.1 granted.2 hash ∧
          store.ChangesAccount granted.1.id
            (fun account =>
              { account with refreshHash := some hash, lastRefresh := some occasion.now })
            after) := by
  unfold exchange
  refine Action.ensures_ofExcept_bind (fun e _ => .nothing e) fun claims _ => ?_
  split
  · exact Action.ensures_throw (.nothing _)
  refine Action.ensures_read_bind Store.respond_findAccount .nothing ?_
  cases found : store.account? claims.subject with
  | none => exact Action.ensures_throw (.nothing _)
  | some account =>
    have stored : store.account? account.id = some account := by
      rw [Store.account?_id found, found]
    refine Action.ensures_ofExcept_bind (fun e _ => .nothing e) fun _ standing => ?_
    refine (settles_refresh account presented).bind ?_ ?_
    · rintro e after ⟨⟩
      exact .nothing e
    · rintro tokens after ⟨⟩
      next h => exact Action.ensures_pure (.all ⟨stored, standing, h⟩)

theorem settles_logout (account : Account) :
    (sessions.logout occasion account).Ensures store
      (AllOrNothing store fun _ after => store.ChangesAccount account.id
        (fun account => { account with refreshHash := none, lastLogout := some occasion.now })
        after) := by
  refine Action.ensures_ask .nothing ?_
  rw [Store.respond_recordLogout]
  cases found : store.account? account.id with
  | none => exact .nothing _
  | some current => exact .all (Store.changesAccount_modifyAccount (fun _ => rfl) found)

theorem Grants.verifies (grants : sessions.Grants occasion account tokens hash)
    (recognizes : sessions.hasher.Recognizes) :
    sessions.hasher.verifyToken tokens.refresh.token hash = true :=
  recognizes _ _ _ grants.hashed

/-- A login succeeds for an account that is stored. -/
theorem exec_login {current : Account} (grants : sessions.Grants occasion account tokens hash)
    (known : store.account? account.id = some current) :
    (sessions.login occasion account).exec store =
      (.ok tokens, store.modifyAccount account.id fun account =>
        { account with refreshHash := some hash, lastLogin := some occasion.now }) := by
  unfold login
  rw [grants.issued, Action.lift_ok, Action.pure_bind, grants.hashed, Action.lift_ok,
    Action.pure_bind, Action.exec_bind, Action.exec_ask, Store.respond_recordLogin, known]
  rfl

/-- A refresh succeeds with the token whose hash is kept and was kept when the account was
loaded. -/
theorem exec_refresh {presented stored : String} {current : Account}
    (accepted : account.refreshHash = some stored) (filled : stored ≠ "")
    (verified : sessions.hasher.verifyToken presented stored = true)
    (grants : sessions.Grants occasion account tokens hash)
    (known : store.account? account.id = some current)
    (unchanged : current.refreshHash = some stored) :
    (sessions.refresh occasion account presented).exec store =
      (.ok tokens, store.modifyAccount account.id fun account =>
        { account with refreshHash := some hash, lastRefresh := some occasion.now }) := by
  have haccepted : acceptedHash account = .ok stored := by
    simp [acceptedHash, accepted, filled]
  unfold refresh
  rw [haccepted, Action.ofExcept_ok, Action.pure_bind, verified, grants.issued, Action.lift_ok]
  simp only [Bool.not_true, Bool.false_eq_true, if_false, Action.pure_bind, grants.hashed,
    Action.lift_ok]
  rw [Action.exec_bind, Action.exec_ask, Store.respond_swapRefreshHash, known]
  simp only [unchanged, if_true]
  rfl

/-- An exchange succeeds with a token that holds and whose hash is kept, for an account in good
standing. -/
theorem exec_exchange {presented stored : String} {claims : Claims}
    (valid : sessions.issuer.validate occasion.now presented = .ok claims)
    (kind : claims.kind = .refresh) (known : store.account? claims.subject = some account)
    (standing : account.checkStatus = .ok ()) (accepted : account.refreshHash = some stored)
    (filled : stored ≠ "") (verified : sessions.hasher.verifyToken presented stored = true)
    (grants : sessions.Grants occasion account tokens hash) :
    (sessions.exchange occasion presented).exec store =
      (.ok (account, tokens), store.modifyAccount account.id fun account =>
        { account with refreshHash := some hash, lastRefresh := some occasion.now }) := by
  have hid : store.account? account.id = some account := by rw [Store.account?_id known, known]
  unfold exchange
  rw [valid, Action.ofExcept_ok, Action.pure_bind, if_neg (not_not_intro kind), Action.exec_bind,
    Action.exec_ask, Store.respond_findAccount, known]
  simp only [standing, Action.ofExcept_ok, Action.pure_bind]
  rw [Action.exec_bind, exec_refresh accepted filled verified grants hid accepted]
  rfl

/-- Every operation on sessions is all or nothing, and where tokens are handed out the refresh
token belongs to the hash that is kept. -/
structure Atomic (sessions : Sessions) (occasion : Occasion) (store : Store) : Prop where
  authenticate : ∀ email password, (sessions.authenticate email password).Ensures store
    (AllOrNothing store fun _ after => after = store)
  login : ∀ account, (sessions.login occasion account).Ensures store
    (AllOrNothing store fun tokens after => ∃ hash,
      sessions.hasher.verifyToken tokens.refresh.token hash = true ∧
      store.ChangesAccount account.id (fun account =>
        { account with refreshHash := some hash, lastLogin := some occasion.now }) after)
  refresh : ∀ account presented, (sessions.refresh occasion account presented).Ensures store
    (AllOrNothing store fun tokens after => ∃ hash,
      sessions.hasher.verifyToken tokens.refresh.token hash = true ∧
      store.ChangesAccount account.id (fun account =>
        { account with refreshHash := some hash, lastRefresh := some occasion.now }) after)
  exchange : ∀ presented, (sessions.exchange occasion presented).Ensures store
    (AllOrNothing store fun granted after => ∃ hash,
      sessions.hasher.verifyToken granted.2.refresh.token hash = true ∧
      store.ChangesAccount granted.1.id (fun account =>
        { account with refreshHash := some hash, lastRefresh := some occasion.now }) after)
  logout : ∀ account, (sessions.logout occasion account).Ensures store
    (AllOrNothing store fun _ after => store.ChangesAccount account.id (fun account =>
      { account with refreshHash := none, lastLogout := some occasion.now }) after)

theorem atomic (sessions : Sessions) (recognizes : sessions.hasher.Recognizes)
    (occasion : Occasion) (store : Store) : sessions.Atomic occasion store where
  authenticate email password := by
    refine (settles_authenticate email password).mono fun _ _ settled => settled.mono ?_
    rintro account after ⟨same, -⟩
    exact same
  login account := by
    refine (settles_login account).mono fun _ _ settled => settled.mono ?_
    rintro tokens after ⟨hash, grants, changes⟩
    exact ⟨hash, grants.verifies recognizes, changes⟩
  refresh account presented := by
    refine (settles_refresh account presented).mono fun _ _ settled => settled.mono ?_
    rintro tokens after ⟨hash, grants, changes⟩
    exact ⟨hash, grants.verifies recognizes, changes⟩
  exchange presented := by
    refine (settles_exchange presented).mono fun _ _ settled => settled.mono ?_
    rintro granted after ⟨-, -, hash, grants, changes⟩
    exact ⟨hash, grants.verifies recognizes, changes⟩
  logout account := settles_logout account

end Sessions

/-! ## Personal tokens -/

namespace PersonalTokens

variable {tokens : PersonalTokens} {occasion : Occasion} {store : Store}

theorem settles_create (caller : Claims) (name expiry : String) :
    (tokens.create occasion caller name expiry).Ensures store
      (AllOrNothing store fun created after => ∃ record issued,
        tokens.Makes occasion caller name expiry record issued ∧
          created = ⟨record.view, issued.token⟩ ∧ store.AddsToken record after) := by
  unfold create
  refine Action.ensures_read_bind Store.respond_findActiveToken .nothing ?_
  cases store.activeToken? caller.subject name with
  | some taken => exact Action.ensures_throw (.nothing _)
  | none =>
    refine Action.ensures_ofExcept_bind (fun e _ => .nothing e) fun expiresAt hexpiry => ?_
    by_cases past : expiresAt ≤ occasion.now
    · rw [if_pos past]
      exact Action.ensures_throw (.nothing _)
    · rw [if_neg past]
      refine Action.ensures_lift_bind .nothing fun issued signed => ?_
      refine Action.ensures_lift_bind .nothing fun hash hashed => ?_
      refine Action.ensures_ask_bind .nothing fun _ inserted => Action.ensures_pure (.all ?_)
      have makes : tokens.Makes occasion caller name expiry
          ⟨occasion.recordId, caller.subject, name, occasion.now, expiresAt, hash, false⟩ issued :=
        ⟨rfl, rfl, rfl, rfl, rfl, hexpiry, Instant.not_le.mp past, signed, hashed⟩
      exact ⟨_, issued, makes, rfl, Store.addsToken_of_insertToken (Prod.ext inserted rfl)⟩

theorem settles_read (id : Uuid) : (tokens.read id).Ensures store
    (AllOrNothing store fun _ after => after = store) := by
  unfold read
  refine Action.ensures_read_bind Store.respond_findToken .nothing ?_
  cases store.token? id with
  | some record => exact Action.ensures_pure (.all rfl)
  | none => exact Action.ensures_throw (.nothing _)

theorem settles_findNamed (owner : Int32) (name : String) : (tokens.findNamed owner name).Ensures
    store (AllOrNothing store fun _ after => after = store) := by
  unfold findNamed
  refine Action.ensures_read_bind Store.respond_findActiveToken .nothing ?_
  cases store.activeToken? owner name with
  | some record => exact Action.ensures_pure (.all rfl)
  | none => exact Action.ensures_throw (.nothing _)

theorem settles_revoke (record : PersonalToken) : (tokens.revoke record).Ensures store
    (AllOrNothing store fun _ after => store.RevokesToken record.id after) := by
  unfold revoke
  cases record.revoked with
  | true => exact Action.ensures_throw (.nothing _)
  | false =>
    refine Action.ensures_ask_bind .nothing fun revoked answered => ?_
    rw [Store.respond_revokeToken] at answered ⊢
    obtain rfl := Except.ok.inj answered
    cases hrevoked : (store.revokeToken record.id).1 with
    | true => exact Action.ensures_pure (.all (Store.revokesToken_of_revokeToken hrevoked))
    | false =>
      -- Nothing was revoked, which is reported as an error.
      have unchanged : AllOrNothing store (fun (_ : Unit) after =>
          store.RevokesToken record.id after) (.error .alreadyRevoked)
          (store.revokeToken record.id).2 := by
        rw [Store.eq_of_revokeToken_fst hrevoked]
        exact .nothing _
      exact Action.ensures_throw unchanged

/-- Every operation on personal tokens is all or nothing. -/
structure Atomic (tokens : PersonalTokens) (occasion : Occasion) (store : Store) : Prop where
  create : ∀ caller name expiry, (tokens.create occasion caller name expiry).Ensures store
    (AllOrNothing store fun created after => ∃ record : PersonalToken,
      created.view = record.view ∧ record.owner = caller.subject ∧ record.revoked = false ∧
        store.AddsToken record after)
  read : ∀ id, (tokens.read id).Ensures store (AllOrNothing store fun _ after => after = store)
  list : ∀ owner, (tokens.list owner).Ensures store
    (AllOrNothing store fun _ after => after = store)
  findNamed : ∀ owner name, (tokens.findNamed owner name).Ensures store
    (AllOrNothing store fun _ after => after = store)
  revoke : ∀ record, (tokens.revoke record).Ensures store
    (AllOrNothing store fun _ after => store.RevokesToken record.id after)

theorem atomic (tokens : PersonalTokens) (occasion : Occasion) (store : Store) :
    tokens.Atomic occasion store where
  create caller name expiry := by
    refine (settles_create caller name expiry).mono fun _ _ settled => settled.mono ?_
    rintro created after ⟨record, issued, makes, rfl, adds⟩
    exact ⟨record, rfl, makes.owner, makes.notRevoked, adds⟩
  read := settles_read
  list owner := Action.ensures_ask .nothing (.all rfl)
  findNamed := settles_findNamed
  revoke := settles_revoke

end PersonalTokens

/-! ## Operations of the store -/

/-- Every operation of the store is all or nothing, and one that answers that there was nothing
to change has changed nothing. -/
structure Store.Atomic (store : Store) : Prop where
  failed : ∀ op e after, store.respond op = (.error e, after) → after = store
  ask : ∀ op, (Action.ask op).Ensures store
    (AllOrNothing store fun answer after => store.respond op = (.ok answer, after))
  notSwapped : ∀ id expected new now after,
    store.respond (.swapRefreshHash id expected new now) = (.ok false, after) → after = store
  notRevoked : ∀ key after, store.respond (.revokeToken key) = (.ok false, after) → after = store

theorem Store.eq_of_respond_eq_error {store after : Store} {op : StoreCall} {e : AuthError}
    (h : store.respond op = (.error e, after)) : after = store := by
  rw [← respond_eq_self (congrArg Prod.fst h), h]

theorem Store.atomic (store : Store) : store.Atomic where
  failed _ _ _ := eq_of_respond_eq_error
  ask op := by
    refine Action.ensures_ask .nothing ?_
    cases responded : store.respond op with
    | mk result after =>
      cases result with
      | ok answer => exact .all rfl
      | error e =>
        obtain rfl := eq_of_respond_eq_error responded
        exact .nothing e
  notSwapped id expected new now after := eq_of_swapRefreshHash_eq_false
  notRevoked key after h := by
    obtain ⟨hrevoked, rfl⟩ := Prod.mk.inj h
    exact eq_of_revokeToken_fst (Except.ok.inj hrevoked)

/-! ## Exchanges over HTTP -/

namespace Service

variable {service : Service} {occasion : Occasion} {request : Request} {store after : Store}

theorem settles_refresh (request : Request) : (service.refresh occasion request).Ensures store
    (AllOrNothing store fun response after => response.status = 200 ∧
      ∃ (account : Account) (tokens : SessionTokens) (hash : String),
        service.sessions.Grants occasion account tokens hash ∧
        store.ChangesAccount account.id (fun account =>
          { account with refreshHash := some hash, lastRefresh := some occasion.now }) after) := by
  unfold refresh
  refine Action.ensures_ofExcept_bind (fun e _ => .nothing e) fun presented _ => ?_
  refine (Sessions.settles_exchange presented).bind ?_ ?_
  · rintro e after ⟨⟩
    exact .nothing e
  · rintro ⟨account, tokens⟩ after ⟨⟩
    next h =>
      obtain ⟨-, -, hash, grants, changes⟩ := h
      exact ensures_grant fun response granted =>
        .all ⟨status_of_grant granted, account, tokens, hash, grants, changes⟩

/-- A request for an exchange succeeds and keeps a new hash, or it fails and leaves the store,
however the service is put up and however the store answers. -/
theorem refreshes_or_denies {app : App}
    (serves : app = .bare service ∨ app = .gated (some service) ∨ app = .gated none)
    {backend : Backend} {response : Response} (asks : request.Asks .refresh [])
    (h : (app.handle occasion request).run backend store = some (response, after)) :
    (response.status = 200 ∧ ∃ (account : Account) (tokens : SessionTokens) (hash : String),
      service.sessions.Grants occasion account tokens hash ∧
      store.ChangesAccount account.id (fun account =>
        { account with refreshHash := some hash, lastRefresh := some occasion.now }) after) ∨
    response.status ≠ 200 ∧ after = store := by
  have denied (e : AuthError) : e.response.status ≠ 200 :=
    fun same => absurd e.le_status (by rw [show e.status = 200 from same]; decide)
  -- An exchange asks for no caller, so it does not matter whether one was established.
  rcases app.dispatches_or_denied occasion request backend store with
    ⟨other, established, dispatches, hrun⟩ | ⟨e, hrun⟩
  · have same : other = service := by
      cases dispatches with
      | bare => simpa using serves
      | exempt => simpa using serves
      | allowed => simpa using serves
    subst same
    rw [hrun] at h
    obtain ⟨⟨result, left⟩, hdispatch, hresponse⟩ := Option.map_eq_some_iff.mp h
    obtain ⟨rfl, rfl⟩ := Prod.mk.inj hresponse
    unfold dispatch at hdispatch
    rw [asks.find?_of_needsCaller rfl] at hdispatch
    cases settles_refresh request backend result left hdispatch with
    | nothing e => exact .inr ⟨denied e, rfl⟩
    | all done => exact .inl done
  · rw [hrun] at h
    obtain ⟨rfl, rfl⟩ := Prod.mk.inj (Option.some.inj h)
    exact .inr ⟨denied e, rfl⟩

/-- Whatever the store is like and however it answers, every operation on it, on sessions and on
personal tokens is all or nothing: a failure leaves the store as it was, and a success changes what
belongs to it. The hash that a session keeps belongs to its refresh token. Over HTTP a stored hash
changes with an exchange exactly if the response is a success, where a new hash is none that is
stored. -/
theorem all_or_nothing (service : Service) (recognizes : service.hasher.Recognizes)
    (occasion : Occasion) (store : Store) :
    store.Atomic ∧ service.sessions.Atomic occasion store ∧
    service.personalTokens.Atomic occasion store ∧
    ∀ (app : App) (backend : Backend) (request : Request) (response : Response) (after : Store),
      app = .bare service ∨ app = .gated (some service) ∨ app = .gated none →
      (∀ account tokens hash id, service.sessions.Grants occasion account tokens hash →
        store.refreshHash? id ≠ some hash) →
      request.Asks .refresh [] →
      (app.handle occasion request).run backend store = some (response, after) →
      ((∃ id, after.refreshHash? id ≠ store.refreshHash? id) ↔ response.status = 200) ∧
        (response.status ≠ 200 → after = store) := by
  refine ⟨store.atomic, service.sessions.atomic recognizes occasion store,
    service.personalTokens.atomic occasion store, ?_⟩
  intro app backend request response after serves fresh asks h
  rcases refreshes_or_denies serves asks h with
    ⟨success, account, tokens, hash, grants, changes⟩ | ⟨failure, rfl⟩
  · refine ⟨iff_of_true ⟨account.id, ?_⟩ success, fun failure => absurd success failure⟩
    obtain ⟨found, -, hafter⟩ := changes.known
    -- What is kept now is a hash that was not kept before.
    rw [Store.refreshHash?, hafter]
    exact (fresh _ _ _ _ grants).symm
  · refine ⟨iff_of_false ?_ failure, fun _ => rfl⟩
    rintro ⟨id, changed⟩
    exact changed rfl

end Service

namespace RefreshRequest

open LoginRequest (service occasion)

/-- The tokens of a session that began under another identifier. -/
def granted : Except IssueFault SessionTokens :=
  service.sessions.issuePair { occasion with refreshId := .version4 1 } AdminRequest.account

/-- The account with that session. -/
def account : Account :=
  { AdminRequest.account with
    refreshHash := some ((granted.map (·.refresh.token)).toOption.getD "") }

/-- The store with that session. -/
def store : Store := ⟨7, [account], []⟩

/-- A token is presented in its cookie. -/
def request (token : String) : Request :=
  ⟨"POST", "/auth/refresh", [("Cookie", "refresh_token=" ++ token)], ""⟩

theorem recognizes : service.hasher.Recognizes := by
  rintro salt token _ ⟨⟩
  exact decide_eq_true rfl

variable {before : SessionTokens}

theorem refreshHash_account (h : granted = .ok before) :
    account.refreshHash = some before.refresh.token := by
  simp [account, h, Except.map, Except.toOption]

/-- Under another identifier another token is issued, and its hash is another one. -/
theorem fresh (account : Account) (tokens : SessionTokens) (hash : String) (id : Int32)
    (grants : service.sessions.Grants occasion account tokens hash) :
    store.refreshHash? id ≠ some hash := by
  obtain ⟨before, hbefore⟩ : ∃ before, granted = .ok before := ⟨_, rfl⟩
  have hhash : tokens.refresh.token = hash := Except.ok.inj grants.hashed
  intro stored
  have kept : before.refresh.token = hash := by
    by_cases hid : id = 7
    · subst hid
      exact Option.some.inj ((refreshHash_account hbefore).symm.trans stored)
    · have hnone : store.account? id = none := by
        simpa [Store.account?, store, RefreshRequest.account, AdminRequest.account,
          Account.create] using Ne.symm hid
      simp [Store.refreshHash?, hnone] at stored
  have issues := TokenIssuer.issues_of_issue (Sessions.issueRefresh_of_issuePair hbefore)
  have hsign := grants.refresh.signed
  rw [hhash, ← kept] at hsign
  have hid := grants.refresh.id
  rw [TokenIssuer.sign_injective hsign issues.signed, issues.id] at hid
  exact absurd hid (by decide)

/-- The token is found in its cookie. -/
theorem presentedRefresh_request (h : granted = .ok before) :
    Service.presentedRefresh (request before.refresh.token) = .ok before.refresh.token := by
  have hsign := (TokenIssuer.issues_of_issue (Sessions.issueRefresh_of_issuePair h)).signed
  have hcookies : (request before.refresh.token).cookies =
      [("refresh_token".toList, before.refresh.token.toList)] := by
    have name : ("refresh_token".toList ≠ [] ∧ '=' ∉ "refresh_token".toList) ∧
        "refresh_token".toList.all Request.isPlain = true := by decide
    simp only [List.all_eq_true] at name
    have header : (request before.refresh.token).rawHeader? "Cookie" =
        some ("refresh_token=" ++ before.refresh.token) := by
      simp [request, Request.rawHeader?]
    refine Request.cookies_eq (by simp) ?_ header (by rw [String.toList_append]; rfl)
    intro cookie mem
    obtain rfl := List.mem_singleton.mp mem
    exact ⟨name.1, name.2, TokenIssuer.isPlain_of_sign hsign⟩
  have hcookie : (request before.refresh.token).cookie? SessionCookies.refreshName =
      some before.refresh.token := by
    rw [Request.cookie?, hcookies, List.find?_cons_of_pos (by simp [SessionCookies.refreshName])]
    exact congrArg some String.ofList_toList
  have unread : (request before.refresh.token).json RefreshForm.ofJson? = .error .malformed := by
    have other : Request.lowerName "Cookie" ≠ Request.lowerName "Content-Type" := by decide
    simp [request, Request.json, Request.announcesJson, Request.header?, Request.rawHeader?, other]
  have filled : (some before.refresh.token).filter (· ≠ "") = some before.refresh.token :=
    filter_ne_empty_eq_some_iff.mpr ⟨rfl, TokenIssuer.ne_empty_of_sign hsign⟩
  unfold Service.presentedRefresh
  rw [unread, hcookie]
  simp only [Option.none_or, filled]

theorem asks_request (token : String) : (request token).Asks .refresh [] := by
  have path : segments (request "").path = Endpoint.refresh.segments [] := by decide
  exact ⟨rfl, path⟩

/-- The exchange of the token that is stored is a success. -/
theorem handle_request (h : granted = .ok before) : ∃ response after,
    ((App.bare service).handle occasion (request before.refresh.token)).run .healthy store =
      some (response, after) ∧ response.status = 200 := by
  have hissued := Sessions.issueRefresh_of_issuePair h
  have issues := TokenIssuer.issues_of_issue hissued
  have hend : before.refresh.claims.expires.toInt = 86500 := issues.expires
  have hnow : occasion.now.seconds = 100 := rfl
  have valid : service.sessions.issuer.validate occasion.now before.refresh.token =
      .ok before.refresh.claims :=
    TokenIssuer.validate_of_issue TokenIssuer.echo_trusts_echo hissued (by decide) (Int.le_refl _)
      (by decide) (by omega) (by omega)
  have known : store.account? before.refresh.claims.subject = some account := by
    rw [issues.subject]
    rfl
  obtain ⟨tokens, hpair⟩ : ∃ tokens, service.sessions.issuePair occasion account = .ok tokens :=
    ⟨_, rfl⟩
  have exchanged := Sessions.exec_exchange valid issues.kind known rfl (refreshHash_account h)
    (TokenIssuer.ne_empty_of_sign issues.signed) (decide_eq_true rfl) ⟨hpair, rfl⟩
  obtain ⟨response, hgrant⟩ := service.exists_grant occasion.now 200 account.id tokens
  have answered : ∃ after, Program.exec
      ((App.bare service).action occasion (request before.refresh.token)).run store =
        (.ok response, after) := by
    change ∃ after, (service.dispatch occasion (request before.refresh.token) none).exec store =
      (_, after)
    rw [Service.dispatch, (asks_request _).find?_of_needsCaller rfl]
    change ∃ after, (service.refresh occasion (request before.refresh.token)).exec store =
      (_, after)
    rw [Service.refresh, presentedRefresh_request h, Action.ofExcept_ok, Action.pure_bind,
      Action.exec_bind, exchanged]
    exact ⟨_, Service.exec_grant hgrant⟩
  obtain ⟨after, hafter⟩ := answered
  have hrun := Program.run_healthy
    ((App.bare service).action occasion (request before.refresh.token)).run store
  rw [hafter] at hrun
  refine ⟨response, after, ?_, Service.status_of_grant hgrant⟩
  rw [App.run_handle, hrun]
  rfl

/-- With the token that is stored an exchange over HTTP is a success and changes the stored hash.
Behind a gate with no service it fails, and everything stays as it is. -/
theorem refresh_changes_hash : ∃ token,
    service.sessions.Atomic occasion store ∧
    (∃ response after, ((App.bare service).handle occasion (request token)).run .healthy store =
      some (response, after) ∧ response.status = 200 ∧
        ∃ id, after.refreshHash? id ≠ store.refreshHash? id) ∧
    ∃ response after, ((App.gated none).handle occasion (request token)).run .healthy store =
      some (response, after) ∧ response.status ≠ 200 ∧ after = store := by
  obtain ⟨before, h⟩ : ∃ before, granted = .ok before := ⟨_, rfl⟩
  obtain ⟨-, sessions, -, changes⟩ := service.all_or_nothing recognizes occasion store
  obtain ⟨response, after, succeeds, status⟩ := handle_request h
  have asks := asks_request before.refresh.token
  have changed := changes _ .healthy _ response after (.inl rfl) fresh asks succeeds
  have denied : ((App.gated none).handle occasion (request before.refresh.token)).run .healthy
      store = some (AuthError.noService.response, store) := rfl
  have failure : AuthError.noService.response.status ≠ 200 := by decide
  have unchanged := changes _ .healthy _ _ store (.inr (.inr rfl)) fresh asks denied
  exact ⟨before.refresh.token, sessions, ⟨response, after, succeeds, status, changed.1.mpr status⟩,
    _, store, denied, failure, unchanged.2 failure⟩

end RefreshRequest

end SessionAuth
