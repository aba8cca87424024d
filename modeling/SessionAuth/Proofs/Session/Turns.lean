import SessionAuth.Proofs.Interleaving
import SessionAuth.Proofs.Token.RoundTrip
import SessionAuth.Session

/-!
# How calls about a session take turns

Logins, exchanges of refresh tokens and logouts of one account take turns on a store, and
operations of others that leave the account's session alone occur in between. A call loads the
account or not, and then asks for the one operation that changes the session; with that it
succeeds, and otherwise it fails. So every operation of a run does one of few things.

## Main definitions

* `SessionChange`, `Answered.change?` — how an answered operation changes the session of an
  account
* `SessionCall` — a login, an exchange or a logout, with its `SessionCall.program`
* `SessionCall.grant?` — the refresh token that a call issues, with its hash
* `SessionCall.Pending` — what may still lie ahead of a call
* `Turn` — what one operation does to the session of the account
* `Course` — what one operation does to one of the calls

## Main results

* `Store.refreshHash?_respond` — an operation leaves the hash that its answer tells
* `SessionCall.pending_program` — everything lies ahead of a call that has not begun
* `turn_of_step` — every operation of a run is a `Turn`
* `Turn.succeeded`, `Turn.succeeds` — a call succeeds exactly in the turn in which it changes the
  session
-/

namespace SessionAuth

/-! ## The session of an account -/

/-- The hash of the refresh token that is accepted for an account. -/
def Store.refreshHash? (store : Store) (id : Int32) : Option String :=
  (store.account? id).bind (·.refreshHash)

/-- How the session of an account changes. -/
inductive SessionChange where
  /-- A refresh token is granted, in place of any other. -/
  | granted (hash : String)
  | ended
  deriving DecidableEq

/-- The hash that a change leaves. -/
def SessionChange.hash? : SessionChange → Option String
  | granted hash => some hash
  | ended => none

/-- How an answered operation changes the session of an account; nothing where it does not. -/
def Answered.change? (id : Int32) : Answered → Option SessionChange
  | ⟨.recordLogin owner hash _, .ok _⟩ => if owner = id then some (.granted hash) else none
  | ⟨.swapRefreshHash owner _ new _, .ok true⟩ => if owner = id then some (.granted new) else none
  | ⟨.recordLogout owner _, .ok _⟩ => if owner = id then some .ended else none
  | _ => none

namespace Answered

variable {id : Int32} {hash expected new : String} {now : Instant} {answer : Unit}

theorem change?_recordLogin :
    change? id ⟨.recordLogin id hash now, .ok answer⟩ = some (.granted hash) := if_pos rfl

theorem change?_swapRefreshHash :
    change? id ⟨.swapRefreshHash id expected new now, .ok true⟩ = some (.granted new) := if_pos rfl

theorem change?_recordLogout :
    change? id ⟨.recordLogout id now, .ok answer⟩ = some .ended := if_pos rfl

end Answered

/-- An operation that is none of those which change the session of an account. -/
def StoreCall.KeepsSession (id : Int32) : StoreCall → Prop
  | recordLogin owner _ _ => owner ≠ id
  | swapRefreshHash owner _ _ _ => owner ≠ id
  | recordLogout owner _ => owner ≠ id
  | _ => True

namespace Store

variable {store : Store} {id owner : Int32} {change : Account → Account}

theorem refreshHash?_modifyAccount_of_ne (keeps : ∀ account, (change account).id = account.id)
    (h : id ≠ owner) :
    (store.modifyAccount owner change).refreshHash? id = store.refreshHash? id := by
  rw [refreshHash?, account?_modifyAccount_of_ne keeps h, refreshHash?]

theorem refreshHash?_modifyAccount_of_keeps (keeps : ∀ account, (change account).id = account.id)
    (same : ∀ account, (change account).refreshHash = account.refreshHash) :
    (store.modifyAccount owner change).refreshHash? id = store.refreshHash? id := by
  rw [refreshHash?, account?_modifyAccount keeps, refreshHash?]
  cases store.account? id with
  | none => rfl
  | some account =>
    simp only [Option.map_some, Option.bind_some]
    split
    · exact same account
    · rfl

/-- A change of a session shows in its account and in no other. -/
theorem refreshHash?_modifyAccount_of_sets (sets : SessionChange)
    (keeps : ∀ account, (change account).id = account.id)
    (same : ∀ account, (change account).refreshHash = sets.hash?) {account : Account}
    (found : store.account? owner = some account) :
    (store.modifyAccount owner change).refreshHash? id =
      match if owner = id then some sets else none with
      | some change => change.hash?
      | none => store.refreshHash? id := by
  by_cases h : owner = id
  · subst h
    simp [refreshHash?, account?_modifyAccount_self keeps, found, same]
  · simp [h, refreshHash?_modifyAccount_of_ne keeps (Ne.symm h)]

/-- An operation leaves the hash that its answer tells, and otherwise the one that was there. -/
theorem refreshHash?_respond (op : StoreCall) :
    (store.respond op).2.refreshHash? id =
      match Answered.change? id ⟨op, (store.respond op).1⟩ with
      | some change => change.hash?
      | none => store.refreshHash? id := by
  cases op with
  | recordLogin owner hash now =>
    rw [respond_recordLogin]
    cases found : store.account? owner with
    | none => rfl
    | some account =>
      exact refreshHash?_modifyAccount_of_sets (.granted hash) (fun _ => rfl) (fun _ => rfl) found
  | swapRefreshHash owner expected new now =>
    rw [respond_swapRefreshHash]
    cases found : store.account? owner with
    | none => rfl
    | some account =>
      by_cases same : account.refreshHash = some expected
      · simp only [same, if_true]
        exact refreshHash?_modifyAccount_of_sets (.granted new) (fun _ => rfl) (fun _ => rfl) found
      · simp only [same, if_false]
        rfl
  | recordLogout owner now =>
    rw [respond_recordLogout]
    cases found : store.account? owner with
    | none => rfl
    | some account =>
      exact refreshHash?_modifyAccount_of_sets .ended (fun _ => rfl) (fun _ => rfl) found
  | createAccount new now =>
    rw [respond_createAccount]
    split
    · rfl
    · -- The new account comes last and has no session, so it does not show.
      simp only [Answered.change?, refreshHash?, account?, List.find?_append]
      cases store.accounts.find? (·.id = id) with
      | some account => rfl
      | none => by_cases h : store.lastId + 1 = id <;> simp [Account.create, h]
  | updateStatus owner change =>
    rw [respond_updateStatus]
    cases store.account? owner with
    | none => rfl
    | some account => exact refreshHash?_modifyAccount_of_keeps (fun _ => rfl) fun _ => rfl
  | updateRole owner role =>
    rw [respond_updateRole]
    cases store.account? owner with
    | none => rfl
    | some account => exact refreshHash?_modifyAccount_of_keeps (fun _ => rfl) fun _ => rfl
  | insertToken record =>
    have h : (store.respond (.insertToken record)).2.accounts = store.accounts :=
      (accounts_respond rfl).1
    simp only [Answered.change?, refreshHash?, account?, h]
  | revokeToken key =>
    have h : (store.respond (.revokeToken key)).2.accounts = store.accounts :=
      (accounts_respond rfl).1
    simp only [Answered.change?, refreshHash?, account?, h]
  | ping | findAccount | findByEmail | findToken | tokensOf | findActiveToken => rfl

end Store

theorem Answered.change?_of_keepsSession {id : Int32} {did : Answered}
    (keeps : did.op.KeepsSession id) : did.change? id = none := by
  unfold Answered.change?
  split
  · next owner hash now _ => exact if_neg keeps
  · next owner expected new now => exact if_neg keeps
  · next owner now _ => exact if_neg keeps
  · rfl

/-! ## Calls -/

/-- A refresh token that was issued, and the hash that is stored of it. -/
structure Grant where
  token : String
  hash : String
  deriving DecidableEq

/-- The refresh token that is issued for an account on an occasion, with its hash. -/
def Sessions.grant? (sessions : Sessions) (occasion : Occasion) (id : Int32) : Option Grant := do
  let issued ← (sessions.issuer.issueRefresh occasion.now occasion.refreshId id).toOption
  let hash ← (sessions.hasher.hashToken occasion.tokenSalt issued.token).toOption
  return ⟨issued.token, hash⟩

/-- What may be asked about the session of an account. -/
inductive SessionCall where
  | login (occasion : Occasion) (account : Account)
  /-- An exchange, given a copy of the account that may be of any age. -/
  | refresh (occasion : Occasion) (account : Account) (presented : String)
  /-- An exchange that loads the account when its turn comes. -/
  | reload (occasion : Occasion) (id : Int32) (presented : String)
  /-- An exchange for the account that the presented token names. -/
  | exchange (occasion : Occasion) (presented : String)
  | logout (occasion : Occasion) (account : Account)

namespace SessionCall

/-- What a call does. An exchange or a login answers with new tokens. -/
def program (sessions : Sessions) : SessionCall → Action (Option SessionTokens)
  | login occasion account => do
    let tokens ← sessions.login occasion account
    return some tokens
  | refresh occasion account presented => do
    let tokens ← sessions.refresh occasion account presented
    return some tokens
  | reload occasion id presented => do
    match ← Action.ask (.findAccount id) with
    | none => throw (.noAccount id)
    | some account =>
      let tokens ← sessions.refresh occasion account presented
      return some tokens
  | exchange occasion presented => do
    let (_, tokens) ← sessions.exchange occasion presented
    return some tokens
  | logout occasion account => do
    sessions.logout occasion account
    return none

/-- The refresh token that a call presents. -/
def presented? : SessionCall → Option String
  | refresh _ _ presented | reload _ _ presented | exchange _ presented => some presented
  | login _ _ | logout _ _ => none

/-- The refresh token that a call issues if it comes to that, with its hash. -/
def grant? (sessions : Sessions) (id : Int32) : SessionCall → Option Grant
  | login occasion _ | refresh occasion _ _ | reload occasion _ _ | exchange occasion _ =>
    sessions.grant? occasion id
  | logout _ _ => none

/-- A call is about the account of an identifier. -/
def Concerns (sessions : Sessions) (id : Int32) : SessionCall → Prop
  | login _ account | refresh _ account _ | logout _ account => account.id = id
  | reload _ owner _ => owner = id
  | exchange occasion presented =>
    ∀ claims, sessions.issuer.validate occasion.now presented = .ok claims → claims.subject = id

/-- What may still lie ahead of a call: it fails, loads the account, or asks for the one
operation that changes the session, behind which it ends. -/
inductive Pending (sessions : Sessions) (id : Int32) (call : SessionCall) :
    Program (Except AuthError (Option SessionTokens)) → Prop
  | failed (e : AuthError) : Pending sessions id call (.done (.error e))
  | load {bounded : Bool} {next : _ → Program (Except AuthError (Option SessionTokens))}
      (rest : ∀ answer, (∀ account, answer = .ok (some account) → account.id = id) →
        Pending sessions id call (next answer)) :
      Pending sessions id call (.call (.findAccount id) bounded next)
  | login {grant : Grant} {now : Instant} {tokens : SessionTokens} {bounded : Bool}
      {next : _ → Program (Except AuthError (Option SessionTokens))}
      (presents : call.presented? = none)
      (issues : call.grant? sessions id = some grant)
      (returns : tokens.refresh.token = grant.token)
      (ends : ∀ answer, next answer = .done (answer.map fun _ => some tokens)) :
      Pending sessions id call (.call (.recordLogin id grant.hash now) bounded next)
  | swap {presented expected : String} {grant : Grant} {now : Instant} {tokens : SessionTokens}
      {bounded : Bool} {next : _ → Program (Except AuthError (Option SessionTokens))}
      (presents : call.presented? = some presented)
      (verified : sessions.hasher.verifyToken presented expected = true)
      (issues : call.grant? sessions id = some grant)
      (returns : tokens.refresh.token = grant.token)
      (succeeds : next (.ok true) = .done (.ok (some tokens)))
      (fails : ∀ answer, answer ≠ .ok true → ∃ e, next answer = .done (.error e)) :
      Pending sessions id call
        (.call (.swapRefreshHash id expected grant.hash now) bounded next)
  | logout {now : Instant} {bounded : Bool}
      {next : _ → Program (Except AuthError (Option SessionTokens))}
      (presents : call.presented? = none)
      (ends : ∀ answer, next answer = .done (answer.map fun _ => none)) :
      Pending sessions id call (.call (.recordLogout id now) bounded next)

end SessionCall

namespace Sessions

variable {sessions : Sessions} {occasion : Occasion} {account : Account}
  {tokens : SessionTokens} {hash : String}

theorem issuePair_eq_ok_iff : sessions.issuePair occasion account = .ok tokens ↔
    sessions.issuer.issueAccess occasion.now occasion.accessId account.id [account.role] =
      .ok tokens.access ∧
    sessions.issuer.issueRefresh occasion.now occasion.refreshId account.id =
      .ok tokens.refresh := by
  unfold issuePair
  constructor
  · intro h
    obtain ⟨access, haccess, h⟩ := bind_eq_ok_iff.mp h
    obtain ⟨refresh, hrefresh, h⟩ := bind_eq_ok_iff.mp h
    obtain rfl := Except.ok.inj h
    exact ⟨haccess, hrefresh⟩
  · rintro ⟨haccess, hrefresh⟩
    exact bind_eq_ok_iff.mpr ⟨_, haccess, bind_eq_ok_iff.mpr ⟨_, hrefresh, rfl⟩⟩

theorem issueRefresh_of_issuePair (h : sessions.issuePair occasion account = .ok tokens) :
    sessions.issuer.issueRefresh occasion.now occasion.refreshId account.id =
      .ok tokens.refresh :=
  (issuePair_eq_ok_iff.mp h).2

/-- New tokens and the hash of the refresh token are those of the occasion. -/
theorem grant?_eq_some (hpair : sessions.issuePair occasion account = .ok tokens)
    (hhash : sessions.hasher.hashToken occasion.tokenSalt tokens.refresh.token = .ok hash) :
    sessions.grant? occasion account.id = some ⟨tokens.refresh.token, hash⟩ := by
  have hissued : (sessions.issuer.issueRefresh occasion.now occasion.refreshId
      account.id).toOption = some tokens.refresh := by
    rw [issueRefresh_of_issuePair hpair]
    rfl
  have hhashed : (sessions.hasher.hashToken occasion.tokenSalt
      tokens.refresh.token).toOption = some hash := by
    rw [hhash]
    rfl
  simp [grant?, hissued, hhashed]

/-- What is issued is a signed token under the identifier that was drawn for it, with its
hash. -/
theorem sign_of_grant? {id : Int32} {grant : Grant}
    (h : sessions.grant? occasion id = some grant) :
    ∃ claims, TokenIssuer.sign sessions.issuer.keys claims = .ok grant.token ∧
      claims.id = occasion.refreshId ∧
      sessions.hasher.hashToken occasion.tokenSalt grant.token = .ok grant.hash := by
  unfold grant? at h
  cases hissued : sessions.issuer.issueRefresh occasion.now occasion.refreshId id with
  | error fault => simp [hissued, Except.toOption] at h
  | ok issued =>
    have issues := TokenIssuer.issues_of_issue hissued
    cases hhash : sessions.hasher.hashToken occasion.tokenSalt issued.token with
    | error fault => simp [hissued, hhash, Except.toOption] at h
    | ok hash =>
      obtain rfl : ⟨issued.token, hash⟩ = grant := by
        simpa [hissued, hhash, Except.toOption] using h
      exact ⟨issued.claims, issues.signed, issues.id, hhash⟩

/-- Refresh tokens are distinct where distinct identifiers are drawn for them. -/
theorem refreshId_eq_of_grant? {occasion' : Occasion} {id id' : Int32} {grant grant' : Grant}
    (h : sessions.grant? occasion id = some grant)
    (h' : sessions.grant? occasion' id' = some grant')
    (same : grant.token = grant'.token) : occasion.refreshId = occasion'.refreshId := by
  obtain ⟨claims, hsign, hid, -⟩ := sign_of_grant? h
  obtain ⟨claims', hsign', hid', -⟩ := sign_of_grant? h'
  rw [same] at hsign
  rw [← hid, ← hid', TokenIssuer.sign_injective hsign hsign']

end Sessions

namespace SessionCall

variable {sessions : Sessions} {id : Int32} {call : SessionCall}

/-- What lies ahead of an exchange once the account is loaded. -/
theorem pending_refresh {occasion : Occasion} {account : Account} {presented : String}
    {next : Except AuthError SessionTokens → Program (Except AuthError (Option SessionTokens))}
    (presents : call.presented? = some presented)
    (issues : call.grant? sessions id = sessions.grant? occasion id) (owner : account.id = id)
    (succeeds : ∀ tokens, next (.ok tokens) = .done (.ok (some tokens)))
    (fails : ∀ e, next (.error e) = .done (.error e)) :
    call.Pending sessions id
      (Program.bind (sessions.refresh occasion account presented).run next) := by
  subst owner
  -- Every check that fails ends the call, whichever it is.
  have failed (e : AuthError) : call.Pending sessions account.id (next (.error e)) := by
    rw [fails]
    exact .failed e
  unfold Sessions.refresh
  cases Sessions.acceptedHash account with
  | error e => exact failed e
  | ok stored =>
    rw [Action.ofExcept_ok, Action.pure_bind]
    cases hverified : sessions.hasher.verifyToken presented stored with
    | false => exact failed _
    | true =>
      simp only [Bool.not_true, Bool.false_eq_true, if_false]
      cases hpair : sessions.issuePair occasion account with
      | error fault => exact failed _
      | ok tokens =>
        rw [Action.lift_ok, Action.pure_bind]
        cases hhash : sessions.hasher.hashToken occasion.tokenSalt tokens.refresh.token with
        | error fault => exact failed _
        | ok hash =>
          have hgrant := issues.trans (Sessions.grant?_eq_some hpair hhash)
          refine .swap presents hverified hgrant rfl (succeeds tokens) ?_
          intro answer hne
          -- Only the answer that the hash was swapped is a success.
          match answer, hne with
          | .ok true, hne => exact absurd rfl hne
          | .ok false, _ => exact ⟨_, fails _⟩
          | .error e, _ => exact ⟨e, fails e⟩

/-- Everything lies ahead of an exchange, if its token is for the account. -/
theorem pending_exchange {occasion : Occasion} {presented : String}
    (concerns : (exchange occasion presented).Concerns sessions id) :
    (exchange occasion presented).Pending sessions id
      ((exchange occasion presented).program sessions).run := by
  simp only [program, Sessions.exchange]
  cases hvalid : sessions.issuer.validate occasion.now presented with
  | error fault => exact .failed _
  | ok claims =>
    have subject : claims.subject = id := concerns claims hvalid
    subst subject
    rw [Action.ofExcept_ok, Action.pure_bind]
    by_cases hkind : claims.kind = .refresh
    · rw [if_neg (not_not_intro hkind)]
      refine .load ?_
      intro answer hanswer
      match answer, hanswer with
      | .error e, _ => exact .failed e
      | .ok none, _ => exact .failed _
      | .ok (some account), hanswer =>
        change Pending _ _ _
          (Program.bind (Program.bind (Action.ofExcept account.checkStatus).run _) _)
        cases account.checkStatus with
        | error e => exact .failed e
        | ok _ =>
          change Pending _ _ _
            (Program.bind (Program.bind (sessions.refresh occasion account presented).run _) _)
          -- In one piece, what lies ahead is the same as for a refresh.
          rw [Program.bind_assoc]
          exact pending_refresh rfl rfl (hanswer account rfl) (fun _ => rfl) fun _ => rfl
    · rw [if_pos hkind]
      exact .failed _

/-- Everything still lies ahead of a call that has not begun. -/
theorem pending_program (concerns : call.Concerns sessions id) :
    call.Pending sessions id (call.program sessions).run := by
  cases call with
  | login occasion account =>
    have owner : account.id = id := concerns
    subst owner
    simp only [program, Sessions.login]
    cases hpair : sessions.issuePair occasion account with
    | error fault => exact .failed _
    | ok tokens =>
      rw [Action.lift_ok, Action.pure_bind]
      cases hhash : sessions.hasher.hashToken occasion.tokenSalt tokens.refresh.token with
      | error fault => exact .failed _
      | ok hash =>
        have issues : grant? sessions account.id (login occasion account) =
            some ⟨tokens.refresh.token, hash⟩ := Sessions.grant?_eq_some hpair hhash
        refine .login rfl issues (Eq.refl tokens.refresh.token) ?_
        intro answer
        cases answer <;> rfl
  | refresh occasion account presented =>
    exact pending_refresh rfl rfl concerns (fun _ => rfl) fun _ => rfl
  | reload occasion owner presented =>
    have owner : owner = id := concerns
    subst owner
    refine .load ?_
    intro answer hanswer
    match answer, hanswer with
    | .error e, _ => exact .failed e
    | .ok none, _ => exact .failed _
    | .ok (some account), hanswer =>
      exact pending_refresh rfl rfl (hanswer account rfl) (fun _ => rfl) fun _ => rfl
  | exchange occasion presented =>
    exact pending_exchange concerns
  | logout occasion account =>
    have owner : account.id = id := concerns
    subst owner
    refine .logout rfl ?_
    intro answer
    cases answer <;> rfl

/-- What still lies ahead of a call is not its success. -/
theorem Pending.ne_done_ok {ahead : Program (Except AuthError (Option SessionTokens))}
    (h : call.Pending sessions id ahead) (outcome : Option SessionTokens) :
    ahead ≠ .done (.ok outcome) := by
  cases h <;> simp

end SessionCall

/-! ## Turns -/

/-- The pools in which calls about sessions take turns. -/
abbrev SessionPool (ι : Type) := Pool ι (Except AuthError (Option SessionTokens))

namespace Pool

variable {ι : Type}

/-- A call has succeeded. -/
def Succeeded (pool : SessionPool ι) (i : ι) : Prop :=
  ∃ outcome, pool.thread i = .done (.ok outcome)

/-- A call has ended, with success or failure. -/
def Ended (pool : SessionPool ι) (i : ι) : Prop := ∃ result, pool.thread i = .done result

theorem Succeeded.ended {pool : SessionPool ι} {i : ι} (h : pool.Succeeded i) :
    pool.Ended i := by
  obtain ⟨outcome, h⟩ := h
  exact ⟨_, h⟩

end Pool

section Turns

variable {ι : Type} [DecidableEq ι] {sessions : Sessions} {id : Int32} {calls : ι → SessionCall}
  {pool after : SessionPool ι} {event : Event ι} {i : ι}

/-- What one operation does to the session of an account: nothing, or it is the operation by
which one of the calls succeeds. -/
inductive Turn (sessions : Sessions) (id : Int32) (calls : ι → SessionCall)
    (pool : SessionPool ι) (event : Event ι) (after : SessionPool ι) : Prop
  | quiet (unchanged : event.did.change? id = none)
      (stored : after.store.refreshHash? id = pool.store.refreshHash? id)
      (threads : ∀ i, after.thread i = pool.thread i ∨
        ¬pool.Ended i ∧ (calls i).Pending sessions id (after.thread i))
  | grant {i : ι} {grant : Grant} {tokens : SessionTokens} (actor : event.actor = some i)
      (changed : event.did.change? id = some (.granted grant.hash))
      (stored : after.store.refreshHash? id = some grant.hash)
      (running : ¬pool.Ended i)
      (threads : after.thread = Function.update pool.thread i (.done (.ok (some tokens))))
      (issues : (calls i).grant? sessions id = some grant)
      (returns : tokens.refresh.token = grant.token)
      (verified : ∀ presented, (calls i).presented? = some presented →
        ∃ expected, pool.store.refreshHash? id = some expected ∧
          sessions.hasher.verifyToken presented expected = true)
  | logout {i : ι} (actor : event.actor = some i)
      (changed : event.did.change? id = some .ended)
      (stored : after.store.refreshHash? id = none)
      (running : ¬pool.Ended i)
      (threads : after.thread = Function.update pool.thread i (.done (.ok none)))
      (presents : (calls i).presented? = none)

/-- A call that fails, or goes on without a change of the session, takes a quiet turn. -/
theorem Turn.quiet_update {ahead : Program (Except AuthError (Option SessionTokens))}
    (unchanged : event.did.change? id = none)
    (stored : after.store.refreshHash? id = pool.store.refreshHash? id)
    (running : ¬pool.Ended i) (threads : after.thread = Function.update pool.thread i ahead)
    (pending : (calls i).Pending sessions id ahead) :
    Turn sessions id calls pool event after := by
  refine .quiet unchanged stored ?_
  intro j
  rw [threads]
  by_cases h : j = i
  · subst h
    rw [Function.update_self]
    exact Or.inr ⟨running, pending⟩
  · exact Or.inl (Function.update_of_ne h _ _)

/-- A call that fails takes a quiet turn. -/
theorem Turn.failed {e : AuthError} (unchanged : event.did.change? id = none)
    (stored : after.store.refreshHash? id = pool.store.refreshHash? id)
    (running : ¬pool.Ended i)
    (threads : after.thread = Function.update pool.thread i (.done (.error e))) :
    Turn sessions id calls pool event after :=
  .quiet_update unchanged stored running threads (.failed e)

/-- The replacement of a hash succeeds only where the expected one is stored. -/
theorem Store.refreshHash?_of_swapRefreshHash {store : Store} {expected new : String}
    {now : Instant} (h : (store.respond (.swapRefreshHash id expected new now)).1 = .ok true) :
    store.refreshHash? id = some expected := by
  rw [respond_swapRefreshHash] at h
  cases found : store.account? id with
  | none => simp [found] at h
  | some account =>
    by_cases hexpected : account.refreshHash = some expected
    · simpa [refreshHash?, found] using hexpected
    · simp [found, hexpected] at h

/-- Every operation is a turn, where each call has succeeded or has everything ahead of it. -/
theorem turn_of_step (ahead : ∀ i, (calls i).Pending sessions id (pool.thread i) ∨ pool.Succeeded i)
    (step : Pool.Step (StoreCall.KeepsSession id) pool event after) :
    Turn sessions id calls pool event after := by
  cases step with
  | @other op allowed =>
    have unchanged : Answered.change? id ⟨op, (pool.store.respond op).1⟩ = none :=
      Answered.change?_of_keepsSession allowed
    refine .quiet unchanged ?_ fun i => Or.inl rfl
    rw [Store.refreshHash?_respond, unchanged]
  | @own i op bounded next turn =>
    -- A call that performs an operation has not ended, so it has everything ahead of it.
    have running : ¬pool.Ended i := by
      rintro ⟨result, h⟩
      rw [turn] at h
      cases h
    have pending : (calls i).Pending sessions id (.call op bounded next) := by
      rw [← turn]
      exact (ahead i).resolve_right fun h => running h.ended
    have stored : (pool.store.respond op).2.refreshHash? id = _ := Store.refreshHash?_respond op
    -- What is stored afterwards depends on the answer alone, so the cases are those of the answer.
    generalize hanswer : (pool.store.respond op).1 = answer at stored ⊢
    cases pending with
    | load rest =>
      refine .quiet_update rfl stored running rfl (rest answer ?_)
      rintro account rfl
      exact Store.account?_id (by simpa using hanswer)
    | login presents issues returns ends =>
      cases answer with
      | error e => exact .failed rfl stored running (congrArg (Function.update _ _) (ends _))
      | ok answer =>
        rw [Answered.change?_recordLogin] at stored
        refine .grant rfl Answered.change?_recordLogin stored running
          (congrArg (Function.update _ _) (ends _)) issues returns ?_
        intro presented h
        exact absurd (presents.symm.trans h) (by simp)
    | swap presents verified issues returns succeeds fails =>
      match answer, hanswer, stored, fails answer with
      | .error e, _, stored, fails =>
        obtain ⟨e', hfails⟩ := fails (by simp)
        exact .failed rfl stored running (congrArg (Function.update _ _) hfails)
      | .ok false, _, stored, fails =>
        obtain ⟨e', hfails⟩ := fails (by simp)
        exact .failed rfl stored running (congrArg (Function.update _ _) hfails)
      | .ok true, hanswer, stored, _ =>
        rw [Answered.change?_swapRefreshHash] at stored
        refine .grant rfl Answered.change?_swapRefreshHash stored running
          (congrArg (Function.update _ _) succeeds) issues returns ?_
        intro presented h
        obtain rfl := Option.some.inj (presents.symm.trans h)
        exact ⟨_, Store.refreshHash?_of_swapRefreshHash hanswer, verified⟩
    | logout presents ends =>
      cases answer with
      | error e => exact .failed rfl stored running (congrArg (Function.update _ _) (ends _))
      | ok answer =>
        rw [Answered.change?_recordLogout] at stored
        exact .logout rfl Answered.change?_recordLogout stored running
          (congrArg (Function.update _ _) (ends _)) presents

/-- What becomes of one call in a turn: it is not touched, it goes on or fails, or it succeeds
by a change of the session. -/
inductive Course (sessions : Sessions) (id : Int32) (calls : ι → SessionCall)
    (pool : SessionPool ι) (event : Event ι) (after : SessionPool ι) (i : ι) : Prop
  | untouched (same : after.thread i = pool.thread i)
  | onwards (running : ¬pool.Ended i) (ahead : (calls i).Pending sessions id (after.thread i))
  | succeeds {outcome : Option SessionTokens} (running : ¬pool.Ended i)
      (done : after.thread i = .done (.ok outcome)) (actor : event.actor = some i)
      (changed : event.did.change? id ≠ none)
      (returned : ∀ tokens, outcome = some tokens →
        ∃ grant, (calls i).grant? sessions id = some grant ∧ tokens.refresh.token = grant.token)
      (verified : ∀ presented, (calls i).presented? = some presented →
        ∃ expected, pool.store.refreshHash? id = some expected ∧
          sessions.hasher.verifyToken presented expected = true)

namespace Turn

theorem course (turn : Turn sessions id calls pool event after) (i : ι) :
    Course sessions id calls pool event after i := by
  cases turn with
  | quiet _ _ threads =>
    rcases threads i with hsame | ⟨running, ahead⟩
    · exact .untouched hsame
    · exact .onwards running ahead
  | @grant j grant tokens actor changed _ running threads issues returns verified =>
    by_cases hij : i = j
    · subst hij
      refine .succeeds running (by rw [threads, Function.update_self]) actor (by simp [changed])
        ?_ verified
      rintro _ ⟨⟩
      exact ⟨grant, issues, returns⟩
    · exact .untouched (by rw [threads, Function.update_of_ne hij])
  | @logout j actor changed _ running threads presents =>
    by_cases hij : i = j
    · subst hij
      refine .succeeds running (by rw [threads, Function.update_self]) actor (by simp [changed])
        (by simp) ?_
      intro presented h
      exact absurd (presents.symm.trans h) (by simp)
    · exact .untouched (by rw [threads, Function.update_of_ne hij])

variable {i : ι}

theorem ended (turn : Turn sessions id calls pool event after) (h : pool.Ended i) :
    after.Ended i := by
  cases turn.course i with
  | untouched same =>
    obtain ⟨result, hdone⟩ := h
    exact ⟨result, same.trans hdone⟩
  | onwards running => exact absurd h running
  | succeeds running => exact absurd h running

/-- A call succeeds in the turn in which it changes the session, and with a presented token
only where the stored hash verifies it. -/
theorem succeeded (turn : Turn sessions id calls pool event after) (h : after.Succeeded i) :
    pool.Succeeded i ∨ ¬pool.Ended i ∧ event.actor = some i ∧ event.did.change? id ≠ none ∧
      ∀ presented, (calls i).presented? = some presented →
        ∃ expected, pool.store.refreshHash? id = some expected ∧
          sessions.hasher.verifyToken presented expected = true := by
  cases turn.course i with
  | untouched same =>
    obtain ⟨outcome, hdone⟩ := h
    exact Or.inl ⟨outcome, same ▸ hdone⟩
  | onwards running ahead =>
    obtain ⟨outcome, hdone⟩ := h
    exact absurd hdone (ahead.ne_done_ok outcome)
  | succeeds running done actor changed returned verified =>
    exact Or.inr ⟨running, actor, changed, verified⟩

end Turn

/-- The call that changes the session succeeds by that. -/
theorem Turn.succeeds (turn : Turn sessions id calls pool event after) {i : ι}
    (actor : event.actor = some i) (changed : event.did.change? id ≠ none) : after.Succeeded i := by
  cases turn with
  | quiet unchanged => exact absurd unchanged changed
  | grant own _ _ _ threads | logout own _ _ _ threads =>
    obtain rfl := Option.some.inj (own.symm.trans actor)
    exact ⟨_, by rw [threads, Function.update_self]⟩

end Turns

end SessionAuth
