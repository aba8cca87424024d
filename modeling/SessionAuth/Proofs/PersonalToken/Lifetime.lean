import Mathlib.Tactic.Common
import SessionAuth.Proofs.Interleaving
import SessionAuth.Proofs.Outage

/-!
# How long a personal token works

The record of a new token is put in with everything that is ever said of it, and later operations
only mark it as revoked. So the token works until one of them has revoked it or the expiry in the
record has passed. The signature of the token holds for a minute longer, but the gate looks at
the record as well.

## Main definitions

* `SecretHasher.Tells` — stored hashes tell two tokens apart
* `PersonalTokens.Makes` — the record of a new token, and the token
* `Answered.Revokes`, `RevokedIn` — an operation, or a log, revoked a record
* `PersonalToken.Kept` — a record is as it was, but for the mark

## Main results

* `PersonalTokens.makes_of_exec_create` — what is put in and handed out
* `Store.token?_respond`, `Pool.Run.exists_kept` — an operation and a run keep a record
* `PersonalTokens.lifetime` — when a token works
-/

namespace SessionAuth

variable {ι α : Type}

/-! ## Making a token -/

/-- A stored hash of a token belongs to a presented one exactly if they are the same. -/
def SecretHasher.Tells (hasher : SecretHasher) (presented token : String) : Prop :=
  ∀ salt hash, hasher.hashToken salt token = .ok hash →
    (hasher.verifyToken presented hash = true ↔ presented = token)

namespace PersonalTokens

/-- The record of a new token and the token itself, made from the claims of a caller. -/
structure Makes (tokens : PersonalTokens) (occasion : Occasion) (caller : Claims)
    (name expiry : String) (record : PersonalToken) (issued : IssuedToken) : Prop where
  id : record.id = occasion.recordId
  owner : record.owner = caller.subject
  name : record.name = name
  createdAt : record.createdAt = occasion.now
  notRevoked : record.revoked = false
  expiry : expiryOf expiry = .ok record.expiresAt
  ahead : occasion.now < record.expiresAt
  signed : tokens.issuer.issuePersonal occasion.now record.id record.owner
    (record.expiresAt.since occasion.now) caller.roles = .ok issued
  hashed : tokens.hasher.hashToken occasion.tokenSalt issued.token = .ok record.tokenHash

variable {tokens : PersonalTokens} {occasion : Occasion} {caller : Claims} {name expiry : String}
  {record current : PersonalToken} {issued : IssuedToken} {store after : Store}
  {created : CreatedToken}

/-- A token that is made is handed out, and its record is put in. -/
theorem makes_of_exec_create
    (h : (tokens.create occasion caller name expiry).exec store = (.ok created, after)) :
    ∃ record issued, tokens.Makes occasion caller name expiry record issued ∧
      created = ⟨record.view, issued.token⟩ ∧ store.insertToken record = (.ok (), after) := by
  simp only [create, Action.throw_bind] at h
  obtain ⟨taken?, -, h⟩ := Action.of_exec_ask_bind h
  rw [Store.respond_findActiveToken] at h
  obtain ⟨-, h⟩ := Action.of_exec_ite_throw h
  obtain ⟨expiresAt, hexpiry, h⟩ := Action.of_exec_ofExcept_bind h
  obtain ⟨ahead, h⟩ := Action.of_exec_ite_throw h
  obtain ⟨issued, hissued, h⟩ := Action.of_exec_lift_bind h
  obtain ⟨hash, hhash, h⟩ := Action.of_exec_lift_bind h
  obtain ⟨answer, hinserted, h⟩ := Action.of_exec_ask_bind h
  have hperformed : store.insertToken _ = (.ok answer, _) := Prod.ext hinserted rfl
  rw [Action.exec_pure, Prod.mk.injEq, Except.ok.injEq] at h
  obtain ⟨rfl, rfl⟩ := h
  refine ⟨⟨occasion.recordId, caller.subject, name, occasion.now, expiresAt, hash, false⟩, issued,
    ?_, rfl, ?_⟩
  · exact ⟨rfl, rfl, rfl, rfl, rfl, hexpiry, Instant.not_le.mp ahead, hissued, hhash⟩
  · exact hperformed

end PersonalTokens

/-! ## Keeping the record -/

/-- An operation revoked the record of an identifier. -/
def Answered.Revokes (id : Uuid) (did : Answered) : Prop := did = ⟨.revokeToken id, .ok true⟩

/-- The record of an identifier was revoked in the course of a log. -/
def RevokedIn (log : List (Event ι)) (id : Uuid) : Prop := ∃ event ∈ log, event.did.Revokes id

/-- A record is as it was, but that it may be marked as revoked. -/
structure PersonalToken.Kept (record current : PersonalToken) (revoked : Prop) : Prop where
  same : current = { record with revoked := current.revoked }
  revoked : current.revoked = true ↔ revoked

theorem revokedIn_append {log : List (Event ι)} {event : Event ι} {id : Uuid} :
    RevokedIn (log ++ [event]) id ↔ RevokedIn log id ∨ event.did.Revokes id := by
  simp [RevokedIn, or_and_right, exists_or]

section Kept

variable {record current : PersonalToken} {store : Store}

/-- A record that is kept twice is kept. -/
theorem PersonalToken.Kept.trans {further : PersonalToken} {before behind : Prop}
    (first : record.Kept current before)
    (second : current.Kept further (current.revoked = true ∨ behind)) :
    record.Kept further (before ∨ behind) := by
  refine ⟨?_, second.revoked.trans (or_congr_left first.revoked)⟩
  rw [second.same, first.same]

/-- Behind an insertion the record is found under its identifier if it was taken in, and under every
other identifier what was there before. -/
theorem Store.token?_respond_insertToken (store : Store) (record : PersonalToken) (id : Uuid) :
    (store.respond (.insertToken record)).2.token? id =
      if (store.respond (.insertToken record)).1 = .ok () ∧ id = record.id then some record
      else store.token? id := by
  cases answer : (store.respond (.insertToken record)).1 with
  | error e => rw [Store.respond_eq_self answer, if_neg (by simp)]
  | ok _ =>
    have inserted : store.insertToken record = (.ok (), (store.respond (.insertToken record)).2) :=
      Prod.ext answer rfl
    rw [Store.token?_insertToken inserted]
    simp

/-- An operation keeps the record of an identifier that it does not put in, and marks it if it
revokes it. -/
theorem Store.token?_respond (stored : store.token? record.id = some record) (op : StoreCall)
    (apart : ∀ other, op = .insertToken other → other.id ≠ record.id) :
    ∃ current, (store.respond op).2.token? record.id = some current ∧
      record.Kept current (record.revoked = true ∨
        Answered.Revokes record.id ⟨op, (store.respond op).1⟩) := by
  -- Where the record is found again it is kept, if nothing was revoked.
  have found {after : Store} {op : StoreCall} {answer : Except AuthError op.Answer}
      (same : after.token? record.id = some record)
      (other : ¬Answered.Revokes record.id ⟨op, answer⟩) :
      ∃ current, after.token? record.id = some current ∧
        record.Kept current (record.revoked = true ∨ Answered.Revokes record.id ⟨op, answer⟩) :=
    ⟨record, same, rfl, by simp [other]⟩
  cases op with
  | revokeToken id =>
    rw [Store.respond_revokeToken]
    have hafter : (store.revokeToken id).2.token? record.id = _ := Store.token?_revokeToken
    rw [stored, Option.map_some] at hafter
    by_cases hid : record.id = id
    · subst hid
      rw [if_pos rfl] at hafter
      refine ⟨_, hafter, rfl, iff_of_true rfl ?_⟩
      -- A record that was not marked before is marked by this operation, which tells it.
      cases revoked : record.revoked with
      | true => exact .inl rfl
      | false =>
        have hanswer := Store.revokeToken_fst_iff.mpr ⟨record, stored, revoked⟩
        exact .inr (by rw [Answered.Revokes, hanswer])
    · rw [if_neg hid] at hafter
      refine found hafter ?_
      intro heq
      exact hid (StoreCall.revokeToken.inj (congrArg Answered.op heq)).symm
  | insertToken other =>
    refine found ?_ nofun
    rw [Store.token?_respond_insertToken, if_neg fun taken => apart other rfl taken.2.symm, stored]
  | findToken | tokensOf | findActiveToken => exact found stored nofun
  | ping | findAccount | findByEmail | createAccount | recordLogin | swapRefreshHash
  | recordLogout | updateStatus | updateRole =>
    refine found ?_ nofun
    rw [Store.token?, Store.tokens_respond rfl]
    exact stored

/-- A run in which no record of its identifier is put in keeps a record, and marks it if it is
revoked on the way. -/
theorem Pool.Run.exists_kept [DecidableEq ι] {others : StoreCall → Prop} {start pool : Pool ι α}
    {log : List (Event ι)} (run : Pool.Run others start log pool)
    (stored : start.store.token? record.id = some record) (notRevoked : record.revoked = false)
    (apart : ∀ event ∈ log, ∀ other, event.did.op = .insertToken other → other.id ≠ record.id) :
    ∃ current, pool.store.token? record.id = some current ∧
      record.Kept current (RevokedIn log record.id) := by
  induction run with
  | refl => exact ⟨record, stored, rfl, by simp [notRevoked, RevokedIn]⟩
  | @tail log pool after event run step ih =>
    obtain ⟨current, hcurrent, kept⟩ := ih fun event mem => apart event (List.mem_append_left _ mem)
    have hid : current.id = record.id := by rw [kept.same]
    obtain ⟨hdid, hstore⟩ := step.respond
    obtain ⟨further, hfurther, keptFurther⟩ := Store.token?_respond (hid.symm ▸ hcurrent)
      event.did.op (hid.symm ▸ apart event (by simp))
    rw [hid, ← hstore] at hfurther
    rw [hid, ← hdid] at keptFurther
    refine ⟨further, hfurther, ?_⟩
    rw [revokedIn_append]
    exact kept.trans keptFurther

end Kept

/-! ## Checks -/

namespace PersonalTokens

variable {tokens : PersonalTokens} {record current : PersonalToken} {presented : String}
  {now : Instant}

theorem check_of_other (other : tokens.hasher.verifyToken presented current.tokenHash = false) :
    tokens.check now current presented = .error .personalTokenMismatch := by
  simp [check, other]

/-- The token of a record is refused if the record is marked, and else if its expiry is past. -/
theorem check_of_same {revoked : Prop} (kept : record.Kept current revoked)
    (same : tokens.hasher.verifyToken presented current.tokenHash = true) (now : Instant) :
    (tokens.check now current presented = .ok () ↔ ¬revoked ∧ now ≤ record.expiresAt) ∧
      (revoked → tokens.check now current presented = .error .personalTokenRevoked) ∧
      (¬revoked → record.expiresAt < now →
        tokens.check now current presented = .error .personalTokenExpired) := by
  have hexpiry : current.expiresAt = record.expiresAt := by rw [kept.same]
  have hcheck : tokens.check now current presented =
      if current.revoked then .error .personalTokenRevoked
      else if record.expiresAt < now then .error .personalTokenExpired
      else .ok () := by
    simp [check, same, hexpiry]
  rw [hcheck, ← Instant.not_lt, ← kept.revoked]
  cases current.revoked with
  | true => simp
  | false => by_cases past : record.expiresAt < now <;> simp [past]

end PersonalTokens

/-- Nobody is let pass with the token of a record that is revoked or past, however the gate is
set up and whatever fails. -/
theorem Gate.not_allowed_of_gone {gate : Gate} {keys : KeyPair} {claims : Claims}
    {token : String} (signed : TokenIssuer.sign keys claims = .ok token)
    (personal : claims.kind = .personal) {store : Store} {current : PersonalToken}
    (stored : store.token? claims.id = some current) {now : Instant}
    (gone : current.revoked = true ∨ current.expiresAt < now) {request : GateRequest}
    {source : CredentialSource} (carries : request.Carries token source) (backend : Backend)
    (caller : Caller) (after : Store) :
    (gate.authorize now request).run.run backend store ≠ some (.ok (.allowed caller), after) := by
  intro hrun
  obtain ⟨other, working⟩ :=
    Gate.working_of_verdict (Gate.verdict_of_decision (Gate.decision_of_run_authorize hrun))
  -- The token that counts is the one that is carried, so the claims are the signed ones.
  have hcredential := GateRequest.carries_iff.mp working.carries
  rw [GateRequest.carries_iff.mp carries] at hcredential
  obtain ⟨rfl, -⟩ := Prod.mk.inj (Option.some.inj hcredential)
  have hclaims := TokenIssuer.claims_of_validate_sign signed working.valid
  rw [← hclaims] at personal stored
  obtain ⟨record, hrecord, -, -, notRevoked, notPast⟩ := working.record personal
  obtain rfl := Option.some.inj (stored.symm.trans hrecord)
  rcases gone with revoked | past
  · rw [revoked] at notRevoked
    cases notRevoked
  · exact Instant.not_le.mpr past notPast

/-! ## Times -/

namespace PersonalTokens

/-- An expiry is the start of the date that is read. -/
theorem expiryOf_eq_ok_iff {text : String} {t : Instant} : expiryOf text = .ok t ↔
    ∃ date, Date.parse? text.toList = some date ∧ Instant.ofDate? date = some t := by
  rw [← Option.bind_eq_some_iff]
  unfold expiryOf
  cases (Date.parse? text.toList).bind Instant.ofDate? with
  | none => simp
  | some start => simp

/-- An expiry is the start of a day. -/
theorem midnight_of_expiryOf {text : String} {t : Instant} (h : expiryOf text = .ok t) :
    t.nanos = 0 ∧ t.seconds % 86400 = 0 := by
  obtain ⟨date, -, starts⟩ := expiryOf_eq_ok_iff.mp h
  obtain ⟨hseconds, hnanos⟩ := Instant.ofDate?_eq_some_iff.mp starts
  exact ⟨hnanos, by omega⟩

namespace Makes

variable {tokens : PersonalTokens} {occasion : Occasion} {caller : Claims} {name expiry : String}
  {record : PersonalToken} {issued : IssuedToken}

/-- The expiry lies in a later second than the making. -/
theorem seconds_lt (makes : tokens.Makes occasion caller name expiry record issued) :
    occasion.now.seconds < record.expiresAt.seconds := by
  obtain ⟨hnanos, -⟩ := midnight_of_expiryOf makes.expiry
  have ahead : record.expiresAt.le occasion.now = false := makes.ahead
  simp only [Instant.le, hnanos, Bool.or_eq_false_iff, Bool.and_eq_false_iff,
    decide_eq_false_iff_not] at ahead
  omega

/-- The claims end with the expiry of the record. -/
theorem expires_eq (makes : tokens.Makes occasion caller name expiry record issued) :
    issued.claims.expires.toInt = record.expiresAt.seconds := by
  obtain ⟨hnanos, -⟩ := midnight_of_expiryOf makes.expiry
  rw [(TokenIssuer.issues_of_issue makes.signed).expires]
  simp only [Instant.since, Instant.toNanoseconds, Duration.perSecond, hnanos]
  omega

/-- From the making of a token until a minute behind its expiry its claims are read back. -/
theorem validate_eq_ok (makes : tokens.Makes occasion caller name expiry record issued)
    (trusts : tokens.issuer.keys.Trusts tokens.issuer.keys) (started : 0 ≤ occasion.now.seconds)
    {later : Instant} (since : occasion.now.seconds ≤ later.seconds) (running : 60 ≤ later.seconds)
    (lasts : later.seconds ≤ record.expiresAt.seconds + 60) :
    tokens.issuer.validate later issued.token = .ok issued.claims := by
  have hahead := makes.seconds_lt
  have hexpires := makes.expires_eq
  exact TokenIssuer.validate_of_issue trusts makes.signed started since running (by omega)
    (by omega)

/-- The signature holds for a minute behind the expiry. -/
theorem validate_behind (makes : tokens.Makes occasion caller name expiry record issued)
    (trusts : tokens.issuer.keys.Trusts tokens.issuer.keys) (started : 0 ≤ occasion.now.seconds)
    {later : Instant} (behind : record.expiresAt ≤ later)
    (lasts : later.seconds ≤ record.expiresAt.seconds + 60) :
    tokens.issuer.validate later issued.token = .ok issued.claims := by
  have hahead := makes.seconds_lt
  have hbehind := Instant.seconds_le behind
  -- The first expiry that may lie ahead is the end of the first day.
  obtain ⟨-, hmidnight⟩ := midnight_of_expiryOf makes.expiry
  exact makes.validate_eq_ok trusts started (by omega) (by omega) lasts

end Makes

end PersonalTokens

/-! ## The life of a token -/

/-- A personal token works from its making until it is revoked or its expiry has passed. After
any run in which no record of its identifier is put in, its record is found as it was made but
for the mark. The token is then refused as revoked if it was revoked on the way, else as expired
once its expiry has passed, and not refused otherwise, while another token is refused as such.
Behind its end the gate lets nobody pass with it, although the signature holds for a minute
longer. -/
theorem PersonalTokens.lifetime [DecidableEq ι] {tokens : PersonalTokens} {occasion : Occasion}
    {caller : Claims} {name expiry : String} {store after : Store} {created : CreatedToken}
    (creates : (tokens.create occasion caller name expiry).exec store = (.ok created, after))
    (tells : tokens.hasher.Tells created.token created.token) {others : StoreCall → Prop}
    {threads : ι → Program α} {log : List (Event ι)} {pool : Pool ι α}
    (run : Pool.Run others ⟨after, threads⟩ log pool)
    (apart : ∀ event ∈ log, ∀ other, event.did.op = .insertToken other →
      other.id ≠ occasion.recordId) :
    ∃ record issued current, tokens.Makes occasion caller name expiry record issued ∧
      created = ⟨record.view, issued.token⟩ ∧ after.token? record.id = some record ∧
      pool.store.token? record.id = some current ∧
      current = { record with revoked := current.revoked } ∧
      (∀ now,
        (tokens.check now current created.token = .ok () ↔
          ¬RevokedIn log record.id ∧ now ≤ record.expiresAt) ∧
        (RevokedIn log record.id →
          tokens.check now current created.token = .error .personalTokenRevoked) ∧
        (¬RevokedIn log record.id → record.expiresAt < now →
          tokens.check now current created.token = .error .personalTokenExpired) ∧
        ∀ presented, presented ≠ created.token → tokens.hasher.Tells presented created.token →
          tokens.check now current presented = .error .personalTokenMismatch) ∧
      (∀ (gate : Gate) (backend : Backend) (now : Instant) (request : GateRequest)
        (source : CredentialSource), request.Carries created.token source →
        RevokedIn log record.id ∨ record.expiresAt < now →
        ∀ passing left, (gate.authorize now request).run.run backend pool.store ≠
          some (.ok (.allowed passing), left)) ∧
      (tokens.issuer.keys.Trusts tokens.issuer.keys → 0 ≤ occasion.now.seconds →
        ∀ later, record.expiresAt ≤ later → later.seconds ≤ record.expiresAt.seconds + 60 →
          tokens.issuer.validate later created.token = .ok issued.claims) := by
  obtain ⟨record, issued, makes, rfl, inserted⟩ := makes_of_exec_create creates
  have stored : after.token? record.id = some record := by
    rw [Store.token?_insertToken inserted, if_pos rfl]
  obtain ⟨current, hcurrent, kept⟩ := run.exists_kept stored makes.notRevoked (makes.id ▸ apart)
  refine ⟨record, issued, current, makes, rfl, stored, hcurrent, kept.same, ?_, ?_, ?_⟩
  · intro now
    have hhash : tokens.hasher.hashToken occasion.tokenSalt issued.token =
        .ok current.tokenHash := by
      rw [kept.same]
      exact makes.hashed
    have hcheck := check_of_same kept ((tells _ _ hhash).mpr rfl) now
    refine ⟨hcheck.1, hcheck.2.1, hcheck.2.2, fun presented ne tells => check_of_other ?_⟩
    exact Bool.eq_false_iff.mpr fun belongs => ne ((tells _ _ hhash).mp belongs)
  · intro gate backend now request source carries gone
    obtain ⟨hclaims, hsign⟩ := TokenIssuer.issue_eq_ok makes.signed
    obtain ⟨-, -, hid, hkind, -⟩ := TokenIssuer.claimsFor?_eq_some hclaims
    refine Gate.not_allowed_of_gone hsign hkind (hid ▸ hcurrent) ?_ carries backend
    rw [kept.revoked, kept.same]
    exact gone
  · intro trusts started later behind lasts
    exact makes.validate_behind trusts started behind lasts

namespace RevokedToken

/-- An issuer that signs with the message itself, and a hash that is the token itself. -/
def tokens : PersonalTokens := ⟨.echo, AdminRequest.gate.hasher⟩

/-- The claims of an administrator. -/
def caller : Claims := ⟨7, "issuer", 100, 100, 700, .nil, .access, [.admin]⟩

/-- A token for a day is refused as soon as it is revoked, and its signature still holds a minute
behind its expiry. -/
theorem lifetime_of_revoked : ∃ (created : CreatedToken) (after : Store) (current : PersonalToken)
    (late : Instant),
    (tokens.create AdminRequest.occasion caller "ci" "1970-01-02").exec AdminRequest.store =
      (.ok created, after) ∧
    (after.respond (.revokeToken .nil)).2.token? .nil = some current ∧
    tokens.check AdminRequest.now current created.token = .error .personalTokenRevoked ∧
    late.seconds = 86460 ∧ ∃ claims, TokenIssuer.echo.validate late created.token = .ok claims := by
  obtain ⟨created, after, creates⟩ : ∃ created after,
      (tokens.create AdminRequest.occasion caller "ci" "1970-01-02").exec AdminRequest.store =
        (.ok created, after) := ⟨_, _, rfl⟩
  have tells : tokens.hasher.Tells created.token created.token := by
    intro salt hash h
    cases h
    exact decide_eq_true_iff
  have step : Pool.Step (fun _ => True) ⟨after, fun _ : Unit => Program.done ()⟩
      ⟨none, .revokeToken .nil, (after.respond (.revokeToken .nil)).1⟩
      ⟨(after.respond (.revokeToken .nil)).2, fun _ => Program.done ()⟩ := .other trivial
  obtain ⟨record, issued, current, makes, -, stored, hcurrent, -, hcheck, -, hvalid⟩ :=
    PersonalTokens.lifetime creates tells (Pool.Run.refl.tail step) (by simp)
  have hid : record.id = .nil := makes.id
  have refused : tokens.check AdminRequest.now current created.token =
      .error .personalTokenRevoked := by
    refine (hcheck _).2.1 ⟨_, List.mem_singleton_self _, ?_⟩
    have hanswer := Store.revokeToken_fst_iff.mpr ⟨record, stored, makes.notRevoked⟩
    rw [hid] at hanswer ⊢
    rw [Answered.Revokes, Store.respond_revokeToken, hanswer]
  rw [hid] at hcurrent
  have hexpiry : record.expiresAt = ⟨86400, 0, by decide, by decide, by decide⟩ :=
    Except.ok.inj (makes.expiry.symm.trans rfl)
  refine ⟨created, after, current, ⟨86460, 0, by decide, by decide, by decide⟩, creates, hcurrent,
    refused, rfl, issued.claims, ?_⟩
  exact hvalid TokenIssuer.echo_trusts_echo (by decide) _ (by rw [hexpiry]; decide)
    (by rw [hexpiry]; decide)

end RevokedToken

end SessionAuth
