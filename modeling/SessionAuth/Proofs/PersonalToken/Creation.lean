import SessionAuth.Proofs.Session.Freshness
import SessionAuth.Proofs.Time.Calendar

/-!
# What decides on a new token

Whoever asks for a personal token is told first that the name is taken, then that the expiry is no
date, then that it is past, and else has the token. Nothing else stands in the way where secrets can
be hashed and keys sign. In particular no date lies too far ahead. Every date that is read starts
within the limits of time, and the token is issued for exactly the time from now to that start, so
that it ends in the second in which its record does.

## Main definitions

* `TokenIssuer.claimsUntil` — the claims of a token until an instant
* `PersonalTokens.Decided` — what is asked for, and what comes of it
* `PersonalTokens.ReadsBack` — what the text of a new token is read as

## Main results

* `Calendar.exists_ofDate?` — every date that is read starts within the limits of time
* `TokenIssuer.issue_since` — a token can be issued until the start of any day
* `PersonalTokens.exec_create` — what making a token comes to
* `PersonalTokens.create_decides` — the making of a token is decided exactly
-/

namespace SessionAuth

/-! ## Dates that are read -/

namespace Calendar

variable {date : Date}

/-- Every date of the years that are read starts within the limits of time. -/
theorem exists_ofDate?_of_valid (valid : date.Valid) (first : -262143 ≤ date.year)
    (last : date.year ≤ 262142) : ∃ start, Instant.ofDate? date = some start := by
  have hplace := Date.dayOfYear_lt valid
  have hleap : (Date.isLeapYear date.year).toNat ≤ 1 := Bool.toNat_le _
  have hdays : -96465292 ≤ date.toDays ∧ date.toDays ≤ 95026236 := by
    simp only [Date.toDays, Date.daysBeforeYear, Date.epochDay]
    by_cases hyear : date.year = 262142
    -- The last year is no leap year, so its last day is the last of all.
    · have hshort : (Date.isLeapYear date.year).toNat = 0 := by
        rw [hyear]
        rfl
      rw [hyear]
      omega
    · omega
  exact ⟨_, dif_pos ⟨by omega, by omega, by decide⟩⟩

theorem of_date?_eq_some {year : Int} {month day : Nat} (h : date? year month day = some date) :
    date.Valid ∧ -262143 ≤ date.year ∧ date.year ≤ 262142 := by
  have limits : date.Valid ∧ -262143 ≤ year ∧ year ≤ 262142 ∧ date.year = year := by
    change (if _ then some _ else none) = some date at h
    split at h
    · next limits =>
      cases h
      exact ⟨limits.1, limits.2.1, limits.2.2, rfl⟩
    · cases h
  obtain ⟨valid, first, last, rfl⟩ := limits
  exact ⟨valid, first, last⟩

/-- Every date that is read from a text starts within the limits of time. -/
theorem exists_ofDate? {text : List Char} (read : Date.parse? text = some date) :
    ∃ start, Instant.ofDate? date = some start := by
  obtain ⟨⟨year, rest⟩, -, h⟩ := Option.bind_eq_some_iff.mp read
  obtain ⟨rest, -, h⟩ := Option.bind_eq_some_iff.mp h
  obtain ⟨⟨month, rest⟩, -, h⟩ := Option.bind_eq_some_iff.mp h
  obtain ⟨rest, -, h⟩ := Option.bind_eq_some_iff.mp h
  obtain ⟨⟨day, rest⟩, -, h⟩ := Option.bind_eq_some_iff.mp h
  change (if _ then date? year month day else none) = some date at h
  obtain ⟨-, hdate⟩ := Option.ite_none_right_eq_some.mp h
  obtain ⟨valid, first, last⟩ := of_date?_eq_some hdate
  exact exists_ofDate?_of_valid valid first last

end Calendar

/-! ## Tokens until an instant -/

namespace TokenIssuer

variable {issuer : TokenIssuer} {now expiry : Instant} {kind : TokenKind} {subject : Int32}
  {id : Uuid} {roles : List Role}

/-- The claims of a token from one instant until another. -/
def claimsUntil (issuer : TokenIssuer) (now expiry : Instant) (kind : TokenKind) (subject : Int32)
    (id : Uuid) (roles : List Role) : Claims where
  subject := subject
  issuer := issuer.name
  issuedAt := Int64.ofInt now.seconds
  notBefore := Int64.ofInt now.seconds
  expires := Int64.ofInt expiry.seconds
  id := id
  kind := kind
  roles := roles

/-- To issue a token for the time until an instant is to sign the claims that end there. -/
theorem issue_since (regular : expiry.Regular) :
    issuer.issue now kind subject id (expiry.since now) roles =
      match sign issuer.keys (issuer.claimsUntil now expiry kind subject id roles) with
      | .error fault => .error (.key fault)
      | .ok token => .ok ⟨token, issuer.claimsUntil now expiry kind subject id roles⟩ := by
  unfold issue claimsFor?
  rw [Instant.add?_since regular]
  rfl

end TokenIssuer

theorem SecretHasher.exists_hashToken {cost : Nat} (permitted : Bcrypt.costAllowed cost = true)
    (salt : Bcrypt.Salt) (token : String) : ∃ hash, (ofCost cost).hashToken salt token = .ok hash :=
  Bcrypt.exists_hash_of_allowed permitted _ salt (tokenDigest token)

/-! ## The making of a token -/

namespace PersonalTokens

variable {tokens : PersonalTokens} {occasion : Occasion} {caller : Claims} {name expiry : String}
  {midnight : Instant} {store after : Store}

/-- The claims of a token that a caller makes. -/
def claims (tokens : PersonalTokens) (occasion : Occasion) (caller : Claims) (midnight : Instant) :
    Claims :=
  tokens.issuer.claimsUntil occasion.now midnight .personal caller.subject occasion.recordId
    caller.roles

/-- The record of a token that a caller makes. -/
def record (occasion : Occasion) (caller : Claims) (name : String) (midnight : Instant)
    (hash : String) : PersonalToken :=
  ⟨occasion.recordId, caller.subject, name, occasion.now, midnight, hash, false⟩

/-- What making a token comes to. -/
theorem exec_create : (tokens.create occasion caller name expiry).exec store =
    if (store.activeToken? caller.subject name).isSome then (.error (.tokenNameTaken name), store)
    else
      match expiryOf expiry with
      | .error e => (.error e, store)
      | .ok midnight =>
        if midnight ≤ occasion.now then (.error .expiryPast, store)
        else
          match TokenIssuer.sign tokens.issuer.keys (tokens.claims occasion caller midnight) with
          | .error fault => (.error (.tokenNotSigned fault), store)
          | .ok token =>
            match tokens.hasher.hashToken occasion.tokenSalt token with
            | .error fault => (.error (.tokenNotHashed fault), store)
            | .ok hash =>
              (.ok ⟨(record occasion caller name midnight hash).view, token⟩,
                (store.respond (.insertToken (record occasion caller name midnight hash))).2) := by
  unfold create claims
  rw [Action.exec_bind, Action.exec_ask, Store.respond_findActiveToken]
  dsimp only
  split
  · rfl
  next free =>
  cases hexpiry : expiryOf expiry with
  | error e => rfl
  | ok midnight =>
    simp only [Action.ofExcept_ok, Action.pure_bind]
    split
    · rfl
    have regular : midnight.Regular := by
      rw [Instant.Regular, (midnight_of_expiryOf hexpiry).1]
      decide
    rw [TokenIssuer.issuePersonal, TokenIssuer.issue_since regular]
    cases TokenIssuer.sign tokens.issuer.keys (tokens.issuer.claimsUntil _ _ _ _ _ _) with
    | error fault => rfl
    | ok token =>
      simp only [Action.lift_ok, Action.pure_bind]
      cases tokens.hasher.hashToken occasion.tokenSalt token with
      | error fault => rfl
      | ok hash =>
        -- The name is looked at again, and nobody has taken it meanwhile.
        simp only [Action.lift_ok, Action.pure_bind]
        rw [Action.exec_bind, Action.exec_ask, record, Store.respond_insertToken, if_neg free]
        rfl

/-- No token is refused for the length of its life, whatever date its expiry is. -/
theorem create_ne_lifetimeOutOfRange :
    ((tokens.create occasion caller name expiry).exec store).1 ≠ .error .lifetimeOutOfRange := by
  rw [exec_create]
  split
  · nofun
  cases hexpiry : expiryOf expiry with
  | error e =>
    unfold expiryOf at hexpiry
    split at hexpiry
    · cases hexpiry
    · cases hexpiry
      nofun
  | ok midnight =>
    dsimp only
    split
    · nofun
    cases TokenIssuer.sign tokens.issuer.keys (tokens.claims occasion caller midnight) with
    | error fault => nofun
    | ok token =>
      dsimp only
      cases tokens.hasher.hashToken occasion.tokenSalt token with
      | error fault => nofun
      | ok hash => nofun

/-! ## What decides -/

/-- An owner has a token of a name that is not revoked. -/
def Taken (store : Store) (owner : Int32) (name : String) : Prop :=
  ∃ record ∈ store.tokens, record.owner = owner ∧ record.name = name ∧ record.revoked = false

theorem isSome_activeToken?_iff {owner : Int32} :
    (store.activeToken? owner name).isSome = true ↔ Taken store owner name := by
  simp [Store.activeToken?, Store.isActive, Taken, and_assoc]

/-- What is asked for decides what comes of it. A name that is taken counts first, then a text that
names no date, then a date that has started. Else the token is made: it is signed for what the
claims of the caller say and ends in the second in which the date starts, its record is kept besides
those that were there, and with the token the view of this record is handed out. -/
inductive Decided (tokens : PersonalTokens) (occasion : Occasion) (caller : Claims)
    (name expiry : String) (store : Store) : Except AuthError CreatedToken × Store → Prop
  | taken (taken : Taken store caller.subject name) :
      Decided tokens occasion caller name expiry store (.error (.tokenNameTaken name), store)
  | unread (free : ¬Taken store caller.subject name) (unread : Date.parse? expiry.toList = none) :
      Decided tokens occasion caller name expiry store (.error (.notADate expiry), store)
  | past {date : Date} {midnight : Instant} (free : ¬Taken store caller.subject name)
      (read : Date.parse? expiry.toList = some date) (starts : Instant.ofDate? date = some midnight)
      (past : midnight ≤ occasion.now) :
      Decided tokens occasion caller name expiry store (.error .expiryPast, store)
  | made {date : Date} {midnight : Instant} {record : PersonalToken} {issued : IssuedToken}
      {after : Store} (free : ¬Taken store caller.subject name)
      (read : Date.parse? expiry.toList = some date) (starts : Instant.ofDate? date = some midnight)
      (ahead : occasion.now < midnight)
      (makes : tokens.Makes occasion caller name expiry record issued)
      (expires : record.expiresAt = midnight)
      (issues : tokens.issuer.Issues occasion.now .personal caller.subject record.id
        (midnight.since occasion.now) caller.roles issued)
      (ends : issued.claims.expires.toInt = midnight.seconds ∧ midnight.nanos = 0)
      (adds : store.AddsToken record after) (last : after.tokens = store.tokens ++ [record]) :
      Decided tokens occasion caller name expiry store (.ok ⟨record.view, issued.token⟩, after)

theorem expiryOf_of_read {date : Date} (read : Date.parse? expiry.toList = some date)
    (starts : Instant.ofDate? date = some midnight) : expiryOf expiry = .ok midnight :=
  expiryOf_eq_ok_iff.mpr ⟨date, read, starts⟩

/-- A token is made from a date that lies ahead, where keys sign and secrets can be hashed. -/
theorem decided_of_ahead {date : Date} (free : ¬Taken store caller.subject name)
    (read : Date.parse? expiry.toList = some date) (starts : Instant.ofDate? date = some midnight)
    (ahead : occasion.now < midnight) (signs : tokens.issuer.keys.Signs)
    (hashes : ∀ salt token, ∃ hash, tokens.hasher.hashToken salt token = .ok hash)
    (fresh : store.token? occasion.recordId = none) :
    tokens.Decided occasion caller name expiry store
      ((tokens.create occasion caller name expiry).exec store) := by
  have hexpiry := expiryOf_of_read read starts
  obtain ⟨token, htoken⟩ :=
    TokenIssuer.exists_sign signs (tokens.claims occasion caller midnight)
  obtain ⟨hash, hhash⟩ := hashes occasion.tokenSalt token
  obtain ⟨created, after, hexec⟩ : ∃ created after,
      (tokens.create occasion caller name expiry).exec store = (.ok created, after) := by
    rw [exec_create, if_neg (mt isSome_activeToken?_iff.mp free), hexpiry]
    simp only [if_neg (Instant.not_le.mpr ahead), htoken, hhash]
    exact ⟨_, _, rfl⟩
  obtain ⟨record, issued, makes, rfl, inserted⟩ := makes_of_exec_create hexec
  obtain rfl : record.expiresAt = midnight := Except.ok.inj (makes.expiry.symm.trans hexpiry)
  have issues := TokenIssuer.issues_of_issue makes.signed
  have adds := Store.addsToken_of_insertToken inserted
  rw [hexec]
  exact .made free read starts ahead makes rfl (makes.owner ▸ issues)
    ⟨makes.expires_eq, (midnight_of_expiryOf hexpiry).1⟩ adds (adds.tokens (makes.id ▸ fresh))

/-- The text of a new token stands for some claims: they are those that its caller asked for and end
with its record, and from the making until a minute behind the end they are what is read from the
text. -/
structure ReadsBack (tokens : PersonalTokens) (occasion : Occasion) (caller : Claims)
    (created : CreatedToken) (claims : Claims) : Prop where
  subject : claims.subject = caller.subject
  kind : claims.kind = .personal
  roles : claims.roles = caller.roles
  id : claims.id = created.view.id
  expires : claims.expires.toInt = created.view.expiresAt.seconds
  valid : ∀ later : Instant, occasion.now.seconds ≤ later.seconds → 60 ≤ later.seconds →
    later.seconds ≤ claims.expires.toInt + 60 →
    tokens.issuer.validate later created.token = .ok claims

/-- What is handed out is read back, where the keys accept what they sign. -/
theorem exists_readsBack {created : CreatedToken}
    (trusts : tokens.issuer.keys.Trusts tokens.issuer.keys) (started : 0 ≤ occasion.now.seconds)
    (made : (tokens.create occasion caller name expiry).exec store = (.ok created, after)) :
    ∃ claims, tokens.ReadsBack occasion caller created claims := by
  obtain ⟨record, issued, makes, rfl, -⟩ := makes_of_exec_create made
  have issues := TokenIssuer.issues_of_issue makes.signed
  have expires := makes.expires_eq
  exact ⟨issued.claims,
    { subject := issues.subject.trans makes.owner
      kind := issues.kind
      roles := issues.roles
      id := issues.id
      expires
      valid := fun later since running lasts =>
        makes.validate_eq_ok trusts started since running (expires ▸ lasts) }⟩

/-- The making of a token is decided exactly, whatever the clock, the caller, the name, the text and
the store are. No token is ever refused for the length of its life. Where the keys accept what they
sign, the token that is handed out is read back with what was asked for. And where the cost of
hashes is permitted, the keys sign and the identifier is new, the name, the text and the date
decide, in this order, and nothing else does. -/
theorem create_decides (tokens : PersonalTokens) (occasion : Occasion) (caller : Claims)
    (name expiry : String) (store : Store) :
    ((tokens.create occasion caller name expiry).exec store).1 ≠ .error .lifetimeOutOfRange ∧
    (tokens.issuer.keys.Trusts tokens.issuer.keys → 0 ≤ occasion.now.seconds →
      ∀ created after,
        (tokens.create occasion caller name expiry).exec store = (.ok created, after) →
        ∃ claims, tokens.ReadsBack occasion caller created claims) ∧
    ∀ cost, tokens.hasher = .ofCost cost → Bcrypt.costAllowed cost = true →
      tokens.issuer.keys.Signs → store.token? occasion.recordId = none →
      tokens.Decided occasion caller name expiry store
        ((tokens.create occasion caller name expiry).exec store) := by
  refine ⟨create_ne_lifetimeOutOfRange, ?_, ?_⟩
  · intro trusts started created after made
    exact exists_readsBack trusts started made
  intro cost hasher permitted signs fresh
  by_cases taken : Taken store caller.subject name
  · rw [exec_create, if_pos (isSome_activeToken?_iff.mpr taken)]
    exact .taken taken
  cases read : Date.parse? expiry.toList with
  | none =>
    have hexpiry : expiryOf expiry = .error (.notADate expiry) := by
      rw [expiryOf, read, Option.bind_none]
    rw [exec_create, if_neg (mt isSome_activeToken?_iff.mp taken), hexpiry]
    exact .unread taken read
  | some date =>
    obtain ⟨midnight, starts⟩ := Calendar.exists_ofDate? read
    by_cases past : midnight ≤ occasion.now
    · rw [exec_create, if_neg (mt isSome_activeToken?_iff.mp taken), expiryOf_of_read read starts]
      simp only [if_pos past]
      exact .past taken read starts past
    · refine decided_of_ahead taken read starts (Instant.not_le.mp past) signs ?_ fresh
      rw [hasher]
      exact SecretHasher.exists_hashToken permitted

end PersonalTokens

namespace FarthestToken

/-- The data of a private key, with a seed of zeros. -/
def keyData : List UInt8 :=
  [0x30, 46, 0x02, 1, 0, 0x30, 5, 0x06, 3, 0x2b, 0x65, 0x70, 0x04, 34, 0x04, 32] ++
    List.replicate 32 0

/-- Keys that were read, and the slow function in use at a cost that is permitted. -/
def tokens : PersonalTokens := ⟨{ TokenIssuer.echo with keys := .ofData keyData [] }, .ofCost 12⟩

/-- The last moment of a second. -/
def occasion : Occasion :=
  ⟨(Instant.of? 1700000000 999999999).get rfl, .nil, .nil, .nil, .ofNat 0, .ofNat 0, fun _ => ""⟩

/-- The name was used before, for a token that is revoked. -/
def store : Store := ⟨7, [], [⟨.version4 0, 7, "ci", .epoch, .epoch, "hash", true⟩]⟩

/-- The same with keys whose signatures are the messages. -/
def echoing : PersonalTokens := { tokens with issuer := .echo }

/-- The start of the last day of all. -/
def lastDay : Instant := (Instant.ofDate? ⟨262142, 12, 31⟩).get rfl

/-- A token can be made until the last day of all, and its claims end in the second in which that
day starts. They are read back in this second and for a minute more. -/
theorem create_decides_last : tokens.issuer.keys.Signs ∧
    store.token? occasion.recordId = none ∧
    (∃ (record : PersonalToken) (issued : IssuedToken) (after : Store),
      (tokens.create occasion RevokedToken.caller "ci" "+262142-12-31").exec store =
        (.ok ⟨record.view, issued.token⟩, after) ∧
      issued.claims.expires.toInt = 8210266790400 ∧ after.token? record.id = some record) ∧
    ∃ created after claims,
      (echoing.create occasion RevokedToken.caller "ci" "+262142-12-31").exec store =
        (.ok created, after) ∧
      claims.roles = RevokedToken.caller.roles ∧
      echoing.issuer.validate lastDay created.token = .ok claims := by
  have fresh : store.token? occasion.recordId = none := by decide
  have free : ¬PersonalTokens.Taken store RevokedToken.caller.subject "ci" := by
    rintro ⟨record, mem, -, -, active⟩
    rw [List.mem_singleton.mp mem] at active
    cases active
  have read : Date.parse? "+262142-12-31".toList = some ⟨262142, 12, 31⟩ := by decide +kernel
  have starts : Instant.ofDate? ⟨262142, 12, 31⟩ = some lastDay := rfl
  have signs : tokens.issuer.keys.Signs :=
    KeyPair.signs_ofData (show KeyPair.seed? keyData = some (List.replicate 32 0) by decide)
  -- With the one and the other keys nothing stands in the way.
  have made (tokens : PersonalTokens) (hasher : tokens.hasher = .ofCost 12)
      (signs : tokens.issuer.keys.Signs) :
      ∃ (record : PersonalToken) (issued : IssuedToken) (after : Store),
      (tokens.create occasion RevokedToken.caller "ci" "+262142-12-31").exec store =
        (.ok ⟨record.view, issued.token⟩, after) ∧
      record.expiresAt = lastDay ∧ issued.claims.expires.toInt = 8210266790400 ∧
      after.token? record.id = some record := by
    obtain ⟨-, -, hdecided⟩ := PersonalTokens.create_decides tokens occasion RevokedToken.caller
      "ci" "+262142-12-31" store
    have decided := hdecided 12 hasher rfl signs fresh
    generalize (tokens.create occasion RevokedToken.caller "ci" "+262142-12-31").exec store =
      outcome at decided ⊢
    cases decided with
    | taken taken => exact absurd taken free
    | unread _ unread => cases read.symm.trans unread
    | past _ read' starts' past =>
      obtain rfl := Option.some.inj (read.symm.trans read')
      obtain rfl := Option.some.inj (starts.symm.trans starts')
      exact absurd past (by decide)
    | made _ read' starts' _ _ expires _ ends adds _ =>
      obtain rfl := Option.some.inj (read.symm.trans read')
      obtain rfl := Option.some.inj (starts.symm.trans starts')
      exact ⟨_, _, _, rfl, expires, ends.1, adds.added⟩
  obtain ⟨first, signed, left, creates, -, ends, kept⟩ := made tokens rfl signs
  refine ⟨signs, fresh, ⟨first, signed, left, creates, ends, kept⟩, ?_⟩
  obtain ⟨record, issued, after, created, expires, -⟩ :=
    made echoing rfl fun message => ⟨message, rfl⟩
  obtain ⟨-, readable, -⟩ := PersonalTokens.create_decides echoing occasion RevokedToken.caller
    "ci" "+262142-12-31" store
  obtain ⟨claims, back⟩ := readable TokenIssuer.echo_trusts_echo (by decide) _ _ created
  have ends : claims.expires.toInt = lastDay.seconds :=
    back.expires.trans (congrArg Instant.seconds expires)
  exact ⟨_, after, claims, created, back.roles, back.valid lastDay (by decide) (by decide)
    (by omega)⟩

end FarthestToken

end SessionAuth
