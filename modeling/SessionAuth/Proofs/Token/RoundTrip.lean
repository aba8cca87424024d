import SessionAuth.Proofs.Json.RoundTrip
import SessionAuth.Token.Issuer

/-!
# Accepting what was issued

An issued token is cut at its dots into the parts it was joined from, the parts are read back
to the header and the claims, and the signature belongs to them. So all that decides whether
the token is accepted is the time: it is, from a minute before its start to a minute behind
its expiry, and exactly the issued claims are what is read.

## Main definitions

* `TokenIssuer.Issues` — what is signed as an issued token

## Main results

* `Compact.split?_join` — a token is cut into its parts
* `Claims.ofJson?_toJson` — claims are read back from JSON
* `TokenIssuer.decode_sign` — of a signed token only the claims are left to check
* `TokenIssuer.claims_of_validate_sign` — nothing else is read from a signed token
* `TokenIssuer.sign_injective` — different claims are signed as different tokens
* `TokenIssuer.validate_issue` — when exactly an issued token is accepted
-/

namespace SessionAuth

open Json (Value)

/-! ## Checks in sequence -/

theorem bind_eq_ok_iff {ε α β : Type} {result : Except ε α} {f : α → Except ε β} {b : β} :
    (result >>= f) = .ok b ↔ ∃ a, result = .ok a ∧ f a = .ok b := by
  cases result with
  | error e => simp [bind, Except.bind]
  | ok a => simp [bind, Except.bind]

theorem ite_error_eq_ok_iff {ε α : Type} {p : Prop} [Decidable p] {e : ε} {rest : Except ε α}
    {a : α} : (if p then .error e else rest) = .ok a ↔ ¬p ∧ rest = .ok a := by
  by_cases hp : p <;> simp [hp]

/-! ## Parts -/

namespace Compact

/-- Every character of a part has a value. -/
theorem isSome_value?_of_mem_encode {c : Char} {bytes : List UInt8} (h : c ∈ encode bytes) :
    (Base64.urlSafe.value? c).isSome = true :=
  Base64.isSome_value?_of_decode? (Base64.decode?_encode Base64.urlSafe_reads bytes) h

/-- No dot occurs among the characters of a part. -/
theorem dot_notMem_encode (bytes : List UInt8) : '.' ∉ encode bytes := by
  intro hmem
  have hdot : Base64.urlSafe.value? '.' = none := by decide
  simpa [hdot] using isSome_value?_of_mem_encode hmem

theorem decode_encode (bytes : List UInt8) : decode (encode bytes) = .ok bytes := by
  rw [decode, encode, Base64.decode?_encode Base64.urlSafe_reads]

theorem splitLast?_append {last : List Char} (front : List Char) (h : '.' ∉ last) :
    splitLast? (front ++ '.' :: last) = some (front, last) := by
  -- The last field is what stands behind the last dot, and the others are joined again.
  have hne := Text.fields_ne_nil '.' front
  rw [splitLast?, Text.fields_append, Text.fields_eq_singleton h, List.reverse_append]
  cases hfront : (Text.fields '.' front).reverse with
  | nil => exact absurd (List.reverse_eq_nil_iff.mp hfront) hne
  | cons field fields =>
    have hjoined : Text.joined '.' (field :: fields).reverse = front := by
      rw [← hfront, List.reverse_reverse, Text.joined_fields]
    simp only [List.reverse_singleton, List.singleton_append, hjoined]

/-- A token without dots in its last two parts is cut into the parts it was joined from. -/
theorem split?_join {parts : Parts} (payload : '.' ∉ parts.payload)
    (signature : '.' ∉ parts.signature) : split? (join parts) = some parts := by
  rw [split?, join, splitLast?_append _ signature, Parts.signed]
  simp [splitLast?_append _ payload]

end Compact

/-! ## Claims -/

@[simp] theorem Json.Value.variant?_text (s : String) : (Value.text s).variant? = some s := rfl

@[simp] theorem Role.ofJson?_toJson (role : Role) : Role.ofJson? role.toJson = some role := by
  simp [ofJson?, toJson, Except.toOption]

@[simp] theorem Uuid.ofJson?_toJson (id : Uuid) : Uuid.ofJson? id.toJson = some id := by
  simp [ofJson?, toJson, toText]

@[simp] theorem Role.list?_toJson (roles : List Role) :
    (Value.array (roles.map toJson)).list? ofJson? = some roles := by
  change (roles.map toJson).mapM ofJson? = some roles
  induction roles with
  | nil => rfl
  | cons role roles ih => simp [ih]

namespace Claims

/-- Claims are read back from JSON, whether roles are written or left out. -/
theorem ofJson?_toJson (claims : Claims) : ofJson? claims.toJson = some claims := by
  obtain ⟨subject, issuer, issuedAt, notBefore, expires, id, kind, roles⟩ := claims
  by_cases hroles : roles = [] <;>
    simp [ofJson?, toJson, hroles, Value.record, Value.fields?, layout, Json.member?,
      Json.Field.plain, Json.Field.withDefault, Json.required?, Json.defaulted?,
      Json.Literal.text?, Value.int32?_int, Value.int64?_int]

/-- Nothing is said of an audience. -/
theorem member?_toJson_aud (claims : Claims) {members : List (Json.Literal × Value)}
    (h : claims.toJson = .object members) :
    Json.member? members "aud" = some none := by
  obtain rfl : _ = members := Value.object.inj h
  -- Roles are left out where there are none, so there are two lists of members to search.
  by_cases hroles : claims.roles = [] <;> simp [hroles, Json.member?]

/-- The JSON of claims is plain. -/
theorem plain_toJson (claims : Claims) : claims.toJson.Plain := by
  apply Value.plain_record
  have hroles : ∀ v ∈ claims.roles.map Role.toJson, v.Plain := by
    intro v hv
    obtain ⟨role, -, rfl⟩ := List.mem_map.mp hv
    exact Value.plain_text _
  by_cases h : claims.roles = [] <;>
    simp [h, Value.plain_int, Value.plain_text, Uuid.toJson, Value.plain_array hroles]

end Claims

namespace Compact

/-- The claims in a payload are read back. -/
theorem readClaims_encode (claims : Claims) :
    readClaims (Utf8.encode claims.toJson.render) = .ok (claims, .unnamed) := by
  obtain ⟨members, hmembers⟩ : ∃ members, claims.toJson = .object members := ⟨_, rfl⟩
  have hparse := Value.parseBytes?_encode_render claims.plain_toJson
  have hclaims := claims.ofJson?_toJson
  have haudience := claims.member?_toJson_aud hmembers
  rw [hmembers] at hparse hclaims ⊢
  simp only [readClaims, hparse, hclaims, haudience, Option.bind_eq_bind, Option.bind_some]
  rfl

/-- The header of an issued token names the way in which it is signed. -/
theorem readHeader_encode : readHeader (Utf8.encode header.render) = .ok algorithm := by
  have hplain : header.Plain := Value.plain_record (by simp [Value.plain_text])
  have hparse := Value.parseBytes?_encode_render hplain
  simp only [readHeader, hparse, Option.bind_eq_bind, Option.bind_some]
  rfl

end Compact

/-! ## Tokens -/

/-- The signatures of one pair of keys are good for another one. -/
def KeyPair.Trusts (verifier signer : KeyPair) : Prop :=
  ∀ message signature, signer.sign message = .ok signature →
    verifier.verify message signature = true

namespace TokenIssuer

variable {issuer verifier : TokenIssuer} {keys keys' : KeyPair} {claims claims' : Claims}
  {token : String} {now : Instant}

/-- The parts of a token that are signed. -/
def unsigned (claims : Claims) : Compact.Parts :=
  ⟨Compact.encodeJson Compact.header, Compact.encodeJson claims.toJson, []⟩

theorem toList_of_sign (h : sign keys claims = .ok token) :
    ∃ signature, keys.sign (unsigned claims).signedBytes = .ok signature ∧
      token.toList =
        Compact.join { unsigned claims with signature := Compact.encode signature } := by
  change (keys.sign (unsigned claims).signedBytes >>= fun signature =>
    pure (String.ofList (Compact.join
      { unsigned claims with signature := Compact.encode signature }))) = .ok token at h
  cases hsign : keys.sign (unsigned claims).signedBytes with
  | error fault =>
    rw [hsign] at h
    cases h
  | ok signature =>
    rw [hsign] at h
    obtain rfl := Except.ok.inj h
    exact ⟨signature, rfl, String.toList_ofList⟩

theorem sign_eq_ok (h : sign keys claims = .ok token) :
    ∃ signature, keys.sign (unsigned claims).signedBytes = .ok signature ∧
      Compact.split? token.toList =
        some { unsigned claims with signature := Compact.encode signature } := by
  obtain ⟨signature, hsign, htext⟩ := toList_of_sign h
  refine ⟨signature, hsign, ?_⟩
  rw [htext]
  exact Compact.split?_join (Compact.dot_notMem_encode _) (Compact.dot_notMem_encode _)

theorem ne_empty_of_sign (h : sign keys claims = .ok token) : token ≠ "" := by
  rintro rfl
  obtain ⟨signature, -, hsplit⟩ := sign_eq_ok h
  cases hsplit

/-- Different claims are signed as different tokens, whatever the keys. -/
theorem sign_injective (h : sign keys claims = .ok token) (h' : sign keys' claims' = .ok token) :
    claims = claims' := by
  obtain ⟨signature, -, hsplit⟩ := sign_eq_ok h
  obtain ⟨signature', -, hsplit'⟩ := sign_eq_ok h'
  have hparts := Option.some.inj (hsplit.symm.trans hsplit')
  have hpayload : Compact.encodeJson claims.toJson = Compact.encodeJson claims'.toJson :=
    congrArg Compact.Parts.payload hparts
  -- Equal tokens have equal payloads, and a payload is read back as its claims.
  have hbytes : Utf8.encode claims.toJson.render = Utf8.encode claims'.toJson.render :=
    Except.ok.inj ((Compact.decode_encode _).symm.trans
      ((congrArg Compact.decode hpayload).trans (Compact.decode_encode _)))
  have hread := Compact.readClaims_encode claims
  rw [hbytes, Compact.readClaims_encode] at hread
  cases hread
  rfl

/-- Header and payload of a signed token are in order, and the signature decides. -/
theorem verifiedPayload_eq (verifier : TokenIssuer) (h : sign keys claims = .ok token) :
    ∃ signature, keys.sign (unsigned claims).signedBytes = .ok signature ∧
      verifier.verifiedPayload token =
        if verifier.keys.verify (unsigned claims).signedBytes signature then
          .ok (Compact.encodeJson claims.toJson)
        else .error .signature := by
  obtain ⟨signature, hsign, hsplit⟩ := sign_eq_ok h
  have hheader : Compact.decode (unsigned claims).header =
      .ok (Utf8.encode Compact.header.render) := Compact.decode_encode _
  refine ⟨signature, hsign, ?_⟩
  simp only [verifiedPayload, hsplit, hheader, Compact.decode_encode, Compact.readHeader_encode,
    bind, Except.bind]
  change (if (!verifier.keys.verify (unsigned claims).signedBytes signature) = true then _
    else _) = _
  cases verifier.keys.verify (unsigned claims).signedBytes signature <;> rfl

/-- Behind the signature of a signed token only the claims are left to check. -/
theorem decode_of_verifiedPayload
    (h : verifier.verifiedPayload token = .ok (Compact.encodeJson claims.toJson)) :
    verifier.decode now token =
      (verifier.checkClaims now claims .unnamed).map fun _ => claims := by
  have hdecode : Compact.decode (Compact.encodeJson claims.toJson) =
      .ok (Utf8.encode claims.toJson.render) := Compact.decode_encode _
  simp only [decode, h, hdecode, Compact.readClaims_encode, bind, Except.bind]
  cases verifier.checkClaims now claims .unnamed <;> rfl

/-- Of a signed token only the claims are left to check for whoever trusts its keys. -/
theorem decode_sign (trusts : verifier.keys.Trusts keys) (h : sign keys claims = .ok token) :
    verifier.decode now token =
      (verifier.checkClaims now claims .unnamed).map fun _ => claims := by
  obtain ⟨signature, hsign, hpayload⟩ := verifiedPayload_eq verifier h
  rw [if_pos (trusts _ _ hsign)] at hpayload
  exact decode_of_verifiedPayload hpayload

/-- Whoever accepts a signed token reads the claims that were signed, whatever the keys. -/
theorem claims_of_validate_sign (h : sign keys claims = .ok token)
    (valid : verifier.validate now token = .ok claims') : claims' = claims := by
  rw [validate_eq_ok_iff_decode] at valid
  obtain ⟨signature, -, hpayload⟩ := verifiedPayload_eq verifier h
  split at hpayload
  · rw [decode_of_verifiedPayload hpayload] at valid
    cases hcheck : verifier.checkClaims now claims .unnamed with
    | error fault =>
      rw [hcheck] at valid
      cases valid
    | ok _ =>
      rw [hcheck] at valid
      cases valid
      rfl
  -- A bad signature is refused before the payload is read.
  · rw [decode, hpayload] at valid
    cases valid

/-! ## Times -/

theorem toInt_ofInt_seconds (t : Instant) : (Int64.ofInt t.seconds).toInt = t.seconds := by
  -- The limits of an instant lie far within those of a 64-bit number.
  have hfirst := t.first_le
  have hlast := t.le_last
  exact Int64.toInt_ofInt_of_le (by omega) (by omega)

/-- What is moved by a duration lies at the sum, in whole seconds. -/
theorem seconds_add? {t moved : Instant} {d : Duration} (h : t.add? d = some moved) :
    moved.seconds = (t.toNanoseconds + d.nanoseconds) / Duration.perSecond := by
  rw [Instant.add?, Instant.ofNanoseconds?, Instant.of?] at h
  split at h
  · cases h
    rfl
  · cases h

theorem claimsFor?_eq_some {kind : TokenKind} {subject : Int32} {id : Uuid} {lifetime : Duration}
    {roles : List Role}
    (h : issuer.claimsFor? now kind subject id lifetime roles = some claims) :
    claims.subject = subject ∧ claims.issuer = issuer.name ∧ claims.id = id ∧
      claims.kind = kind ∧ claims.roles = roles ∧ claims.issuedAt.toInt = now.seconds ∧
      claims.notBefore.toInt = now.seconds ∧
      claims.expires.toInt =
        (now.toNanoseconds + lifetime.nanoseconds) / Duration.perSecond := by
  obtain ⟨expiry, hexpiry, rfl⟩ := Option.map_eq_some_iff.mp h
  exact ⟨rfl, rfl, rfl, rfl, rfl, toInt_ofInt_seconds now, toInt_ofInt_seconds now,
    (toInt_ofInt_seconds expiry).trans (seconds_add? hexpiry)⟩

theorem issue_eq_ok {kind : TokenKind} {subject : Int32} {id : Uuid} {lifetime : Duration}
    {roles : List Role} {issued : IssuedToken}
    (h : issuer.issue now kind subject id lifetime roles = .ok issued) :
    issuer.claimsFor? now kind subject id lifetime roles = some issued.claims ∧
      sign issuer.keys issued.claims = .ok issued.token := by
  unfold issue at h
  cases hclaims : issuer.claimsFor? now kind subject id lifetime roles with
  | none =>
    rw [hclaims] at h
    cases h
  | some claims =>
    rw [hclaims] at h
    cases hsign : sign issuer.keys claims with
    | error fault =>
      simp only [hsign] at h
      cases h
    | ok token =>
      simp only [hsign] at h
      cases h
      exact ⟨rfl, hsign⟩

/-- What is issued is signed for claims that say what was asked for, from the second of the issue
until the lifetime is over. -/
structure Issues (issuer : TokenIssuer) (now : Instant) (kind : TokenKind) (subject : Int32)
    (id : Uuid) (lifetime : Duration) (roles : List Role) (issued : IssuedToken) : Prop where
  signed : sign issuer.keys issued.claims = .ok issued.token
  subject : issued.claims.subject = subject
  issuer : issued.claims.issuer = issuer.name
  id : issued.claims.id = id
  kind : issued.claims.kind = kind
  roles : issued.claims.roles = roles
  issuedAt : issued.claims.issuedAt.toInt = now.seconds
  notBefore : issued.claims.notBefore.toInt = now.seconds
  expires : issued.claims.expires.toInt =
    (now.toNanoseconds + lifetime.nanoseconds) / Duration.perSecond

theorem issues_of_issue {kind : TokenKind} {subject : Int32} {id : Uuid} {lifetime : Duration}
    {roles : List Role} {issued : IssuedToken}
    (h : issuer.issue now kind subject id lifetime roles = .ok issued) :
    issuer.Issues now kind subject id lifetime roles issued := by
  obtain ⟨hclaims, signed⟩ := issue_eq_ok h
  obtain ⟨subject, named, id, kind, roles, issuedAt, notBefore, expires⟩ :=
    claimsFor?_eq_some hclaims
  exact ⟨signed, subject, named, id, kind, roles, issuedAt, notBefore, expires⟩

/-- Claims of the issuer for no audience hold in a window around their times, and outside of it
they are too early or too late. -/
theorem checkClaims_eq (named : claims.issuer = verifier.name)
    (started : 0 ≤ claims.notBefore.toInt) (expires : 0 ≤ claims.expires.toInt)
    (running : 60 ≤ now.seconds) :
    verifier.checkClaims now claims .unnamed =
      if claims.expires.toInt + 60 < now.seconds then .error .expired
      else if now.seconds + 60 < claims.notBefore.toInt then .error .notYetValid
      else .ok () := by
  unfold checkClaims leeway
  -- The early refusals are for times before the first minute and for negative claims.
  rw [if_neg (by omega), if_neg (by omega)]
  by_cases hlate : claims.expires.toInt + 60 < now.seconds
  · rw [if_pos (by omega), if_pos hlate]
  · rw [if_neg (by omega), if_neg hlate]
    split
    · rfl
    · simp [named]

/-- A signed token is accepted by whoever trusts its keys, under the name of its issuer, while
the time lies in the window of its claims. -/
theorem validate_sign_eq (trusts : verifier.keys.Trusts keys) (h : sign keys claims = .ok token)
    (named : claims.issuer = verifier.name) (started : 0 ≤ claims.notBefore.toInt)
    (expires : 0 ≤ claims.expires.toInt) (running : 60 ≤ now.seconds) :
    verifier.validate now token =
      if claims.expires.toInt + 60 < now.seconds then .error (.invalidToken .expired)
      else if now.seconds + 60 < claims.notBefore.toInt then .error (.invalidToken .notYetValid)
      else .ok claims := by
  rw [validate, decode_sign trusts h, checkClaims_eq named started expires running]
  split
  · rfl
  · split <;> rfl

/-- Whoever issues a token accepts it from its issue on until a minute behind its expiry. -/
theorem validate_of_issue {kind : TokenKind} {subject : Int32} {id : Uuid} {lifetime : Duration}
    {roles : List Role} {issued : IssuedToken} {later : Instant}
    (trusts : issuer.keys.Trusts issuer.keys)
    (h : issuer.issue now kind subject id lifetime roles = .ok issued)
    (started : 0 ≤ now.seconds) (since : now.seconds ≤ later.seconds)
    (running : 60 ≤ later.seconds) (expires : 0 ≤ issued.claims.expires.toInt)
    (lasts : later.seconds ≤ issued.claims.expires.toInt + 60) :
    issuer.validate later issued.token = .ok issued.claims := by
  have issues := issues_of_issue h
  have hstart := issues.notBefore
  rw [validate_sign_eq trusts issues.signed issues.issuer (by omega) expires running,
    if_neg (by omega), if_neg (by omega)]

/-- Issuing a token and accepting it is a round trip. The claims start in the second of their
issue and end when the lifetime is over. Whoever trusts the keys and has the name of the issuer
reads exactly these claims from a minute before the start to a minute behind the end, and at no
other time. Tokens of other claims are other tokens. -/
theorem validate_issue {kind : TokenKind} {subject : Int32} {id : Uuid} {lifetime : Duration}
    {roles : List Role} {issued : IssuedToken}
    (h : issuer.issue now kind subject id lifetime roles = .ok issued) :
    (issued.claims.subject = subject ∧ issued.claims.issuer = issuer.name ∧
      issued.claims.id = id ∧ issued.claims.kind = kind ∧ issued.claims.roles = roles ∧
      issued.claims.issuedAt.toInt = now.seconds ∧ issued.claims.notBefore.toInt = now.seconds ∧
      issued.claims.expires.toInt =
        (now.toNanoseconds + lifetime.nanoseconds) / Duration.perSecond) ∧
    (∀ (verifier : TokenIssuer) (later : Instant), verifier.keys.Trusts issuer.keys →
      verifier.name = issuer.name → 60 ≤ now.seconds → 0 ≤ issued.claims.expires.toInt →
      60 ≤ later.seconds →
      if issued.claims.notBefore.toInt ≤ later.seconds + 60 ∧
          later.seconds ≤ issued.claims.expires.toInt + 60 then
        verifier.validate later issued.token = .ok issued.claims
      else
        ∃ e : AuthError, verifier.validate later issued.token = .error e ∧
          e.kind = .tokenInvalid) ∧
    ∀ (other : TokenIssuer) (now' : Instant) (kind' : TokenKind) (subject' : Int32) (id' : Uuid)
      (lifetime' : Duration) (roles' : List Role) (issued' : IssuedToken),
      other.issue now' kind' subject' id' lifetime' roles' = .ok issued' →
      issued'.claims ≠ issued.claims → issued'.token ≠ issued.token := by
  obtain ⟨hclaims, hsign⟩ := issue_eq_ok h
  have hfields := claimsFor?_eq_some hclaims
  refine ⟨hfields, ?_, ?_⟩
  · intro verifier later trusts named started expires running
    obtain ⟨-, hissuer, -, -, -, -, hstart, -⟩ := hfields
    rw [validate_sign_eq trusts hsign (hissuer.trans named.symm) (by omega) expires running]
    split
    · next hwindow => rw [if_neg (by omega), if_neg (by omega)]
    · next hwindow =>
      by_cases hlate : issued.claims.expires.toInt + 60 < later.seconds
      · exact ⟨.invalidToken .expired, by rw [if_pos hlate], rfl⟩
      · exact ⟨.invalidToken .notYetValid, by rw [if_neg hlate, if_pos (by omega)], rfl⟩
  · intro other now' kind' subject' id' lifetime' roles' issued' h' hne htoken
    obtain ⟨-, hsign'⟩ := issue_eq_ok h'
    rw [htoken] at hsign'
    exact hne (sign_injective hsign' hsign)

/-- An issuer whose signature of a message is the message itself. -/
def echo : TokenIssuer where
  keys := ⟨.ok, fun message signature => message = signature⟩
  name := "issuer"
  accessLifetime := ⟨600000000000⟩
  refreshLifetime := ⟨86400000000000⟩

theorem echo_trusts_echo : echo.keys.Trusts echo.keys := by
  intro message signature h
  cases h
  simp [echo]

/-- A token for ten minutes, issued at 100, is accepted until 760 and refused from 761 on. One
without its roles is another token. -/
theorem validate_issue_at_the_end_of_the_leeway :
    ∃ now last late : Instant, now.seconds = 100 ∧ last.seconds = 760 ∧ late.seconds = 761 ∧
      ∃ issued other, echo.issueAccess now .nil 7 [.admin, .user] = .ok issued ∧
        echo.issueAccess now .nil 7 [] = .ok other ∧ other.token ≠ issued.token ∧
        echo.validate last issued.token = .ok issued.claims ∧
        ∃ e : AuthError, echo.validate late issued.token = .error e ∧ e.kind = .tokenInvalid := by
  obtain ⟨issued, hissued⟩ : ∃ issued,
      echo.issueAccess ⟨100, 0, by decide, by decide, by decide⟩ .nil 7 [.admin, .user] =
        .ok issued := ⟨_, rfl⟩
  obtain ⟨other, hother⟩ : ∃ other,
      echo.issueAccess ⟨100, 0, by decide, by decide, by decide⟩ .nil 7 [] = .ok other :=
    ⟨_, rfl⟩
  obtain ⟨⟨-, -, -, -, hroles, -, hstart, hend⟩, hvalid, hapart⟩ := validate_issue hissued
  obtain ⟨⟨-, -, -, -, hnone, -⟩, -⟩ := validate_issue hother
  have hend : issued.claims.expires.toInt = 700 := hend
  have hlast := hvalid echo ⟨760, 0, by decide, by decide, by decide⟩ echo_trusts_echo rfl
    (by decide) (by omega) (by decide)
  have hlate := hvalid echo ⟨761, 0, by decide, by decide, by decide⟩ echo_trusts_echo rfl
    (by decide) (by omega) (by decide)
  rw [if_pos ⟨by rw [hstart]; decide, by rw [hend]; decide⟩] at hlast
  rw [if_neg fun hwindow => absurd hwindow.2 (by rw [hend]; decide)] at hlate
  have hne : other.claims ≠ issued.claims := by
    intro heq
    rw [heq, hroles] at hnone
    cases hnone
  exact ⟨_, _, _, rfl, rfl, rfl, issued, other, hissued, hother,
    hapart _ _ _ _ _ _ _ _ hother hne, hlast, hlate⟩

end TokenIssuer

end SessionAuth
