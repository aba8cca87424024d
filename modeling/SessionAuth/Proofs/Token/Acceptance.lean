import SessionAuth.Proofs.Outage

/-!
# What is accepted as a token

A text is accepted at an instant exactly where it is cut into three parts that are written in
base64 without padding, its header can be read and names the one way to sign, its signature
belongs to the text of the first two parts, its payload can be read and names no audience, and
its claims are those of the issuer at a time that lies in their window. Any other text is refused
as an invalid token.

The claims that are read from a text depend on the text alone. So what a text is good for is the
same for everybody, and no text is both let pass at a gate and exchanged for new tokens.

## Main definitions

* `Compact.Names` — a header names a way to sign
* `TokenIssuer.Vouches` — a text holds as a token, with its parts and the bytes in them

## Main results

* `Compact.split?_eq_some_iff` — how a text is cut into parts
* `TokenIssuer.validate_eq_ok_iff` — which texts are accepted, and with which claims
* `TokenIssuer.eq_of_validate` — the claims of a text are the same for everybody
* `TokenIssuer.accepts` — what is accepted holds, and whatever does not is refused as invalid
-/

namespace SessionAuth

open Json (Value required?)

/-! ## Parts -/

namespace Compact

variable {text front last : List Char} {parts : Parts} {bytes : List UInt8} {name other : String}

theorem splitLast?_eq_some_iff :
    splitLast? text = some (front, last) ↔ text = front ++ '.' :: last ∧ '.' ∉ last := by
  constructor
  · intro h
    have hjoined := Text.joined_fields '.' text
    unfold splitLast? at h
    split at h
    · next piece before first hreversed =>
      obtain ⟨rfl, rfl⟩ := Prod.mk.inj (Option.some.inj h)
      -- Read from the front, the fields are those before the last one and the last one.
      have hfields : Text.fields '.' text = (before :: first).reverse ++ [piece] := by
        rw [← List.reverse_reverse (Text.fields '.' text), hreversed, List.reverse_cons]
      rw [hfields, Text.joined_append (by simp) (by simp)] at hjoined
      have mem : piece ∈ Text.fields '.' text := by
        rw [hfields]
        simp
      exact ⟨hjoined.symm, Text.notMem_of_mem_fields mem⟩
    · cases h
  · rintro ⟨rfl, hlast⟩
    exact splitLast?_append front hlast

/-- A text is cut at its last two dots. -/
theorem split?_eq_some_iff :
    split? text = some parts ↔
      text = join parts ∧ '.' ∉ parts.payload ∧ '.' ∉ parts.signature := by
  constructor
  · intro h
    obtain ⟨⟨signed, signature⟩, hsignature, h⟩ := Option.bind_eq_some_iff.mp h
    obtain ⟨⟨header, payload⟩, hpayload, h⟩ := Option.bind_eq_some_iff.mp h
    obtain rfl := Option.some.inj h
    obtain ⟨rfl, noDotBehind⟩ := splitLast?_eq_some_iff.mp hsignature
    obtain ⟨rfl, noDot⟩ := splitLast?_eq_some_iff.mp hpayload
    exact ⟨rfl, noDot, noDotBehind⟩
  · rintro ⟨rfl, payload, signature⟩
    exact split?_join payload signature

theorem decode_eq_ok_iff :
    decode text = .ok bytes ↔ Base64.decode? Base64.urlSafe text = some bytes := by
  unfold decode
  cases Base64.decode? Base64.urlSafe text <;> simp

/-- A part that can be read holds neither a dot nor a padding. -/
theorem notMem_of_decode (h : decode text = .ok bytes) : '.' ∉ text ∧ '=' ∉ text := by
  have hread := decode_eq_ok_iff.mp h
  have hdot : Base64.urlSafe.value? '.' = none := by decide
  have hpad : Base64.urlSafe.value? '=' = none := by decide
  constructor
  · intro mem
    simpa [hdot] using Base64.isSome_value?_of_decode? hread mem
  · intro mem
    simpa [hpad] using Base64.isSome_value?_of_decode? hread mem

/-- Parts without a dot are what lies between the dots of the text that they are joined to. -/
theorem fields_join_eq_iff (header : '.' ∉ parts.header) (payload : '.' ∉ parts.payload)
    (signature : '.' ∉ parts.signature) : text = join parts ↔
      Text.fields '.' text = [parts.header, parts.payload, parts.signature] := by
  constructor
  · rintro rfl
    rw [join, Parts.signed, Text.fields_append, Text.fields_append,
      Text.fields_eq_singleton header, Text.fields_eq_singleton payload,
      Text.fields_eq_singleton signature]
    rfl
  · intro fields
    rw [← Text.joined_fields '.' text, fields]
    simp [Text.joined, join, Parts.signed]

/-! ## Headers -/

/-- A header names a way to sign: it is a record whose second field is the name. -/
def Names (header : List UInt8) (name : String) : Prop :=
  ∃ v typ alg rest, Json.parseBytes? header = some v ∧
    v.fields? headerLayout = some (typ :: some alg :: rest) ∧ alg.variant? = some name

/-- A header names one way to sign at most. -/
theorem Names.unique (h : Names bytes name) (h' : Names bytes other) : name = other := by
  obtain ⟨v, typ, alg, rest, hparse, hfields, hname⟩ := h
  obtain ⟨v', typ', alg', rest', hparse', hfields', hother⟩ := h'
  obtain rfl := Option.some.inj (hparse.symm.trans hparse')
  have hsame := Option.some.inj (hfields.symm.trans hfields')
  simp only [List.cons.injEq, Option.some.injEq] at hsame
  obtain ⟨-, rfl, -⟩ := hsame
  exact Option.some.inj (hname.symm.trans hother)

theorem names_of_readHeader (h : readHeader bytes = .ok name) : Names bytes name := by
  unfold readHeader at h
  dsimp only at h
  split at h
  · next found hfound =>
    obtain rfl := Except.ok.inj h
    obtain ⟨v, hparse, hvalue⟩ := Option.bind_eq_some_iff.mp hfound
    obtain ⟨values, hfields, hlayout⟩ := Option.bind_eq_some_iff.mp hvalue
    split at hlayout
    · next typ alg cty jku jwk kid x5u x5c x5t x5t256 =>
      obtain ⟨read, hread, htexts⟩ := Option.bind_eq_some_iff.mp hlayout
      -- Of what follows only the last step hands on the name.
      obtain ⟨_, -, hlist⟩ := Option.bind_eq_some_iff.mp htexts
      obtain ⟨_, -, hkey⟩ := Option.bind_eq_some_iff.mp hlist
      obtain ⟨_, -, hname⟩ := Option.bind_eq_some_iff.mp hkey
      have hsame : read = found := by
        split at hname
        · exact Option.some.inj hname
        · cases hname
      subst hsame
      cases halg : alg with
      | none =>
        rw [halg] at hread
        cases hread
      | some value =>
        rw [halg] at hread hfields
        exact ⟨v, typ, value, _, hparse, hfields, hread⟩
    · cases hlayout
  · cases h

/-- The claims of a payload are those of the JSON value in it. -/
theorem ofJson?_of_readClaims {claims : Claims} {audience : Audience}
    (h : readClaims bytes = .ok (claims, audience)) :
    ∃ v, Json.parseBytes? bytes = some v ∧ Claims.ofJson? v = some claims := by
  unfold readClaims at h
  dsimp only at h
  split at h
  · next read hread =>
    obtain rfl := Except.ok.inj h
    obtain ⟨v, hparse, hvalue⟩ := Option.bind_eq_some_iff.mp hread
    obtain ⟨found, hfound, hmembers⟩ := Option.bind_eq_some_iff.mp hvalue
    refine ⟨v, hparse, ?_⟩
    split at hmembers
    · obtain ⟨_, -, hmember⟩ := Option.bind_eq_some_iff.mp hmembers
      obtain ⟨_, -, hpair⟩ := Option.bind_eq_some_iff.mp hmember
      cases hpair
      exact hfound
    · cases hmembers
  · cases h

end Compact

/-! ## Tokens -/

namespace TokenIssuer

variable {issuer other : TokenIssuer} {now later : Instant} {text : String} {claims found : Claims}

/-- A text holds as a token of an issuer at an instant: it has three parts of bytes, the header
names the way to sign, the signature belongs to the text of the first two parts, and the payload
says what the issuer may have signed for that instant. -/
structure Vouches (issuer : TokenIssuer) (now : Instant) (text : String) (claims : Claims)
    (parts : Compact.Parts) (header payload signature : List UInt8) : Prop where
  /-- There are two dots, and the parts are what lies between them. -/
  fields : Text.fields '.' text.toList = [parts.header, parts.payload, parts.signature]
  unpadded : '=' ∉ text.toList
  decodesHeader : Base64.decode? Base64.urlSafe parts.header = some header
  decodesPayload : Base64.decode? Base64.urlSafe parts.payload = some payload
  decodesSignature : Base64.decode? Base64.urlSafe parts.signature = some signature
  names : Compact.Names header "EdDSA"
  verified : issuer.keys.verify (Utf8.encode (parts.header ++ '.' :: parts.payload)) signature =
    true
  stated : ∃ v, Json.parseBytes? payload = some v ∧ Claims.ofJson? v = some claims
  named : claims.issuer = issuer.name
  expires : 0 ≤ claims.expires.toInt
  notBefore : 0 ≤ claims.notBefore.toInt
  notPast : now.seconds ≤ claims.expires.toInt + 60
  started : claims.notBefore.toInt ≤ now.seconds + 60

/-- The header of a token names no other way to sign. -/
theorem Vouches.eq_of_names {parts : Compact.Parts} {header payload signature : List UInt8}
    (h : Vouches issuer now text claims parts header payload signature) {name : String}
    (names : Compact.Names header name) : name = "EdDSA" := names.unique h.names

theorem verifiedPayload_eq_ok_iff {part : List Char} :
    issuer.verifiedPayload text = .ok part ↔
      ∃ parts header signature, Compact.split? text.toList = some parts ∧
        Compact.decode parts.header = .ok header ∧
        Compact.readHeader header = .ok Compact.algorithm ∧
        Compact.decode parts.signature = .ok signature ∧
        issuer.keys.verify parts.signedBytes signature = true ∧ parts.payload = part := by
  unfold verifiedPayload
  constructor
  · intro h
    split at h
    · cases h
    · next parts hsplit =>
      obtain ⟨header, hheader, hrest⟩ := bind_eq_ok_iff.mp h
      obtain ⟨name, hname, hrest⟩ := bind_eq_ok_iff.mp hrest
      obtain ⟨hright, hrest⟩ := ite_error_eq_ok_iff.mp hrest
      obtain ⟨signature, hsignature, hrest⟩ := bind_eq_ok_iff.mp hrest
      obtain ⟨hverified, hrest⟩ := ite_error_eq_ok_iff.mp hrest
      rw [Decidable.not_not.mp hright] at hname
      exact ⟨parts, header, signature, hsplit, hheader, hname, hsignature, by simpa using hverified,
        Except.ok.inj hrest⟩
  · rintro ⟨parts, header, signature, hsplit, hheader, hname, hsignature, hverified, rfl⟩
    rw [hsplit]
    refine bind_eq_ok_iff.mpr ⟨header, hheader, bind_eq_ok_iff.mpr ⟨_, hname, ?_⟩⟩
    refine ite_error_eq_ok_iff.mpr ⟨not_not_intro rfl, ?_⟩
    refine bind_eq_ok_iff.mpr ⟨signature, hsignature, ?_⟩
    exact ite_error_eq_ok_iff.mpr ⟨by simp [hverified], rfl⟩

/-- Claims hold from a minute before their start to a minute behind their expiry, if neither lies
before 1970, for their issuer and for no particular audience. -/
theorem checkClaims_eq_ok_iff {audience : Compact.Audience} :
    issuer.checkClaims now claims audience = .ok () ↔
      0 ≤ claims.expires.toInt ∧ 0 ≤ claims.notBefore.toInt ∧ 60 ≤ now.seconds ∧
        now.seconds ≤ claims.expires.toInt + 60 ∧ claims.notBefore.toInt ≤ now.seconds + 60 ∧
        claims.issuer = issuer.name ∧ audience = .unnamed := by
  unfold checkClaims leeway
  constructor
  · intro h
    obtain ⟨expires, hrest⟩ := ite_error_eq_ok_iff.mp h
    obtain ⟨notBefore, hrest⟩ := ite_error_eq_ok_iff.mp hrest
    obtain ⟨inTime, hrest⟩ := ite_error_eq_ok_iff.mp hrest
    obtain ⟨started, hrest⟩ := ite_error_eq_ok_iff.mp hrest
    obtain ⟨named, hrest⟩ := ite_error_eq_ok_iff.mp hrest
    obtain ⟨unnamed, -⟩ := ite_error_eq_ok_iff.mp hrest
    refine ⟨by omega, by omega, by omega, by omega, by omega, Decidable.not_not.mp named, ?_⟩
    cases audience with
    | unnamed => rfl
    | named => exact absurd rfl unnamed
  · rintro ⟨expires, notBefore, running, notPast, started, named, rfl⟩
    rw [if_neg (by omega), if_neg (by omega), if_neg (by omega), if_neg (by omega),
      if_neg (not_not_intro named), if_neg (by simp)]

/-- What must be so of header and payload besides, which is of no account to what a token says:
they can be read as a whole, and the payload names no audience. -/
structure Readable (header payload : List UInt8) (claims : Claims) : Prop where
  header : Compact.readHeader header = .ok Compact.algorithm
  payload : Compact.readClaims payload = .ok (claims, .unnamed)

/-- What is accepted holds as a token, and not within the first minute of 1970. -/
theorem vouches_of_validate (h : issuer.validate now text = .ok claims) :
    60 ≤ now.seconds ∧ ∃ parts header payload signature,
      Vouches issuer now text claims parts header payload signature ∧
        Readable header payload claims := by
  obtain ⟨part, hpart, h⟩ := bind_eq_ok_iff.mp (validate_eq_ok_iff_decode.mp h)
  obtain ⟨payload, hpayload, h⟩ := bind_eq_ok_iff.mp h
  obtain ⟨⟨found, audience⟩, hread, h⟩ := bind_eq_ok_iff.mp h
  obtain ⟨_, hcheck, h⟩ := bind_eq_ok_iff.mp h
  obtain rfl : found = claims := Except.ok.inj h
  obtain ⟨parts, header, signature, hsplit, hheader, hname, hsignature, hverified, rfl⟩ :=
    verifiedPayload_eq_ok_iff.mp hpart
  obtain ⟨expires, notBefore, running, notPast, started, named, rfl⟩ :=
    checkClaims_eq_ok_iff.mp hcheck
  obtain ⟨htext, -, -⟩ := Compact.split?_eq_some_iff.mp hsplit
  obtain ⟨noDotHeader, noPadHeader⟩ := Compact.notMem_of_decode hheader
  obtain ⟨noDotPayload, noPadPayload⟩ := Compact.notMem_of_decode hpayload
  obtain ⟨noDotSignature, noPadSignature⟩ := Compact.notMem_of_decode hsignature
  refine ⟨running, parts, header, payload, signature, ?_, hname, hread⟩
  exact
    { fields :=
        (Compact.fields_join_eq_iff noDotHeader noDotPayload noDotSignature).mp htext
      unpadded := by simp [htext, Compact.join, Compact.Parts.signed, noPadHeader, noPadPayload,
        noPadSignature]
      decodesHeader := Compact.decode_eq_ok_iff.mp hheader
      decodesPayload := Compact.decode_eq_ok_iff.mp hpayload
      decodesSignature := Compact.decode_eq_ok_iff.mp hsignature
      names := Compact.names_of_readHeader hname
      verified := hverified
      stated := Compact.ofJson?_of_readClaims hread
      named, expires, notBefore, notPast, started }

/-- What holds as a token is accepted, if all of it can be read. -/
theorem Vouches.validate_eq_ok {parts : Compact.Parts} {header payload signature : List UInt8}
    (vouches : Vouches issuer now text claims parts header payload signature)
    (running : 60 ≤ now.seconds) (readable : Readable header payload claims) :
    issuer.validate now text = .ok claims := by
  have hheader := Compact.decode_eq_ok_iff.mpr vouches.decodesHeader
  have hpayload := Compact.decode_eq_ok_iff.mpr vouches.decodesPayload
  have hsignature := Compact.decode_eq_ok_iff.mpr vouches.decodesSignature
  obtain ⟨noDotHeader, -⟩ := Compact.notMem_of_decode hheader
  obtain ⟨noDotPayload, -⟩ := Compact.notMem_of_decode hpayload
  obtain ⟨noDotSignature, -⟩ := Compact.notMem_of_decode hsignature
  have htext := (Compact.fields_join_eq_iff noDotHeader noDotPayload noDotSignature).mpr
    vouches.fields
  have hsplit : Compact.split? text.toList = some parts :=
    Compact.split?_eq_some_iff.mpr ⟨htext, noDotPayload, noDotSignature⟩
  have hpart : issuer.verifiedPayload text = .ok parts.payload :=
    verifiedPayload_eq_ok_iff.mpr ⟨parts, header, signature, hsplit, hheader, readable.header,
      hsignature, vouches.verified, rfl⟩
  have hcheck : issuer.checkClaims now claims .unnamed = .ok () :=
    checkClaims_eq_ok_iff.mpr ⟨vouches.expires, vouches.notBefore, running, vouches.notPast,
      vouches.started, vouches.named, rfl⟩
  refine validate_eq_ok_iff_decode.mpr (bind_eq_ok_iff.mpr ⟨parts.payload, hpart, ?_⟩)
  refine bind_eq_ok_iff.mpr ⟨payload, hpayload, ?_⟩
  refine bind_eq_ok_iff.mpr ⟨(claims, .unnamed), readable.payload, ?_⟩
  exact bind_eq_ok_iff.mpr ⟨(), hcheck, rfl⟩

/-- Which texts are accepted at an instant, and with which claims. -/
theorem validate_eq_ok_iff :
    issuer.validate now text = .ok claims ↔
      60 ≤ now.seconds ∧ ∃ parts header payload signature,
        Vouches issuer now text claims parts header payload signature ∧
          Readable header payload claims := by
  constructor
  · exact vouches_of_validate
  · rintro ⟨running, parts, header, payload, signature, vouches, readable⟩
    exact vouches.validate_eq_ok running readable

/-- Whatever fails in reading a text, it is refused as an invalid token. -/
theorem kind_of_validate {e : AuthError} (h : issuer.validate now text = .error e) :
    e.kind = .tokenInvalid := by
  obtain ⟨fault, rfl, -⟩ := exists_fault_of_validate h
  rfl

/-- Whoever accepts a text reads the same claims from it, at whatever time. -/
theorem eq_of_validate (h : issuer.validate now text = .ok claims)
    (h' : other.validate later text = .ok found) : claims = found := by
  obtain ⟨-, parts, header, payload, signature, vouches, readable⟩ := validate_eq_ok_iff.mp h
  obtain ⟨-, parts', header', payload', signature', vouches', readable'⟩ :=
    validate_eq_ok_iff.mp h'
  have hparts := vouches.fields.symm.trans vouches'.fields
  simp only [List.cons.injEq] at hparts
  -- Equal texts have equal payloads, and a payload is read in one way.
  have hpayload : payload = payload' := by
    have hread := vouches.decodesPayload
    rw [hparts.2.1, vouches'.decodesPayload] at hread
    exact (Option.some.inj hread).symm
  subst hpayload
  have hclaims := readable.payload.symm.trans readable'.payload
  simp only [Except.ok.injEq, Prod.mk.injEq] at hclaims
  exact hclaims.1

end TokenIssuer

/-! ## Two uses of a token -/

/-- A credential that the gate let pass was no refresh token. -/
theorem Gate.validate_of_run_authorize {gate : Gate} {now : Instant} {request : GateRequest}
    {backend : Backend} {store after : Store} {outcome : GateOutcome} {token : String}
    {source : CredentialSource} (guarded : gate.settings.isExempt request.path = false)
    (carries : request.Carries token source)
    (passes : (gate.authorize now request).run.run backend store = some (.ok outcome, after)) :
    ∃ claims, gate.issuer.validate now token = .ok claims ∧ claims.kind ≠ .refresh := by
  have hdecision := decision_of_run_authorize passes
  unfold decision at hdecision
  rw [if_neg (by simp [guarded])] at hdecision
  cases hverdict : gate.verdict store now request with
  | error e =>
    rw [hverdict] at hdecision
    cases hdecision
  | ok caller =>
    obtain ⟨token', working⟩ := working_of_verdict hverdict
    have hcredential := (GateRequest.carries_iff.mp carries).symm.trans
      (GateRequest.carries_iff.mp working.carries)
    obtain ⟨rfl, -⟩ := Prod.mk.inj (Option.some.inj hcredential)
    exact ⟨caller.claims, working.valid, working.kind⟩

/-- A text that is no refresh token for anybody is not exchanged, and nothing is asked for. -/
theorem Sessions.run_exchange_of_kind {sessions : Sessions} {occasion : Occasion}
    {backend : Backend} {store : Store} {token : String}
    (kind : ∀ claims, sessions.issuer.validate occasion.now token = .ok claims →
      claims.kind ≠ .refresh) :
    ∃ e : AuthError, (sessions.exchange occasion token).run.run backend store =
      some (.error e, store) ∧ e.kind = .tokenInvalid := by
  unfold exchange
  cases hvalid : sessions.issuer.validate occasion.now token with
  | error e => exact ⟨e, rfl, TokenIssuer.kind_of_validate hvalid⟩
  | ok claims =>
    rw [Action.ofExcept_ok, Action.pure_bind, if_pos (kind claims hvalid)]
    exact ⟨.notRefreshToken, rfl, rfl⟩

/-- Whatever is accepted as a token holds, and every other text is refused as an invalid token.
The claims that are read are those in its payload, and its header names the one way to sign and no
other. What is let pass at a gate is never exchanged, whoever's the gate and the sessions are and
whatever the times and the stores are like. -/
theorem TokenIssuer.accepts (issuer : TokenIssuer) (now : Instant) (text : String) :
    (∀ claims, issuer.validate now text = .ok claims →
      ∃ parts header payload signature,
        Vouches issuer now text claims parts header payload signature ∧
          ∀ name, Compact.Names header name → name = "EdDSA") ∧
    ((¬∃ claims, issuer.validate now text = .ok claims) →
      ∃ e : AuthError, issuer.validate now text = .error e ∧ e.kind = .tokenInvalid) ∧
    ∀ (gate : Gate) (later : Instant) (request : GateRequest) (source : CredentialSource)
      (backend : Backend) (store after : Store) (outcome : GateOutcome),
      gate.settings.isExempt request.path = false → request.Carries text source →
      (gate.authorize later request).run.run backend store = some (.ok outcome, after) →
      ∀ (sessions : Sessions) (occasion : Occasion) (backend' : Backend) (store' : Store),
        ∃ e : AuthError, (sessions.exchange occasion text).run.run backend' store' =
          some (.error e, store') ∧ e.kind = .tokenInvalid := by
  refine ⟨?_, ?_, ?_⟩
  · intro claims valid
    obtain ⟨-, parts, header, payload, signature, vouches, -⟩ := validate_eq_ok_iff.mp valid
    exact ⟨parts, header, payload, signature, vouches, fun _ => vouches.eq_of_names⟩
  · intro refused
    cases hresult : issuer.validate now text with
    | error e => exact ⟨e, rfl, kind_of_validate hresult⟩
    | ok claims => exact absurd ⟨claims, hresult⟩ refused
  · intro gate later request source backend store after outcome guarded carries passes sessions
      occasion backend' store'
    obtain ⟨claims, valid, notRefresh⟩ := Gate.validate_of_run_authorize guarded carries passes
    refine Sessions.run_exchange_of_kind fun found hfound => ?_
    rw [← eq_of_validate valid hfound]
    exact notRefresh

namespace AdminRequest

/-- The access token of an administrator holds and passes the gate, where it is not exchanged. A
text without parts is no token. -/
theorem accepts_access_token : ∃ (token : String) (claims : Claims) (outcome : GateOutcome)
    (refusal : AuthError),
    gate.issuer.validate now token = .ok claims ∧
    (∃ parts header payload signature,
      gate.issuer.Vouches now token claims parts header payload signature) ∧
    gate.issuer.validate now "token" = .error refusal ∧ refusal.kind = .tokenInvalid ∧
    (gate.authorize now (request token)).run.run .healthy store = some (.ok outcome, store) ∧
    ∃ e : AuthError, (service.sessions.exchange occasion token).run.run .healthy store =
      some (.error e, store) ∧ e.kind = .tokenInvalid := by
  obtain ⟨issued, hissued⟩ : ∃ issued,
      TokenIssuer.echo.issueAccess now .nil 7 [.admin, .user] = .ok issued := ⟨_, rfl⟩
  have carries : (request issued.token).Carries issued.token .header :=
    .header rfl (TokenIssuer.ne_empty_of_sign (TokenIssuer.issue_eq_ok hissued).2)
  have standing := standing_of_carries gate rfl hissued carries
  have working : Working gate store now (request issued.token) issued.token
      ⟨issued.claims, account, .header⟩ :=
    ⟨⟨standing, by simp⟩, by simp [kind_of_issueAccess hissued]⟩
  have permitted : Gate.checkRoles gate.policy "/api/users/" "GET"
      (Gate.effectiveRoles issued.claims account) = .ok () := by
    have allowed : RolePolicy.standard.allows "admin" "/api/users/" "GET" = true := by
      decide +kernel
    have answered : gate.policy.enforce "admin" "/api/users/" "GET" = .ok true :=
      congrArg Except.ok allowed
    rw [effectiveRoles_get hissued]
    simp only [Gate.checkRoles, Role.name, answered]
  have passes := Gate.run_authorize_of_working working rfl permitted
  obtain ⟨holds, refuses, apart⟩ := TokenIssuer.accepts gate.issuer now issued.token
  have unread : ¬∃ claims, gate.issuer.validate now "token" = .ok claims := by
    rintro ⟨claims, h⟩
    cases h
  obtain ⟨refusal, hrefusal, invalid⟩ := (TokenIssuer.accepts gate.issuer now "token").2.1 unread
  obtain ⟨parts, header, payload, signature, vouches, -⟩ := holds issued.claims working.valid
  exact ⟨issued.token, issued.claims, _, refusal, working.valid,
    ⟨parts, header, payload, signature, vouches⟩, hrefusal, invalid, passes,
    apart gate now (request issued.token) .header .healthy store store _ rfl carries passes
      service.sessions occasion .healthy store⟩

end AdminRequest

end SessionAuth
