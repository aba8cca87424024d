import SessionAuth.Http.Request
import SessionAuth.Proofs.Token.RoundTrip

/-!
# What is read off a request

A signed token consists of characters that stand for themselves in a header and in a cookie, so
that the gate finds there the very token that was put there. Of the path the exemptions look at
whole segments only.

## Main definitions

* `Request.isPlain` — a character stands for itself

## Main results

* `Request.bearer?_of_sign` — a signed token in the authorisation header is found there
* `Request.parseCookie?_eq_some` — a cookie of plain characters is read as it is written
* `AuthSettings.covers_iff`, `AuthSettings.isExempt_iff` — exempt paths cover what starts with
  their segments
-/

namespace SessionAuth

/-! ## Plain texts -/

/-- A character stands for itself in a header and in a cookie. -/
def Request.isPlain (c : Char) : Bool :=
  0x21 ≤ c.toNat && c.toNat < 0x7F && c ≠ '"' && c ≠ '%' && c ≠ ';'

theorem Request.isPlain_iff {c : Char} :
    isPlain c = true ↔ (0x21 ≤ c.toNat ∧ c.toNat < 0x7F) ∧ c ≠ '"' ∧ c ≠ '%' ∧ c ≠ ';' := by
  simp [isPlain, and_assoc]

theorem Request.isVisible_of_isPlain {c : Char} (h : isPlain c = true) : isVisible c = true := by
  obtain ⟨range, -⟩ := isPlain_iff.mp h
  simp only [isVisible, Bool.or_eq_true, Bool.and_eq_true, decide_eq_true_eq]
  omega

theorem Request.isBlank_of_isPlain {c : Char} (h : isPlain c = true) :
    Text.isBlank c = false := by
  obtain ⟨range, -⟩ := isPlain_iff.mp h
  simp only [Text.isBlank, Bool.or_eq_false_iff, Bool.and_eq_false_iff, decide_eq_false_iff_not]
  omega

/-- Every character of a part of a token is plain. -/
theorem Compact.isPlain_of_mem_encode {c : Char} {bytes : List UInt8} (h : c ∈ encode bytes) :
    Request.isPlain c = true := by
  have hvalue := isSome_value?_of_mem_encode h
  unfold Base64.urlSafe Base64.lettersThenDigits Base64.inRange? at hvalue
  -- Outside of the two signs and the three ranges there is no value.
  by_cases hhyphen : c = '-'
  · rw [hhyphen]
    decide
  by_cases hline : c = '_'
  · rw [hline]
    decide
  simp only [if_neg hhyphen, if_neg hline, Option.isSome_or, Option.isSome_ite, Bool.or_eq_true]
    at hvalue
  have hranges : ('A').toNat = 65 ∧ ('a').toNat = 97 ∧ ('0').toNat = 48 := by decide
  have hsigns : ('"').toNat = 34 ∧ ('%').toNat = 37 ∧ (';').toNat = 59 := by decide
  refine Request.isPlain_iff.mpr ⟨by omega, ?_, ?_, ?_⟩ <;>
  · rintro rfl
    omega

/-- Every character of a signed token is plain. -/
theorem TokenIssuer.isPlain_of_sign {keys : KeyPair} {claims : Claims} {token : String}
    (h : sign keys claims = .ok token) : ∀ c ∈ token.toList, Request.isPlain c = true := by
  obtain ⟨signature, -, htext⟩ := toList_of_sign h
  have hdot : Request.isPlain '.' = true := by decide
  have hpart (bytes : List UInt8) : (Compact.encode bytes).all Request.isPlain = true :=
    List.all_eq_true.mpr fun _ => Compact.isPlain_of_mem_encode
  apply List.all_eq_true.mp
  simp [htext, Compact.join, Compact.Parts.signed, unsigned, Compact.encodeJson, hdot, hpart]

/-! ## Bearer tokens -/

/-- A signed token in the authorisation header is found there. -/
theorem Request.bearer?_of_sign {request : Request} {keys : KeyPair} {claims : Claims}
    {token : String} (h : TokenIssuer.sign keys claims = .ok token)
    (header : request.rawHeader? "Authorization" = some ("Bearer " ++ token)) :
    request.bearer? = some token := by
  have hscheme : ("Bearer ".toList).all isVisible = true := by decide
  have htoken : token.toList.all isVisible = true :=
    List.all_eq_true.mpr fun c mem => isVisible_of_isPlain (TokenIssuer.isPlain_of_sign h c mem)
  have hvisible : ("Bearer " ++ token).toList.all isVisible = true := by
    rw [String.toList_append, List.all_append, hscheme, htoken]
    rfl
  have hheader : request.header? "Authorization" = some ("Bearer " ++ token) := by
    rw [header?, header, Option.filter_some, if_pos hvisible]
  simp only [bearer?, hheader, Option.bind_eq_bind, Option.bind_some, String.toList_append]
  rw [if_pos (List.isPrefixOf_iff_prefix.mpr (List.prefix_append _ _)), List.drop_left,
    String.ofList_toList]

/-! ## Cookies -/

theorem Text.trim_eq_self {text : List Char} (h : ∀ c ∈ text, isBlank c = false) :
    trim text = text := by
  have hdrop (text : List Char) (h : ∀ c ∈ text, isBlank c = false) :
      text.dropWhile isBlank = text := by
    cases text with
    | nil => rfl
    | cons c rest =>
      rw [List.dropWhile_cons, h c List.mem_cons_self]
      rfl
  unfold trim trimEnd dropBlanks
  rw [hdrop text h, hdrop, List.reverse_reverse]
  intro c mem
  exact h c (List.mem_reverse.mp mem)

theorem Text.fields_joined {sep : Char} {pieces : List (List Char)} (nonempty : pieces ≠ [])
    (apart : ∀ piece ∈ pieces, sep ∉ piece) : fields sep (joined sep pieces) = pieces := by
  induction pieces with
  | nil => exact absurd rfl nonempty
  | cons piece pieces ih =>
    have hpiece := fields_eq_singleton (apart piece List.mem_cons_self)
    cases pieces with
    | nil => exact hpiece
    | cons next pieces =>
      have hrest := ih (by simp) fun piece mem => apart piece (List.mem_cons_of_mem _ mem)
      rw [joined, fields_append, hpiece, hrest]
      · rfl
      · simp

theorem Text.cut?_append {mark : Char} {front : List Char} (back : List Char)
    (h : mark ∉ front) : cut? [mark] (front ++ mark :: back) = some (front, back) := by
  induction front with
  | nil => simp [cut?]
  | cons c front ih =>
    rw [List.mem_cons, not_or] at h
    rw [List.cons_append, cut?, if_neg (by simpa using h.1), ih h.2]
    rfl

namespace Percent

theorem decodeBytes_eq_self {keep : UInt8 → Bool} {bytes : List UInt8} (h : 0x25 ∉ bytes) :
    decodeBytes keep bytes = bytes := by
  fun_induction decodeBytes keep bytes with
  | case1 | case2 | case3 => simp at h
  | case4 b high low rest _ ih => rw [ih fun mem => h (List.mem_cons_of_mem _ mem)]
  | case5 => rfl

/-- Without a percent sign there is nothing to resolve. -/
theorem decodeSegment?_eq_some {text : List Char} (h : ∀ c ∈ text, c.toNat < 0x80 ∧ c ≠ '%') :
    decodeSegment? text = some text := by
  have hbytes : 0x25 ∉ Utf8.encode text := by
    intro mem
    obtain ⟨c, hc, hbyte⟩ := List.mem_flatMap.mp mem
    obtain ⟨ascii, other⟩ := h c hc
    simp only [Utf8.encodeChar, if_pos ascii, List.mem_singleton] at hbyte
    have hvalue := congrArg UInt8.toNat hbyte
    simp only [UInt8.toNat_ofNat'] at hvalue
    change 0x25 = _ at hvalue
    refine other (Char.toNat_inj.mp ?_)
    change _ = 0x25
    omega
  rw [decodeSegment?, decodeAll, decodeBytes_eq_self hbytes, Utf8.text?_encode]

end Percent

namespace Request

/-- A cookie with a plain name and a plain value is read as it is written. -/
theorem parseCookie?_eq_some {name value : List Char} (filled : name ≠ []) (equals : '=' ∉ name)
    (hname : ∀ c ∈ name, isPlain c = true) (hvalue : ∀ c ∈ value, isPlain c = true) :
    parseCookie? (name ++ '=' :: value) = some (name, value) := by
  have plain {text : List Char} (h : ∀ c ∈ text, isPlain c = true) :
      Text.trim text = text ∧ resolved? text = some text := by
    refine ⟨Text.trim_eq_self fun c mem => isBlank_of_isPlain (h c mem), ?_⟩
    refine Percent.decodeSegment?_eq_some fun c mem => ?_
    obtain ⟨range, -, percent, -⟩ := isPlain_iff.mp (h c mem)
    exact ⟨by omega, percent⟩
  have hquoted : unquoted value = value := by
    cases value with
    | nil => rfl
    | cons c rest =>
      obtain ⟨-, quote, -⟩ := isPlain_iff.mp (hvalue c List.mem_cons_self)
      unfold unquoted
      split
      · next h =>
        cases h
        exact absurd rfl quote
      · rfl
  simp [parseCookie?, Text.cut?_append value equals, plain hname, plain hvalue, filled, hquoted]

/-- Plain cookies with semicolons between them are read as they are written. -/
theorem cookies_eq {request : Request} {text : String} {cookies : List (List Char × List Char)}
    (nonempty : cookies ≠ [])
    (plain : ∀ cookie ∈ cookies, (cookie.1 ≠ [] ∧ '=' ∉ cookie.1) ∧
      (∀ c ∈ cookie.1, isPlain c = true) ∧ ∀ c ∈ cookie.2, isPlain c = true)
    (header : request.rawHeader? "Cookie" = some text)
    (written :
      text.toList = Text.joined ';' (cookies.map fun cookie => cookie.1 ++ '=' :: cookie.2)) :
    request.cookies = cookies := by
  have hpiece : ∀ cookie ∈ cookies, ∀ c ∈ cookie.1 ++ '=' :: cookie.2, isPlain c = true := by
    have hequals : isPlain '=' = true := by decide
    intro cookie mem c hc
    obtain ⟨-, hname, hvalue⟩ := plain cookie mem
    rcases List.mem_append.mp hc with hc | hc
    · exact hname c hc
    · rcases List.mem_cons.mp hc with rfl | hc
      · exact hequals
      · exact hvalue c hc
  simp only [Request.cookies, header, written]
  rw [Text.fields_joined (by simpa using nonempty)]
  · clear written nonempty
    -- Each piece is one of the cookies.
    induction cookies with
    | nil => rfl
    | cons cookie cookies ih =>
      obtain ⟨⟨filled, equals⟩, hname, hvalue⟩ := plain cookie List.mem_cons_self
      have htrim := Text.trim_eq_self fun c mem =>
        isBlank_of_isPlain (hpiece cookie List.mem_cons_self c mem)
      have hrest := ih (fun cookie mem => plain cookie (List.mem_cons_of_mem _ mem))
        fun cookie mem => hpiece cookie (List.mem_cons_of_mem _ mem)
      rw [List.map_cons, List.filterMap_cons, htrim,
        parseCookie?_eq_some filled equals hname hvalue, hrest]
  · intro piece mem semicolon
    obtain ⟨cookie, hcookie, rfl⟩ := List.mem_map.mp mem
    exact (isPlain_iff.mp (hpiece cookie hcookie _ semicolon)).2.2.2 rfl

end Request

/-! ## Bodies -/

/-- The body of a request that announces JSON is read, whatever the bearer token is. -/
theorem Request.json_of_bearer {α : Type} {request : Request} {token : String}
    {read? : Json.Value → Option α} {a : α}
    (headers : request.headers =
      [("Authorization", "Bearer " ++ token), ("Content-Type", "application/json")])
    (small : request.body.utf8ByteSize ≤ maxBody)
    (read : (Json.parse? request.body.toList).bind read? = some a) :
    request.json read? = .ok a := by
  have other : lowerName "Authorization" ≠ lowerName "Content-Type" ∧
      lowerName "Authorization" ≠ lowerName "Content-Length" ∧
      lowerName "Content-Type" ≠ lowerName "Content-Length" := by
    decide
  have announces : request.announcesJson = true := by
    have header : request.rawHeader? "Content-Type" = some "application/json" := by
      simp [rawHeader?, headers, other]
    rw [announcesJson, header?, header]
    decide +kernel
  have noLength : request.announcedLength? = none := by
    simp [announcedLength?, header?, rawHeader?, headers, other]
  simp [json, announces, noLength, small, read]

/-! ## Exempt paths -/

namespace AuthSettings

/-- An exempt path covers what starts with its segments. -/
theorem covers_iff {exempt path : List Char} :
    covers exempt path = true ↔ Text.fields '/' exempt <+: Text.fields '/' path := by
  unfold covers
  rw [Bool.or_eq_true, decide_eq_true_eq, List.isPrefixOf_iff_prefix]
  constructor
  · rintro (rfl | ⟨rest, rfl⟩)
    · exact List.prefix_rfl
    · rw [List.append_assoc, List.singleton_append, Text.fields_append]
      exact List.prefix_append _ _
  · rintro ⟨rest, hrest⟩
    -- Joined together again, the segments that follow stand behind a slash.
    have hpath := Text.joined_fields '/' path
    rw [← hrest] at hpath
    cases rest with
    | nil =>
      rw [List.append_nil, Text.joined_fields] at hpath
      exact .inl hpath.symm
    | cons segment rest =>
      rw [Text.joined_append (Text.fields_ne_nil _ _) (by simp), Text.joined_fields] at hpath
      exact .inr ⟨Text.joined '/' (segment :: rest), by simpa using hpath⟩

/-- A path is exempt if it starts with the segments of an exempt path. -/
theorem isExempt_iff {settings : AuthSettings} {path : String} :
    settings.isExempt path = true ↔
      ∃ exempt ∈ settings.exemptPaths, segments exempt <+: segments path := by
  simp only [isExempt, List.any_eq_true, covers_iff, segments]

end AuthSettings

end SessionAuth
