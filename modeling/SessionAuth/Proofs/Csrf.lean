import Mathlib.Tactic.Common
import SessionAuth.Csrf

/-!
# What the guard lets pass

A request passes where its cookie is there and its header repeats the value that was handed out, in
digits of either case. Every other request is told what is amiss, the cookie before the header and
the header before its digits. The guard itself never fails: it would if its secret made no key, but
any secret makes one.

## Main definitions

* `CsrfGuard.Given` — a cookie or header is there and not empty
* `CsrfGuard.Checked` — what a check comes to
* `CsrfGuard.Garbled` — a text that is not the value for a reason that its digits show

## Main results

* `CsrfGuard.exists_tokenFor` — whatever the secret is, there is a value for each access token
* `CsrfGuard.decode?_eq_some_iff` — the code is read from the value and from nothing else
* `CsrfGuard.verify_eq_iff` — every check comes to one of four outcomes
* `CsrfGuard.verify_decides` — which outcome it is
-/

namespace SessionAuth

namespace CsrfGuard

variable {guard : CsrfGuard} {accessToken token value : String} {code : List UInt8}
  {cookie header : Option String}

/-- A cookie or a header is there and not empty. -/
def Given (part : Option String) : Prop := ∃ value, part = some value ∧ value ≠ ""

theorem given_iff {part : Option String} : Given part ↔ part.getD "" ≠ "" := by
  cases part <;> simp [Given]

theorem given_some : Given (some value) ↔ value ≠ "" := by simp [Given]

/-! ## The value that is handed out -/

theorem toList_toLower (text : String) : text.toLower.toList = text.toList.map Char.toLower :=
  String.toList_map

/-- Every secret makes a key, so that there is a code for each access token. -/
theorem exists_codeFor (guard : CsrfGuard) (accessToken : String) :
    ∃ code, guard.codeFor accessToken = .ok code ∧ code.length = 32 := by
  obtain ⟨code, made, length⟩ :=
    Hmac.exists_sha256 (Utf8.ofString guard.secret) (Utf8.ofString accessToken)
  exact ⟨code, by rw [codeFor, made]; rfl, length⟩

/-- Where there is a code, it is that of the access token under the secret. -/
theorem sha256_of_codeFor (coded : guard.codeFor accessToken = .ok code) :
    Hmac.sha256 (Utf8.ofString guard.secret) (Utf8.ofString accessToken) = .ok code := by
  obtain ⟨made, hmade, -⟩ :=
    Hmac.exists_sha256 (Utf8.ofString guard.secret) (Utf8.ofString accessToken)
  rw [codeFor, hmade] at coded
  rw [hmade, Except.ok.inj coded]

theorem tokenFor_eq_ok_iff :
    guard.tokenFor accessToken = .ok token ↔
      ∃ code, guard.codeFor accessToken = .ok code ∧ String.ofList (Hex.encode code) = token := by
  unfold tokenFor
  cases guard.codeFor accessToken <;> simp [Except.map]

theorem exists_tokenFor (guard : CsrfGuard) (accessToken : String) :
    ∃ token, guard.tokenFor accessToken = .ok token := by
  obtain ⟨code, coded, -⟩ := guard.exists_codeFor accessToken
  exact ⟨_, tokenFor_eq_ok_iff.mpr ⟨code, coded, rfl⟩⟩

theorem length_of_tokenFor (handed : guard.tokenFor accessToken = .ok token) :
    token.toList.length = 64 := by
  obtain ⟨code, coded, rfl⟩ := tokenFor_eq_ok_iff.mp handed
  obtain ⟨same, hsame, length⟩ := guard.exists_codeFor accessToken
  obtain rfl := Except.ok.inj (coded.symm.trans hsame)
  rw [String.toList_ofList, Hex.length_encode, length]

theorem ne_empty_of_tokenFor (handed : guard.tokenFor accessToken = .ok token) : token ≠ "" := by
  rintro rfl
  cases length_of_tokenFor handed

/-- The code that goes with an access token is read from its value in digits of either case, and
from nothing else. -/
theorem decode?_eq_some_iff (coded : guard.codeFor accessToken = .ok code) :
    Hex.decode? value.toList = some code ↔ guard.tokenFor accessToken = .ok value.toLower := by
  rw [Hex.decode?_eq_some_iff, ← toList_toLower, tokenFor_eq_ok_iff]
  constructor
  · intro digits
    exact ⟨code, coded, by rw [← digits, String.ofList_toList]⟩
  · rintro ⟨same, hsame, digits⟩
    obtain rfl := Except.ok.inj (coded.symm.trans hsame)
    rw [← digits, String.toList_ofList]

/-- The value is written in lower case. -/
theorem toLower_of_tokenFor (handed : guard.tokenFor accessToken = .ok token) :
    token.toLower = token := by
  obtain ⟨code, coded, rfl⟩ := tokenFor_eq_ok_iff.mp handed
  have hread : Hex.decode? (String.ofList (Hex.encode code)).toList = some code := by
    rw [String.toList_ofList, Hex.decode?_encode]
  exact Except.ok.inj (((decode?_eq_some_iff coded).mp hread).symm.trans handed)

/-! ## Checks -/

/-- What a check comes to. The cookie is looked at first, then whether there is a header, and at
last what the header holds. -/
inductive Checked (guard : CsrfGuard) (accessToken : String) (cookie header : Option String) :
    Except AuthError Unit → Prop
  | noCookie (missing : ¬Given cookie) : Checked guard accessToken cookie header
      (.error .csrfCookieMissing)
  | noHeader (filled : Given cookie) (missing : ¬Given header) :
      Checked guard accessToken cookie header (.error (.csrfHeaderMissing guard.header))
  | other {value : String} (filled : Given cookie) (shown : header = some value)
      (nonempty : value ≠ "") (other : guard.tokenFor accessToken ≠ .ok value.toLower) :
      Checked guard accessToken cookie header (.error .csrfInvalid)
  | same {value : String} (filled : Given cookie) (shown : header = some value)
      (nonempty : value ≠ "") (same : guard.tokenFor accessToken = .ok value.toLower) :
      Checked guard accessToken cookie header (.ok ())

theorem checked_verify (guard : CsrfGuard) (accessToken : String) (cookie header : Option String) :
    Checked guard accessToken cookie header (guard.verify accessToken cookie header) := by
  unfold verify
  split
  · next missing => exact .noCookie fun filled => given_iff.mp filled missing
  next filled =>
  have filled := given_iff.mpr filled
  dsimp only
  split
  · next missing => exact .noHeader filled fun given => given_iff.mp given missing
  next nonempty =>
  obtain ⟨value, rfl, nonempty⟩ := given_iff.mpr nonempty
  obtain ⟨code, coded, -⟩ := guard.exists_codeFor accessToken
  rw [Option.getD_some]
  -- What is read from the header is the code exactly where the header is the value.
  cases hread : Hex.decode? value.toList with
  | none =>
    refine .other filled rfl nonempty fun same => ?_
    rw [(decode?_eq_some_iff coded).mpr same] at hread
    cases hread
  | some found =>
    rw [coded]
    change Checked guard accessToken cookie (some value)
      (if found = code then .ok () else .error .csrfInvalid)
    split
    · next same =>
      rw [same] at hread
      exact .same filled rfl nonempty ((decode?_eq_some_iff coded).mp hread)
    · next other =>
      refine .other filled rfl nonempty fun same => other ?_
      exact Option.some.inj (hread.symm.trans ((decode?_eq_some_iff coded).mpr same))

/-- The parts of a request leave no choice. -/
theorem Checked.unique {result result' : Except AuthError Unit}
    (h : Checked guard accessToken cookie header result)
    (h' : Checked guard accessToken cookie header result') : result = result' := by
  cases h with
  | noCookie missing =>
    cases h' with
    | noCookie => rfl
    | noHeader filled | other filled | same filled => exact absurd filled missing
  | noHeader filled missing =>
    cases h' with
    | noCookie noCookie => exact absurd filled noCookie
    | noHeader => rfl
    | other _ shown nonempty => exact absurd ⟨_, shown, nonempty⟩ missing
    | same _ shown nonempty => exact absurd ⟨_, shown, nonempty⟩ missing
  | other filled shown nonempty other =>
    cases h' with
    | noCookie noCookie => exact absurd filled noCookie
    | noHeader _ missing => exact absurd ⟨_, shown, nonempty⟩ missing
    | other => rfl
    | same _ shown' _ same =>
      cases shown.symm.trans shown'
      exact absurd same other
  | same filled shown nonempty same =>
    cases h' with
    | noCookie noCookie => exact absurd filled noCookie
    | noHeader _ missing => exact absurd ⟨_, shown, nonempty⟩ missing
    | other _ shown' _ other =>
      cases shown.symm.trans shown'
      exact absurd same other
    | same => rfl

theorem verify_eq_iff {result : Except AuthError Unit} :
    guard.verify accessToken cookie header = result ↔
      Checked guard accessToken cookie header result := by
  constructor
  · rintro rfl
    exact checked_verify guard accessToken cookie header
  · exact (checked_verify guard accessToken cookie header).unique

theorem of_verify {accessToken : String} {cookie? header? : Option String}
    (h : guard.verify accessToken cookie? header? = .ok ()) :
    ∃ cookie header code, cookie? = some cookie ∧ cookie ≠ "" ∧ header? = some header ∧
      Hmac.sha256 (Utf8.ofString guard.secret) (Utf8.ofString accessToken) = .ok code ∧
      Hex.decode? header.toList = some code := by
  cases verify_eq_iff.mp h with
  | same filled shown nonempty same =>
    obtain ⟨cookie, hcookie, nonempty⟩ := filled
    obtain ⟨code, coded, -⟩ := guard.exists_codeFor accessToken
    exact ⟨cookie, _, code, hcookie, nonempty, shown, sha256_of_codeFor coded,
      (decode?_eq_some_iff coded).mpr same⟩

/-- The value that is handed out passes. -/
theorem verify_of_tokenFor {cookie : String} (filled : cookie ≠ "")
    (handed : guard.tokenFor accessToken = .ok token) :
    guard.verify accessToken (some cookie) (some token) = .ok () := by
  refine verify_eq_iff.mpr (.same (given_some.mpr filled) rfl (ne_empty_of_tokenFor handed) ?_)
  rw [toLower_of_tokenFor handed, handed]

/-! ## Texts that are not the value -/

/-- A text that is not the value in either case, for a reason that its digits show: there is an odd
number of them, one of them is none, or the one text goes on behind the other. -/
inductive Garbled (token value : String) : Prop
  | odd (digits : value.toList.length % 2 = 1)
  | noDigit {c : Char} (mem : c ∈ value.toList) (strange : Hex.value? c = none)
  | cut (front : value.toLower.toList <+: token.toList)
      (short : value.toList.length < token.toList.length)
  | prolonged (front : token.toList <+: value.toLower.toList)
      (long : token.toList.length < value.toList.length)

/-- A garbled text is not the value, whatever the case of its digits. -/
theorem Garbled.toLower_ne (garbled : Garbled token value)
    (handed : guard.tokenFor accessToken = .ok token) : value.toLower ≠ token := by
  intro same
  have hlength : value.toList.length = token.toList.length := by
    rw [← same, toList_toLower, List.length_map]
  cases garbled with
  | odd digits =>
    rw [hlength, length_of_tokenFor handed] at digits
    cases digits
  | noDigit mem strange =>
    obtain ⟨code, coded, -⟩ := guard.exists_codeFor accessToken
    have hread := (decode?_eq_some_iff coded).mpr (same ▸ handed)
    have hdigit := Hex.isSome_value?_of_decode? hread mem
    rw [strange] at hdigit
    cases hdigit
  | cut front short => omega
  | prolonged front long => omega

/-- The guard decides exactly, and the four outcomes are all that there are. Whatever its secret is,
there is a value that goes with the access token, in lower case. A request passes where its cookie
is given and its header is that value in digits of either case. Otherwise it is refused for its
cookie, for the lack of a header or for what the header holds, as is every garbled text. The guard
never fails itself. -/
theorem verify_decides (guard : CsrfGuard) (accessToken : String) (cookie header : Option String) :
    ∃ token, guard.tokenFor accessToken = .ok token ∧ token.toLower = token ∧
    (guard.verify accessToken cookie header = .ok () ↔
      Given cookie ∧ ∃ value, header = some value ∧ value.toLower = token) ∧
    (guard.verify accessToken cookie header = .error .csrfCookieMissing ↔ ¬Given cookie) ∧
    (guard.verify accessToken cookie header = .error (.csrfHeaderMissing guard.header) ↔
      Given cookie ∧ ¬Given header) ∧
    (guard.verify accessToken cookie header = .error .csrfInvalid ↔
      Given cookie ∧ ∃ value, header = some value ∧ value ≠ "" ∧ value.toLower ≠ token) ∧
    (∀ value, Given cookie → header = some value → value ≠ "" → Garbled token value →
      guard.verify accessToken cookie header = .error .csrfInvalid) ∧
    ∀ e, guard.verify accessToken cookie header = .error e → e.kind ≠ .internal := by
  obtain ⟨token, handed⟩ := guard.exists_tokenFor accessToken
  have other {value : String} :
      guard.tokenFor accessToken ≠ .ok value.toLower ↔ value.toLower ≠ token := by
    rw [handed, Ne, Except.ok.injEq, eq_comm]
  have lower := toLower_of_tokenFor handed
  simp only [verify_eq_iff]
  refine ⟨token, handed, lower, ⟨?_, ?_⟩, ⟨?_, .noCookie⟩, ⟨?_, ?_⟩, ⟨?_, ?_⟩, ?_, ?_⟩
  · rintro (_ | _ | _ | ⟨filled, shown, -, same⟩)
    exact ⟨filled, _, shown, Except.ok.inj (same.symm.trans handed)⟩
  · rintro ⟨filled, value, shown, rfl⟩
    have nonempty : value ≠ "" := by
      rintro rfl
      have hlength := length_of_tokenFor handed
      rw [toList_toLower] at hlength
      cases hlength
    exact .same filled shown nonempty handed
  · rintro (missing | _ | _ | _)
    exact missing
  · rintro (_ | ⟨filled, missing⟩ | _ | _)
    exact ⟨filled, missing⟩
  · rintro ⟨filled, missing⟩
    exact .noHeader filled missing
  · rintro (_ | _ | ⟨filled, shown, nonempty, differs⟩ | _)
    exact ⟨filled, _, shown, nonempty, other.mp differs⟩
  · rintro ⟨filled, value, shown, nonempty, differs⟩
    exact .other filled shown nonempty (other.mpr differs)
  · intro value filled shown nonempty garbled
    exact .other filled shown nonempty (other.mpr (garbled.toLower_ne handed))
  · rintro e (_ | _ | _ | _) <;> nofun

/-- A guard without a secret. -/
def secretless : CsrfGuard := ⟨"", "X-CSRF-Token"⟩

/-- Also without a secret a value passes, and it no longer does without its last digit. -/
theorem verify_decides_value_cut_short : ∃ token, secretless.tokenFor "token" = .ok token ∧
    secretless.verify "token" (some "cookie") (some token) = .ok () ∧
    secretless.verify "token" (some "cookie") (some (String.ofList token.toList.dropLast)) =
      .error .csrfInvalid := by
  obtain ⟨token, handed⟩ := secretless.exists_tokenFor "token"
  have hcut : (String.ofList token.toList.dropLast).toList.length = 63 := by
    rw [String.toList_ofList, List.length_dropLast, length_of_tokenFor handed]
  have filled : Given (some "cookie") := given_some.mpr (by decide)
  have nonempty : String.ofList token.toList.dropLast ≠ "" := by
    intro empty
    rw [empty] at hcut
    cases hcut
  obtain ⟨same, hsame, lower, passes, -⟩ := verify_decides secretless "token" (some "cookie")
    (some token)
  obtain ⟨same', hsame', -, -, -, -, -, refuses, -⟩ := verify_decides secretless "token"
    (some "cookie") (some (String.ofList token.toList.dropLast))
  obtain rfl := Except.ok.inj (handed.symm.trans hsame)
  obtain rfl := Except.ok.inj (handed.symm.trans hsame')
  refine ⟨token, handed, passes.mpr ⟨filled, token, rfl, lower⟩,
    refuses _ filled rfl nonempty (.odd ?_)⟩
  rw [hcut]

end CsrfGuard

end SessionAuth
