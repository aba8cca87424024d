import SessionAuth.Form.Body
import SessionAuth.PersonalToken
import SessionAuth.Proofs.Time.RoundTrip
import SessionAuth.Proofs.Token.RoundTrip

/-!
# Records are read back without their secrets

Every record is read back from its text as it was, but for the hashes of secrets. These are not
written: what is read back of an account or of a personal token has none, and two of them that
differ in nothing else have the same text. Times are read back to the nanosecond, in every year
that an instant can lie in.

## Main definitions

* `Json.ReadsAs` — a value has a text, and from it this is read
* `Account.shown`, `PersonalToken.shown` — a record without its hashes
* `Account.Regular`, `PersonalToken.View.Regular` — no time of the record lies in a leap second

## Main results

* `Json.ReadsAs.of_text` — what is read from a value is read from its text
* `Json.records_read_back` — records are read back without their secrets
-/

namespace SessionAuth

namespace Json

/-- The text of a value gives the value again, and from this it is read. -/
structure ReadsAs {α : Type} (v : Value) (read? : Value → Option α) (a : α) : Prop where
  plain : v.Plain
  reads : read? v = some a

/-- What is read from a text. -/
def ofText? {α : Type} (read? : Value → Option α) (text : String) : Option α :=
  (parse? text.toList).bind read?

theorem ReadsAs.of_text {α : Type} {v : Value} {read? : Value → Option α} {a : α}
    (h : ReadsAs v read? a) : ofText? read? v.toText = some a := by
  rw [ofText?, Value.toText, String.toList_ofList, Value.parse?_render h.plain, Option.bind_some,
    h.reads]

namespace Value

/-- A whole number of 32 bits fits a float. -/
theorem holdable_int32 (n : Int32) (depth : Nat) : (int n.toInt).holdable depth = true := by
  have hsize : n.toInt.natAbs < (1 <<< 1024) - (1 <<< 970) := by
    have hfirst := n.le_toInt
    have hlast := n.toInt_lt
    exact Nat.lt_of_le_of_lt (by omega : n.toInt.natAbs ≤ 2147483648) (by decide)
  have fits : (Number.ofInt n.toInt).overflows = false := by
    -- A whole number has no power of ten.
    have hpower : n.toInt.natAbs * Nat.pow 10 (0 : Int).toNat = n.toInt.natAbs := Nat.mul_one _
    unfold Number.overflows Number.ofInt
    simp only [hpower]
    rw [if_neg (by decide : ¬(0 : Int) > 400), if_pos (Int.le_refl 0),
      decide_eq_false (Nat.not_le.mpr hsize), ite_self]
  rw [int, holdable, fits, Bool.not_false]

theorem holdable_text (s : String) (depth : Nat) : (text s).holdable depth = true := by
  rw [text, holdable]
  rfl

theorem holdable_bool (b : Bool) (depth : Nat) : (bool b).holdable depth = true := by
  rw [holdable]

end Value

theorem optional?_none {α : Type} (read? : Value → Option α) : optional? read? none = some none :=
  rfl

theorem optional?_text {α : Type} (read? : Value → Option α) (s : String) :
    optional? read? (some (.text s)) = (read? (.text s)).map some :=
  rfl

theorem optional?_bool (b : Option Bool) :
    optional? Value.bool? (some (.optional (b.map .bool))) = some b := by
  cases b <;> rfl

end Json

open Json (ReadsAs Value)

namespace Instant

theorem ofJson?_toJson {t : Instant} (regular : t.Regular) : ofJson? t.toJson = some t := by
  rw [ofJson?, toJson, Value.text?_text, Option.bind_some, ofText?_toText regular]

/-- A time that may be missing is read back. -/
theorem optional?_toJson {t : Option Instant} (regular : ∀ time ∈ t, time.Regular) :
    Json.optional? ofJson? (some (.optional (t.map toJson))) = some t := by
  cases t with
  | none => rfl
  | some t =>
    have hread := ofJson?_toJson (regular t rfl)
    change Json.optional? ofJson? (some (.text t.toText)) = _
    rw [Json.optional?_text]
    exact congrArg (Option.map some) hread

theorem plain_optional (t : Option Instant) : (Value.optional (t.map toJson)).Plain :=
  Value.plain_optional (fun _ => Value.plain_text _) t

end Instant

/-! ## Records -/

section Records

-- How a field of a record is found and read.
attribute [local simp] Value.record Value.fields? Json.member? Json.Field.plain
  Json.Field.withDefault Json.required? Json.defaulted? Json.optional?_none Json.optional?_bool
  Json.Literal.text? Value.int32?_int Value.bool?

-- What can stand in a field.
attribute [local simp] Value.plain_int Value.plain_text Value.plain_bool Instant.plain_optional
  Value.holdable_text Value.holdable_int32 Value.holdable_bool

namespace Account

/-- An account without its hashes. -/
def shown (account : Account) : Account := { account with passwordHash := "", refreshHash := none }

/-- No time of an account lies in a leap second. -/
structure Regular (account : Account) : Prop where
  lastLogin : ∀ t ∈ account.lastLogin, t.Regular
  lastLogout : ∀ t ∈ account.lastLogout, t.Regular
  lastRefresh : ∀ t ∈ account.lastRefresh, t.Regular
  createdAt : account.createdAt.Regular

theorem toJson_shown (account : Account) : account.shown.toJson = account.toJson := rfl

/-- An account is read back without its hashes. -/
theorem readsAs {account : Account} (regular : account.Regular) :
    ReadsAs account.toJson ofJson? account.shown where
  plain := by
    apply Value.plain_record
    simp [Role.toJson, Instant.toJson]
  reads := by
    have login := Instant.optional?_toJson regular.lastLogin
    have logout := Instant.optional?_toJson regular.lastLogout
    have refresh := Instant.optional?_toJson regular.lastRefresh
    have created := Instant.ofJson?_toJson regular.createdAt
    simp [ofJson?, toJson, layout, login, logout, refresh, created, shown]

end Account

namespace PersonalToken

namespace View

/-- No time of a view lies in a leap second. -/
structure Regular (view : View) : Prop where
  createdAt : view.createdAt.Regular
  expiresAt : view.expiresAt.Regular

theorem plain_of_mem_members {view : View} : ∀ member ∈ view.members, member.2.Plain := by
  simp [members, Uuid.toJson, Instant.toJson]

/-- A view is read back. -/
theorem readsAs {view : View} (regular : view.Regular) : ReadsAs view.toJson ofJson? view where
  plain := Value.plain_record plain_of_mem_members
  reads := by
    have created := Instant.ofJson?_toJson regular.createdAt
    have expires := Instant.ofJson?_toJson regular.expiresAt
    simp [ofJson?, toJson, members, layout, created, expires]

end View

/-- A record without its hash. -/
def shown (record : PersonalToken) : PersonalToken := { record with tokenHash := "" }

theorem toJson_shown (record : PersonalToken) : record.shown.toJson = record.toJson := rfl

/-- A record is read back without its hash. -/
theorem readsAs {record : PersonalToken} (regular : record.view.Regular) :
    ReadsAs record.toJson ofJson? record.shown where
  plain := (View.readsAs regular).plain
  reads := by
    have created : Instant.ofJson? record.createdAt.toJson = some record.createdAt :=
      Instant.ofJson?_toJson regular.createdAt
    have expires : Instant.ofJson? record.expiresAt.toJson = some record.expiresAt :=
      Instant.ofJson?_toJson regular.expiresAt
    simp [ofJson?, toJson, view, View.toJson, View.members, layout, created, expires, shown]

end PersonalToken

/-- A new token is read back with the view of its record. -/
theorem CreatedToken.readsAs {created : CreatedToken} (regular : created.view.Regular) :
    ReadsAs created.toJson ofJson? created where
  plain := by
    apply Value.plain_record
    intro member mem
    rcases List.mem_append.mp mem with mem | mem
    · exact PersonalToken.View.plain_of_mem_members member mem
    · obtain rfl := List.mem_singleton.mp mem
      exact Value.plain_text _
  reads := by
    have createdAt := Instant.ofJson?_toJson regular.createdAt
    have expiresAt := Instant.ofJson?_toJson regular.expiresAt
    -- What is kept whole until the view is read is a text, a number or a truth value.
    have whole : ∀ member ∈ created.view.members, member.2.holdable maxDepth = true := by
      simp [PersonalToken.View.members, Uuid.toJson, Instant.toJson]
    simp only [PersonalToken.View.members, List.forall_mem_cons] at whole
    simp [ofJson?, toJson, PersonalToken.View.ofJson?, PersonalToken.View.members,
      PersonalToken.View.layout, createdAt, expiresAt, whole]

theorem SessionGrant.readsAs (grant : SessionGrant) : ReadsAs grant.toJson ofJson? grant where
  plain := by
    apply Value.plain_record
    simp
  reads := by simp [ofJson?, toJson]

theorem StatusChange.readsAs (change : StatusChange) : ReadsAs change.toJson ofJson? change where
  plain := by
    apply Value.plain_record
    simp [Value.plain_optional Value.plain_bool]
  reads := by simp [ofJson?, toJson]

theorem Claims.readsAs (claims : Claims) : ReadsAs claims.toJson ofJson? claims :=
  ⟨claims.plain_toJson, claims.ofJson?_toJson⟩

end Records

/-- Records are read back from their text, to the nanosecond, and those that keep hashes without
them. Two of these that differ in nothing else have the same text. -/
theorem Json.records_read_back :
    (∀ claims : Claims, ofText? Claims.ofJson? claims.toJson.toText = some claims) ∧
    (∀ view : PersonalToken.View, view.Regular →
      ofText? PersonalToken.View.ofJson? view.toJson.toText = some view) ∧
    (∀ created : CreatedToken, created.view.Regular →
      ofText? CreatedToken.ofJson? created.toJson.toText = some created) ∧
    (∀ grant : SessionGrant, ofText? SessionGrant.ofJson? grant.toJson.toText = some grant) ∧
    (∀ change : StatusChange, ofText? StatusChange.ofJson? change.toJson.toText = some change) ∧
    (∀ account : Account, account.Regular →
      ofText? Account.ofJson? account.toJson.toText = some account.shown) ∧
    (∀ record : PersonalToken, record.view.Regular →
      ofText? PersonalToken.ofJson? record.toJson.toText = some record.shown) ∧
    (∀ account other : Account, account.shown = other.shown →
      account.toJson.toText = other.toJson.toText) ∧
    (∀ record other : PersonalToken, record.shown = other.shown →
      record.toJson.toText = other.toJson.toText) := by
  refine ⟨?_, ?_, ?_, ?_, ?_, ?_, ?_, ?_, ?_⟩
  · exact fun claims => claims.readsAs.of_text
  · exact fun _ regular => (PersonalToken.View.readsAs regular).of_text
  · exact fun _ regular => (CreatedToken.readsAs regular).of_text
  · exact fun grant => grant.readsAs.of_text
  · exact fun change => change.readsAs.of_text
  · exact fun _ regular => (Account.readsAs regular).of_text
  · exact fun _ regular => (PersonalToken.readsAs regular).of_text
  -- What is written does not depend on the hashes.
  · intro account other same
    rw [← account.toJson_shown, same, other.toJson_shown]
  · intro record other same
    rw [← record.toJson_shown, same, other.toJson_shown]

namespace LimitsOfTime

/-- The first nanosecond of all. -/
def first : Instant := ⟨-8334601228800, 0, by decide, by decide, Instant.epoch.nanos_lt⟩

/-- The last nanosecond of all. -/
def last : Instant := ⟨8210266876799, 999999999, by decide, by decide, by decide⟩

/-- An account that was made at the first and logged in at the last. -/
def account : Account where
  id := -2147483648
  username := "Zoë \"\\\n\x00😀"
  email := "a@b.co"
  passwordHash := "$2b$12$"
  role := .super
  banned := true
  locked := false
  refreshHash := some ""
  lastLogin := some last
  lastLogout := none
  lastRefresh := some .epoch
  createdAt := first

/-- A token that is good from the first to the last. -/
def record : PersonalToken := ⟨.nil, 7, "ci", first, last, "$2b$12$", true⟩

/-- Both are read back without their hashes, which their texts do not tell. -/
theorem records_read_back_at_limits :
    (account.Regular ∧
      Json.ofText? Account.ofJson? account.toJson.toText =
        some { account with passwordHash := "", refreshHash := none } ∧
      account.toJson.toText = account.shown.toJson.toText) ∧
    record.view.Regular ∧
      Json.ofText? PersonalToken.ofJson? record.toJson.toText =
        some { record with tokenHash := "" } ∧
      Json.ofText? CreatedToken.ofJson? (CreatedToken.toJson ⟨record.view, "token"⟩).toText =
        some ⟨record.view, "token"⟩ := by
  obtain ⟨-, -, created, -, -, accounts, records, same, -⟩ := Json.records_read_back
  have hlast : ∀ t ∈ some last, t.Regular := by decide
  have hepoch : ∀ t ∈ some Instant.epoch, t.Regular := by decide
  have hnone : ∀ t ∈ (none : Option Instant), t.Regular := by decide
  have regular : account.Regular := ⟨hlast, hnone, hepoch, by decide⟩
  have regular' : record.view.Regular := ⟨by decide, by decide⟩
  exact ⟨⟨regular, accounts account regular, same account account.shown rfl⟩, regular',
    records record regular', created ⟨record.view, "token"⟩ regular'⟩

end LimitsOfTime

end SessionAuth
