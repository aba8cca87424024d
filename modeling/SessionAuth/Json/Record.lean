import SessionAuth.Json.Value

/-!
# Records as JSON

A record is an object with a member for each of its fields. Members of other names are
passed over; a field that is named twice is a fault. A record may also be written as an
array of its fields in order, where only fields with a default may be left out at the end.

A variant is written by its name, or as an object whose only member has that name and
holds nothing.

## Main definitions

* `Json.Field` — a field by its name
* `Json.Value.fields?` — what a record holds for each of its fields
* `Json.required?`, `Json.optional?`, `Json.defaulted?` — how a field is read
* `Json.Value.variant?` — the name of a variant
-/

namespace SessionAuth.Json

/-- A field of a record. -/
structure Field where
  name : String
  /-- Whether the field may be left out of an array. -/
  hasDefault : Bool

/-- A field that an array must hold. -/
def Field.plain (name : String) : Field := ⟨name, false⟩

/-- A field that an array may leave out. -/
def Field.withDefault (name : String) : Field := ⟨name, true⟩

/-- What an object holds for a name, if it holds it at most once. -/
def member? (members : List (Literal × Value)) (name : String) : Option (Option Value) :=
  match members.filter (·.1 = .text name) with
  | [] => some none
  | [(_, v)] => some (some v)
  | _ => none

/-- What a value holds for each field of a record, if it can be read as one. -/
def Value.fields? (layout : List Field) : Value → Option (List (Option Value))
  | .object members =>
    if members.all (·.1.text?.isSome) then layout.mapM fun field => member? members field.name
    else none
  | .array items =>
    if items.length ≤ layout.length ∧ (layout.drop items.length).all (·.hasDefault) then
      some (items.map some ++ (layout.drop items.length).map fun _ => none)
    else none
  | _ => none

/-- A field that must be there. -/
def required? {α : Type} (read? : Value → Option α) : Option Value → Option α
  | some v => read? v
  | none => none

/-- A field that may be missing or null. -/
def optional? {α : Type} (read? : Value → Option α) : Option Value → Option (Option α)
  | some .null => some none
  | some v => (read? v).map some
  | none => some none

/-- A field that has a default where it is missing. -/
def defaulted? {α : Type} (default : α) (read? : Value → Option α) : Option Value → Option α
  | some v => read? v
  | none => some default

namespace Value

/-- The name of the variant that a value stands for. -/
def variant? : Value → Option String
  | string s => s.text?
  | object [(name, null)] => name.text?
  | _ => none

/-- The items of an array, each read in the same way. -/
def list? {α : Type} (read? : Value → Option α) : Value → Option (List α)
  | array items => items.mapM read?
  | _ => none

/-- The 32-bit integer that a value is. -/
def int32? (v : Value) : Option Int32 :=
  v.int?.bind fun n =>
    if -2147483648 ≤ n ∧ n ≤ 2147483647 then some (Int32.ofInt n) else none

/-- The 64-bit integer that a value is. -/
def int64? (v : Value) : Option Int64 :=
  v.int?.bind fun n =>
    if -9223372036854775808 ≤ n ∧ n ≤ 9223372036854775807 then some (Int64.ofInt n) else none

theorem int32?_int (n : Int32) : (int n.toInt).int32? = some n := by
  have h₁ := n.le_toInt
  have h₂ := n.toInt_lt
  rw [int32?, int?_int]
  simp only [Option.bind_some]
  rw [if_pos (by omega), Int32.ofInt_toInt]

theorem int64?_int (n : Int64) : (int n.toInt).int64? = some n := by
  have h₁ := n.le_toInt
  have h₂ := n.toInt_lt
  rw [int64?, int?_int]
  simp only [Option.bind_some]
  rw [if_pos (by omega), Int64.ofInt_toInt]

end Value

end SessionAuth.Json
