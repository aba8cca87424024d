/-!
# JSON values

A value keeps what a reader of records may ask about its text. A number remembers whether
it was written as a whole number. A string may have been written so that no text
corresponds to it: with half of a surrogate pair, or with bytes that are not UTF-8. Such
strings are harmless where they are passed over, and faults where they are read.

## Main definitions

* `Json.Number`, `Json.Literal`, `Json.Value`
* `Json.Value.int`, `Json.Value.text` — whole numbers and texts as values
* `Json.Value.Holdable` — a value that can be kept whole before its kind is known
-/

namespace SessionAuth.Json

/-- A number as it was written: `mantissa * 10 ^ exponent`, perhaps negated. -/
structure Number where
  negative : Bool
  mantissa : Nat
  exponent : Int
  /-- Whether it was written with neither a point nor an exponent. -/
  whole : Bool
  deriving DecidableEq, Repr

namespace Number

/-- The whole number that was written. A negative zero counts as a fraction. -/
def int? (n : Number) : Option Int :=
  if n.whole then
    if n.negative then if n.mantissa = 0 then none else some (-(n.mantissa : Int))
    else some n.mantissa
  else none

/-- A whole number. -/
def ofInt (n : Int) : Number := ⟨n < 0, n.natAbs, 0, true⟩

@[simp] theorem int?_ofInt (n : Int) : (ofInt n).int? = some n := by
  by_cases h : n < 0
  · have hz : n.natAbs ≠ 0 := by omega
    have hn : -(n.natAbs : Int) = n := by omega
    simp only [int?, ofInt, h, hz, decide_true, ite_true, ite_false, hn]
  · have hn : (n.natAbs : Int) = n := by omega
    simp only [int?, ofInt, h, decide_false, ite_true, Bool.false_eq_true, ite_false, hn]

/-- Whether a number is too large for a float of 64 bits: at or beyond the middle between
the largest of them and the next power of two. -/
def overflows (n : Number) : Bool :=
  if n.mantissa = 0 then false
  else if n.exponent > 400 then true
  else
    let limit := (1 <<< 1024) - (1 <<< 970)
    if 0 ≤ n.exponent then limit ≤ n.mantissa * Nat.pow 10 n.exponent.toNat
    else if n.mantissa < limit then false
    else limit ≤ n.mantissa / Nat.pow 10 (-n.exponent).toNat

end Number

/-- A string as it was written. -/
inductive Literal where
  /-- The string is a text. -/
  | text (s : String)
  /-- The string is no text; a reader finds out at its end, or before. -/
  | broken (atEnd : Bool)
  deriving DecidableEq, Repr

/-- The text of a string. -/
def Literal.text? : Literal → Option String
  | text s => some s
  | broken _ => none

/-- A JSON value. The members of an object keep their order and may repeat a name. -/
inductive Value where
  | null
  | bool (b : Bool)
  | number (n : Number)
  | string (s : Literal)
  | array (items : List Value)
  | object (members : List (Literal × Value))

namespace Value

/-- A whole number. -/
def int (n : Int) : Value := number (.ofInt n)

/-- A text. -/
def text (s : String) : Value := string (.text s)

/-- A value or nothing. -/
def optional (v : Option Value) : Value := v.getD null

/-- An object whose names are texts. -/
def record (members : List (String × Value)) : Value :=
  object (members.map fun (name, value) => (.text name, value))

/-- The whole number that a value is. -/
def int? : Value → Option Int
  | number n => n.int?
  | _ => none

/-- The text that a value is. -/
def text? : Value → Option String
  | string s => s.text?
  | _ => none

/-- The truth value that a value is. -/
def bool? : Value → Option Bool
  | bool b => some b
  | _ => none

@[simp] theorem int?_int (n : Int) : (int n).int? = some n := Number.int?_ofInt n

@[simp] theorem text?_text (s : String) : (text s).text? = some s := rfl

mutual

/-- Whether a value can be kept whole before its kind is known: its strings are texts, its
numbers fit a float, and it is nested no deeper than `depth`. -/
def holdable (depth : Nat) : Value → Bool
  | null => true
  | bool _ => true
  | number n => !n.overflows
  | string s => s.text?.isSome
  | array items =>
    match depth with
    | 0 => false
    | depth + 1 => holdableItems depth items
  | object members =>
    match depth with
    | 0 => false
    | depth + 1 => holdableMembers depth members

/-- Whether all items of an array can be kept whole. -/
def holdableItems (depth : Nat) : List Value → Bool
  | [] => true
  | v :: rest => holdable depth v && holdableItems depth rest

/-- Whether all members of an object can be kept whole. -/
def holdableMembers (depth : Nat) : List (Literal × Value) → Bool
  | [] => true
  | (name, v) :: rest => name.text?.isSome && holdable depth v && holdableMembers depth rest

end

end Value

end SessionAuth.Json
