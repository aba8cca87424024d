import SessionAuth.Json.Token
import SessionAuth.Text.Utf8

/-!
# Reading and writing JSON

Values are read from tokens by a machine with a stack of the arrays and objects that are
open, so that nesting is not limited. Writing puts nothing between tokens.

## Main definitions

* `Json.Value.ofTokens?`, `Json.Value.tokens` — a value and its tokens
* `Json.parse?`, `Json.parseBytes?` — a value read from a text or from bytes
* `Json.Value.render` — the text of a value

## Main results

* `Value.ofTokens?_tokens` — reading the tokens of a value gives the value
-/

namespace SessionAuth.Json

/-- An array or object that is open, with what it holds so far in reverse. -/
inductive Frame where
  | array (reversed : List Value)
  | object (reversed : List (Literal × Value)) (name : Literal)

/-- What must come next. -/
inductive Expect where
  /-- A value. -/
  | value
  /-- A value, or the end of an array that was just opened. -/
  | item
  /-- A name behind the members of an object, or the end of one that was just opened. -/
  | name (reversed : List (Literal × Value)) (closable : Bool)
  /-- The colon behind a name. -/
  | colon (reversed : List (Literal × Value)) (name : Literal)
  /-- Whatever may follow a value. -/
  | after (v : Value)

/-- What must come next inside of which open arrays and objects. -/
structure ReaderState where
  expect : Expect
  stack : List Frame

/-- What a token does where a value is expected. -/
def readValue? (stack : List Frame) : Token → Option ReaderState
  | .null => some ⟨.after .null, stack⟩
  | .bool b => some ⟨.after (.bool b), stack⟩
  | .number n => some ⟨.after (.number n), stack⟩
  | .string s => some ⟨.after (.string s), stack⟩
  | .openBracket => some ⟨.item, .array [] :: stack⟩
  | .openBrace => some ⟨.name [] true, stack⟩
  | _ => none

/-- What a token does. -/
def read? (state : ReaderState) (token : Token) : Option ReaderState :=
  match state.expect, token, state.stack with
  | .value, token, stack => readValue? stack token
  | .item, .closeBracket, .array reversed :: stack => some ⟨.after (.array reversed.reverse), stack⟩
  | .item, token, stack => readValue? stack token
  | .name reversed _, .string s, stack => some ⟨.colon reversed s, stack⟩
  | .name reversed true, .closeBrace, stack => some ⟨.after (.object reversed.reverse), stack⟩
  | .colon reversed name, .colon, stack => some ⟨.value, .object reversed name :: stack⟩
  | .after v, .comma, .array reversed :: stack => some ⟨.value, .array (v :: reversed) :: stack⟩
  | .after v, .closeBracket, .array reversed :: stack =>
    some ⟨.after (.array (v :: reversed).reverse), stack⟩
  | .after v, .comma, .object reversed name :: stack =>
    some ⟨.name ((name, v) :: reversed) false, stack⟩
  | .after v, .closeBrace, .object reversed name :: stack =>
    some ⟨.after (.object ((name, v) :: reversed).reverse), stack⟩
  | _, _, _ => none

/-- The value that is complete when all tokens are read. -/
def readAll? (state : ReaderState) : List Token → Option Value
  | [] =>
    match state.expect, state.stack with
    | .after v, [] => some v
    | _, _ => none
  | token :: rest =>
    match read? state token with
    | some state => readAll? state rest
    | none => none

namespace Value

/-- The value of some tokens. -/
def ofTokens? (tokens : List Token) : Option Value := readAll? ⟨.value, []⟩ tokens

mutual

/-- The tokens of a value. -/
def tokens : Value → List Token
  | null => [.null]
  | bool b => [.bool b]
  | number n => [.number n]
  | string s => [.string s]
  | array items => .openBracket :: tokensOfItems items ++ [.closeBracket]
  | object members => .openBrace :: tokensOfMembers members ++ [.closeBrace]

/-- The tokens of the items of an array, with commas between. -/
def tokensOfItems : List Value → List Token
  | [] => []
  | v :: rest => tokens v ++ tokensOfMoreItems rest

/-- The tokens of further items of an array, each behind a comma. -/
def tokensOfMoreItems : List Value → List Token
  | [] => []
  | v :: rest => .comma :: tokens v ++ tokensOfMoreItems rest

/-- The tokens of the members of an object, with commas between. -/
def tokensOfMembers : List (Literal × Value) → List Token
  | [] => []
  | (name, v) :: rest => .string name :: .colon :: tokens v ++ tokensOfMoreMembers rest

/-- The tokens of further members of an object, each behind a comma. -/
def tokensOfMoreMembers : List (Literal × Value) → List Token
  | [] => []
  | (name, v) :: rest => .comma :: .string name :: .colon :: tokens v ++ tokensOfMoreMembers rest

end

/-- The text of a value. -/
def render (v : Value) : List Char := v.tokens.flatMap Token.render

/-- The text of a value as a string. -/
def toText (v : Value) : String := String.ofList v.render

mutual

theorem readAll?_tokens (v : Value) (stack : List Frame) (rest : List Token) :
    readAll? ⟨.value, stack⟩ (v.tokens ++ rest) = readAll? ⟨.after v, stack⟩ rest := by
  match v with
  | null => rfl
  | bool b => rfl
  | number n => rfl
  | string s => rfl
  | array items =>
    cases items with
    | nil => rfl
    | cons v items =>
      have hv := readAll?_item v (.array [] :: stack)
        (tokensOfMoreItems items ++ (.closeBracket :: rest))
      have hi := readAll?_moreItems items v [] stack rest
      simp only [tokens, tokensOfItems, List.cons_append, List.append_assoc, List.nil_append]
      show readAll? ⟨.item, .array [] :: stack⟩ _ = _
      rw [hv, hi]
      rfl
  | object members =>
    match members with
    | [] => rfl
    | (name, v) :: members =>
      have hv := readAll?_tokens v (.object [] name :: stack)
        (tokensOfMoreMembers members ++ (.closeBrace :: rest))
      have hi := readAll?_moreMembers members v [] name stack rest
      simp only [tokens, tokensOfMembers, List.cons_append, List.append_assoc, List.nil_append]
      show readAll? ⟨.value, .object [] name :: stack⟩ _ = _
      rw [hv, hi]
      rfl

theorem readAll?_item (v : Value) (stack : List Frame) (rest : List Token) :
    readAll? ⟨.item, stack⟩ (v.tokens ++ rest) = readAll? ⟨.after v, stack⟩ rest := by
  have h := readAll?_tokens v stack rest
  rw [← h]
  match v with
  | null => rfl
  | bool b => rfl
  | number n => rfl
  | string s => rfl
  | array items => rfl
  | object members => rfl

theorem readAll?_moreItems (items : List Value) (v : Value) (reversed : List Value)
    (stack : List Frame) (rest : List Token) :
    readAll? ⟨.after v, .array reversed :: stack⟩
      (tokensOfMoreItems items ++ (.closeBracket :: rest)) =
      readAll? ⟨.after (.array ((v :: reversed).reverse ++ items)), stack⟩ rest := by
  match items with
  | [] => simp [tokensOfMoreItems, readAll?, read?]
  | w :: items =>
    have hw := readAll?_tokens w (.array (v :: reversed) :: stack)
      (tokensOfMoreItems items ++ (.closeBracket :: rest))
    have hi := readAll?_moreItems items w (v :: reversed) stack rest
    simp only [tokensOfMoreItems, List.cons_append, List.append_assoc]
    show readAll? ⟨.value, .array (v :: reversed) :: stack⟩ _ = _
    rw [hw, hi]
    simp

theorem readAll?_moreMembers (members : List (Literal × Value)) (v : Value)
    (reversed : List (Literal × Value)) (name : Literal) (stack : List Frame)
    (rest : List Token) :
    readAll? ⟨.after v, .object reversed name :: stack⟩
      (tokensOfMoreMembers members ++ (.closeBrace :: rest)) =
      readAll? ⟨.after (.object (((name, v) :: reversed).reverse ++ members)), stack⟩ rest := by
  match members with
  | [] => simp [tokensOfMoreMembers, readAll?, read?]
  | (other, w) :: members =>
    have hw := readAll?_tokens w (.object ((name, v) :: reversed) other :: stack)
      (tokensOfMoreMembers members ++ (.closeBrace :: rest))
    have hi := readAll?_moreMembers members w ((name, v) :: reversed) other stack rest
    simp only [tokensOfMoreMembers, List.cons_append, List.append_assoc]
    show readAll? ⟨.value, .object ((name, v) :: reversed) other :: stack⟩ _ = _
    rw [hw, hi]
    simp

end

/-- Reading the tokens of a value gives the value. -/
@[simp] theorem ofTokens?_tokens (v : Value) : ofTokens? v.tokens = some v := by
  have h := readAll?_tokens v [] []
  rw [List.append_nil] at h
  exact h

end Value

/-- The value of a text in which bytes that are not UTF-8 are marked. -/
def parseMarked? (text : List (Option Char)) : Option Value :=
  (tokens? text).bind Value.ofTokens?

/-- The value of a text. -/
def parse? (text : List Char) : Option Value := parseMarked? (text.map some)

/-- The value of some bytes. -/
def parseBytes? (bytes : List UInt8) : Option Value := parseMarked? (Utf8.decode bytes)

end SessionAuth.Json
