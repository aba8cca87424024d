import SessionAuth.Json.Value
import SessionAuth.Text.Decimal
import SessionAuth.Text.Hex

/-!
# JSON tokens

The text of a value is a sequence of tokens: brackets, braces, commas, colons, words,
numbers and strings, with spaces, tabs and line ends allowed between. The text is read
character by character by a machine that holds the unfinished token. A missing character
stands for bytes that are not UTF-8; it is tolerated inside strings.

Tokens are written without anything between. In strings the quote, the backslash and the
control characters are escaped and nothing else.

## Main definitions

* `Json.Token` — the tokens
* `Json.tokens?` — the tokens of a text
* `Json.Token.render` — the text of a token
-/

namespace SessionAuth.Json

/-- The tokens. -/
inductive Token where
  | openBrace
  | closeBrace
  | openBracket
  | closeBracket
  | comma
  | colon
  | null
  | bool (b : Bool)
  | number (n : Number)
  | string (s : Literal)
  deriving DecidableEq, Repr

/-- What was read of a number. -/
inductive NumberPhase where
  | minus
  | zero
  | digits
  | point
  | fraction
  | exponentMark
  | exponentSign
  | exponentDigits
  deriving DecidableEq

/-- An unfinished number. -/
structure NumberPart where
  phase : NumberPhase
  negative : Bool
  mantissa : Nat
  scale : Nat
  exponentNegative : Bool
  exponent : Nat

/-- An unfinished string: its characters in reverse, whether it is broken and where that
is found out, and the first half of a surrogate pair if the second half must come next. -/
structure StringPart where
  reversed : List Char
  broken : Option Bool
  half : Option Nat

/-- What the machine is in the middle of. -/
inductive Mode where
  | between
  | word (left : List Char) (token : Token)
  | number (part : NumberPart)
  | string (part : StringPart)
  | escape (part : StringPart)
  | hex (part : StringPart) (left value : Nat)

namespace NumberPart

/-- A number that starts with a minus sign. -/
def negated : NumberPart := ⟨.minus, true, 0, 0, false, 0⟩

/-- An unfinished number with one character more, if it continues the number. -/
def push? (part : NumberPart) (c : Char) : Option NumberPart :=
  let digit := c.toNat - '0'.toNat
  match part.phase with
  | .minus =>
    if c = '0' then some { part with phase := .zero }
    else if c.isDigit then some { part with phase := .digits, mantissa := digit }
    else none
  | .zero =>
    if c = '.' then some { part with phase := .point }
    else if c = 'e' || c = 'E' then some { part with phase := .exponentMark }
    else none
  | .digits =>
    if c.isDigit then some { part with mantissa := 10 * part.mantissa + digit }
    else if c = '.' then some { part with phase := .point }
    else if c = 'e' || c = 'E' then some { part with phase := .exponentMark }
    else none
  | .point | .fraction =>
    if c.isDigit then
      some { part with
        phase := .fraction, mantissa := 10 * part.mantissa + digit, scale := part.scale + 1 }
    else if part.phase = .fraction && (c = 'e' || c = 'E') then
      some { part with phase := .exponentMark }
    else none
  | .exponentMark | .exponentSign | .exponentDigits =>
    if c.isDigit then
      some { part with phase := .exponentDigits, exponent := 10 * part.exponent + digit }
    else if part.phase = .exponentMark && c = '+' then some { part with phase := .exponentSign }
    else if part.phase = .exponentMark && c = '-' then
      some { part with phase := .exponentSign, exponentNegative := true }
    else none

/-- The number, if it may end where it was read to. -/
def finish? (part : NumberPart) : Option Number :=
  let exponent : Int := if part.exponentNegative then -part.exponent else part.exponent
  match part.phase with
  | .zero | .digits => some ⟨part.negative, part.mantissa, 0, true⟩
  | .fraction | .exponentDigits =>
    some ⟨part.negative, part.mantissa, exponent - part.scale, false⟩
  | _ => none

end NumberPart

namespace StringPart

/-- A string of which nothing was read. -/
def empty : StringPart := ⟨[], none, none⟩

/-- A string in which no second half of a surrogate pair is awaited: one that is missing
breaks the string. -/
def settle (part : StringPart) : StringPart :=
  if part.half.isSome then { part with broken := some false, half := none } else part

/-- A string with one character more. -/
def push (part : StringPart) (c : Char) : StringPart :=
  let part := part.settle
  { part with reversed := c :: part.reversed }

/-- A string with bytes that are not UTF-8. -/
def pushFault (part : StringPart) : StringPart :=
  let part := part.settle
  { part with broken := part.broken.or (some true) }

/-- A string with the unit of an escape by number: a character or half of a pair. -/
def pushUnit (part : StringPart) (unit : Nat) : StringPart :=
  let high := 0xD800 ≤ unit && unit < 0xDC00
  let low := 0xDC00 ≤ unit && unit < 0xE000
  match part.half with
  | some first =>
    if low then
      let c := Char.ofNat (0x10000 + (first - 0xD800) * 0x400 + (unit - 0xDC00))
      { part with reversed := c :: part.reversed, half := none }
    else { part with broken := some false, half := none }
  | none =>
    if low then { part with broken := some false }
    else if high then { part with half := some unit }
    else { part with reversed := Char.ofNat unit :: part.reversed }

/-- The string, read to its closing quote. -/
def finish (part : StringPart) : Literal :=
  match part.settle.broken with
  | some atEnd => .broken atEnd
  | none => .text (String.ofList part.settle.reversed.reverse)

end StringPart

/-- The character that a letter behind a backslash stands for. -/
def escaped? : Char → Option Char
  | '"' => some '"'
  | '\\' => some '\\'
  | '/' => some '/'
  | 'b' => some '\x08'
  | 'f' => some '\x0c'
  | 'n' => some '\n'
  | 'r' => some '\r'
  | 't' => some '\t'
  | _ => none

/-- What a character between tokens does: the token that it is, and what it starts. -/
def start? (c : Char) : Option (List Token × Mode) :=
  match c with
  | ' ' | '\t' | '\n' | '\r' => some ([], .between)
  | '\x7b' => some ([.openBrace], .between)
  | '\x7d' => some ([.closeBrace], .between)
  | '[' => some ([.openBracket], .between)
  | ']' => some ([.closeBracket], .between)
  | ',' => some ([.comma], .between)
  | ':' => some ([.colon], .between)
  | '"' => some ([], .string .empty)
  | 'n' => some ([], .word ['u', 'l', 'l'] .null)
  | 't' => some ([], .word ['r', 'u', 'e'] (.bool true))
  | 'f' => some ([], .word ['a', 'l', 's', 'e'] (.bool false))
  | '-' => some ([], .number .negated)
  | c =>
    if c.isDigit then
      ({ NumberPart.negated with negative := false }.push? c).map fun part => ([], .number part)
    else none

/-- What a character does: the tokens that it completes, and what is unfinished then. -/
def step? : Mode → Option Char → Option (List Token × Mode)
  | .between, some c => start? c
  | .word left token, some c =>
    match left with
    | [] => none
    | [d] => if c = d then some ([token], .between) else none
    | d :: left => if c = d then some ([], .word left token) else none
  | .number part, some c =>
    match part.push? c with
    | some part => some ([], .number part)
    | none =>
      -- A number has no end of its own: the character behind it starts the next token.
      match part.finish?, start? c with
      | some n, some (tokens, mode) => some (.number n :: tokens, mode)
      | _, _ => none
  | .string part, some c =>
    if c = '"' then some ([.string part.finish], .between)
    else if c = '\\' then some ([], .escape part)
    else if c.toNat < 0x20 then none
    else some ([], .string (part.push c))
  | .string part, none => some ([], .string part.pushFault)
  | .escape part, some c =>
    if c = 'u' then some ([], .hex part 4 0)
    else (escaped? c).map fun d => ([], .string (part.push d))
  | .hex part left value, some c =>
    (Hex.value? c).map fun digit =>
      let value := 16 * value + digit
      if left ≤ 1 then ([], .string (part.pushUnit value)) else ([], .hex part (left - 1) value)
  | _, none => none

/-- The tokens of the text behind an unfinished token, after the tokens `reversed`. -/
def tokensFrom? (reversed : List Token) : Mode → List (Option Char) → Option (List Token)
  | .between, [] => some reversed.reverse
  | .number part, [] => part.finish?.map fun n => (.number n :: reversed).reverse
  | _, [] => none
  | mode, c :: rest =>
    match step? mode c with
    | some (tokens, mode) => tokensFrom? (tokens.reverseAux reversed) mode rest
    | none => none

/-- The tokens of a text. -/
def tokens? (text : List (Option Char)) : Option (List Token) := tokensFrom? [] .between text

/-! ## Writing -/

/-- The text of a character in a string. -/
def renderChar (c : Char) : List Char :=
  if c = '"' then ['\\', '"']
  else if c = '\\' then ['\\', '\\']
  else if c = '\x08' then ['\\', 'b']
  else if c = '\x0c' then ['\\', 'f']
  else if c = '\n' then ['\\', 'n']
  else if c = '\r' then ['\\', 'r']
  else if c = '\t' then ['\\', 't']
  else if c.toNat < 0x20 then
    ['\\', 'u', '0', '0', Hex.digit (c.toNat / 16), Hex.digit (c.toNat % 16)]
  else [c]

/-- The text of a string. One that is no text is written as half of a surrogate pair. -/
def Literal.render : Literal → List Char
  | .text s => '"' :: s.toList.flatMap renderChar ++ ['"']
  | .broken _ => "\"\\ud800\"".toList

/-- The text of a number. -/
def Number.render (n : Number) : List Char :=
  (if n.negative then ['-'] else []) ++ Nat.toDigits 10 n.mantissa ++
    (if n.whole then [] else 'e' :: Decimal.render n.exponent)

/-- The text of a token. -/
def Token.render : Token → List Char
  | openBrace => ['\x7b']
  | closeBrace => ['\x7d']
  | openBracket => ['[']
  | closeBracket => [']']
  | comma => [',']
  | colon => [':']
  | null => ['n', 'u', 'l', 'l']
  | bool true => ['t', 'r', 'u', 'e']
  | bool false => ['f', 'a', 'l', 's', 'e']
  | number n => n.render
  | string s => s.render

end SessionAuth.Json
