import SessionAuth.Text.Decimal
import SessionAuth.Text.Hex

/-!
# IP addresses

An address of the fourth version is four numbers below 256 with dots between, without
leading zeros. One of the sixth version is eight groups of up to four hexadecimal digits
with colons between; two colons may stand for one or more groups of zeros, and the last
two groups may be written as an address of the fourth version.

## Main definitions

* `IpAddress.isAddress` — a text is an address of either version
-/

namespace SessionAuth.IpAddress

/-- What follows a number below 256 without leading zeros. -/
def octet? (text : List Char) : Option (List Char) :=
  let run := text.takeWhile Char.isDigit
  match Decimal.digits? run with
  | some n =>
    if n < 256 ∧ run.length ≤ 3 ∧ (run.head? = some '0' → run.length = 1) then
      some (text.drop run.length)
    else none
  | none => none

/-- What follows a dot. -/
def dot? : List Char → Option (List Char)
  | '.' :: rest => some rest
  | _ => none

/-- What follows an address of the fourth version. -/
def version4? (text : List Char) : Option (List Char) := do
  let rest ← octet? text
  let rest ← octet? (← dot? rest)
  let rest ← octet? (← dot? rest)
  octet? (← dot? rest)

/-- What follows a group of up to four hexadecimal digits. -/
def group? (text : List Char) : Option (List Char) :=
  let run := text.takeWhile fun c => (Hex.value? c).isSome
  if 1 ≤ run.length ∧ run.length ≤ 4 then some (text.drop run.length) else none

/-- Groups in front of a text: their number, whether an address of the fourth version is
among them, and what follows. -/
structure Groups where
  count : Nat
  mixed : Bool
  rest : List Char

/-- As many groups as there are, up to `limit`, each behind a colon but for the first. -/
def groups : (limit : Nat) → (first : Bool) → List Char → Groups
  | 0, _, text => ⟨0, false, text⟩
  | limit + 1, first, text =>
    let body? :=
      if first then some text
      else
        match text with
        | ':' :: rest => some rest
        | _ => none
    match body? with
    | none => ⟨0, false, text⟩
    | some body =>
      -- An address of the fourth version takes the room of two groups.
      match if 1 ≤ limit then version4? body else none with
      | some rest => ⟨2, true, rest⟩
      | none =>
        match group? body with
        | none => ⟨0, false, text⟩
        | some rest =>
          let more := groups limit false rest
          ⟨more.count + 1, more.mixed, more.rest⟩

/-- Whether a text is an address of the sixth version. -/
def isVersion6 (text : List Char) : Bool :=
  let front := groups 8 true text
  if front.count = 8 then front.rest = []
  else
    match front.rest with
    | ':' :: ':' :: rest => !front.mixed && (groups (7 - front.count) true rest).rest = []
    | _ => false

/-- Whether a text is an address of either version. -/
def isAddress (text : List Char) : Bool := version4? text = some [] || isVersion6 text

end SessionAuth.IpAddress
