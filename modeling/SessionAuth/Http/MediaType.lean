/-!
# Media types

A media type is a type and a subtype with a slash between; the subtype may end in a suffix
behind a plus sign. Parameters may follow behind semicolons: a name, an equals sign and a
value that may stand in quotes.

## Main definitions

* `MediaType` — subtype and suffix
* `MediaType.parse?` — the media type of a text
* `MediaType.isJson` — subtype or suffix is JSON
-/

namespace SessionAuth

/-- Subtype and suffix, in lower case. -/
structure MediaType where
  subtype : List Char
  suffix : Option (List Char)
  deriving DecidableEq

namespace MediaType

/-- Whether a character may stand in a token. -/
def isToken (c : Char) : Bool :=
  c.isAlphanum || "!#$%&'*+-.^_`|~".toList.contains c

/-- Where a reader of parameters stands. -/
inductive ParameterState where
  /-- In front of a name. -/
  | start
  /-- Inside a name. -/
  | name
  /-- In front of a value. -/
  | valueStart
  /-- Inside a value. -/
  | value
  /-- In front of the first character of a quoted value. -/
  | quoteStart
  /-- Inside a quoted value. -/
  | quoted
  /-- Behind a quoted value. -/
  | after

/-- Where a reader stands behind a character. -/
def parameterStep? : ParameterState → Char → Option ParameterState
  | .start, c => if c = ' ' then some .start else if isToken c then some .name else none
  | .name, c => if c = '=' then some .valueStart else if isToken c then some .name else none
  | .valueStart, c => if c = '"' then some .quoteStart else if isToken c then some .value else none
  | .value, c => if c = ';' then some .start else if isToken c then some .value else none
  | .quoteStart, c => if 32 ≤ c.toNat && c.toNat ≠ 127 then some .quoted else none
  | .quoted, c =>
    if c = '"' then some .after
    else if 32 ≤ c.toNat && c.toNat ≠ 127 then some .quoted
    else none
  | .after, c => if c = ';' then some .start else if c = ' ' then some .after else none

/-- Whether a reader may stop where it stands. -/
def ParameterState.isEnd : ParameterState → Bool
  | start | valueStart | value | after => true
  | _ => false

/-- Whether a text is a list of parameters. -/
def areParameters (text : List Char) : Bool :=
  (text.foldlM parameterStep? .start).any (·.isEnd)

/-- The subtype and the suffix of a text, which starts behind its last plus sign. -/
def ofSubtype (text : List Char) : MediaType :=
  let lower := text.map Char.toLower
  let back := lower.reverse.takeWhile (· ≠ '+')
  -- A plus sign in front starts no suffix: there must be a subtype before it.
  let front := lower.take (lower.length - back.length - 1)
  if '+' ∈ lower ∧ front ≠ [] then ⟨front, some back.reverse⟩ else ⟨lower, none⟩

/-- The media type of a text. -/
def parse? (text : List Char) : Option MediaType :=
  let kind := text.takeWhile (· ≠ '/')
  match text.drop kind.length with
  | '/' :: rest =>
    let subtype := rest.takeWhile (· ≠ ';')
    let tokens := kind ≠ [] && kind.all isToken && subtype.all isToken
    match rest.drop subtype.length with
    | [] => if tokens then some (ofSubtype subtype) else none
    | _ :: parameters =>
      if tokens && subtype ≠ [] && areParameters parameters then some (ofSubtype subtype)
      else none
  | _ => none

/-- Whether subtype or suffix is JSON. -/
def isJson (type : MediaType) : Bool :=
  type.subtype = "json".toList || type.suffix = some "json".toList

end MediaType

end SessionAuth
