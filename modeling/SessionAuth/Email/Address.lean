import SessionAuth.Domain.Ascii
import SessionAuth.Email.IpAddress
import SessionAuth.Text.Fields

/-!
# Email addresses

An email address is a name of up to 64 characters, an at sign and a domain of up to 255.
The domain is a sequence of labels with dots between, or an IP address in brackets. A
domain of neither form may still be one when it is written in ASCII.

Letters are compared without regard to case, by which the long s and the kelvin sign count
as letters.

## Main definitions

* `Email.isAddress` — a text is an email address
-/

namespace SessionAuth.Email

/-- Whether a character is a letter when case does not matter. -/
def isLetter (c : Char) : Bool := c.isAlpha || c = '\u017f' || c = '\u212a'

/-- Whether a character is a letter or a digit. -/
def isAlphanumeric (c : Char) : Bool := isLetter c || c.isDigit

/-- Whether a character may stand in a name. -/
def isNameCharacter (c : Char) : Bool :=
  isAlphanumeric c || ".!#$%&'*+/=?^_`\x7b|\x7d~-".toList.contains c

/-- Whether a text is a label: up to 63 letters, digits and hyphens, without a hyphen at
either end. -/
def isLabel (label : List Char) : Bool :=
  label.length ≤ 63 && label.all (fun c => isAlphanumeric c || c = '-') &&
    label.head?.any isAlphanumeric && label.getLast?.any isAlphanumeric

/-- Whether a character may stand between brackets: a letter, a digit, a colon, a dot, or one
of the six characters between the upper-case and the lower-case letters. -/
def isLiteralCharacter (c : Char) : Bool :=
  isAlphanumeric c || c = ':' || c = '.' || ('[' ≤ c && c ≤ '`')

/-- What stands between the first opening bracket from which only characters of literals
follow, and a closing bracket at the end. -/
def literal? : List Char → Option (List Char)
  | [] => none
  | c :: rest =>
    let inner := rest.dropLast
    if c = '[' && rest.getLast? = some ']' && inner ≠ [] && inner.all isLiteralCharacter then
      some inner
    else literal? rest

/-- Whether a text is a domain as it stands. -/
def isPlainDomain (domain : List Char) : Bool :=
  (Text.fields '.' domain).all isLabel || (literal? domain).any IpAddress.isAddress

/-- What stands before and behind the last at sign. -/
def splitLastAt? (text : List Char) : Option (List Char × List Char) :=
  match (Text.fields '@' text).reverse with
  | domain :: front@(_ :: _) => some (Text.joined '@' front.reverse, domain)
  | _ => none

/-- Whether a text is a domain, as it stands or in its form in ASCII. -/
def isDomain (domain : List Char) : Bool :=
  isPlainDomain domain || (Domain.ascii? domain).any isPlainDomain

/-- Whether a text is an email address. -/
def isAddress (text : String) : Bool :=
  match splitLastAt? text.toList with
  | none => false
  | some (name, domain) =>
    name.length ≤ 64 && domain.length ≤ 255 && name ≠ [] && name.all isNameCharacter &&
      isDomain domain

end SessionAuth.Email
