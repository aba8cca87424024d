/-!
# Faults of form fields

A field of a form is checked on its own; each check that fails leaves a fault.

## Main definitions

* `FieldCheck` — the checks
* `FieldFault` — a failed check of a field
-/

namespace SessionAuth

/-- What a field is checked for. -/
inductive FieldCheck where
  /-- It is an email address. -/
  | email
  /-- Its number of characters lies within limits. -/
  | length (min : Nat) (max : Option Nat)
  /-- Each of its characters is allowed; the text says which are. -/
  | characters (rule : String)
  deriving DecidableEq, Repr

/-- A failed check of a field. -/
structure FieldFault where
  field : String
  check : FieldCheck
  value : String
  deriving DecidableEq, Repr

end SessionAuth
