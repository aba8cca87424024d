import SessionAuth.Error
import SessionAuth.Role
import SessionAuth.Text.Fields
import SessionAuth.Text.Uppercase

/-!
# The policy

A policy answers whether a subject may act on a resource. The built-in one is a list of
rules. A rule names an action, or every action by `*`, a pattern of path segments and the
least role that is needed. The rule that applies with most segments decides; at equal
length one for a single action goes before one for every action, and of equals the last.
Where no rule applies every role is enough.

A pattern is laid over the front of a path segment by segment. A segment in braces stands
for any one segment that is not empty, an empty segment for anything or nothing.

## Main definitions

* `PolicyEngine` — whatever answers
* `PolicyRule`, `RolePolicy` — rules and lists of them
* `RolePolicy.requiredRole` — the least role for an action on a path
* `RolePolicy.standard` — the rules of the service

## Main results

* `segments_append_slash` — a slash parts the segments before it from those behind it
* `RolePolicy.enforce_engine` — a list of rules allows every role that is high enough
-/

namespace SessionAuth

/-- What answers whether a subject may act on a resource. -/
structure PolicyEngine where
  enforce : (subject resource action : String) → Except AuthError Bool

/-- A segment of a path. -/
abbrev Segment := List Char

/-- The segments of a path: the pieces between slashes, with an empty one in front of a
slash that starts the path. -/
def segments (path : String) : List Segment := Text.fields '/' path.toList

/-- Behind a slash the segments of what follows are added. -/
theorem segments_append_slash (front back : String) :
    segments (front ++ "/" ++ back) = segments front ++ segments back := by
  have hslash : (front ++ "/" ++ back).toList = front.toList ++ '/' :: back.toList := by
    rw [String.toList_append, String.toList_append, List.append_assoc]
    rfl
  rw [segments, hslash, Text.fields_append]
  rfl

/-- One rule of a policy. -/
structure PolicyRule where
  action : String
  pattern : String
  role : Role
  deriving DecidableEq, Repr

namespace PolicyRule

/-- The action that stands for every action. -/
def anyAction : String := "*"

/-- Whether a segment of a pattern stands for any segment. -/
def isPlaceholder (segment : Segment) : Bool :=
  segment.head? = some '\x7b' && segment.getLast? = some '\x7d'

/-- Whether a segment of a pattern may lie over a segment of a path. -/
def segmentFits (expected actual : Segment) : Bool :=
  expected = [] || actual = expected || (isPlaceholder expected && actual ≠ [])

/-- Whether a pattern may lie over the front of a path. -/
def fits : (pattern path : List Segment) → Bool
  | [], _ => true
  | expected :: pattern, [] => expected = [] && fits pattern []
  | expected :: pattern, actual :: path => segmentFits expected actual && fits pattern path

/-- Whether a rule is for an action, in letters of either case. -/
def coversAction (rule : PolicyRule) (action : String) : Bool :=
  rule.action = anyAction ||
    rule.action.toList.map Char.toLower = action.toList.map Char.toLower

/-- Whether a rule is for an action on a path. -/
def applies (rule : PolicyRule) (path action : String) : Bool :=
  rule.coversAction action && fits (segments rule.pattern) (segments path)

/-- The number of segments of a pattern that are not empty. -/
def length (rule : PolicyRule) : Nat := (segments rule.pattern).countP (· ≠ [])

/-- The weight of a rule: its length first, then whether it is for a single action. -/
def weight (rule : PolicyRule) : Nat := 2 * rule.length + if rule.action = anyAction then 0 else 1

end PolicyRule

/-- A list of rules, in the order in which they were added. -/
structure RolePolicy where
  rules : List PolicyRule
  deriving DecidableEq, Repr

namespace RolePolicy

/-- The policy without rules. -/
def empty : RolePolicy := ⟨[]⟩

/-- A policy with one rule more. The action is kept in upper case. -/
def add (policy : RolePolicy) (action pattern : String) (role : Role) : RolePolicy :=
  ⟨policy.rules ++ [⟨Text.uppercase action, pattern, role⟩]⟩

/-- Of two rules the weightier one, of equals the second. -/
def weightier (a b : PolicyRule) : PolicyRule := if a.weight ≤ b.weight then b else a

/-- The weightiest of some rules, of equals the last. -/
def weightiest? : List PolicyRule → Option PolicyRule
  | [] => none
  | rule :: rest => some (rest.foldl weightier rule)

/-- The least role for an action on a path. -/
def requiredRole (policy : RolePolicy) (path action : String) : Role :=
  match weightiest? (policy.rules.filter (·.applies path action)) with
  | some rule => rule.role
  | none => .user

/-- Whether the role that a subject names is enough for an action on a path. A subject that
names no role is refused. -/
def allows (policy : RolePolicy) (subject path action : String) : Bool :=
  match Role.parse subject with
  | .ok role => role.covers (policy.requiredRole path action)
  | .error _ => false

/-- A list of rules as a policy that always answers. -/
def engine (policy : RolePolicy) : PolicyEngine :=
  ⟨fun subject resource action => .ok (policy.allows subject resource action)⟩

/-- A list of rules allows the roles that are worth at least the one that is needed. -/
theorem enforce_engine (policy : RolePolicy) (role : Role) (path action : String) :
    policy.engine.enforce role.name path action =
      .ok (role.covers (policy.requiredRole path action)) := by
  simp only [engine, allows, Role.parse_name]

/-- The rules of the service. -/
def standard : RolePolicy :=
  ((empty.add "*" "/api/users/" .admin).add "GET" "/api/users/me" .user).add
    "PUT" "/api/users/\x7bid\x7d/role" .super

end RolePolicy

end SessionAuth
