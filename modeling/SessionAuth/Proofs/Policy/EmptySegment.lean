import SessionAuth.Proofs.Policy.Precedence

/-!
# What an empty segment of a pattern takes

A pattern that ends with a slash has an empty segment at its end, which stands for whatever lies
below, and for nothing as well. An empty segment at the start of a pattern or between two slashes
should find an empty segment of the path in its place, as every other segment finds its own. But
patterns are laid over paths without regard to where their empty segments stand, and each of them
takes anything or nothing. This module tells both readings apart: they differ exactly where an empty
segment is skipped, and they agree on patterns without doubled slashes over paths that start with a
slash.

## Main definitions

* `PolicyRule.LiesOver` — only an empty segment at the end takes anything
* `PolicyRule.Skips` — another one takes what is not empty
* `PolicyRule.Undoubled` — there is no other one

## Main results

* `PolicyRule.liesOver_iff` — the readings differ where an empty segment is skipped
* `PolicyRule.fits_unless_skipping` — what a pattern takes in either reading
* `PolicyRule.DoubledSlash.skips_filled_segment` — a doubled slash skips a segment
-/

namespace SessionAuth.PolicyRule

variable {pattern path : List Segment}

/-- A pattern lies over the front of a path. Each of its segments, but for an empty one at the end,
finds itself in its place of the path, or is in braces and finds any segment there that is not
empty. -/
def LiesOver (pattern path : List Segment) : Prop :=
  ∀ (place : ℕ) (expected : Segment), pattern[place]? = some expected →
    (expected = [] → place + 1 < pattern.length) →
    ∃ actual, path[place]? = some actual ∧ (actual = expected ∨ IsBraced expected ∧ actual ≠ [])

/-- A pattern has an empty segment before its end in whose place the path has none that is
empty. -/
def Skips (pattern path : List Segment) : Prop :=
  ∃ place, pattern[place]? = some [] ∧ place + 1 < pattern.length ∧ path[place]? ≠ some []

/-- A pattern has empty segments at most at its ends, and so no doubled slash. -/
def Undoubled (pattern : List Segment) : Prop :=
  ∀ place, pattern[place]? = some [] → place = 0 ∨ place + 1 = pattern.length

theorem not_isBraced_nil : ¬IsBraced [] := by
  rintro ⟨name, h⟩
  cases h

theorem LiesOver.fits (lies : LiesOver pattern path) : PolicyRule.fits pattern path = true := by
  rw [fits_iff]
  intro place expected found filled
  exact lies place expected found fun hnil => absurd hnil filled

/-- An empty segment before the end finds an empty segment. -/
theorem LiesOver.not_skips (lies : LiesOver pattern path) : ¬Skips pattern path := by
  rintro ⟨place, found, inner, hpath⟩
  obtain ⟨actual, hactual, rfl | ⟨braced, -⟩⟩ := lies place [] found fun _ => inner
  · exact hpath hactual
  · exact not_isBraced_nil braced

/-- A pattern that may be laid over a path lies over it unless an empty segment is skipped. -/
theorem liesOver_iff :
    LiesOver pattern path ↔ fits pattern path = true ∧ ¬Skips pattern path := by
  constructor
  · intro lies
    exact ⟨lies.fits, lies.not_skips⟩
  · rintro ⟨hfits, unskipped⟩ place expected found inner
    by_cases filled : expected = []
    · subst filled
      have hpath : path[place]? = some [] := by
        by_contra hpath
        exact unskipped ⟨place, found, inner rfl, hpath⟩
      exact ⟨[], hpath, .inl rfl⟩
    · exact fits_iff.mp hfits place expected found filled

/-- A pattern without doubled slashes skips nothing of a path that starts with a slash. -/
theorem Undoubled.not_skips (undoubled : Undoubled pattern) (absolute : path[0]? = some []) :
    ¬Skips pattern path := by
  rintro ⟨place, found, inner, hpath⟩
  rcases undoubled place found with rfl | last
  · exact hpath absolute
  · omega

/-- A pattern without doubled slashes lies over a path that starts with a slash if it may be laid
over it. -/
theorem Undoubled.fits_iff_liesOver (undoubled : Undoubled pattern)
    (absolute : path[0]? = some []) :
    PolicyRule.fits pattern path = true ↔ LiesOver pattern path := by
  have unskipped := undoubled.not_skips absolute
  rw [liesOver_iff]
  exact ⟨fun hfits => ⟨hfits, unskipped⟩, And.left⟩

/-- The rules of the service have no doubled slashes. -/
theorem undoubled_of_mem_standard {rule : PolicyRule} (mem : rule ∈ RolePolicy.standard.rules) :
    Undoubled (segments rule.pattern) := by
  -- Behind the last segment of a pattern there is none that is empty.
  have hrules : ∀ rule ∈ RolePolicy.standard.rules, ∀ place < (segments rule.pattern).length,
      (segments rule.pattern)[place]? = some [] →
        place = 0 ∨ place + 1 = (segments rule.pattern).length := by
    decide +kernel
  intro place found
  exact hrules rule mem place (List.getElem?_eq_some_iff.mp found).1 found

/-- What a pattern takes. It may be laid over a path exactly if its segments that are not empty find
their own. It then lies over the path exactly if it skips nothing, so that the two come to the same
for patterns that have empty segments at most at their ends, over paths that start with a slash. The
patterns of the service are such. -/
theorem fits_unless_skipping (pattern path : String) :
    (fits (segments pattern) (segments path) = true ↔
      ∀ (place : ℕ) (expected : Segment),
        (segments pattern)[place]? = some expected → expected ≠ [] →
        ∃ actual, (segments path)[place]? = some actual ∧
          (actual = expected ∨ IsBraced expected ∧ actual ≠ [])) ∧
    (LiesOver (segments pattern) (segments path) ↔
      fits (segments pattern) (segments path) = true ∧
        ¬Skips (segments pattern) (segments path)) ∧
    (Undoubled (segments pattern) → (segments path)[0]? = some [] →
      (fits (segments pattern) (segments path) = true ↔
        LiesOver (segments pattern) (segments path))) ∧
    ∀ rule ∈ RolePolicy.standard.rules, Undoubled (segments rule.pattern) :=
  ⟨fits_iff, liesOver_iff, Undoubled.fits_iff_liesOver, fun _ => undoubled_of_mem_standard⟩

namespace DoubledSlash

/-- The rule of the service for roles takes a path with an account and none without. -/
theorem fits_unless_skipping_role :
    ⟨"PUT", "/api/users/\x7bid\x7d/role", .super⟩ ∈ RolePolicy.standard.rules ∧
    LiesOver (segments "/api/users/\x7bid\x7d/role") (segments "/api/users/4/role") ∧
    ¬LiesOver (segments "/api/users/\x7bid\x7d/role") (segments "/api/users//role") := by
  have mem : ⟨"PUT", "/api/users/\x7bid\x7d/role", .super⟩ ∈ RolePolicy.standard.rules := by
    decide +kernel
  obtain ⟨-, -, hlies, hstandard⟩ :=
    fits_unless_skipping "/api/users/\x7bid\x7d/role" "/api/users/4/role"
  obtain ⟨-, hlies', -⟩ := fits_unless_skipping "/api/users/\x7bid\x7d/role" "/api/users//role"
  refine ⟨mem, (hlies (hstandard _ mem) (by decide +kernel)).mp (by decide +kernel), ?_⟩
  intro lies
  exact absurd (hlies'.mp lies).1 (by decide +kernel)

/-- A rule with a doubled slash. -/
def rule : PolicyRule := ⟨"*", "/a//b", .admin⟩

/-- The doubled slash skips a segment of a path that does not start with the pattern, and the rule
is applied to it. -/
theorem skips_filled_segment :
    fits (segments "/a//b") (segments "/a/x/b") = true ∧
    ¬LiesOver (segments "/a//b") (segments "/a/x/b") ∧
    (RolePolicy.ofRules [rule]).requiredRole "/a/x/b" "GET" = .admin := by
  refine ⟨by decide +kernel, ?_, by decide +kernel⟩
  intro lies
  exact lies.not_skips ⟨2, by decide +kernel, by decide +kernel, by decide +kernel⟩

end DoubledSlash

end SessionAuth.PolicyRule
