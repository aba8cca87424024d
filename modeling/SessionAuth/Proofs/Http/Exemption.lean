import SessionAuth.Proofs.Http.Request

/-!
# Which paths are exempt

Whether a path needs a credential is decided on its text: it is an exempt path, or an exempt path
and a slash stand at its front. Segment by segment this says that the path starts with the segments
of an exempt one. So an exempt path that ends inside a segment exempts nothing, whatever is below an
exempt path is exempt, and no path stops being exempt where the list grows. All this holds of empty
paths, of paths that end with a slash and of doubled slashes as well.

## Main results

* `AuthSettings.covers_eq_false_of_inside` — an entry that ends inside a segment covers nothing
* `AuthSettings.exempts_whole_segments` — exemption is a matter of whole segments
-/

namespace SessionAuth.AuthSettings

variable {settings other : AuthSettings} {path : String}

/-- An exempt path that ends inside a segment of a path does not cover it. -/
theorem covers_eq_false_of_inside {exempt path rest : List Char} {c : Char}
    (hpath : path = exempt ++ c :: rest) (inside : c ≠ '/') : covers exempt path = false := by
  subst hpath
  rw [covers, Bool.or_eq_false_iff, decide_eq_false_iff_not, ← Bool.not_eq_true,
    List.isPrefixOf_iff_prefix, List.prefix_append_right_inj]
  constructor
  · intro h
    cases List.append_right_eq_self.mp h
  · rintro ⟨more, h⟩
    exact inside (List.cons.inj h).1.symm

/-- What starts with the segments of an exempt path is exempt. -/
theorem isExempt_of_prefix {longer : String} (exempt : settings.isExempt path = true)
    (starts : segments path <+: segments longer) : settings.isExempt longer = true := by
  obtain ⟨entry, mem, covers⟩ := isExempt_iff.mp exempt
  exact isExempt_iff.mpr ⟨entry, mem, covers.trans starts⟩

/-- A path stays exempt where the list grows. -/
theorem isExempt_of_subset (grows : settings.exemptPaths ⊆ other.exemptPaths)
    (exempt : settings.isExempt path = true) : other.isExempt path = true := by
  obtain ⟨entry, mem, covers⟩ := isExempt_iff.mp exempt
  exact isExempt_iff.mpr ⟨entry, grows mem, covers⟩

/-- Exemption is a matter of whole segments. A path is exempt exactly if it starts with the segments
of an exempt path. One that ends inside a segment of the path can be left out of the list for it. A
path stays exempt where segments are added to it, and where exempt paths are added to the list. -/
theorem exempts_whole_segments (settings : AuthSettings) (path : String) :
    (settings.isExempt path = true ↔
      ∃ exempt ∈ settings.exemptPaths, segments exempt <+: segments path) ∧
    (∀ (front back : List String) (exempt : String) (c : Char) (rest : List Char),
      settings.exemptPaths = front ++ exempt :: back →
      path.toList = exempt.toList ++ c :: rest → c ≠ '/' →
      settings.isExempt path = { settings with exemptPaths := front ++ back }.isExempt path) ∧
    (settings.isExempt path = true → ∀ more : String,
      settings.isExempt (path ++ "/" ++ more) = true) ∧
    ∀ paths : List String, settings.exemptPaths ⊆ paths → settings.isExempt path = true →
      { settings with exemptPaths := paths }.isExempt path = true := by
  refine ⟨isExempt_iff, ?_, ?_, ?_⟩
  · intro front back exempt c rest hpaths hpath inside
    have huncovered := covers_eq_false_of_inside hpath inside
    simp only [isExempt, hpaths, List.any_append, List.any_cons, huncovered, Bool.false_or]
  · intro exempt more
    refine isExempt_of_prefix exempt ?_
    rw [segments_append_slash]
    exact List.prefix_append _ _
  · intro paths grows
    exact isExempt_of_subset grows

namespace ExemptDocs

/-- Settings under which the documents and the state of the service are open. -/
def docsOpen : AuthSettings where
  issuer := "issuer"
  accessMinutes := 15
  refreshDays := 14
  privateKeyPath := "key"
  publicKeyPath := "key.pub"
  csrfSecret := "secret"
  csrfHeader := "X-CSRF-Token"
  environment := "local"
  hashCost := 4
  storeTimeoutSeconds := 10
  exemptPaths := ["/health", "/docs"]

/-- What is below the documents is open and stays so, while the state of the service does not open
what starts with its letters. -/
theorem exempts_whole_segments_of_docs :
    docsOpen.isExempt "/docs" = true ∧ docsOpen.isExempt "/docs/index.html" = true ∧
    { docsOpen with exemptPaths := ["/", "/docs", "/health"] }.isExempt "/docs" = true ∧
    docsOpen.isExempt "/healthz" = { docsOpen with exemptPaths := ["/docs"] }.isExempt "/healthz" ∧
    docsOpen.isExempt "/healthz" = false := by
  obtain ⟨-, -, hbelow, hgrows⟩ := exempts_whole_segments docsOpen "/docs"
  obtain ⟨-, hinside, -, -⟩ := exempts_whole_segments docsOpen "/healthz"
  have docs : docsOpen.isExempt "/docs" = true := by decide +kernel
  have hleft := hinside [] ["/docs"] "/health" 'z' [] rfl (by decide +kernel) (by decide)
  exact ⟨docs, hbelow docs "index.html", hgrows _ (by decide) docs, hleft,
    hleft.trans (by decide +kernel)⟩

end ExemptDocs

end SessionAuth.AuthSettings
