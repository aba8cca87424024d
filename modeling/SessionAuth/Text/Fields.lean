/-!
# Texts cut at a separator

A text is read as the list of pieces that lie between the occurrences of one
separating character. There is always at least one piece, and joining the pieces
with the separator gives the text back. A text can also be cut once, at the first
place where some mark stands.

## Main definitions

* `Text.fields` — the pieces of a text
* `Text.joined` — pieces put together again
* `Text.cut?` — what stands before and behind a mark

## Main results

* `joined_fields` — nothing is lost
* `fields_append` — a separator parts the pieces before it from those behind it
* `fields_eq_singleton` — a text without the separator is its own only piece
* `notMem_of_mem_fields` — no piece holds the separator
-/

namespace SessionAuth.Text

/-- The pieces of a text that lie between occurrences of `sep`. -/
def fields (sep : Char) : List Char → List (List Char)
  | [] => [[]]
  | c :: rest =>
    if c = sep then [] :: fields sep rest
    else
      match fields sep rest with
      | [] => [[c]]
      | head :: tail => (c :: head) :: tail

/-- Pieces put together with `sep` between neighbours. -/
def joined (sep : Char) : List (List Char) → List Char
  | [] => []
  | [piece] => piece
  | piece :: rest => piece ++ sep :: joined sep rest

/-- What stands before and behind the first occurrence of `mark`. -/
def cut? (mark : List Char) : List Char → Option (List Char × List Char)
  | [] => if mark = [] then some ([], []) else none
  | c :: rest =>
    if mark.isPrefixOf (c :: rest) then some ([], (c :: rest).drop mark.length)
    else (cut? mark rest).map fun (before, behind) => (c :: before, behind)

theorem fields_ne_nil (sep : Char) (text : List Char) : fields sep text ≠ [] := by
  cases text with
  | nil => simp [fields]
  | cons c rest =>
    rw [fields]
    split
    · simp
    · split <;> simp

@[simp] theorem joined_fields (sep : Char) (text : List Char) :
    joined sep (fields sep text) = text := by
  induction text with
  | nil => rfl
  | cons c rest ih =>
    have hne := fields_ne_nil sep rest
    rw [fields]
    split
    · next h =>
      subst h
      cases hf : fields c rest with
      | nil => exact absurd hf hne
      | cons head tail => rw [hf] at ih; simp [joined, ih]
    · cases hf : fields sep rest with
      | nil => exact absurd hf hne
      | cons head tail =>
        rw [hf] at ih
        cases tail with
        | nil => simpa [joined] using ih
        | cons next more => simp [joined] at ih ⊢; exact ih

theorem joined_append {sep : Char} {front back : List (List Char)} (hfront : front ≠ [])
    (hback : back ≠ []) :
    joined sep (front ++ back) = joined sep front ++ sep :: joined sep back := by
  induction front with
  | nil => exact absurd rfl hfront
  | cons piece front ih =>
    cases front with
    | nil =>
      obtain ⟨next, rest, rfl⟩ := List.exists_cons_of_ne_nil hback
      rfl
    | cons next front =>
      have hrest := ih (by simp)
      rw [List.cons_append] at hrest
      simp [joined, hrest]

theorem fields_eq_singleton {sep : Char} {text : List Char} (h : sep ∉ text) :
    fields sep text = [text] := by
  induction text with
  | nil => rfl
  | cons c rest ih =>
    simp only [List.mem_cons, not_or] at h
    rw [fields, if_neg (Ne.symm h.1), ih h.2]

/-- No piece of a text holds the separator. -/
theorem notMem_of_mem_fields {sep : Char} {text piece : List Char} (h : piece ∈ fields sep text) :
    sep ∉ piece := by
  induction text generalizing piece with
  | nil =>
    obtain rfl : piece = [] := by simpa [fields] using h
    simp
  | cons c rest ih =>
    rw [fields] at h
    split at h
    · rcases List.mem_cons.mp h with rfl | hrest
      · simp
      · exact ih hrest
    · next hc =>
      cases hfields : fields sep rest with
      | nil => exact absurd hfields (fields_ne_nil sep rest)
      | cons head tail =>
        rw [hfields] at h ih
        rcases List.mem_cons.mp h with rfl | htail
        · -- The first piece grew by a character that is not the separator.
          have hhead : sep ∉ head := ih List.mem_cons_self
          simp [Ne.symm hc, hhead]
        · exact ih (List.mem_cons_of_mem _ htail)

/-- The pieces on both sides of a separator are the pieces of the whole. -/
theorem fields_append (sep : Char) (front back : List Char) :
    fields sep (front ++ sep :: back) = fields sep front ++ fields sep back := by
  induction front with
  | nil => simp [fields]
  | cons c front ih =>
    rw [List.cons_append, fields, fields, ih]
    by_cases hc : c = sep
    · rw [if_pos hc, if_pos hc, List.cons_append]
    · rw [if_neg hc, if_neg hc]
      cases hfront : fields sep front with
      | nil => exact absurd hfront (fields_ne_nil sep front)
      | cons head tail => rfl

end SessionAuth.Text
