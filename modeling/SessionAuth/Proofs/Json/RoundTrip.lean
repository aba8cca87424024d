import SessionAuth.Json.Reader

/-!
# Reading what was written as JSON

The text of a value holds nothing but its tokens, so reading it comes down to reading token
after token. A number is the one token without an end of its own: it is read back only where
a comma, a closing bracket or nothing at all stands behind it, which is what stands behind
every value.

## Main definitions

* `Json.Token.Plain`, `Json.Value.Plain` — a token whose text says everything about it, and a
  value with no others
* `Json.Delimited` — what may stand behind a value

## Main results

* `tokensFrom?_renderChar` — a character of a string is read back, escaped or not
* `tokensFrom?_toDigits` — a natural number is read back
* `Value.parse?_render`, `Value.parseBytes?_encode_render` — reading inverts writing
-/

namespace SessionAuth.Json

/-- A token whose text says everything about it: a number without fraction and exponent, a
string that is a text, or any token that is neither. -/
def Token.Plain : Token → Prop
  | number n => n.whole = true ∧ n.exponent = 0
  | string s => s.text?.isSome
  | _ => True

/-- The end of a text, or a comma or closing bracket with anything behind. -/
def Delimited : List (Option Char) → Prop
  | [] => True
  | c :: _ => c = some ',' ∨ c = some ']' ∨ c = some '\x7d'

variable {reversed : List Token} {rest : List (Option Char)}

theorem tokensFrom?_cons {mode mode' : Mode} {tokens : List Token} {c : Option Char}
    (h : step? mode c = some (tokens, mode')) :
    tokensFrom? reversed mode (c :: rest) =
      tokensFrom? (tokens.reverseAux reversed) mode' rest := by
  cases mode <;> simp only [tokensFrom?, h]

/-! ## Strings -/

/-- A character of a string is read back. -/
theorem tokensFrom?_renderChar (c : Char) (chars : List Char) :
    tokensFrom? reversed (.string ⟨chars, none, none⟩) ((renderChar c).map some ++ rest) =
      tokensFrom? reversed (.string ⟨c :: chars, none, none⟩) rest := by
  -- Seven characters have a short escape, other control characters an escape by number, and the
  -- rest stand for themselves.
  unfold renderChar
  split
  · subst_vars; rfl
  split
  · subst_vars; rfl
  split
  · subst_vars; rfl
  split
  · subst_vars; rfl
  split
  · subst_vars; rfl
  split
  · subst_vars; rfl
  split
  · subst_vars; rfl
  split
  · next hcontrol =>
    -- The number has two leading zeros, so that no surrogate can come out of it.
    have hhigh := Hex.value?_digit (c.toNat / 16) (by omega)
    have hlow := Hex.value?_digit (c.toNat % 16) (by omega)
    have hunit : 16 * (c.toNat / 16) + c.toNat % 16 = c.toNat := by omega
    have hzero : Hex.value? '0' = some 0 := by decide
    have hsmall : ¬0xD800 ≤ c.toNat ∧ ¬0xDC00 ≤ c.toNat := by omega
    simp [tokensFrom?, step?, hzero, hhigh, hlow, hunit, StringPart.pushUnit, hsmall,
      Char.ofNat_toNat]
  · next hquote hslash _ _ _ _ _ hcontrol =>
    simp [tokensFrom?, step?, hquote, hslash, hcontrol, StringPart.push, StringPart.settle]

theorem tokensFrom?_renderChars (text chars : List Char) :
    tokensFrom? reversed (.string ⟨chars, none, none⟩)
      ((text.flatMap renderChar).map some ++ rest) =
      tokensFrom? reversed (.string ⟨text.reverse ++ chars, none, none⟩) rest := by
  induction text generalizing chars with
  | nil => rfl
  | cons c text ih =>
    rw [List.flatMap_cons, List.map_append, List.append_assoc, tokensFrom?_renderChar, ih,
      List.reverse_cons, List.append_assoc]
    rfl

/-- A string that is a text is read back. -/
theorem tokensFrom?_text (s : String) :
    tokensFrom? reversed .between ((Literal.text s).render.map some ++ rest) =
      tokensFrom? (.string (.text s) :: reversed) .between rest := by
  -- The equations of the renderer are large, so the text is put in by definition.
  have hopen : step? .between (some '"') = some ([], .string ⟨[], none, none⟩) := rfl
  change tokensFrom? reversed .between
    (('"' :: s.toList.flatMap renderChar ++ ['"']).map some ++ rest) = _
  rw [List.cons_append, List.map_cons, List.map_append, List.cons_append, List.append_assoc,
    tokensFrom?_cons hopen, List.reverseAux_nil, tokensFrom?_renderChars,
    List.append_nil]
  simp [tokensFrom?, step?, StringPart.finish, StringPart.settle]

/-! ## Numbers -/

/-- A number of which at most the sign was read. -/
def NumberPart.signed (negative : Bool) : NumberPart := ⟨.minus, negative, 0, 0, false, 0⟩

/-- A number of which all digits of its whole part were read. -/
def NumberPart.ofWhole (negative : Bool) (n : Nat) : NumberPart :=
  ⟨if n = 0 then .zero else .digits, negative, n, 0, false, 0⟩

theorem isDigit_digitChar {d : Nat} (h : d < 10) : d.digitChar.isDigit = true := by
  revert d
  decide

theorem toNat_digitChar {d : Nat} (h : d < 10) : d.digitChar.toNat - '0'.toNat = d := by
  revert d
  decide

theorem digitChar_ne_zero {d : Nat} (h : d < 10) (hd : d ≠ 0) : d.digitChar ≠ '0' := by
  revert d
  decide

/-- A number may consist of a single digit. -/
theorem push?_signed {d : Nat} (h : d < 10) (negative : Bool) :
    (NumberPart.signed negative).push? d.digitChar = some (.ofWhole negative d) := by
  by_cases hd : d = 0
  · subst hd
    rfl
  · simp only [NumberPart.push?, NumberPart.signed, NumberPart.ofWhole, if_neg hd,
      if_neg (digitChar_ne_zero h hd), isDigit_digitChar h, toNat_digitChar h, if_true]

/-- A digit between tokens does what it does behind a sign. -/
theorem step?_between_of_isDigit {c : Char} (h : c.isDigit = true) :
    step? .between (some c) = step? (.number (.signed false)) (some c) := by
  -- Which part it is depends on the digit being zero or not, and does not matter here.
  have hpush : ∃ part, (NumberPart.signed false).push? c = some part := by
    by_cases hc : c = '0' <;> simp [NumberPart.push?, NumberPart.signed, hc, h]
  obtain ⟨part, hpush⟩ := hpush
  have hstart : start? c = ((NumberPart.signed false).push? c).map fun part =>
      ([], .number part) := by
    unfold start?
    split
    case h_16 => rw [if_pos h]; rfl
    all_goals exact absurd h (by decide)
  simp only [step?, hstart, hpush, Option.map_some]

/-- A number above zero may be followed by any digit. -/
theorem push?_ofWhole {n d : Nat} (hn : n ≠ 0) (h : d < 10) (negative : Bool) :
    (NumberPart.ofWhole negative n).push? d.digitChar = some (.ofWhole negative (10 * n + d)) := by
  have hpos : 10 * n + d ≠ 0 := by omega
  simp only [NumberPart.push?, NumberPart.ofWhole, if_neg hn, if_neg hpos, isDigit_digitChar h,
    toNat_digitChar h, if_true]

/-- The digits of a natural number are read back. -/
theorem tokensFrom?_toDigits (negative : Bool) (n : Nat) (rest : List (Option Char)) :
    tokensFrom? reversed (.number (.signed negative)) ((Nat.toDigits 10 n).map some ++ rest) =
      tokensFrom? reversed (.number (.ofWhole negative n)) rest := by
  -- The digits come with the last one split off, so the induction is on all smaller numbers.
  induction n using Nat.strongRecOn generalizing rest with
  | ind n ih =>
    by_cases hsmall : n < 10
    · have hstep : step? (.number (.signed negative)) (some n.digitChar) =
          some ([], .number (.ofWhole negative n)) := by
        simp only [step?, push?_signed hsmall]
      rw [Nat.toDigits_of_lt_base hsmall]
      exact tokensFrom?_cons hstep
    · have hlast : n % 10 < 10 := Nat.mod_lt n (by decide)
      have hfront : n / 10 ≠ 0 := by omega
      have hvalue : 10 * (n / 10) + n % 10 = n := by omega
      have hstep : step? (.number (.ofWhole negative (n / 10))) (some (n % 10).digitChar) =
          some ([], .number (.ofWhole negative n)) := by
        simp only [step?, push?_ofWhole hfront hlast, hvalue]
      rw [Nat.toDigits_of_base_le (by decide) (by omega), List.map_append, List.append_assoc,
        ih (n / 10) (by omega)]
      exact tokensFrom?_cons hstep

/-- What may stand behind a value ends a number. -/
theorem tokensFrom?_ofWhole (negative : Bool) (n : Nat) (delimited : Delimited rest) :
    tokensFrom? reversed (.number (.ofWhole negative n)) rest =
      tokensFrom? (.number ⟨negative, n, 0, true⟩ :: reversed) .between rest := by
  have hfinish : (NumberPart.ofWhole negative n).finish? = some ⟨negative, n, 0, true⟩ := by
    unfold NumberPart.ofWhole NumberPart.finish?
    split <;> simp_all
  cases rest with
  | nil => simp only [tokensFrom?, hfinish, Option.map_some]
  | cons c rest =>
    -- The character behind the number is the next token, read as if nothing were unfinished.
    have next {c : Char} {token : Token} (hpush : (NumberPart.ofWhole negative n).push? c = none)
        (hstart : start? c = some ([token], .between)) :
        tokensFrom? reversed (.number (.ofWhole negative n)) (some c :: rest) =
          tokensFrom? (.number ⟨negative, n, 0, true⟩ :: reversed) .between (some c :: rest) := by
      have hnumber : step? (.number (.ofWhole negative n)) (some c) =
          some ([.number ⟨negative, n, 0, true⟩, token], .between) := by
        simp only [step?, hpush, hfinish, hstart]
      have hbetween : step? .between (some c) = some ([token], .between) := hstart
      rw [tokensFrom?_cons hnumber, tokensFrom?_cons hbetween]
      rfl
    rcases delimited with rfl | rfl | rfl <;> refine next ?_ rfl <;>
      by_cases hn : n = 0 <;> simp [NumberPart.ofWhole, NumberPart.push?, hn]

/-- A whole number is read back in front of what may stand behind a value. -/
theorem tokensFrom?_number {n : Number} (plain : Token.Plain (.number n))
    (delimited : Delimited rest) :
    tokensFrom? reversed .between (n.render.map some ++ rest) =
      tokensFrom? (.number n :: reversed) .between rest := by
  obtain ⟨negative, mantissa, exponent, whole⟩ := n
  obtain ⟨rfl, rfl⟩ : whole = true ∧ exponent = 0 := plain
  have hdigits : tokensFrom? reversed (.number (.signed negative))
      ((Nat.toDigits 10 mantissa).map some ++ rest) =
        tokensFrom? (.number ⟨negative, mantissa, 0, true⟩ :: reversed) .between rest := by
    rw [tokensFrom?_toDigits, tokensFrom?_ofWhole negative mantissa delimited]
  rw [← hdigits]
  -- Behind a minus sign and in front of a number without one the digits are read alike.
  cases negative with
  | true =>
    have hminus : step? .between (some '-') = some ([], .number (.signed true)) := rfl
    simp only [Number.render, if_true, List.append_nil, List.map_cons, List.cons_append]
    exact tokensFrom?_cons hminus
  | false =>
    simp only [Number.render, if_true, List.append_nil, List.nil_append, Bool.false_eq_true,
      if_false]
    cases hfirst : Nat.toDigits 10 mantissa with
    | nil => exact absurd hfirst Nat.toDigits_ne_nil
    | cons c digits =>
      have hc : c.isDigit = true :=
        Decimal.isDigit_of_mem_toDigits (n := mantissa) c (by simp [hfirst])
      have hsame := step?_between_of_isDigit hc
      simp only [List.map_cons, List.cons_append, tokensFrom?, hsame]

/-! ## Values -/

/-- A plain token is read back in front of what may stand behind a value. -/
theorem tokensFrom?_render {token : Token} (plain : token.Plain) (delimited : Delimited rest) :
    tokensFrom? reversed .between (token.render.map some ++ rest) =
      tokensFrom? (token :: reversed) .between rest := by
  match token with
  | .number n => exact tokensFrom?_number plain delimited
  | .string (.text s) => exact tokensFrom?_text s
  | .string (.broken _) => exact absurd plain (by simp [Token.Plain, Literal.text?])
  | .openBrace | .closeBrace | .openBracket | .closeBracket | .comma | .colon => rfl
  | .null | .bool true | .bool false => rfl

namespace Value

/-- The marked text of some tokens. -/
def marked (tokens : List Token) : List (Option Char) := (tokens.flatMap Token.render).map some

theorem marked_cons (token : Token) (tokens : List Token) :
    marked (token :: tokens) = token.render.map some ++ marked tokens := by
  simp [marked]

theorem marked_append (front back : List Token) :
    marked (front ++ back) = marked front ++ marked back := by
  simp [marked]

theorem delimited_moreItems (items : List Value) (rest : List (Option Char)) :
    Delimited (marked (tokensOfMoreItems items) ++ some ']' :: rest) := by
  cases items <;> simp [tokensOfMoreItems, marked, Token.render, Delimited]

theorem delimited_moreMembers (members : List (Literal × Value)) (rest : List (Option Char)) :
    Delimited (marked (tokensOfMoreMembers members) ++ some '\x7d' :: rest) := by
  cases members <;> simp [tokensOfMoreMembers, marked, Token.render, Delimited]

/-- A punctuation mark is read back in front of anything. -/
theorem tokensFrom?_mark {token : Token} {c : Char} (text : token.render = [c])
    (hstep : step? .between (some c) = some ([token], .between)) (tokens : List Token) :
    tokensFrom? reversed .between (marked (token :: tokens) ++ rest) =
      tokensFrom? (token :: reversed) .between (marked tokens ++ rest) := by
  rw [marked_cons, text]
  exact tokensFrom?_cons hstep

/-- A name and its colon are read back in front of anything. -/
theorem tokensFrom?_name {name : Literal} (plain : Token.Plain (.string name))
    (tokens : List Token) :
    tokensFrom? reversed .between (marked (.string name :: .colon :: tokens) ++ rest) =
      tokensFrom? (.colon :: .string name :: reversed) .between (marked tokens ++ rest) := by
  match name with
  | .text s =>
    rw [marked_cons, List.append_assoc]
    exact (tokensFrom?_text s).trans (tokensFrom?_mark rfl rfl tokens)
  | .broken _ => exact absurd plain (by simp [Token.Plain, Literal.text?])

mutual

/-- The tokens of a value are read back in front of what may stand behind it. -/
theorem tokensFrom?_tokens (v : Value) (reversed : List Token) (rest : List (Option Char))
    (plain : ∀ token ∈ v.tokens, token.Plain) (delimited : Delimited rest) :
    tokensFrom? reversed .between (marked v.tokens ++ rest) =
      tokensFrom? (v.tokens.reverse ++ reversed) .between rest := by
  -- A value that is one token needs no induction.
  have single {token : Token} (h : token.Plain) :
      tokensFrom? reversed .between (marked [token] ++ rest) =
        tokensFrom? ([token].reverse ++ reversed) .between rest := by
    rw [marked_cons]
    exact (List.append_assoc _ _ _).symm ▸ tokensFrom?_render h delimited
  match v with
  | null => exact single trivial
  | bool b => exact single trivial
  | number n => exact single (plain _ (by simp [tokens]))
  | string s => exact single (plain _ (by simp [tokens]))
  | array [] => rfl
  -- The first item is read in front of the others, which start with a comma or end the array.
  | array (v :: items) =>
    have hv := tokensFrom?_tokens v (.openBracket :: reversed)
      (marked (tokensOfMoreItems items) ++ some ']' :: rest)
      (fun token h => plain token (by simp [tokens, tokensOfItems, h])) (delimited_moreItems _ _)
    have hi := tokensFrom?_moreItems items (v.tokens.reverse ++ .openBracket :: reversed) rest
      (fun token h => plain token (by simp [tokens, tokensOfItems, h]))
    simp only [tokens, tokensOfItems, List.cons_append, List.append_assoc]
    rw [tokensFrom?_mark rfl rfl, marked_append, marked_append, List.append_assoc,
      List.append_assoc]
    refine hv.trans (hi.trans ?_)
    simp
  | object [] => rfl
  -- As for an array, with a name and a colon in front of each value.
  | object ((name, v) :: members) =>
    have hname : Token.Plain (.string name) := plain _ (by simp [tokens, tokensOfMembers])
    have hv := tokensFrom?_tokens v (.colon :: .string name :: .openBrace :: reversed)
      (marked (tokensOfMoreMembers members) ++ some '\x7d' :: rest)
      (fun token h => plain token (by simp [tokens, tokensOfMembers, h]))
      (delimited_moreMembers _ _)
    have hm := tokensFrom?_moreMembers members
      (v.tokens.reverse ++ .colon :: .string name :: .openBrace :: reversed) rest
      (fun token h => plain token (by simp [tokens, tokensOfMembers, h]))
    simp only [tokens, tokensOfMembers, List.cons_append, List.append_assoc]
    rw [tokensFrom?_mark rfl rfl, tokensFrom?_name hname, marked_append, marked_append,
      List.append_assoc, List.append_assoc]
    refine hv.trans (hm.trans ?_)
    simp

theorem tokensFrom?_moreItems (items : List Value) (reversed : List Token)
    (rest : List (Option Char)) (plain : ∀ token ∈ tokensOfMoreItems items, token.Plain) :
    tokensFrom? reversed .between (marked (tokensOfMoreItems items) ++ some ']' :: rest) =
      tokensFrom? (.closeBracket :: ((tokensOfMoreItems items).reverse ++ reversed)) .between
        rest := by
  match items with
  | [] => rfl
  | v :: items =>
    have hv := tokensFrom?_tokens v (.comma :: reversed)
      (marked (tokensOfMoreItems items) ++ some ']' :: rest)
      (fun token h => plain token (by simp [tokensOfMoreItems, h])) (delimited_moreItems _ _)
    have hi := tokensFrom?_moreItems items (v.tokens.reverse ++ .comma :: reversed) rest
      (fun token h => plain token (by simp [tokensOfMoreItems, h]))
    simp only [tokensOfMoreItems, List.cons_append]
    rw [tokensFrom?_mark rfl rfl, marked_append, List.append_assoc]
    refine hv.trans (hi.trans ?_)
    simp

theorem tokensFrom?_moreMembers (members : List (Literal × Value)) (reversed : List Token)
    (rest : List (Option Char)) (plain : ∀ token ∈ tokensOfMoreMembers members, token.Plain) :
    tokensFrom? reversed .between (marked (tokensOfMoreMembers members) ++ some '\x7d' :: rest) =
      tokensFrom? (.closeBrace :: ((tokensOfMoreMembers members).reverse ++ reversed)) .between
        rest := by
  match members with
  | [] => rfl
  | (name, v) :: members =>
    have hname : Token.Plain (.string name) := plain _ (by simp [tokensOfMoreMembers])
    have hv := tokensFrom?_tokens v (.colon :: .string name :: .comma :: reversed)
      (marked (tokensOfMoreMembers members) ++ some '\x7d' :: rest)
      (fun token h => plain token (by simp [tokensOfMoreMembers, h])) (delimited_moreMembers _ _)
    have hm := tokensFrom?_moreMembers members
      (v.tokens.reverse ++ .colon :: .string name :: .comma :: reversed) rest
      (fun token h => plain token (by simp [tokensOfMoreMembers, h]))
    simp only [tokensOfMoreMembers, List.cons_append]
    rw [tokensFrom?_mark rfl rfl, tokensFrom?_name hname, marked_append, List.append_assoc]
    refine hv.trans (hm.trans ?_)
    simp

end

/-- A value of which every token is plain. -/
def Plain (v : Value) : Prop := ∀ token ∈ v.tokens, token.Plain

/-- The text of a plain value is cut into its tokens. -/
theorem tokens?_render {v : Value} (plain : v.Plain) :
    tokens? (v.render.map some) = some v.tokens := by
  have h := tokensFrom?_tokens v [] [] plain trivial
  rw [List.append_nil, List.append_nil] at h
  apply h.trans
  rw [tokensFrom?, List.reverse_reverse]

/-- Reading the text of a value gives the value. -/
theorem parse?_render {v : Value} (plain : v.Plain) : parse? v.render = some v := by
  rw [parse?, parseMarked?, tokens?_render plain, Option.bind_some, ofTokens?_tokens]

/-- Reading the bytes of a value's text gives the value. -/
theorem parseBytes?_encode_render {v : Value} (plain : v.Plain) :
    parseBytes? (Utf8.encode v.render) = some v := by
  rw [parseBytes?, Utf8.decode_encode]
  exact parse?_render plain

/-! ## Plain values -/

theorem plain_int (n : Int) : (int n).Plain := by
  simp [Plain, int, tokens, Token.Plain, Number.ofInt]

theorem plain_text (s : String) : (text s).Plain := by
  simp [Plain, text, tokens, Token.Plain, Literal.text?]

theorem plain_null : null.Plain := by
  simp [Plain, tokens, Token.Plain]

theorem plain_bool (b : Bool) : (bool b).Plain := by
  simp [Plain, tokens, Token.Plain]

theorem plain_optional {α : Type} {toJson : α → Value} (plain : ∀ a, (toJson a).Plain)
    (a : Option α) : (optional (a.map toJson)).Plain := by
  cases a with
  | none => exact plain_null
  | some a => exact plain a

theorem plain_of_mem_moreItems {items : List Value} (plain : ∀ v ∈ items, v.Plain) :
    ∀ token ∈ tokensOfMoreItems items, token.Plain := by
  induction items with
  | nil => simp [tokensOfMoreItems]
  | cons v items ih =>
    intro token h
    simp only [tokensOfMoreItems, List.cons_append, List.mem_cons, List.mem_append] at h
    rcases h with rfl | hv | hitems
    · trivial
    · exact plain v (by simp) token hv
    · exact ih (fun w hw => plain w (by simp [hw])) token hitems

theorem plain_array {items : List Value} (plain : ∀ v ∈ items, v.Plain) : (array items).Plain := by
  intro token h
  cases items with
  | nil =>
    simp only [tokens, tokensOfItems, List.cons_append, List.nil_append, List.mem_cons,
      List.not_mem_nil, or_false] at h
    rcases h with rfl | rfl <;> trivial
  | cons v items =>
    simp only [tokens, tokensOfItems, List.cons_append, List.mem_cons, List.mem_append,
      List.not_mem_nil, or_false] at h
    rcases h with rfl | (hv | hitems) | rfl
    · trivial
    · exact plain v (by simp) token hv
    · exact plain_of_mem_moreItems (fun w hw => plain w (by simp [hw])) token hitems
    · trivial

theorem plain_of_mem_moreMembers {members : List (String × Value)}
    (plain : ∀ member ∈ members, member.2.Plain) :
    ∀ token ∈ tokensOfMoreMembers (members.map fun (name, v) => (.text name, v)),
      token.Plain := by
  induction members with
  | nil => simp [tokensOfMoreMembers]
  | cons member members ih =>
    intro token h
    simp only [List.map_cons, tokensOfMoreMembers, List.cons_append, List.mem_cons,
      List.mem_append] at h
    rcases h with rfl | rfl | rfl | hv | hmembers
    · trivial
    · rfl
    · trivial
    · exact plain member (by simp) token hv
    · exact ih (fun other h => plain other (by simp [h])) token hmembers

theorem plain_record {members : List (String × Value)}
    (plain : ∀ member ∈ members, member.2.Plain) : (record members).Plain := by
  intro token h
  cases members with
  | nil =>
    simp only [record, List.map_nil, tokens, tokensOfMembers, List.cons_append, List.nil_append,
      List.mem_cons, List.not_mem_nil, or_false] at h
    rcases h with rfl | rfl <;> trivial
  | cons member members =>
    simp only [record, List.map_cons, tokens, tokensOfMembers, List.cons_append, List.mem_cons,
      List.mem_append, List.not_mem_nil, or_false] at h
    rcases h with rfl | rfl | rfl | (hv | hmembers) | rfl
    · trivial
    · rfl
    · trivial
    · exact plain member (by simp) token hv
    · exact plain_of_mem_moreMembers (fun other h => plain other (by simp [h])) token hmembers
    · trivial

end Value

end SessionAuth.Json
