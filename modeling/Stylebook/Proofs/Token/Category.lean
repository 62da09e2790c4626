import Stylebook.Check.Schema
import Stylebook.Proofs.Token.Resolution

/-!
References that say the category. A token whose name passes the check of the system is found by its
category and its name, whatever other categories there are and in whatever order, unless there is a dot in
its name; a dot is admitted in names of tokens, but not in references.
-/

namespace Stylebook

open Text

namespace Text

/-- A letter, then word characters and hyphens, and nothing else. -/
def IsIdentifier (s : String) : Prop :=
  ∃ c w, s.toList = c :: w ∧ isLetterAscii c = true ∧ ∀ d ∈ w, isNameChar d = true

theorem isNameChar_of_alphanum {c : Char} (h : (isLowerAscii c || isUpperAscii c || isDigitAscii c) = true) :
    isNameChar c = true := by
  simp only [isLowerAscii, isUpperAscii, isDigitAscii, Bool.or_eq_true, Bool.and_eq_true,
    decide_eq_true_iff, Char.le_def, UInt32.le_iff_toNat_le] at h
  change ((97 ≤ c.val.toNat ∧ c.val.toNat ≤ 122) ∨ (65 ≤ c.val.toNat ∧ c.val.toNat ≤ 90)) ∨
    (48 ≤ c.val.toNat ∧ c.val.toNat ≤ 57) at h
  have hc : c.toNat < 0x80 := by
    change c.val.toNat < 0x80
    omega
  have hd : c.isAlphanum = true := by
    change ((decide (c.val ≥ 'A'.val ∧ c.val ≤ 'Z'.val) ||
      (decide (c.val ≥ 'a'.val) && decide (c.val ≤ 'z'.val))) ||
      (decide (c.val ≥ '0'.val) && decide (c.val ≤ '9'.val))) = true
    simp only [Bool.or_eq_true, Bool.and_eq_true, decide_eq_true_iff, ge_iff_le, UInt32.le_iff_toNat_le]
    change ((65 ≤ c.val.toNat ∧ c.val.toNat ≤ 90) ∨ (97 ≤ c.val.toNat ∧ c.val.toNat ≤ 122)) ∨
      (48 ≤ c.val.toNat ∧ c.val.toNat ≤ 57)
    omega
  simp [isNameChar, isWordChar, isAlphanumeric, hc, hd]

theorem isNameChar_of_letter {c : Char} (h : isLetterAscii c = true) : isNameChar c = true :=
  isNameChar_of_alphanum (by rw [← isLetterAscii, h]; rfl)

theorem isNameChar_of_lower_or_digit {c : Char} (h : (isLowerAscii c || isDigitAscii c) = true) :
    isNameChar c = true := by
  apply isNameChar_of_alphanum
  rw [Bool.or_eq_true] at h
  rcases h with h | h <;> simp [h]

theorem not_mem_of_isIdentifier {s : String} {c : Char} (h : isIdentifier s = true)
    (hc : isNameChar c = false) (hend : c ≠ '\n') : c ∉ s.toList := by
  obtain ⟨a, w, ha, hw, hs⟩ := isIdentifier_iff.mp h
  have hmem : c ∉ a :: w := by
    rw [List.mem_cons, not_or]
    refine ⟨?_, fun hm => ?_⟩
    · rintro rfl
      rw [isNameChar_of_letter ha] at hc
      cases hc
    · rw [hw c hm] at hc
      cases hc
  rcases hs with hs | hs <;> rw [hs]
  · exact hmem
  · rw [List.mem_append, not_or]
    exact ⟨hmem, by simpa using hend⟩

end Text

/-- A character of a token's name. -/
def isTokenChar (c : Char) : Bool := isLowerAscii c || isDigitAscii c || c == '.' || c == '-'

theorem isTokenName_iff {s : String} : isTokenName s = true ↔
    ∃ c w, (isLowerAscii c || isDigitAscii c) = true ∧ (∀ d ∈ w, isTokenChar d = true) ∧
      (s.toList = c :: w ∨ s.toList = c :: w ++ ['\n']) :=
  isNamed_iff (by decide)

theorem isNameChar_of_tokenChar {c : Char} (h : isTokenChar c = true) : isNameChar c = true ∨ c = '.' := by
  rw [isTokenChar, Bool.or_eq_true, Bool.or_eq_true, beq_iff_eq, beq_iff_eq] at h
  rcases h with (h | rfl) | rfl
  · exact .inl (isNameChar_of_lower_or_digit h)
  · exact .inr rfl
  · exact .inl (by decide)

/-- What the check of a system admits as a token's name. -/
theorem isTokenName_of_tokenIssues {category name : String} {value : Literal}
    (h : ∀ i ∈ tokenIssues category name value, i.code ≠ .invalidTokenName) : isTokenName name = true := by
  rw [← Bool.not_eq_false]
  intro hn
  rw [tokenIssues, hn] at h
  exact h _ (List.mem_append_left _ (List.mem_singleton.mpr rfl)) rfl

/-- A category, a hyphen and a token's name: a letter, then characters of names and dots, of which all dots
are in the token's name, and at the end there may be a line end. -/
theorem toList_qualified {c n : String} (hc : IsIdentifier c) (hn : isTokenName n = true) :
    ∃ a w, isLetterAscii a = true ∧ (∀ d ∈ w, isNameChar d = true ∨ d = '.') ∧
      ('.' ∈ w ↔ '.' ∈ n.toList) ∧
      ((c ++ "-" ++ n).toList = a :: w ∨ (c ++ "-" ++ n).toList = a :: w ++ ['\n']) := by
  obtain ⟨a, front, hfront, ha, hchars⟩ := hc
  obtain ⟨b, back, hb, hback, hn⟩ := isTokenName_iff.mp hn
  have hb := isNameChar_of_lower_or_digit hb
  have hdot {d : Char} (hd : isNameChar d = true) : d ≠ '.' := by
    rintro rfl
    revert hd
    decide
  refine ⟨a, front ++ '-' :: b :: back, ha, ?_, ?_, ?_⟩
  · intro d hd
    simp only [List.mem_append, List.mem_cons] at hd
    rcases hd with hd | rfl | rfl | hd
    · exact .inl (hchars d hd)
    · exact .inl (by decide)
    · exact .inl hb
    · exact isNameChar_of_tokenChar (hback d hd)
  · have hf : '.' ∉ front := fun hm => hdot (hchars _ hm) rfl
    rcases hn with hn | hn <;> simp [hn, hf, Ne.symm (hdot hb)]
  · rcases hn with hn | hn <;> simp [hfront, hn]

namespace Tokens

variable {tokens : Tokens} {pre c n : String} {v : Literal}

/-- A name that is in no category is not found in any. -/
theorem at?_eq_none {k : String} (h : (tokens.entries.all fun e => (e.2.get? k).isNone) = true)
    (d : String) : tokens.at? d k = none := by
  rw [Dict.at?]
  cases hd : tokens.get? d with
  | none => rfl
  | some names =>
    exact Option.isNone_iff_eq_none.mp (List.all_eq_true.mp h _ (Dict.get?_eq_some_iff.mp hd))

theorem afterStart?_append (start rest : String) : afterStart? start (start ++ rest) = some rest := by
  rw [afterStart?, if_pos (by simp)]
  simp

/-- A token is found by its category and its name, if no token has all of this for its name. -/
theorem exists_find?_qualified (hv : tokens.at? c n = some v)
    (hx : ∀ d, tokens.at? d (c ++ "-" ++ n) = none) :
    ∃ c' n', tokens.find? (c ++ "-" ++ n) = some (c', n') ∧ c ++ "-" ++ n = c' ++ "-" ++ n' := by
  obtain ⟨names, hc, hn⟩ := Option.bind_eq_some_iff.mp hv
  have hkeyword : c ++ "-" ++ n ∉ keywords := by
    have hh : ∀ k ∈ keywords, '-' ∉ k.toList := by decide
    exact fun hk => hh _ hk (by simp)
  have hsome : (tokens.findQualified? (c ++ "-" ++ n)).isSome = true := by
    rw [findQualified?, List.findSome?_isSome_iff]
    refine ⟨(c, names), Dict.get?_eq_some_iff.mp hc, ?_⟩
    rw [afterStart?_append]
    simp [Dict.contains, hn]
  have hfind : (tokens.find? (c ++ "-" ++ n)).isSome = true := by
    rw [find?, if_neg (by simpa using hkeyword)]
    cases tokens.findExact? (c ++ "-" ++ n) with
    | some e => rfl
    | none => exact hsome
  obtain ⟨⟨c', n'⟩, he⟩ := Option.isSome_iff_exists.mp hfind
  refine ⟨c', n', he, ?_⟩
  rcases (names_of_find? he).spelled with rfl | hs
  · obtain ⟨w, hw⟩ := (names_of_find? he).present
    rw [hx] at hw
    cases hw
  · exact hs

/-- Without a dot, category and name together are an identifier, and are looked up as one. -/
theorem resolve_undotted (hc : IsIdentifier c) (hn : isTokenName n = true) (hv : tokens.at? c n = some v)
    (hx : ∀ d, tokens.at? d (c ++ "-" ++ n) = none) (hd : '.' ∉ n.toList) :
    tokens.resolve pre (c ++ "-" ++ n) = variableUse pre c n := by
  obtain ⟨a, w, ha, hw, hdot, hs⟩ := toList_qualified hc hn
  have hi : isIdentifier (c ++ "-" ++ n) = true :=
    isIdentifier_iff.mpr ⟨a, w, ha,
      fun d hm => (hw d hm).resolve_right fun he => hd (hdot.mp (he ▸ hm)), hs⟩
  obtain ⟨c', n', hf, he⟩ := exists_find?_qualified hv hx
  rw [resolve, if_pos hi, resolveName, hf]
  exact variableUse_eq_iff.mpr he.symm

/-- With a dot they are no identifier, and not several words either. -/
theorem resolve_dotted (hc : IsIdentifier c) (hn : isTokenName n = true) (hd : '.' ∈ n.toList) :
    tokens.resolve pre (c ++ "-" ++ n) = c ++ "-" ++ n := by
  obtain ⟨a, w, ha, hw, -, hs⟩ := toList_qualified hc hn
  have hi : isIdentifier (c ++ "-" ++ n) = false := by
    rw [← Bool.not_eq_true]
    intro hi
    have hm : '.' ∈ (c ++ "-" ++ n).toList := by
      rw [String.toList_append]
      exact List.mem_append_right _ hd
    exact not_mem_of_isIdentifier hi (by decide) (by decide) hm
  have hblank : ∀ d ∈ a :: w, isBlank d = false := by
    refine List.forall_mem_cons.mpr ⟨isBlank_of_letterAscii ha, fun d hm => ?_⟩
    rcases hw d hm with h | rfl
    · exact isBlank_of_wordChar h
    · decide
  refine resolve_of_words_le_one hi ?_
  rw [words_of_nonblank (List.cons_ne_nil a w) hblank hs]
  exact Nat.le_refl 1

/-- A reference is not the use of a property, which has parentheses. -/
theorem qualified_ne_variableUse (hc : IsIdentifier c) (hn : isTokenName n = true) :
    c ++ "-" ++ n ≠ variableUse pre c n := by
  obtain ⟨a, w, ha, hw, -, hs⟩ := toList_qualified hc hn
  have hparen : '(' ∉ a :: w := by
    rw [List.mem_cons, not_or]
    refine ⟨?_, fun hm => absurd (hw _ hm) (by decide)⟩
    rintro rfl
    revert ha
    decide
  intro he
  have hm : '(' ∈ (c ++ "-" ++ n).toList := by
    rw [he, toList_variableUse]
    simp
  rcases hs with hs | hs <;> rw [hs] at hm
  · exact hparen hm
  · exact hparen ((List.mem_append.mp hm).resolve_right (by decide))

/-- A token with a proper name in a category whose name is an identifier: its category and its name refer
to it exactly if there is no dot in the name, and else they stay as they are. -/
theorem resolve_qualified_iff (hc : IsIdentifier c) (hv : tokens.at? c n = some v)
    (hn : ∀ i ∈ tokenIssues c n v, i.code ≠ .invalidTokenName)
    (hx : ∀ d, tokens.at? d (c ++ "-" ++ n) = none) :
    (tokens.resolve pre (c ++ "-" ++ n) = variableUse pre c n ↔ '.' ∉ n.toList) ∧
      ('.' ∈ n.toList → tokens.resolve pre (c ++ "-" ++ n) = c ++ "-" ++ n) := by
  have hname := isTokenName_of_tokenIssues hn
  refine ⟨⟨fun h hd => ?_, resolve_undotted hc hname hv hx⟩, resolve_dotted hc hname⟩
  exact qualified_ne_variableUse hc hname ((resolve_dotted hc hname hd).symm.trans h)

/-- Spaces of which one is in a category that goes on with its name. -/
def spaces : Tokens := .ofList [
  ("space-x", .ofList [("4", .text "2rem")]),
  ("space", .ofList [("x-4", .text "1rem"), ("0.5", .text "0.125rem")])]

/-- The first category in which the reference is found is the other one; the property is the same. -/
theorem resolve_qualified_iff_spaces :
    IsIdentifier "space" ∧ spaces.at? "space" "x-4" = some (.text "1rem") ∧
      tokenIssues "space" "x-4" (.text "1rem") = [] ∧ (∀ d, spaces.at? d "space-x-4" = none) ∧
      spaces.resolve "acme" "space-x-4" = "var(--acme-space-x-4)" := by
  have hc : IsIdentifier "space" := ⟨'s', "pace".toList, rfl, rfl, List.all_eq_true.mp rfl⟩
  have hv : spaces.at? "space" "x-4" = some (.text "1rem") := by decide
  have hn : tokenIssues "space" "x-4" (.text "1rem") = [] := by decide
  have hx : ∀ d, spaces.at? d "space-x-4" = none := at?_eq_none rfl
  refine ⟨hc, hv, hn, hx, ?_⟩
  exact (resolve_qualified_iff hc hv (by simp [hn]) hx).1.mpr (by decide)

/-- A token with a dot in its name cannot be referred to by its category, though its name is admitted. -/
theorem dotted_name_kept : ¬ ∀ (tokens : Tokens) (pre c n : String) (v : Literal), IsIdentifier c →
    tokens.at? c n = some v → (∀ i ∈ tokenIssues c n v, i.code ≠ .invalidTokenName) →
      (∀ d, tokens.at? d (c ++ "-" ++ n) = none) →
        tokens.resolve pre (c ++ "-" ++ n) = variableUse pre c n := by
  intro h
  have hc : IsIdentifier "space" := ⟨'s', "pace".toList, rfl, rfl, List.all_eq_true.mp rfl⟩
  have hn : tokenIssues "space" "0.5" (.text "0.125rem") = [] := by decide
  have hr := h spaces "acme" "space" "0.5" (.text "0.125rem") hc (by decide) (by simp [hn])
    (at?_eq_none rfl)
  revert hr
  decide

end Tokens

end Stylebook
