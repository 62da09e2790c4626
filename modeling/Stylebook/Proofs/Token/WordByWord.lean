import Stylebook.Proofs.Token.Resolution

/-!
Values of several words. Each word is resolved as a value of its own, whatever blanks stand around the
words; a single word with blanks around it is not resolved.
-/

namespace Stylebook

open Text

namespace Tokens

variable {tokens : Tokens} {pre value word c n : String}

/-- Without blanks in it, a value is looked at as a word. -/
theorem resolve_eq_resolveWord (h : ∀ c ∈ word.toList, isBlank c = false) :
    tokens.resolve pre word = tokens.resolveWord pre word := by
  cases hi : isIdentifier word with
  | true => rw [resolve, resolveWord, hi, if_pos rfl, if_pos rfl]
  | false =>
    rw [resolve_of_words_le_one hi (length_words_le_one h), resolveWord, hi, if_neg Bool.false_ne_true]

/-- A value of no more than one word is kept, or becomes the use of a token. -/
theorem resolve_of_few_words (tokens : Tokens) (pre : String)
    (hv : (words value).length ≤ 1) : tokens.resolve pre value = value ∨
      ∃ c n, tokens.Names value c n ∧ tokens.resolve pre value = variableUse pre c n := by
  cases hi : isIdentifier value with
  | true =>
    rw [resolve, hi, if_pos rfl]
    exact tokens.resolveName_cases pre value
  | false => exact .inl (resolve_of_words_le_one hi hv)

theorem resolve_cases (tokens : Tokens) (pre : String) (h : ∀ c ∈ word.toList, isBlank c = false) :
    tokens.resolve pre word = word ∨
      ∃ c n, tokens.Names word c n ∧ tokens.resolve pre word = variableUse pre c n :=
  tokens.resolve_of_few_words pre (length_words_le_one h)

/-- Of several words, each one is resolved as a value of its own. -/
theorem resolve_of_several_words (h : 1 < (words value).length) :
    tokens.resolve pre value = joinWith " " ((words value).map (tokens.resolve pre)) := by
  have hi : isIdentifier value = false := isIdentifier_eq_false (Nat.ne_of_gt h)
  rw [resolve, hi, if_neg Bool.false_ne_true]
  dsimp only
  rw [if_pos h]
  refine congrArg _ (List.map_congr_left fun w hw => ?_)
  rw [resolve_eq_resolveWord (nonblank_of_mem_words hw)]

/-- A single word with blanks around it is not resolved. Only with no more than a line end after it is it
looked up, and then for a token that has the line end in its name. -/
theorem resolve_of_single_word (tokens : Tokens) (pre : String) (hw : words value = [word])
    (hb : ∃ c ∈ value.toList, isBlank c = true) : tokens.resolve pre value = value ∨
      ∃ c n, value = word ++ "\n" ∧ tokens.Names value c n ∧
        tokens.resolve pre value = variableUse pre c n := by
  cases hi : isIdentifier value with
  | false => exact .inl (resolve_of_words_le_one hi (by rw [hw]; exact Nat.le_refl 1))
  | true =>
    rw [resolve, hi, if_pos rfl]
    obtain ⟨w, hw', hv⟩ := words_of_isIdentifier hi
    obtain rfl : w = word := by
      rw [hw] at hw'
      exact (List.cons.inj hw').1.symm
    rcases tokens.resolveName_cases pre value with hr | ⟨c, n, hn, hr⟩
    · exact .inl hr
    · exact .inr ⟨c, n, hv.resolve_left (ne_of_words_singleton hw hb), hn, hr⟩

/-- A word does not become the value that it stands in with blanks around it. -/
theorem resolve_ne_of_padded (hw : words value = [word]) (hb : ∃ c ∈ value.toList, isBlank c = true) :
    tokens.resolve pre word ≠ value := by
  have hword : ∀ c ∈ word.toList, isBlank c = false := nonblank_of_mem_words (hw ▸ List.mem_cons_self)
  have hne : value ≠ word := ne_of_words_singleton hw hb
  rcases tokens.resolve_cases pre hword with hr | ⟨c, n, -, hr⟩
  · rw [hr]
    exact hne.symm
  · rw [hr]
    intro hv
    -- the use of a property neither starts nor ends with a blank
    refine hne (eq_of_words_singleton hw ?_ ?_) <;> rw [← hv, toList_variableUse]
    · intro d hd
      cases hd
      decide
    · intro d hd
      rw [List.getLast?_concat] at hd
      cases hd
      decide

/-- Nor does it become the use of a token that has the line end in its name. -/
theorem resolve_ne_of_line_end (hw : words value = [word]) (hn : tokens.Names (word ++ "\n") c n) :
    tokens.resolve pre word ≠ variableUse pre c n := by
  have hword : ∀ c ∈ word.toList, isBlank c = false := nonblank_of_mem_words (hw ▸ List.mem_cons_self)
  have hne : word ≠ "" := ne_empty_of_words_singleton hw
  obtain ⟨front, hfront⟩ := hn.exists_append
  have hend : '\n' ∈ (variableUse pre c n).toList := by
    rw [toList_variableUse, hfront]
    simp
  rcases tokens.resolve_cases pre hword with hr | ⟨c', n', hn', hr⟩ <;> rw [hr] <;> intro he
  · have hblank := hword '\n' (he ▸ hend)
    cases hblank
  · obtain ⟨front', hfront'⟩ := hn'.exists_append
    rw [variableUse_eq_iff, hfront, hfront'] at he
    -- one ends with a line end, the other with a character of the word
    have hlast := congrArg (fun s => s.toList.getLast?) he
    rw [String.toList_append, String.toList_append, String.toList_append,
      List.getLast?_append_of_ne_nil _ (mt String.toList_eq_nil_iff.mp hne)] at hlast
    have hmem : '\n' ∈ word.toList := by
      refine List.mem_of_getLast? (hlast.trans ?_)
      simp
    exact absurd (hword '\n' hmem) (by decide)

/-- A value with blanks in it is resolved word by word exactly if it has several words. A single word with
blanks around it is kept as it stands, unless no more than a line end follows it and a token has the line
end in its name. -/
theorem resolve_wordwise_iff (tokens : Tokens) (pre : String) {value : String}
    (hb : ∃ c ∈ value.toList, isBlank c = true) :
    (tokens.resolve pre value = joinWith " " ((words value).map (tokens.resolve pre)) ↔
      1 < (words value).length) ∧
    ∀ word, words value = [word] → tokens.resolve pre value = value ∨
      ∃ c n, value = word ++ "\n" ∧ tokens.Names value c n ∧
        tokens.resolve pre value = variableUse pre c n := by
  refine ⟨⟨fun h => ?_, resolve_of_several_words⟩, fun word hw => tokens.resolve_of_single_word pre hw hb⟩
  match hw : words value with
  | [] =>
    rw [hw, resolve_of_words_le_one (isIdentifier_eq_false (by simp [hw])) (by simp [hw])] at h
    obtain ⟨c, hc, -⟩ := hb
    rw [h] at hc
    cases hc
  | [word] =>
    rw [hw, List.map_singleton, joinWith, String.intercalate_singleton] at h
    rcases tokens.resolve_of_single_word pre hw hb with hv | ⟨c, n, hv, hn, hr⟩
    · exact absurd (h.symm.trans hv) (resolve_ne_of_padded hw hb)
    · exact absurd (h.symm.trans hr) (resolve_ne_of_line_end hw (hv ▸ hn))
  | _ :: _ :: rest => exact Nat.one_lt_succ_succ rest.length

def inks : Tokens := .ofList [("ink", .ofList [("text", .text "black")])]

/-- A border of three words, the last one a token. -/
theorem resolve_wordwise_iff_border :
    (∃ c ∈ " 1px\tsolid ink-text\n".toList, isBlank c = true) ∧
      words " 1px\tsolid ink-text\n" = ["1px", "solid", "ink-text"] ∧
      inks.resolve "acme" " 1px\tsolid ink-text\n" = "1px solid var(--acme-ink-text)" := by
  have hb : ∃ c ∈ " 1px\tsolid ink-text\n".toList, isBlank c = true := ⟨' ', by decide, by decide⟩
  have hw : words " 1px\tsolid ink-text\n" = ["1px", "solid", "ink-text"] := by decide
  have hr := (inks.resolve_wordwise_iff "acme" hb).1.mpr (by rw [hw]; decide)
  refine ⟨hb, hw, hr.trans ?_⟩
  rw [hw]
  decide

/-- A token with a blank before it is not resolved, where without the blank it is. -/
theorem padded_word_kept : ¬ ∀ (tokens : Tokens) (pre value : String),
    (∃ c ∈ value.toList, isBlank c = false) → (∃ c ∈ value.toList, isBlank c = true) →
      tokens.resolve pre value = joinWith " " ((words value).map (tokens.resolve pre)) := by
  intro h
  have hr := h inks "acme" " ink-text" ⟨'i', by decide, by decide⟩ ⟨' ', by decide, by decide⟩
  revert hr
  decide

end Tokens

end Stylebook
