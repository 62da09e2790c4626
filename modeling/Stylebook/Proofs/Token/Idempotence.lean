import Stylebook.Proofs.Token.Category
import Stylebook.Proofs.Token.WordByWord

/-!
Resolving what is resolved already. The use of a property is no identifier and, where names have no blanks
in them, not several words either, so it is not looked up again; a word that refers to no token refers to
none the next time.
-/

namespace Stylebook

open Text

namespace Text

/-- No character is a blank. -/
def IsUnbroken (s : String) : Prop := ∀ c ∈ s.toList, isBlank c = false

theorem isUnbroken_iff {s : String} : IsUnbroken s ↔ (s.toList.all fun c => !isBlank c) = true := by
  simp [IsUnbroken]

instance : DecidablePred IsUnbroken := fun _ => decidable_of_iff _ isUnbroken_iff.symm

theorem IsUnbroken.append {s t : String} (hs : IsUnbroken s) (ht : IsUnbroken t) : IsUnbroken (s ++ t) := by
  intro c hc
  rw [String.toList_append, List.mem_append] at hc
  exact hc.elim (hs c) (ht c)

end Text

namespace Tokens

/-- There are no blanks in the prefix, in categories and in names of tokens. -/
structure IsUnbroken (tokens : Tokens) (pre : String) : Prop where
  pre : Text.IsUnbroken pre
  categories : ∀ c ∈ tokens.keys, Text.IsUnbroken c
  names : ∀ c ∈ tokens.values, ∀ n ∈ c.keys, Text.IsUnbroken n

variable {tokens : Tokens} {pre p word c n : String} {v : Literal}

theorem IsUnbroken.variableUse (h : tokens.IsUnbroken pre) (hv : tokens.at? c n = some v) :
    Text.IsUnbroken (variableUse pre c n) := by
  obtain ⟨names, hc, hn⟩ := Option.bind_eq_some_iff.mp hv
  have hcategory := h.categories c (Dict.mem_keys_of_get? hc)
  have hname := h.names names (Dict.mem_values_of_get? hc) n (Dict.mem_keys_of_get? hn)
  have hdashes : Text.IsUnbroken "--" := by decide
  have hdash : Text.IsUnbroken "-" := by decide
  have hopening : Text.IsUnbroken "var(" := by decide
  have hclosing : Text.IsUnbroken ")" := by decide
  have hproperty := ((((hdashes.append h.pre).append hdash).append hcategory).append hdash).append hname
  exact (hopening.append hproperty).append hclosing

/-- The use of a property has parentheses, so it is no identifier. -/
theorem isIdentifier_variableUse : isIdentifier (variableUse pre c n) = false := by
  rw [← Bool.not_eq_true]
  intro hi
  have hm : '(' ∈ (variableUse pre c n).toList := by
    rw [toList_variableUse]
    simp
  exact not_mem_of_isIdentifier hi (by decide) (by decide) hm

theorem resolve_variableUse (h : Text.IsUnbroken (variableUse p c n)) :
    tokens.resolve pre (variableUse p c n) = variableUse p c n :=
  resolve_of_words_le_one isIdentifier_variableUse (length_words_le_one h)

/-- A word becomes a word that resolving leaves alone. -/
theorem IsUnbroken.resolve_word (h : tokens.IsUnbroken pre) (hne : word ≠ "")
    (hw : Text.IsUnbroken word) : tokens.resolve pre word ≠ "" ∧
      Text.IsUnbroken (tokens.resolve pre word) ∧
      tokens.resolve pre (tokens.resolve pre word) = tokens.resolve pre word := by
  rcases tokens.resolve_cases pre hw with hr | ⟨c, n, hn, hr⟩
  · rw [hr]
    exact ⟨hne, hw, hr⟩
  · obtain ⟨v, hv⟩ := hn.present
    have hu := h.variableUse hv
    have hempty : Stylebook.variableUse pre c n ≠ "" := by
      rw [← String.toList_inj.ne, toList_variableUse]
      simp
    rw [hr]
    exact ⟨hempty, hu, resolve_variableUse hu⟩

/-- The words of a value of several words are resolved one by one, and stay so many. -/
theorem IsUnbroken.words_resolve {value : String} (h : tokens.IsUnbroken pre)
    (hv : 1 < (words value).length) :
    words (tokens.resolve pre value) = (words value).map (tokens.resolve pre) := by
  rw [resolve_of_several_words hv]
  refine words_joinWith fun out hout => ?_
  obtain ⟨word, hword, rfl⟩ := List.mem_map.mp hout
  obtain ⟨hne, hu, -⟩ := h.resolve_word (ne_empty_of_mem_words hword) (nonblank_of_mem_words hword)
  exact ⟨hne, hu⟩

/-- Without blanks in names, the use of a token is not resolved again, nor broken into words, and resolving a
value twice is the same as resolving it once. -/
theorem resolve_resolve (h : tokens.IsUnbroken pre) :
    (∀ c n v, tokens.at? c n = some v →
      tokens.resolve pre (variableUse pre c n) = variableUse pre c n) ∧
    ∀ value,
      (1 < (words value).length →
        words (tokens.resolve pre value) = (words value).map (tokens.resolve pre)) ∧
      tokens.resolve pre (tokens.resolve pre value) = tokens.resolve pre value := by
  refine ⟨fun c n v hv => resolve_variableUse (h.variableUse hv), fun value =>
    ⟨h.words_resolve, ?_⟩⟩
  by_cases hv : 1 < (words value).length
  · have hwords := h.words_resolve hv
    have hlength : 1 < (words (tokens.resolve pre value)).length := by rwa [hwords, List.length_map]
    have hagain : ((words value).map (tokens.resolve pre)).map (tokens.resolve pre) =
        (words value).map (tokens.resolve pre) := by
      rw [List.map_map]
      refine List.map_congr_left fun word hword => ?_
      exact (h.resolve_word (ne_empty_of_mem_words hword) (nonblank_of_mem_words hword)).2.2
    rw [resolve_of_several_words hlength, hwords, hagain, resolve_of_several_words hv]
  · rcases resolve_of_few_words tokens pre (Nat.not_lt.mp hv) with hr | ⟨c, n, hn, hr⟩
    · rw [hr, hr]
    · obtain ⟨v, hp⟩ := hn.present
      rw [hr, resolve_variableUse (h.variableUse hp)]

/-- Inks with a category that goes on with a prefix, and one that holds nothing. -/
def washes : Tokens := .ofList [
  ("acme-ink", .ofList [("text", .text "navy")]),
  ("ink", .ofList [("var", .text "gray"), ("text", .text "black")]),
  ("paper", ∅)]

/-- Of five words two become uses, one of them of a token called `var`. -/
theorem resolve_resolve_washes :
    washes.IsUnbroken "acme" ∧
      washes.resolve "acme" " 0\t1px ink-text  none\nvar " =
        "0 1px var(--acme-ink-text) none var(--acme-ink-var)" ∧
      washes.resolve "acme" "0 1px var(--acme-ink-text) none var(--acme-ink-var)" =
        "0 1px var(--acme-ink-text) none var(--acme-ink-var)" := by
  have h : washes.IsUnbroken "acme" := by
    constructor <;> decide
  have hr : washes.resolve "acme" " 0\t1px ink-text  none\nvar " =
      "0 1px var(--acme-ink-text) none var(--acme-ink-var)" := by decide
  have hagain := ((resolve_resolve h).2 " 0\t1px ink-text  none\nvar ").2
  rw [hr] at hagain
  exact ⟨h, hr, hagain⟩

end Tokens

end Stylebook
