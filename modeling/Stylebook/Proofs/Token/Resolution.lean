import Mathlib.Data.List.Forall2
import Stylebook.Proofs.Dict.Overlay
import Stylebook.Proofs.Text.Words
import Stylebook.Token

/-!
What style values refer to. A reference is to a token that is there, and words that refer to none
stay as they are.
-/

namespace Stylebook

theorem Dict.exists_at? {α : Type} {d : Dict (Dict α)} {e : String × Dict α} {k : String}
    (he : e ∈ d.entries) (hk : e.2.contains k = true) : ∃ v, d.at? e.1 k = some v := by
  rw [Dict.at?, Dict.get?_eq_some_iff.mpr he, Option.bind_some]
  exact Option.isSome_iff_exists.mp hk

theorem eq_append_of_afterStart? {start word name : String} (h : afterStart? start word = some name) :
    word = start ++ name := by
  rw [afterStart?] at h
  split at h
  · rename_i hp
    obtain ⟨t, ht⟩ := List.isPrefixOf_iff_prefix.mp hp
    cases h
    rw [← ht, List.drop_left, ← String.toList_inj, String.toList_append, String.toList_ofList, ht]
  · cases h

theorem toList_variableUse (pre c n : String) : (variableUse pre c n).toList =
    "var(--".toList ++ pre.toList ++ '-' :: (c ++ "-" ++ n).toList ++ [')'] := by
  simp [variableUse, variableName]

/-- A use tells the token's name with its category in front. -/
theorem variableUse_eq_iff {pre c n c' n' : String} :
    variableUse pre c n = variableUse pre c' n' ↔ c ++ "-" ++ n = c' ++ "-" ++ n' := by
  rw [← String.toList_inj, toList_variableUse, toList_variableUse, List.append_cancel_right_eq,
    List.append_cancel_left_eq, List.cons_inj_right, String.toList_inj]

/-- A word that is no keyword names a token, alone or with its category in front. -/
structure Tokens.Names (tokens : Tokens) (word category name : String) : Prop where
  not_keyword : word ∉ keywords
  present : ∃ v, tokens.at? category name = some v
  spelled : name = word ∨ word = category ++ "-" ++ name

/-- A word of a value is kept, or becomes the use of a token's custom property. A keyword does so only
where it is all of the value but a line end, and then for a token that has the line end in its name. -/
def Tokens.Rewrites (tokens : Tokens) (pre value word out : String) : Prop :=
  out = word ∨ ∃ c n v, tokens.at? c n = some v ∧ out = variableUse pre c n ∧
    (word ∈ keywords → value = word ++ "\n" ∧ n = word ++ "\n")

/-- A value is kept, or its words are rewritten one by one. -/
def Tokens.Resolves (tokens : Tokens) (pre value out : String) : Prop :=
  out = value ∨ ∃ outs, List.Forall₂ (tokens.Rewrites pre value) (Text.words value) outs ∧
    out = Text.joinWith " " outs

namespace Tokens

variable {tokens : Tokens} {pre word value c n : String}

theorem names_of_find? (h : tokens.find? word = some (c, n)) : tokens.Names word c n := by
  rw [find?] at h
  split at h
  · cases h
  · rename_i hk
    have hk : word ∉ keywords := by simpa using hk
    cases he : tokens.findExact? word with
    | some e =>
      rw [he] at h
      cases h
      obtain ⟨e, hf, hn⟩ := Option.map_eq_some_iff.mp he
      cases hn
      have hc : e.2.contains word = true := by simpa using List.find?_some hf
      exact ⟨hk, Dict.exists_at? (List.mem_of_find?_eq_some hf) hc, .inl rfl⟩
    | none =>
      rw [he] at h
      obtain ⟨e, hm, hf⟩ := List.exists_of_findSome?_eq_some h
      split at hf
      · rename_i name hs
        split at hf
        · rename_i hc
          cases hf
          exact ⟨hk, Dict.exists_at? hm hc, .inr (eq_append_of_afterStart? hs)⟩
        · cases hf
      · cases hf

/-- What names a token ends the token's name with its category in front. -/
theorem Names.exists_append (h : tokens.Names word c n) : ∃ front, c ++ "-" ++ n = front ++ word := by
  rcases h.spelled with rfl | hw
  · exact ⟨c ++ "-", rfl⟩
  · exact ⟨"", by rw [hw, String.empty_append]⟩

theorem resolveName_cases (tokens : Tokens) (pre word : String) :
    tokens.resolveName pre word = word ∨
      ∃ c n, tokens.Names word c n ∧ tokens.resolveName pre word = variableUse pre c n := by
  rw [resolveName]
  cases h : tokens.find? word with
  | none => exact .inl rfl
  | some e => exact .inr ⟨e.1, e.2, names_of_find? h, rfl⟩

theorem rewrites_resolveWord (tokens : Tokens) (pre value word : String) :
    tokens.Rewrites pre value word (tokens.resolveWord pre word) := by
  rw [resolveWord]
  split
  · rcases tokens.resolveName_cases pre word with h | ⟨c, n, hn, h⟩
    · exact .inl h
    · obtain ⟨v, hv⟩ := hn.present
      exact .inr ⟨c, n, v, hv, h, fun hk => absurd hk hn.not_keyword⟩
  · exact .inl rfl

/-- A keyword with a line end after it has no hyphen, so what it names is a token of this very name. -/
theorem Names.name_eq (h : tokens.Names (word ++ "\n") c n) (hk : word ∈ keywords) :
    n = word ++ "\n" := by
  rcases h.spelled with hn | hn
  · exact hn
  · have hh : ∀ k ∈ keywords, '-' ∉ (k ++ "\n").toList := by decide
    refine absurd ?_ (hh word hk)
    rw [hn]
    simp

theorem rewrites_resolveName (hv : value = word ∨ value = word ++ "\n") (hn : tokens.Names value c n) :
    tokens.Rewrites pre value word (variableUse pre c n) := by
  obtain ⟨v, hp⟩ := hn.present
  refine .inr ⟨c, n, v, hp, rfl, fun hk => ?_⟩
  rcases hv with rfl | rfl
  · exact absurd hk hn.not_keyword
  · exact ⟨rfl, hn.name_eq hk⟩

theorem resolve_of_words_le_one (hi : Text.isIdentifier value = false)
    (hw : (Text.words value).length ≤ 1) : tokens.resolve pre value = value := by
  rw [resolve, hi, if_neg Bool.false_ne_true]
  exact if_neg (Nat.not_lt.mpr hw)

theorem resolves_resolve (tokens : Tokens) (pre value : String) :
    tokens.Resolves pre value (tokens.resolve pre value) := by
  rw [resolve]
  split
  · rename_i hi
    rcases tokens.resolveName_cases pre value with h | ⟨c, n, hn, h⟩
    · exact .inl h
    · obtain ⟨w, hw, hv⟩ := Text.words_of_isIdentifier hi
      -- the lookup was for all of the value, its word stands before the line end
      refine .inr ⟨[variableUse pre c n], ?_, ?_⟩
      · rw [hw]
        exact .cons (rewrites_resolveName hv hn) .nil
      · rw [h, Text.joinWith, String.intercalate_singleton]
  · dsimp only
    split
    · refine .inr ⟨_, ?_, rfl⟩
      rw [List.forall₂_map_right_iff, List.forall₂_same]
      exact fun w _ => tokens.rewrites_resolveWord pre value w
    · exact .inl rfl

end Tokens

end Stylebook
