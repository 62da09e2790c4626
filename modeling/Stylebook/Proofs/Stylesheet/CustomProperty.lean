import Mathlib.Data.List.Nodup
import Stylebook.Proofs.Stylesheet.Reference

/-!
Custom properties of tokens. A block has one line for each token, but two tokens may come to one property:
its name does not say which of its hyphens stands between category and name. That happens exactly if one
category goes on with a hyphen and the start of a name in the other.
-/

namespace Stylebook

section Hyphen

/-- A hyphen between two parts may be taken for another one only where one part goes on to the other. -/
theorem split_at_hyphen {s t u v : List Char} (h : s ++ '-' :: t = u ++ '-' :: v) :
    (s = u ∧ t = v) ∨ (∃ x, u = s ++ '-' :: x ∧ t = x ++ '-' :: v) ∨
      ∃ x, s = u ++ '-' :: x ∧ v = x ++ '-' :: t := by
  obtain ⟨x, hu, ht⟩ | ⟨x, hs, hv⟩ := List.append_eq_append_iff.mp h
  · cases x with
    | nil => exact .inl ⟨by simpa using hu.symm, by simpa using ht⟩
    | cons d x =>
      obtain ⟨rfl, hrest⟩ := List.cons.inj ht
      exact .inr (.inl ⟨x, hu, hrest⟩)
  · cases x with
    | nil => exact .inl ⟨by simpa using hs, by simpa using hv.symm⟩
    | cons d x =>
      obtain ⟨rfl, hrest⟩ := List.cons.inj hv
      exact .inr (.inr ⟨x, hs, hrest⟩)

theorem hyphened_cases {c n c' n' : String} (h : c ++ "-" ++ n = c' ++ "-" ++ n') :
    (c = c' ∧ n = n') ∨ (∃ x, c' = c ++ "-" ++ x ∧ n = x ++ "-" ++ n') ∨
      ∃ x, c = c' ++ "-" ++ x ∧ n' = x ++ "-" ++ n := by
  have hlist : c.toList ++ '-' :: n.toList = c'.toList ++ '-' :: n'.toList := by
    simpa using congrArg String.toList h
  obtain ⟨hc, hn⟩ | ⟨x, hc, hn⟩ | ⟨x, hc, hn⟩ := split_at_hyphen hlist
  · exact .inl ⟨String.toList_inj.mp hc, String.toList_inj.mp hn⟩
  · refine .inr (.inl ⟨.ofList x, ?_, ?_⟩) <;> apply String.toList_inj.mp <;> simp [hc, hn]
  · refine .inr (.inr ⟨.ofList x, ?_, ?_⟩) <;> apply String.toList_inj.mp <;> simp [hc, hn]

end Hyphen

/-- What is made of the entries of a map is all different if it is for each of them, and tells their names. -/
theorem Dict.nodup_flatMap {α β : Type} {d : Dict α} {f : String × α → List β}
    (hf : ∀ e ∈ d.entries, (f e).Nodup) (hname : ∀ e e' b, b ∈ f e → b ∈ f e' → e.1 = e'.1) :
    (d.entries.flatMap f).Nodup := by
  refine List.nodup_flatMap.mpr ⟨hf, (List.pairwise_map.mp d.nodup).imp ?_⟩
  intro e e' hne b hb hb'
  exact hne (hname e e' b hb hb')

/-- The value that a property has in a rule: of several declarations the last one counts. -/
def Rule.valueOf? (r : Rule) (property : String) : Option String :=
  (r.declarations.reverse.find? fun d => d.property == property).map Declaration.value

namespace Tokens

variable {tokens : Tokens} {pre c n x : String} {v w : Literal}

/-- Two tokens with one property between them: a category, and the same with more behind a hyphen. -/
structure Clash (c x n : String) (v w : Literal) : Prop where
  short : tokens.at? c (x ++ "-" ++ n) = some v
  long : tokens.at? (c ++ "-" ++ x) n = some w

theorem nodup_all (tokens : Tokens) : tokens.all.Nodup := by
  refine Dict.nodup_flatMap (fun e _ => ?_) ?_
  · apply (List.Nodup.of_map _ e.2.nodup).map
    intro s t hst
    simpa [Prod.ext_iff] using hst
  · intro d e t hd he
    obtain ⟨_, _, rfl⟩ := List.mem_map.mp hd
    obtain ⟨_, _, heq⟩ := List.mem_map.mp he
    exact (congrArg Prod.fst heq).symm

theorem variableName_eq_iff {c' n' : String} :
    variableName pre c n = variableName pre c' n' ↔ c ++ "-" ++ n = c' ++ "-" ++ n' := by
  have h := @variableUse_eq_iff pre c n c' n'
  simpa [variableUse] using h

theorem variableName_long (pre c x n : String) :
    variableName pre (c ++ "-" ++ x) n = variableName pre c (x ++ "-" ++ n) := by
  rw [variableName_eq_iff]
  simp [String.append_assoc]

/-- Tokens of one property are one token, or clash one way or the other. -/
theorem clash_of_variableName_eq {c' n' : String} (hv : tokens.at? c n = some v)
    (hw : tokens.at? c' n' = some w) (h : variableName pre c n = variableName pre c' n') :
    (c = c' ∧ n = n' ∧ v = w) ∨ (∃ c x n, tokens.Clash c x n v w) ∨ ∃ c x n, tokens.Clash c x n w v := by
  obtain ⟨rfl, rfl⟩ | ⟨x, rfl, rfl⟩ | ⟨x, rfl, rfl⟩ := hyphened_cases (variableName_eq_iff.mp h)
  · exact .inl ⟨rfl, rfl, Option.some.inj (hv.symm.trans hw)⟩
  · exact .inr (.inl ⟨c, x, n', hv, hw⟩)
  · exact .inr (.inr ⟨c', x, n, hw, hv⟩)

theorem map_property_declarations (tokens : Tokens) (pre : String) :
    (tokens.declarations pre).map Declaration.property =
      tokens.all.map fun t => variableName pre t.1 t.2.1 := by
  rw [declarations, List.map_map]
  rfl

theorem nodup_properties_iff (tokens : Tokens) (pre : String) :
    ((tokens.declarations pre).map Declaration.property).Nodup ↔
      ∀ c x n v w, ¬ tokens.Clash c x n v w := by
  rw [map_property_declarations, List.nodup_map_iff_inj_on tokens.nodup_all]
  constructor
  · intro h c x n v w hclash
    have he := h _ (mem_all_iff.mpr hclash.short) _ (mem_all_iff.mpr hclash.long)
      (variableName_long pre c x n).symm
    have hlen := congrArg (fun t => t.1.length) he
    simp only [String.length_append] at hlen
    have hone : "-".length = 1 := rfl
    omega
  · intro h s hs t ht he
    obtain ⟨hc, hn, hv⟩ | ⟨c, x, n, hclash⟩ | ⟨c, x, n, hclash⟩ :=
      clash_of_variableName_eq (mem_all_iff.mp hs) (mem_all_iff.mp ht) he
    · exact Prod.ext hc (Prod.ext hn hv)
    · exact absurd hclash (h c x n _ _)
    · exact absurd hclash (h c x n _ _)

/-- The value of a token's property is that of a token with this property. -/
theorem exists_valueOf? (pre : String) (h : tokens.at? c n = some v) : ∃ c' n' w, tokens.at? c' n' = some w ∧
    variableName pre c' n' = variableName pre c n ∧
      (tokens.rootRule pre).valueOf? (variableName pre c n) = some w.shown := by
  have hsome : ((tokens.declarations pre).reverse.find? fun d =>
      d.property == variableName pre c n).isSome = true := by
    rw [List.find?_isSome]
    exact ⟨_, List.mem_reverse.mpr (List.mem_map.mpr ⟨_, mem_all_iff.mpr h, rfl⟩), by simp⟩
  obtain ⟨d, hd⟩ := Option.isSome_iff_exists.mp hsome
  have hname : d.property = variableName pre c n := by simpa using List.find?_some hd
  obtain ⟨t, ht, rfl⟩ := List.mem_map.mp (List.mem_reverse.mp (List.mem_of_find?_eq_some hd))
  refine ⟨t.1, t.2.1, t.2.2, mem_all_iff.mp ht, hname, ?_⟩
  rw [Rule.valueOf?, rootRule, hd]
  rfl

/-- Every token has its value unless a clash gives it another one. -/
theorem valueOf?_iff (tokens : Tokens) (pre : String) :
    (∀ c n v, tokens.at? c n = some v →
      (tokens.rootRule pre).valueOf? (variableName pre c n) = some v.shown) ↔
      ∀ c x n v w, tokens.Clash c x n v w → v.shown = w.shown := by
  constructor
  · intro h c x n v w hclash
    have hv := h _ _ _ hclash.short
    rw [← variableName_long, h _ _ _ hclash.long] at hv
    exact (Option.some.inj hv).symm
  · intro h c n v hv
    obtain ⟨c', n', w, hw, hname, hvalue⟩ := exists_valueOf? pre hv
    rw [hvalue]
    obtain ⟨-, -, rfl⟩ | ⟨c, x, n, hclash⟩ | ⟨c, x, n, hclash⟩ := clash_of_variableName_eq hw hv hname
    · rfl
    · rw [h c x n _ _ hclash]
    · rw [h c x n _ _ hclash]

/-- A block has one line for each token, and can be given as soon as all values can be written. The properties are
all different exactly if no two tokens clash, and all tokens have their values in it exactly if those that clash
have the same. -/
theorem properties_distinct_iff (tokens : Tokens) (pre : String) :
    (tokens.rootRule pre).lines "" =
      ":root \x7b" :: (tokens.all.map fun t =>
        "  " ++ variableName pre t.1 t.2.1 ++ ": " ++ t.2.2.shown ++ ";") ++ ["\x7d"] ∧
    (∀ text, tokens.rootBlock pre = .ok text ↔
      (∀ c n v, tokens.at? c n = some v → v.isWritable = true) ∧ (tokens.rootRule pre).text = text) ∧
    (((tokens.rootRule pre).declarations.map Declaration.property).Nodup ↔
      ∀ c x n v w, ¬ tokens.Clash c x n v w) ∧
    ((∀ c n v, tokens.at? c n = some v →
      (tokens.rootRule pre).valueOf? (variableName pre c n) = some v.shown) ↔
      ∀ c x n v w, tokens.Clash c x n v w → v.shown = w.shown) := by
  refine ⟨?_, tokens.rootBlock_eq_ok_iff pre, tokens.nodup_properties_iff pre, tokens.valueOf?_iff pre⟩
  have hselector : (tokens.rootRule pre).selector = ":root" :=
    String.intercalate_singleton (s := ",\n") (t := ":root")
  rw [Rule.lines, hselector, rootRule, declarations, List.map_map]
  simp [Function.comp_def, Declaration.text, String.append_assoc]

/-- Colours of a text on the brand's ground, and of a text on any ground of the brand's colours. -/
def grounds : Tokens := .ofList [
  ("color", .ofList [("brand-text", .text "black")]), ("color-brand", .ofList [("text", .text "white")])]

theorem properties_repeated : ¬ ∀ (tokens : Tokens) (pre : String),
    ((tokens.rootRule pre).declarations.map Declaration.property).Nodup := by
  intro h
  have hg := h grounds "intent"
  revert hg
  decide

example : (grounds.rootRule "intent").valueOf? "--intent-color-brand-text" = some "white" := by decide

end Tokens

end Stylebook
