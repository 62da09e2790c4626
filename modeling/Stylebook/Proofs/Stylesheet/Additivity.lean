import Stylebook.Proofs.Dict.Overlay
import Stylebook.Stylesheet.Compile

/-!
The rules of a component one by one. Base styles, flat mappings and conditional entries are all of one kind:
styles, and the property values that they are for. Each of these makes one rule if it has styles, so that there
are as many rules as parts that they come from, whatever values the properties may have.
-/

namespace Stylebook

open Text

/-- Styles, and the property values that a selector asks for. -/
structure Clause where
  pairs : List (String × String)
  styles : StyleMap

namespace ConditionalStyles

def pairs (e : ConditionalStyles) : List (String × String) :=
  (e.condition.mapValues Scalar.plain).entries

/-- Are there both conditions and styles? -/
def isStyled (e : ConditionalStyles) : Bool := !e.condition.isEmpty && !e.styles.isEmpty

end ConditionalStyles

namespace Mapping

/-- Is it a flat mapping with styles? -/
def isStyled : Mapping → Bool
  | flat styles => !styles.isEmpty
  | conditional _ => false

def conditionals : Mapping → List ConditionalStyles
  | flat _ => []
  | conditional entries => entries

def clauses (key : String) : Mapping → List Clause
  | flat styles => if styles.isEmpty then [] else [⟨mappingPairs key, styles⟩]
  | conditional entries => (entries.filter ConditionalStyles.isStyled).map fun e =>
      ⟨mappingPairs key ++ e.pairs, e.styles⟩

end Mapping

namespace Component

variable (c : Component) (tokens : Tokens) (pre : String)

def styledBase? : Option StyleMap := c.baseStyles.filter fun styles => !styles.isEmpty

/-- What there are rules for, in the order of declaration, the base styles first. -/
def clauses : List Clause :=
  c.styledBase?.toList.map (Clause.mk []) ++ c.mappings.entries.flatMap fun m => m.2.clauses m.1

/-- The rule for a clause. Values with branches see all pairs of the selector. -/
def clauseRule (clause : Clause) : Rule :=
  ⟨["." ++ c.baseClass pre ++ attributeSelectors clause.pairs],
    tokens.styleDeclarations pre (Dict.ofList clause.pairs) clause.styles⟩

/-- The class with one selector for each pair, and one declaration for each style. -/
def clauseText (clause : Clause) : String :=
  "." ++ pre ++ "-" ++ lower c.name ++
    String.join (clause.pairs.map fun e => "[data-" ++ kebab e.1 ++ "=\"" ++ e.2 ++ "\"]") ++ " \x7b\n" ++
    joinWith "\n" (clause.styles.entries.map fun e =>
      "  " ++ kebab e.1 ++ ": " ++ tokens.resolveStyle pre (Dict.ofList clause.pairs) e.2 ++ ";") ++ "\n\x7d"

section Origin

variable {c} {clause : Clause}

/-- A clause has styles, and they come from one of three places. -/
theorem clauses_cases (h : clause ∈ c.clauses) : clause.styles.isEmpty = false ∧
    ((c.baseStyles = some clause.styles ∧ clause.pairs = []) ∨
      (∃ key, (key, .flat clause.styles) ∈ c.mappings.entries ∧ clause.pairs = mappingPairs key) ∨
      ∃ key entries, (key, .conditional entries) ∈ c.mappings.entries ∧
        ∃ e ∈ entries, clause = ⟨mappingPairs key ++ e.pairs, e.styles⟩) := by
  obtain h | h := List.mem_append.mp h
  · obtain ⟨styles, hs, rfl⟩ := List.mem_map.mp h
    obtain ⟨hbase, hstyled⟩ := Option.filter_eq_some_iff.mp (Option.mem_toList.mp hs)
    exact ⟨by simpa using hstyled, .inl ⟨hbase, rfl⟩⟩
  · obtain ⟨⟨key, m⟩, hm, h⟩ := List.mem_flatMap.mp h
    cases m with
    | flat styles =>
      by_cases hs : styles.isEmpty = true
      · simp [Mapping.clauses, hs] at h
      · simp only [Mapping.clauses, if_neg hs] at h
        cases List.mem_singleton.mp h
        exact ⟨by simpa using hs, .inr (.inl ⟨key, hm, rfl⟩)⟩
    | conditional entries =>
      obtain ⟨e, he, rfl⟩ := List.mem_map.mp h
      obtain ⟨he, hstyled⟩ := List.mem_filter.mp he
      simp only [ConditionalStyles.isStyled, Bool.and_eq_true] at hstyled
      exact ⟨by simpa using hstyled.2, .inr (.inr ⟨key, entries, hm, e, he, rfl⟩)⟩

theorem styled_of_mem_clauses (h : clause ∈ c.clauses) : clause.styles.entries ≠ [] := by
  simpa [Dict.isEmpty] using (clauses_cases h).1

end Origin

section Rules

variable {c tokens pre}

theorem attributeSelectors_append (l m : List (String × String)) :
    attributeSelectors (l ++ m) = attributeSelectors l ++ attributeSelectors m := by
  simp [attributeSelectors]

theorem rule?_eq (pairs : List (String × String)) (styles : StyleMap) :
    tokens.rule? pre (Dict.ofList pairs) ("." ++ c.baseClass pre ++ attributeSelectors pairs) styles =
      if styles.isEmpty then none else some (c.clauseRule tokens pre ⟨pairs, styles⟩) := by
  rw [Tokens.rule?, clauseRule]

theorem baseRule?_eq : c.baseRule? tokens pre =
    c.styledBase?.map fun styles => c.clauseRule tokens pre ⟨[], styles⟩ := by
  have hrule (styles : StyleMap) : tokens.rule? pre ∅ ("." ++ c.baseClass pre) styles =
      if styles.isEmpty then none else some (c.clauseRule tokens pre ⟨[], styles⟩) := by
    have h := @rule?_eq c tokens pre [] styles
    rwa [attributeSelectors, List.map_nil, String.join_nil, String.append_empty] at h
  rw [baseRule?, styledBase?]
  cases c.baseStyles with
  | none => rfl
  | some styles =>
    rw [Option.bind_some, hrule, Option.filter_some]
    by_cases h : styles.isEmpty = true <;> simp [h]

/-- The conditions stand behind the pairs of the mapping key, in the selector and in what values see. -/
theorem conditionalRule?_eq (key : String) (e : ConditionalStyles) : c.conditionalRule? tokens pre key e =
    if e.isStyled then some (c.clauseRule tokens pre ⟨mappingPairs key ++ e.pairs, e.styles⟩) else none := by
  have hcontext : conditionalContext key e = Dict.ofList (mappingPairs key ++ e.pairs) :=
    Dict.eq_of_entries Pairs.setAll_append.symm
  have hselector : "." ++ c.mappingClass pre key ++ attributeSelectors e.pairs =
      "." ++ c.baseClass pre ++ attributeSelectors (mappingPairs key ++ e.pairs) := by
    rw [attributeSelectors_append, mappingClass]
    simp only [String.append_assoc]
  have hempty : (e.condition.mapValues Scalar.plain).isEmpty = e.condition.isEmpty := List.isEmpty_map
  have hrule := @rule?_eq c tokens pre (mappingPairs key ++ e.pairs) e.styles
  rw [← hcontext, ← hselector] at hrule
  simp only [conditionalRule?, hempty, ConditionalStyles.isStyled]
  by_cases hc : e.condition.isEmpty = true
  · simp [hc]
  · rw [if_neg hc]
    refine hrule.trans ?_
    by_cases hs : e.styles.isEmpty = true <;> simp [hc, hs]

theorem mappingRules_eq (key : String) (m : Mapping) :
    c.mappingRules tokens pre key m = (m.clauses key).map (c.clauseRule tokens pre) := by
  cases m with
  | flat styles =>
    have hselector : "." ++ c.mappingClass pre key =
        "." ++ c.baseClass pre ++ attributeSelectors (mappingPairs key) := (String.append_assoc ..).symm
    rw [mappingRules, hselector, rule?_eq, Mapping.clauses]
    by_cases h : styles.isEmpty = true <;> simp [h]
  | conditional entries =>
    rw [mappingRules, Mapping.clauses, List.map_map]
    induction entries with
    | nil => rfl
    | cons e entries ih =>
      rw [List.filterMap_cons, conditionalRule?_eq, ih, List.filter_cons]
      by_cases h : e.isStyled = true <;> simp [h]

/-- All rules are made alike, one for each clause. -/
theorem rules_eq : c.rules tokens pre = c.clauses.map (c.clauseRule tokens pre) := by
  rw [rules, clauses, List.map_append, baseRule?_eq, List.map_flatMap]
  simp only [mappingRules_eq]
  cases c.styledBase? <;> rfl

end Rules

section Count

theorem length_mappingClauses (key : String) (m : Mapping) : (m.clauses key).length =
    m.isStyled.toNat + m.conditionals.countP ConditionalStyles.isStyled := by
  cases m with
  | flat styles =>
    rw [Mapping.clauses]
    by_cases h : styles.isEmpty = true <;> simp [h, Mapping.isStyled, Mapping.conditionals]
  | conditional entries =>
    simp [Mapping.clauses, Mapping.isStyled, Mapping.conditionals, List.countP_eq_length_filter]

theorem length_clauses : c.clauses.length = c.styledBase?.toList.length +
    c.mappings.values.countP Mapping.isStyled +
      (c.mappings.values.flatMap Mapping.conditionals).countP ConditionalStyles.isStyled := by
  rw [clauses, List.length_append, List.length_map, Dict.values, Nat.add_assoc]
  congr 1
  induction c.mappings.entries with
  | nil => rfl
  | cons m l ih =>
    rw [List.flatMap_cons, List.length_append, length_mappingClauses, ih]
    simp only [List.map_cons, List.flatMap_cons, List.countP_cons, List.countP_append]
    cases m.2.isStyled <;> simp <;> omega

end Count

section Text

variable {c}

theorem joinWith_enclosed {sep first last : String} {l : List String} (h : l ≠ []) :
    joinWith sep (first :: l ++ [last]) = first ++ sep ++ joinWith sep l ++ sep ++ last := by
  have hl : l ++ [last] ≠ [] := by simp
  rw [joinWith, joinWith, List.cons_append, String.intercalate_cons_of_ne_nil hl,
    String.intercalate_append_of_ne_nil h (List.cons_ne_nil _ _), String.intercalate_singleton]
  simp only [String.append_assoc]

theorem text_clauseRule {clause : Clause} (h : clause.styles.entries ≠ []) :
    (c.clauseRule tokens pre clause).text = c.clauseText tokens pre clause := by
  have hselector : (c.clauseRule tokens pre clause).selector =
      "." ++ c.baseClass pre ++ attributeSelectors clause.pairs := by
    simp [Rule.selector, clauseRule, joinWith]
  have hlines : (c.clauseRule tokens pre clause).declarations.map (fun d => "" ++ "  " ++ d.text) =
      clause.styles.entries.map fun e =>
        "  " ++ kebab e.1 ++ ": " ++ tokens.resolveStyle pre (Dict.ofList clause.pairs) e.2 ++ ";" := by
    simp [clauseRule, Tokens.styleDeclarations, Declaration.text, Function.comp_def, String.append_assoc]
  rw [Rule.text, Rule.lines, hselector, hlines, joinWith_enclosed (by simpa using h), clauseText,
    attributeSelectors, baseClass]
  simp only [String.append_assoc, String.empty_append, attributeSelector]
  rfl

theorem rules_compile (s : DesignSystem) :
    (c.compile s).rules = c.clauses.map (c.clauseText s.tokens s.pre) := by
  simp only [compile, rules_eq, List.map_map]
  exact List.map_congr_left fun _ h => text_clauseRule _ _ (styled_of_mem_clauses h)

end Text

/-- A component has a rule for its base styles, for each flat mapping and for each conditional entry, if there
are styles, and conditions in the last case. Each rule has an attribute selector for each pair and a declaration
for each style. The properties and their values play no part in it, and whether the rules can be written is up
to the styles and conditions alone. -/
theorem compile_additive (s : DesignSystem) :
    (c.compile s).rules = c.clauses.map (c.clauseText s.tokens s.pre) ∧
    (c.compile s).rules.length = c.styledBase?.isSome.toNat +
      c.mappings.values.countP Mapping.isStyled +
      (c.mappings.values.flatMap Mapping.conditionals).countP ConditionalStyles.isStyled ∧
    (c.compile s).classes = (if c.styledBase?.isSome then [c.baseClass s.pre] else []) ++
      c.mappings.keys.map (c.mappingClass s.pre) ∧
    (c.compile s).css = joinWith "\n\n" (c.compile s).rules ∧
    (∀ properties, { c with properties := properties }.compile s = c.compile s) ∧
    (∀ properties, { c with properties := properties }.compiled s = c.compiled s) ∧
    ∀ styles, c.compiled s = .ok styles ↔ c.stylesWritable = true ∧ c.compile s = styles := by
  refine ⟨rules_compile s, ?_, ?_, rfl, fun _ => rfl, fun _ => rfl,
    fun _ => Unfit.guard_unlessShort_eq_ok_iff⟩
  · rw [rules_compile, List.length_map, length_clauses]
    cases c.styledBase? <;> rfl
  · rw [compile, classes, baseRule?_eq, Option.isSome_map, Dict.keys, Pairs.keys, List.map_map]
    rfl

end Component

end Stylebook
