import Stylebook.Proofs.Stylesheet.Additivity
import Stylebook.Proofs.Token.Resolution

/-!
References in stylesheets. All values of component rules are styles of the component with their
references resolved, and the first block of the sheet declares every token that can be referred to.
-/

namespace Stylebook

/-- The literals that a style value may come to. -/
inductive StyleValue.Offers : StyleValue → Literal → Prop
  | literal (l : Literal) : Offers (.literal l) l
  | branch {d : Dict Literal} {k : String} {l : Literal} (h : (k, l) ∈ d.entries) :
      Offers (.branches d) l

inductive Component.HasStyles (c : Component) : StyleMap → Prop
  | base {styles : StyleMap} (h : c.baseStyles = some styles) : HasStyles c styles
  | flat {key : String} {styles : StyleMap} (h : (key, .flat styles) ∈ c.mappings.entries) :
      HasStyles c styles
  | conditional {key : String} {entries : List ConditionalStyles} {entry : ConditionalStyles}
      (h : (key, .conditional entries) ∈ c.mappings.entries) (he : entry ∈ entries) :
      HasStyles c entry.styles

/-- The value is empty if the style offers nothing, and else one of its literals, resolved. -/
def Tokens.ComesFrom (tokens : Tokens) (pre : String) (v : StyleValue) (out : String) : Prop :=
  (out = "" ∧ ∀ l, ¬ v.Offers l) ∨ ∃ l, v.Offers l ∧ out = tokens.resolve pre l.plain

namespace Tokens

variable {tokens : Tokens} {pre c n : String} {v : Literal}

theorem mem_all_iff : (c, n, v) ∈ tokens.all ↔ tokens.at? c n = some v := by
  constructor
  · intro h
    obtain ⟨e, he, hm⟩ := List.mem_flatMap.mp h
    obtain ⟨t, ht, heq⟩ := List.mem_map.mp hm
    cases heq
    rw [Dict.at?, Dict.get?_eq_some_iff.mpr he]
    exact Dict.get?_eq_some_iff.mpr ht
  · intro h
    obtain ⟨e, hc, hn⟩ := Option.bind_eq_some_iff.mp h
    refine List.mem_flatMap.mpr ⟨(c, e), Dict.get?_eq_some_iff.mp hc, ?_⟩
    exact List.mem_map.mpr ⟨(n, v), Dict.get?_eq_some_iff.mp hn, rfl⟩

theorem areWritable_iff (tokens : Tokens) :
    tokens.areWritable = true ↔ ∀ c n v, tokens.at? c n = some v → v.isWritable = true := by
  rw [areWritable, List.all_eq_true]
  exact ⟨fun h c n v hv => h _ (mem_all_iff.mpr hv), fun h t ht => h _ _ _ (mem_all_iff.mp ht)⟩

theorem rootBlock_eq_ok_iff (tokens : Tokens) (pre text : String) : tokens.rootBlock pre = .ok text ↔
    (∀ c n v, tokens.at? c n = some v → v.isWritable = true) ∧ (tokens.rootRule pre).text = text := by
  rw [rootBlock, Unfit.guard_unlessShort_eq_ok_iff, areWritable_iff]

theorem mem_lines_rootRule (h : tokens.at? c n = some v) :
    "  " ++ Declaration.text ⟨variableName pre c n, v.shown⟩ ∈ (tokens.rootRule pre).lines "" := by
  have hd : ⟨variableName pre c n, v.shown⟩ ∈ (tokens.rootRule pre).declarations :=
    List.mem_map.mpr ⟨(c, n, v), mem_all_iff.mpr h, rfl⟩
  rw [Rule.lines, List.cons_append]
  refine List.mem_cons_of_mem _ (List.mem_append_left _ (List.mem_map.mpr ⟨_, hd, ?_⟩))
  simp

theorem branchFor?_cases (context : Context) (d : Dict Literal) :
    (branchFor? context d = none ∧ d.entries = []) ∨
      ∃ k l, branchFor? context d = some l ∧ (k, l) ∈ d.entries := by
  rw [branchFor?]
  cases hf : d.entries.find? fun b => context.selects b.1 with
  | some e => exact .inr ⟨e.1, e.2, rfl, List.mem_of_find?_eq_some hf⟩
  | none =>
    cases hd : d.entries with
    | nil => exact .inl ⟨rfl, rfl⟩
    | cons e rest => exact .inr ⟨e.1, e.2, rfl, List.mem_cons_self⟩

theorem comesFrom_resolveStyle (tokens : Tokens) (pre : String) (context : Context) (v : StyleValue) :
    tokens.ComesFrom pre v (tokens.resolveStyle pre context v) := by
  cases v with
  | literal l => exact .inr ⟨l, .literal l, rfl⟩
  | branches d =>
    rw [resolveStyle, StyleValue.literal?]
    rcases branchFor?_cases context d with ⟨hb, hd⟩ | ⟨k, l, hb, hm⟩
    · rw [hb]
      refine .inl ⟨rfl, fun l ho => ?_⟩
      cases ho with
      | branch h => rw [hd] at h; cases h
    · rw [hb]
      exact .inr ⟨l, .branch hm, rfl⟩

/-- The declarations of a rule are its styles one by one. -/
theorem declarations_of_rule? {context : Context} {selector : String} {styles : StyleMap} {r : Rule}
    (h : tokens.rule? pre context selector styles = some r) :
    List.Forall₂ (fun e d => d.property = kebab e.1 ∧ tokens.ComesFrom pre e.2 d.value)
      styles.entries r.declarations := by
  rw [rule?] at h
  split at h
  · cases h
  · cases h
    rw [styleDeclarations, List.forall₂_map_right_iff, List.forall₂_same]
    exact fun e _ => ⟨rfl, tokens.comesFrom_resolveStyle pre context e.2⟩

end Tokens

namespace Component

variable {c : Component} {tokens : Tokens} {pre : String} {r : Rule}

theorem hasStyles_of_mem_clauses {clause : Clause} (h : clause ∈ c.clauses) : c.HasStyles clause.styles := by
  obtain ⟨hbase, -⟩ | ⟨key, hm, -⟩ | ⟨key, entries, hm, e, he, rfl⟩ := (clauses_cases h).2
  · exact .base hbase
  · exact .flat hm
  · exact .conditional hm he

theorem exists_styles_of_mem_rules (h : r ∈ c.rules tokens pre) :
    ∃ styles, c.HasStyles styles ∧
      ∃ context selector, tokens.rule? pre context selector styles = some r := by
  rw [rules_eq] at h
  obtain ⟨clause, hc, rfl⟩ := List.mem_map.mp h
  have hrule := @rule?_eq c tokens pre clause.pairs clause.styles
  rw [(clauses_cases hc).1] at hrule
  exact ⟨clause.styles, hasStyles_of_mem_clauses hc, _, _, hrule⟩

end Component

theorem Sheet.exists_text_of_root {sheet : Sheet} {b : Block} (h : sheet.root = some b) :
    ∃ before after, sheet.text = before ++ b.text ++ after := by
  rw [text]
  refine Text.exists_joinWith ?_
  rw [parts, h]
  simp

theorem DesignSystem.root_sheet {s : DesignSystem} (h : s.settings.cssVariables = true) :
    s.sheet.root = some (.rule (s.tokens.rootRule s.pre)) := by
  unfold sheet
  exact if_pos h

theorem DesignSystem.css_false (s : DesignSystem) : s.css false = s.sheet.text := by
  rw [css, if_neg Bool.false_ne_true]

/-- A value stays as it is, or its words become uses of custom properties of tokens that are there. The
first block of a sheet declares every such property with the value of its token, and the values of all
component rules are resolved styles. Block and sheet come to an end if what they show can be written. -/
theorem Tokens.references_declared (tokens : Tokens) (pre : String) :
    (∀ value, tokens.Resolves pre value (tokens.resolve pre value)) ∧
    (∀ c n v, tokens.at? c n = some v →
      "  " ++ Declaration.text ⟨variableName pre c n, v.shown⟩ ∈ (tokens.rootRule pre).lines "") ∧
    (∀ text, tokens.rootBlock pre = .ok text ↔
      (∀ c n v, tokens.at? c n = some v → v.isWritable = true) ∧ (tokens.rootRule pre).text = text) ∧
    ∀ s : DesignSystem, s.tokens = tokens → s.pre = pre → s.settings.cssVariables = true →
      s.sheet.root = some (.rule (tokens.rootRule pre)) ∧
      (∃ before after, s.css false = before ++ (tokens.rootRule pre).text ++ after) ∧
      (∀ css, s.stylesheet false = .ok css ↔ s.sheetWritable = true ∧ s.css false = css) ∧
      ∀ e ∈ s.sheet.components, ∃ c, s.components.get? e.1 = some c ∧
        ∀ r ∈ e.2, ∃ styles, c.HasStyles styles ∧
          List.Forall₂ (fun e d => d.property = kebab e.1 ∧ tokens.ComesFrom pre e.2 d.value)
            styles.entries r.declarations := by
  refine ⟨tokens.resolves_resolve pre, fun c n v h => mem_lines_rootRule h, tokens.rootBlock_eq_ok_iff pre, ?_⟩
  rintro s rfl rfl hs
  have hr := DesignSystem.root_sheet hs
  have htext := Sheet.exists_text_of_root hr
  rw [← s.css_false] at htext
  refine ⟨hr, htext, s.stylesheet_eq_ok_iff false, fun e he => ?_⟩
  obtain ⟨⟨name, c⟩, hc, rfl⟩ := List.mem_map.mp he
  refine ⟨c, Dict.get?_eq_some_iff.mpr hc, fun r hr => ?_⟩
  obtain ⟨styles, hst, context, selector, hrule⟩ := Component.exists_styles_of_mem_rules hr
  exact ⟨styles, hst, declarations_of_rule? hrule⟩

/-- A system with one token, of which a component makes use. -/
def ledger : DesignSystem where
  name := "Ledger"
  version := none
  tokens := .ofList [("ink", .ofList [("text", .text "black")])]
  darkTokens := none
  components := .ofList [("Line", {
    name := "Line"
    description := none
    properties := ∅
    constraints := []
    mappings := ∅
    baseStyles := some (.ofList [("border", .literal (.text "1px solid ink-text"))]) })]
  settings := .default

theorem Tokens.references_declared_ledger : ledger.settings.cssVariables = true ∧
    ledger.tokens.resolve "intent" "1px solid ink-text" = "1px solid var(--intent-ink-text)" ∧
    "  --intent-ink-text: black;" ∈ (ledger.tokens.rootRule "intent").lines "" ∧
    ∃ before after, ledger.css false = before ++ (ledger.tokens.rootRule "intent").text ++ after := by
  have hv : ledger.settings.cssVariables = true := rfl
  have hat : ledger.tokens.at? "ink" "text" = some (.text "black") := by decide
  obtain ⟨-, hlines, -, hsheet⟩ := references_declared ledger.tokens "intent"
  exact ⟨hv, by decide, hlines "ink" "text" (.text "black") hat, (hsheet ledger rfl rfl hv).2.1⟩

/-- Keywords are not kept in all places: with a line end after it, a keyword passes for an identifier
and is looked up with the line end. -/
theorem Tokens.keyword_rewritten : ¬ ∀ (tokens : Tokens) (pre value : String),
    tokens.resolve pre value = value ∨ ∃ outs,
      List.Forall₂ (fun word out => out = word ∨ word ∉ keywords ∧
        ∃ c n v, tokens.at? c n = some v ∧ out = variableUse pre c n) (Text.words value) outs ∧
      tokens.resolve pre value = Text.joinWith " " outs := by
  intro h
  have hr : Tokens.resolve (.ofList [("x", .ofList [("none\n", .text "1")])]) "intent" "none\n" =
      "var(--intent-x-none\n)" := by
    decide
  have hw : Text.words "none\n" = ["none"] := by decide
  have hn := h (.ofList [("x", .ofList [("none\n", .text "1")])]) "intent" "none\n"
  rw [hr, hw] at hn
  rcases hn with hn | ⟨outs, hf, hj⟩
  · revert hn
    decide
  · cases hf with
    | cons ho hrest =>
      cases hrest
      rcases ho with rfl | ⟨hk, -⟩
      · revert hj
        decide
      · exact hk (by decide)

end Stylebook
