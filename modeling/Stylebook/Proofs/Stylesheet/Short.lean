import Stylebook.Proofs.Stylesheet.Compact

/-!
Shortened stylesheets of whole systems. Where names are names and values are phrases, a shortened sheet is
its blocks one after the other, each with its declarations in their order and nothing else.
-/

namespace Stylebook

open Text

namespace Minify

variable {s t : List Char} {c : Char}

section Comments

theorem afterComment?_append (h : '*' ∉ t) : afterComment? (t ++ '*' :: '/' :: s) = some s := by
  induction t with
  | nil => rfl
  | cons c t ih =>
    rw [List.mem_cons, not_or] at h
    rw [List.cons_append, afterComment?, ih h.2]
    rintro rest rfl
    exact absurd rfl h.1

theorem dropComments_cons (h : c ≠ '/' ∨ s.head? ≠ some '*') :
    dropComments (c :: s) = c :: dropComments s := by
  rw [dropComments]
  rintro rest rfl rfl
  rcases h with h | h <;> exact h rfl

theorem dropComments_starless (h : '*' ∉ s) : dropComments s = s := by
  induction s with
  | nil => rw [dropComments]
  | cons c s ih =>
    rw [List.mem_cons, not_or] at h
    rw [dropComments_cons (.inr fun hs => h.2 (List.mem_of_head? hs)), ih h.2]

/-- A text without stars that a line end follows is no part of a comment. -/
theorem dropComments_append (h : '*' ∉ s) :
    dropComments (s ++ '\n' :: t) = s ++ '\n' :: dropComments t := by
  induction s with
  | nil => exact dropComments_cons (.inl (by decide))
  | cons c s ih =>
    rw [List.mem_cons, not_or] at h
    have hhead : (s ++ '\n' :: t).head? ≠ some '*' := by
      cases s with
      | nil => simp
      | cons d s => exact fun hd => h.2 (by cases hd; exact List.mem_cons_self)
    rw [List.cons_append, dropComments_cons (.inr hhead), ih h.2, List.cons_append]

theorem dropComments_comment {t : String} (h : '*' ∉ t.toList) :
    dropComments ((comment t).toList ++ s) = dropComments s := by
  have hc : (comment t).toList ++ s =
      '/' :: '*' :: ((' ' :: t.toList ++ [' ']) ++ '*' :: '/' :: s) := by
    simp [comment, String.toList_append]
  have hend := afterComment?_append (t := ' ' :: t.toList ++ [' ']) (s := s) (by simpa using h)
  rw [hc, dropComments, hend]

end Comments

/-- The lexemes that are left of the parts of a sheet. -/
inductive Leaves : List String → List Lexeme → Prop
  | nil : Leaves [] []
  | comment {t : String} {parts : List String} {ls : List Lexeme} (ht : '*' ∉ t.toList)
      (h : Leaves parts ls) : Leaves (comment t :: parts) ls
  | text {t : String} {parts : List String} {ls : List Lexeme} (ht : '*' ∉ t.toList)
      (h : Leaves parts ls) : Leaves (t :: parts) (lexemes t.toList ++ ls)

namespace Leaves

variable {parts others : List String} {ls ms : List Lexeme}

theorem append (h : Leaves parts ls) (h' : Leaves others ms) : Leaves (parts ++ others) (ls ++ ms) := by
  induction h with
  | nil => exact h'
  | comment ht _ ih => exact ih.comment ht
  | text ht _ ih =>
    rw [List.append_assoc]
    exact ih.text ht

theorem flatMap {α : Type} {l : List α} {f : α → List String} {g : α → List Lexeme}
    (h : ∀ a ∈ l, Leaves (f a) (g a)) : Leaves (l.flatMap f) (l.flatMap g) := by
  induction l with
  | nil => exact nil
  | cons a l ih =>
    rw [List.forall_mem_cons] at h
    exact h.1.append (ih h.2)

theorem joinWith (h : Leaves parts ls) :
    lexemes (dropComments (joinWith "\n" parts).toList) = ls := by
  have hcons (t : String) (u : String) (parts : List String) :
      (Text.joinWith "\n" (t :: u :: parts)).toList =
        t.toList ++ '\n' :: (Text.joinWith "\n" (u :: parts)).toList :=
    toList_joinWith_cons_cons ..
  induction h with
  | nil =>
    rw [Text.joinWith, String.intercalate_nil]
    simp [dropComments, lexemes, lexemesFrom]
  | @comment t parts ls ht h ih =>
    cases parts with
    | nil =>
      have hd := dropComments_comment (s := []) ht
      rw [List.append_nil] at hd
      rw [Text.joinWith, String.intercalate_singleton, hd, ← ih]
      rfl
    | cons u parts =>
      rw [hcons, dropComments_comment ht, dropComments_cons (.inl (by decide)),
        lexemes_blank_cons (by decide), ih]
  | @text t parts ls ht h ih =>
    cases parts with
    | nil =>
      cases h
      rw [Text.joinWith, String.intercalate_singleton, dropComments_starless ht, List.append_nil]
    | cons u parts => rw [hcons, dropComments_append ht, lexemes_append_blank (by decide), ih]

end Leaves

end Minify

open Minify

section Star

theorem Rule.IsPlain.star {r : Rule} {pad : String} (h : r.IsPlain) (hp : '*' ∉ pad.toList) :
    ∀ line ∈ r.lines pad, '*' ∉ line.toList := by
  have hs : '*' ∉ r.selector.toList := by
    intro hm
    rcases mem_joinWith hm with hm | ⟨s, hs, hm⟩
    · exact absurd hm (by decide)
    · exact (h.selectors s hs).star hm
  intro line hl
  rw [lines, List.mem_append, List.mem_cons, List.mem_singleton] at hl
  rcases hl with (rfl | hl) | rfl
  · simp [String.toList_append, hp, hs]
  · obtain ⟨d, hd, rfl⟩ := List.mem_map.mp hl
    have hn := (IsTight.name (h.declarations d hd).property).star
    have hv := (IsTight.phrase (h.declarations d hd).value).star
    simp [String.toList_append, Declaration.text, hp, hn, hv]
  · simp [String.toList_append, hp]

theorem Block.IsPlain.star {b : Block} (h : b.IsPlain) : '*' ∉ b.text.toList := by
  have hlines : ∀ line ∈ b.lines, '*' ∉ line.toList := by
    cases h with
    | rule h => exact h.star (by decide)
    | media h =>
      intro line hl
      rw [lines, List.mem_append, List.mem_cons, List.mem_singleton] at hl
      rcases hl with (rfl | hl) | rfl
      · decide
      · exact h.star (by decide) line hl
      · decide
  intro hm
  rcases mem_joinWith hm with hm | ⟨line, hl, hm⟩
  · exact absurd hm (by decide)
  · exact hlines line hl hm

end Star

namespace Sheet

variable {parts : List String} {ls : List Lexeme}

theorem leaves_empty (h : Leaves parts ls) : Leaves ("" :: parts) ls := h.text (by decide)

theorem leaves_paragraphs {bs : List Block} (hb : ∀ b ∈ bs, b.IsPlain) (h : Leaves parts ls) :
    Leaves (paragraphs (bs.map Block.text) :: parts) (bs.flatMap Block.lexemes ++ ls) := by
  have hl : Minify.lexemes (paragraphs (bs.map Block.text)).toList = bs.flatMap Block.lexemes := by
    rw [paragraphs, lexemes_joinWith (by decide) (by decide), List.flatMap_map]
    exact List.flatMap_congr fun b _ => b.lexemes_text
  rw [← hl]
  refine h.text fun hm => ?_
  rcases mem_joinWith hm with hm | ⟨t, ht, hm⟩
  · exact absurd hm (by decide)
  · obtain ⟨b, hb', rfl⟩ := List.mem_map.mp ht
    exact (hb b hb').star hm

/-- The comments of a sheet leave nothing, and its blocks leave their lexemes. -/
theorem leaves_parts {s : Sheet} (ht : '*' ∉ s.title.toList)
    (hk : ∀ c ∈ s.components, '*' ∉ c.1.toList) (hb : ∀ b ∈ s.blocks, b.IsPlain) :
    Leaves s.parts (s.blocks.flatMap Block.lexemes) := by
  rw [blocks, List.forall_mem_append, List.forall_mem_append] at hb
  obtain ⟨⟨hroot, hdark⟩, hrules⟩ := hb
  have hend : Leaves [""] [] := leaves_empty .nil
  have htitle : Leaves [comment s.title, ""] [] := hend.comment ht
  have hroot : Leaves (s.root.toList.flatMap fun b => [b.text, ""])
      (s.root.toList.flatMap Block.lexemes) := by
    refine Leaves.flatMap fun b hm => ?_
    rw [← List.append_nil b.lexemes, ← b.lexemes_text]
    exact hend.text (hroot b hm).star
  have hdark : Leaves (s.dark.toList.flatMap fun bs => [paragraphs (bs.map Block.text), ""])
      ((s.dark.getD []).flatMap Block.lexemes) := by
    cases hd : s.dark with
    | none => exact .nil
    | some bs =>
      rw [hd] at hdark
      have h := leaves_paragraphs hdark hend
      rwa [List.append_nil] at h
  have hrules : Leaves
      (s.components.flatMap fun c =>
        [comment ("Component: " ++ c.1), paragraphs (c.2.map Rule.text), ""])
      ((s.components.flatMap fun c => c.2.map Block.rule).flatMap Block.lexemes) := by
    rw [List.flatMap_assoc]
    refine Leaves.flatMap fun c hc => ?_
    have hplain : ∀ b ∈ c.2.map Block.rule, b.IsPlain :=
      fun b hm => hrules b (List.mem_flatMap.mpr ⟨c, hc, hm⟩)
    have h := leaves_paragraphs hplain hend
    rw [List.map_map, List.append_nil] at h
    refine h.comment ?_
    simpa [String.toList_append] using hk c hc
  rw [blocks, List.flatMap_append, List.flatMap_append]
  exact ((htitle.append hroot).append hdark).append hrules

/-- A sheet of plain blocks comes to these blocks. -/
theorem minify_text {s : Sheet} (ht : '*' ∉ s.title.toList)
    (hk : ∀ c ∈ s.components, '*' ∉ c.1.toList) (hb : ∀ b ∈ s.blocks, b.IsPlain) :
    minify s.text = String.join (s.blocks.map Block.compact) := by
  rw [minify, shorten_eq, text, (leaves_parts ht hk hb).joinWith, render_blocks hb,
    String.ofList_toList]

end Sheet

/-- Names are names, and values are phrases. -/
def Tokens.IsPlain (tokens : Tokens) : Prop :=
  ∀ t ∈ tokens.all, IsName t.1 ∧ IsName t.2.1 ∧ IsPhrase t.2.2.shown

instance (tokens : Tokens) : Decidable tokens.IsPlain :=
  inferInstanceAs (Decidable (∀ t ∈ tokens.all, _))

/-- The names of a component, of its mapping keys and conditions and of its styles are names. -/
structure Component.IsPlain (c : Component) : Prop where
  name : IsName c.name
  keys : ∀ key ∈ c.mappings.keys, ∀ e ∈ mappingPairs key, IsName e.1 ∧ IsName e.2
  conditions : ∀ key entries, (key, .conditional entries) ∈ c.mappings.entries →
    ∀ entry ∈ entries, ∀ e ∈ entry.condition.entries, IsName e.1 ∧ IsName e.2.plain
  styles : ∀ styles, c.HasStyles styles → ∀ e ∈ styles.entries, IsName e.1

/-- What a system writes into its sheet neither starts nor ends a block, a declaration or a comment. -/
structure DesignSystem.IsPlain (s : DesignSystem) : Prop where
  pre : IsName s.pre
  name : '*' ∉ s.name.toList
  version : ∀ v ∈ s.version, '*' ∉ v.toList
  tokens : s.tokens.IsPlain
  darkTokens : ∀ dark ∈ s.darkTokens, Tokens.IsPlain dark
  components : ∀ e ∈ s.components.entries, '*' ∉ e.1.toList ∧ e.2.IsPlain
  values : ∀ c ∈ s.sheet.components, ∀ r ∈ c.2, ∀ d ∈ r.declarations, IsPhrase d.value

section Blocks

variable {pre : String}

theorem Tokens.IsPlain.declarations {tokens : Tokens} (h : tokens.IsPlain) (hp : IsName pre) :
    ∀ d ∈ tokens.declarations pre, d.IsPlain := by
  intro d hd
  obtain ⟨t, ht, rfl⟩ := List.mem_map.mp hd
  obtain ⟨hc, hn, hv⟩ := h t ht
  exact ⟨.variableName hp hc hn, hv⟩

theorem Tokens.IsPlain.rootRule {tokens : Tokens} (h : tokens.IsPlain) (hp : IsName pre) :
    (tokens.rootRule pre).IsPlain where
  selectors := by
    rw [Tokens.rootRule, List.forall_mem_singleton]
    decide
  declarations := h.declarations hp

theorem DarkMode.isPlain_blocks {dark : Tokens} (h : dark.IsPlain) (hp : IsName pre) (mode : DarkMode) :
    ∀ b ∈ mode.blocks dark pre, b.IsPlain := by
  have htoggles : ∀ s ∈ mode.toggles, IsTight s.toList := by cases mode <;> decide
  intro b hb
  rw [blocks, List.mem_append] at hb
  rcases hb with hb | hb <;> split at hb
  · obtain rfl := List.mem_singleton.mp hb
    exact .media (h.rootRule hp)
  · cases hb
  · cases hb
  · obtain rfl := List.mem_singleton.mp hb
    exact .rule ⟨htoggles, h.declarations hp⟩

theorem Component.IsPlain.pairs {c : Component} (h : c.IsPlain) {clause : Clause} (hc : clause ∈ c.clauses) :
    ∀ e ∈ clause.pairs, IsName e.1 ∧ IsName e.2 := by
  have hkeys {key : String} {m : Mapping} (hm : (key, m) ∈ c.mappings.entries) :
      ∀ e ∈ mappingPairs key, IsName e.1 ∧ IsName e.2 := h.keys key (List.mem_map.mpr ⟨_, hm, rfl⟩)
  obtain ⟨-, hnil⟩ | ⟨key, hm, hpairs⟩ | ⟨key, entries, hm, e, he, rfl⟩ := (Component.clauses_cases hc).2
  · rw [hnil]
    exact List.forall_mem_nil _
  · rw [hpairs]
    exact hkeys hm
  · rw [List.forall_mem_append]
    exact ⟨hkeys hm, List.forall_mem_map.mpr (h.conditions key entries hm e he)⟩

/-- A rule has one selector, of the names in its clause, and one declaration for each style. -/
theorem Component.IsPlain.rules {c : Component} (h : c.IsPlain) (hp : IsName pre) {tokens : Tokens}
    {r : Rule} (hr : r ∈ c.rules tokens pre) (hv : ∀ d ∈ r.declarations, IsPhrase d.value) :
    r.IsPlain := by
  rw [Component.rules_eq] at hr
  obtain ⟨clause, hc, rfl⟩ := List.mem_map.mp hr
  have hdot : IsName "." := by decide
  have hclass : IsName (c.baseClass pre) := (hp.append (by decide)).append h.name.lower
  have hselector := (hdot.append hclass).append (.attributeSelectors (h.pairs hc))
  refine ⟨List.forall_mem_singleton.mpr (.name hselector), fun d hd => ⟨?_, hv d hd⟩⟩
  obtain ⟨e, he, rfl⟩ := List.mem_map.mp hd
  exact (h.styles clause.styles (Component.hasStyles_of_mem_clauses hc) e he).kebab

end Blocks

namespace DesignSystem

variable {s : DesignSystem}

theorem IsPlain.title (h : s.IsPlain) : '*' ∉ s.sheet.title.toList := by
  have hv : '*' ∉ s.shownVersion.toList := by
    rw [shownVersion]
    split
    · split
      · decide
      · exact h.version _ ‹_›
    · decide
  have hstart : '*' ∉ "Intent Design System: ".toList := by decide
  have hmid : '*' ∉ " v".toList := by decide
  unfold sheet
  rw [String.toList_append, String.toList_append, String.toList_append]
  simp only [List.mem_append, hstart, h.name, hmid, hv, or_self, not_false_eq_true]

theorem IsPlain.blocks (h : s.IsPlain) : ∀ b ∈ s.sheet.blocks, b.IsPlain := by
  rw [Sheet.blocks, List.forall_mem_append, List.forall_mem_append]
  refine ⟨⟨fun b hb => ?_, fun b hb => ?_⟩, fun b hb => ?_⟩
  · rw [Option.mem_toList] at hb
    unfold sheet at hb
    dsimp only at hb
    split at hb
    · cases hb
      exact .rule (h.tokens.rootRule h.pre)
    · cases hb
  · unfold sheet at hb
    dsimp only at hb
    split at hb
    · rw [darkBlocks?] at hb
      cases hd : s.darkTokens? with
      | none => rw [hd] at hb; cases hb
      | some dark =>
        rw [hd] at hb
        have hdark := (Option.filter_eq_some_iff.mp hd).1
        exact DarkMode.isPlain_blocks (h.darkTokens dark hdark) h.pre _ b hb
    · cases hb
  · obtain ⟨c, hc, hb⟩ := List.mem_flatMap.mp hb
    obtain ⟨r, hr, rfl⟩ := List.mem_map.mp hb
    have hvalues := h.values c hc r hr
    obtain ⟨e, he, rfl⟩ := List.mem_map.mp hc
    exact .rule ((h.components e he).2.rules h.pre hr hvalues)

/-- The short form of a plain sheet is made of the blocks of the sheet in their order: no comment, no line
end and no semicolon at the end of a block is left, and no declaration is lost. There is such a form of every
plain sheet whose numbers can be written. -/
theorem css_true (h : s.IsPlain) : s.css true = String.join (s.sheet.blocks.map Block.compact) ∧
    ∀ css, s.stylesheet true = .ok css ↔
      s.sheetWritable = true ∧ String.join (s.sheet.blocks.map Block.compact) = css := by
  have hshort : s.css true = String.join (s.sheet.blocks.map Block.compact) := by
    rw [css, if_pos rfl]
    refine Sheet.minify_text h.title (fun c hc => ?_) h.blocks
    obtain ⟨e, he, rfl⟩ := List.mem_map.mp hc
    exact (h.components e he).1
  exact ⟨hshort, hshort ▸ s.stylesheet_eq_ok_iff true⟩

end DesignSystem

/-- A button whose border depends on its size, if its tone is loud. -/
def button : Component where
  name := "Button"
  description := none
  properties := .ofList [
    ("size", ⟨.enum ["md", "lg"] none, false, none⟩), ("tone", ⟨.enum ["calm", "loud"] none, false, none⟩)]
  constraints := []
  mappings := .ofList [
    ("size=lg", .conditional [
      ⟨.ofList [("tone", .text "loud")], .ofList [("border", .literal (.text "1px solid ink"))]⟩])]
  baseStyles := some (.ofList [("fontWeight", .literal (.text "bold"))])

def slate : DesignSystem where
  name := "Slate"
  version := none
  tokens := .ofList [("color", .ofList [("ink", .text "black")])]
  darkTokens := some (.ofList [("color", .ofList [("ink", .text "white")])])
  components := .ofList [("Button", button)]
  settings := .default

theorem slate_isPlain : slate.IsPlain where
  pre := by decide
  name := by decide
  version := by simp [slate]
  tokens := by decide
  darkTokens := by
    rintro dark hd
    cases hd
    decide
  components := by
    intro e he
    obtain rfl := List.mem_singleton.mp he
    refine ⟨by decide, by decide, by decide, ?_, ?_⟩
    · intro key entries hm
      obtain ⟨rfl, rfl⟩ := List.mem_singleton.mp hm
      decide
    · rintro styles (⟨hb⟩ | ⟨hm⟩ | ⟨hm, hc⟩)
      · cases hb
        decide
      · cases List.mem_singleton.mp hm
      · cases List.mem_singleton.mp hm
        obtain rfl := List.mem_singleton.mp hc
        decide
  values := by decide

theorem DesignSystem.css_true_slate : slate.IsPlain ∧ slate.css true =
    ":root\x7b--intent-color-ink:black\x7d" ++
    "@media (prefers-color-scheme:dark)\x7b:root\x7b--intent-color-ink:white\x7d\x7d" ++
    ":root.dark,.dark,[data-theme=\"dark\"]\x7b--intent-color-ink:white\x7d" ++
    ".intent-button\x7bfont-weight:bold\x7d" ++
    ".intent-button[data-size=\"lg\"][data-tone=\"loud\"]\x7bborder:1px solid var(--intent-color-ink)\x7d" := by
  refine ⟨slate_isPlain, (css_true slate_isPlain).1.trans ?_⟩
  decide +kernel

end Stylebook
