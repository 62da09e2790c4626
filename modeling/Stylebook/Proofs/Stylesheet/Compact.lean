import Stylebook.Proofs.Stylesheet.Lexeme
import Stylebook.Proofs.Stylesheet.Name
import Stylebook.Proofs.Stylesheet.Reference

/-!
Blocks in short form. Where names are names and values are phrases, the lexemes of a block are written as
its selectors or its query and its declarations, with marks between and nothing else.
-/

namespace Stylebook

open Text

def Declaration.compact (d : Declaration) : String := d.property ++ ":" ++ d.value

theorem Declaration.toList_compact (d : Declaration) :
    d.compact.toList = d.property.toList ++ ':' :: d.value.toList := by
  simp [compact, String.toList_append]

/-- A rule with nothing but its selectors and its declarations. -/
def Rule.compact (r : Rule) : String :=
  joinWith "," r.selectors ++ "\x7b" ++ joinWith ";" (r.declarations.map Declaration.compact) ++ "\x7d"

/-- A query without blanks about its colons. -/
def compactQuery (query : String) : String :=
  joinWith ":" ((pieces ':' query.toList).map fun p => .ofList (trimmed p))

def Block.compact : Block → String
  | rule r => r.compact
  | media query r => "@media " ++ compactQuery query ++ "\x7b" ++ r.compact ++ "\x7d"

namespace Minify

variable {s t w : List Char} {c : Char} {ls ms : List Lexeme}

section Tight

/-- What shortening leaves as it is wherever it stands in a rule. -/
structure IsTight (s : List Char) : Prop where
  render : render (lexemes s) = s
  semicolon : ';' ∉ s
  brace : '\x7d' ∉ s
  star : '*' ∉ s

theorem isTight_iff : IsTight s ↔ Minify.render (lexemes s) = s ∧ ';' ∉ s ∧ '\x7d' ∉ s ∧ '*' ∉ s :=
  ⟨fun h => ⟨h.render, h.semicolon, h.brace, h.star⟩, fun ⟨hr, hs, hb, ht⟩ => ⟨hr, hs, hb, ht⟩⟩

instance (s : List Char) : Decidable (IsTight s) := decidable_of_iff' _ isTight_iff

theorem isBare_iff : isBare c = true ↔ isPlain c = true ∧ c ≠ '*' := by
  simp [isBare, isPlain, bne]

theorem isPlain_of_isName {s : String} (h : IsName s) : ∀ c ∈ s.toList, isPlain c = true :=
  fun c hc => (isBare_iff.mp (h c hc)).1

theorem not_mem_of_isName {s : String} (h : IsName s) (hc : isBare c = false) : c ∉ s.toList := by
  intro hm
  rw [h c hm] at hc
  cases hc

theorem lexemes_name {s : String} (h : IsName s) : lexemes s.toList = wordOf s.toList :=
  lexemes_plain (isPlain_of_isName h)

theorem IsTight.name {s : String} (h : IsName s) : IsTight s.toList where
  render := by rw [lexemes_name h, render_wordOf]
  semicolon := not_mem_of_isName h (by decide)
  brace := not_mem_of_isName h (by decide)
  star := not_mem_of_isName h (by decide)

theorem lexemes_phrase {ws : List String} (h : ∀ w ∈ ws, w ≠ "" ∧ IsName w) :
    lexemes (joinWith " " ws).toList = ws.map fun w => .word w.toList := by
  induction ws with
  | nil => rfl
  | cons w ws ih =>
    rw [List.forall_mem_cons] at h
    have hw : wordOf w.toList = [.word w.toList] := wordOf_of_ne_nil (by simpa using h.1.1)
    cases ws with
    | nil => rw [joinWith, String.intercalate_singleton, lexemes_name h.1.2, hw]; rfl
    | cons v ws =>
      have hj : (joinWith " " (w :: v :: ws)).toList = w.toList ++ ' ' :: (joinWith " " (v :: ws)).toList :=
        toList_joinWith_cons_cons ..
      rw [hj, lexemes_append_blank (by decide), lexemes_name h.1.2, hw, ih h.2]
      rfl

theorem render_words {ws : List String} :
    render (ws.map fun w => .word w.toList) = (joinWith " " ws).toList := by
  induction ws with
  | nil => rfl
  | cons w ws ih =>
    rw [List.map_cons, render, ih]
    cases ws with
    | nil => simp [joinWith]
    | cons v ws =>
      rw [toList_joinWith_cons_cons, ← List.append_assoc]
      rfl

theorem IsTight.phrase {s : String} (h : IsPhrase s) : IsTight s.toList := by
  obtain ⟨ws, hws, rfl⟩ := h
  have hmem (c : Char) (hs : c ≠ ' ') (hc : isBare c = false) : c ∉ (joinWith " " ws).toList := by
    intro h
    rcases mem_joinWith h with h | ⟨w, hw, h⟩
    · exact hs (List.mem_singleton.mp h)
    · exact not_mem_of_isName (hws w hw).2 hc h
  exact ⟨by rw [lexemes_phrase hws, render_words], hmem _ (by decide) (by decide),
    hmem _ (by decide) (by decide), hmem _ (by decide) (by decide)⟩

theorem IsTight.mark (hs : IsTight s) (ht : IsTight t) (hc : c = ':' ∨ c = ',') :
    IsTight (s ++ c :: t) := by
  have hm : isMark c = true := by rcases hc with rfl | rfl <;> decide
  refine ⟨?_, ?_, ?_, ?_⟩
  · rw [lexemes_append_mark hm, render_append_mark, hs.render, ht.render]
  all_goals rw [List.mem_append, List.mem_cons, not_or, not_or]
  · exact ⟨hs.semicolon, by rcases hc with rfl | rfl <;> decide, ht.semicolon⟩
  · exact ⟨hs.brace, by rcases hc with rfl | rfl <;> decide, ht.brace⟩
  · exact ⟨hs.star, by rcases hc with rfl | rfl <;> decide, ht.star⟩

end Tight

section Lines

theorem lexemes_blank_cons (h : isBlank c = true) : lexemes (c :: s) = lexemes s :=
  lexemes_append_blank (s := []) h

theorem lexemes_blank_append (h : w.all isBlank = true) : lexemes (w ++ s) = lexemes s := by
  induction w with
  | nil => rfl
  | cons c w ih =>
    rw [List.all_cons, Bool.and_eq_true] at h
    rw [List.cons_append, lexemes_blank_cons h.1, ih h.2]

/-- Blanks between texts leave no trace. -/
theorem lexemes_joinWith {sep : String} (hne : sep ≠ "") (h : sep.toList.all isBlank = true)
    (l : List String) : lexemes (joinWith sep l).toList = l.flatMap fun s => lexemes s.toList := by
  induction l with
  | nil => simp [joinWith, lexemes, lexemesFrom]
  | cons s l ih =>
    cases l with
    | nil => simp [joinWith]
    | cons t l =>
      obtain ⟨c, w, hsep⟩ := List.exists_cons_of_ne_nil (mt String.toList_eq_nil_iff.mp hne)
      rw [hsep, List.all_cons, Bool.and_eq_true] at h
      rw [toList_joinWith_cons_cons, hsep, List.cons_append, lexemes_append_blank h.1,
        lexemes_blank_append h.2, List.flatMap_cons, ← ih]

/-- A comma ends a selector, with a line end after it or not. -/
theorem lexemes_selectors (l : List String) :
    lexemes (joinWith ",\n" l).toList = lexemes (joinWith "," l).toList := by
  induction l with
  | nil => rfl
  | cons s l ih =>
    cases l with
    | nil => simp [joinWith]
    | cons t l =>
      have hline : (joinWith ",\n" (s :: t :: l)).toList =
          s.toList ++ ',' :: '\n' :: (joinWith ",\n" (t :: l)).toList :=
        toList_joinWith_cons_cons ..
      have hbare : (joinWith "," (s :: t :: l)).toList =
          s.toList ++ ',' :: (joinWith "," (t :: l)).toList := toList_joinWith_cons_cons ..
      rw [hline, hbare, lexemes_append_mark (by decide), lexemes_append_mark (by decide),
        lexemes_blank_cons (by decide), ih]

variable {pad : String}

theorem lexemes_selector_line (h : pad.toList.all isBlank = true) (selector : String) :
    lexemes (pad ++ selector ++ " \x7b").toList = lexemes selector.toList ++ [.mark '\x7b'] := by
  rw [String.toList_append, String.toList_append, List.append_assoc, lexemes_blank_append h]
  have hb := lexemes_append_blank (c := ' ') (s := selector.toList) (t := ['\x7b']) (by decide)
  exact hb

theorem lexemes_brace_line (h : pad.toList.all isBlank = true) :
    lexemes (pad ++ "\x7d").toList = [.mark '\x7d'] := by
  rw [String.toList_append, lexemes_blank_append h]
  rfl

theorem lexemes_declaration_line (h : pad.toList.all isBlank = true) (d : Declaration) :
    lexemes (pad ++ "  " ++ d.text).toList = lexemes d.compact.toList ++ [.mark ';'] := by
  have htext : (pad ++ "  " ++ d.text).toList =
      pad.toList ++ (' ' :: ' ' :: (d.property.toList ++ ':' :: ' ' :: (d.value.toList ++ [';']))) := by
    simp [Declaration.text, String.toList_append]
  have hend : lexemes (d.value.toList ++ [';']) = lexemes d.value.toList ++ [.mark ';'] :=
    lexemes_append_mark (by decide)
  rw [htext, d.toList_compact, lexemes_blank_append h, lexemes_blank_cons (by decide),
    lexemes_blank_cons (by decide), lexemes_append_mark (by decide), lexemes_append_mark (by decide),
    lexemes_blank_cons (by decide), hend, List.append_assoc, List.cons_append]

end Lines

section Render

theorem not_mem_lexemes (h : c ∉ s) : .mark c ∉ lexemes s := fun hm => h (mem_of_mark_mem hm)

theorem dropSemicolons_append (h : .mark ';' ∉ ls) :
    dropSemicolons (ls ++ ms) = ls ++ dropSemicolons ms := by
  induction ls with
  | nil => rfl
  | cons l ls ih =>
    rw [List.mem_cons, not_or] at h
    rw [List.cons_append, dropSemicolons, if_neg fun hl => h.1 hl.1.symm, ih h.2, List.cons_append]

theorem dropSemicolons_mark (h : c ≠ ';') :
    dropSemicolons (.mark c :: ls) = .mark c :: dropSemicolons ls := by
  rw [dropSemicolons, if_neg (by simp [h])]

/-- A tight text and the mark after it are written as they are. -/
theorem render_tight (hs : IsTight s) (hc : c ≠ ';') :
    render (dropSemicolons (lexemes s ++ .mark c :: ls)) = s ++ c :: render (dropSemicolons ls) := by
  rw [dropSemicolons_append (not_mem_lexemes hs.semicolon), dropSemicolons_mark hc,
    render_append_mark, hs.render]

end Render

end Minify

open Minify

def Declaration.lexemes (d : Declaration) : List Lexeme :=
  Minify.lexemes d.compact.toList ++ [.mark ';']

def Rule.lexemes (r : Rule) : List Lexeme :=
  Minify.lexemes (joinWith "," r.selectors).toList ++ .mark '\x7b' ::
    (r.declarations.flatMap Declaration.lexemes ++ [.mark '\x7d'])

def Block.lexemes : Block → List Lexeme
  | rule r => r.lexemes
  | media query r => Minify.lexemes ("@media " ++ query).toList ++ .mark '\x7b' ::
      (r.lexemes ++ [.mark '\x7d'])

section Text

theorem Rule.lexemes_lines {pad : String} (h : pad.toList.all isBlank = true) (r : Rule) :
    (r.lines pad).flatMap (fun s => Minify.lexemes s.toList) = r.lexemes := by
  have hd : (r.declarations.map fun d => pad ++ "  " ++ d.text).flatMap
        (fun s => Minify.lexemes s.toList) = r.declarations.flatMap Declaration.lexemes := by
    rw [List.flatMap_map]
    exact List.flatMap_congr fun d _ => lexemes_declaration_line h d
  rw [lines, List.flatMap_append, List.flatMap_cons, hd, lexemes_selector_line h, selector,
    lexemes_selectors, List.flatMap_singleton, lexemes_brace_line h, Rule.lexemes, List.append_assoc,
    List.append_assoc]
  rfl

theorem Block.lexemes_text (b : Block) : Minify.lexemes b.text.toList = b.lexemes := by
  rw [text, lexemes_joinWith (by decide) (by decide)]
  cases b with
  | rule r => exact r.lexemes_lines (by decide)
  | media query r =>
    have hq : Minify.lexemes ("@media " ++ query ++ " \x7b").toList =
        Minify.lexemes ("@media " ++ query).toList ++ [.mark '\x7b'] :=
      @lexemes_selector_line "" (by decide) ("@media " ++ query)
    rw [lines, List.flatMap_append, List.flatMap_cons, hq, Rule.lexemes_lines (by decide),
      List.flatMap_singleton, Block.lexemes, List.append_assoc, List.append_assoc]
    rfl

end Text

structure Declaration.IsPlain (d : Declaration) : Prop where
  property : IsName d.property
  value : IsPhrase d.value

structure Rule.IsPlain (r : Rule) : Prop where
  selectors : ∀ s ∈ r.selectors, IsTight s.toList
  declarations : ∀ d ∈ r.declarations, d.IsPlain

inductive Block.IsPlain : Block → Prop
  | rule {r : Rule} (h : r.IsPlain) : IsPlain (.rule r)
  | media {r : Rule} (h : r.IsPlain) : IsPlain (.media DarkMode.query r)

section Compact

variable {ls : List Lexeme}

theorem Declaration.IsPlain.isTight {d : Declaration} (h : d.IsPlain) : IsTight d.compact.toList := by
  rw [d.toList_compact]
  exact (IsTight.name h.property).mark (.phrase h.value) (.inl rfl)

/-- What follows a semicolon in a rule is no brace. -/
theorem Declaration.IsPlain.head? {d : Declaration} (h : d.IsPlain) :
    (Minify.lexemes d.compact.toList ++ ls).head? ≠ some (.mark '\x7d') := by
  have hb := not_mem_lexemes h.isTight.brace
  cases hl : Minify.lexemes d.compact.toList with
  | nil =>
    rw [d.toList_compact, lexemes_append_mark (by decide), List.append_eq_nil_iff] at hl
    cases hl.2
  | cons l rest =>
    rw [hl] at hb
    rintro he
    cases he
    exact hb List.mem_cons_self

/-- The semicolon after the last declaration goes, all others stay. -/
theorem render_declarations {ds : List Declaration} (h : ∀ d ∈ ds, d.IsPlain) :
    render (dropSemicolons (ds.flatMap Declaration.lexemes ++ .mark '\x7d' :: ls)) =
      (joinWith ";" (ds.map Declaration.compact)).toList ++ '\x7d' :: render (dropSemicolons ls) := by
  induction ds with
  | nil =>
    rw [List.flatMap_nil, List.nil_append, dropSemicolons_mark (by decide), render]
    rfl
  | cons d ds ih =>
    rw [List.forall_mem_cons] at h
    have hd := not_mem_lexemes h.1.isTight.semicolon
    rw [List.flatMap_cons, Declaration.lexemes, List.append_assoc, List.append_assoc,
      List.singleton_append, dropSemicolons_append hd]
    cases ds with
    | nil =>
      -- the brace comes next
      rw [List.flatMap_nil, List.nil_append, dropSemicolons, if_pos ⟨rfl, rfl⟩,
        dropSemicolons_mark (by decide), render_append_mark, h.1.isTight.render]
      simp [joinWith]
    | cons e ds =>
      have hhead : ((e :: ds).flatMap Declaration.lexemes ++ .mark '\x7d' :: ls).head? ≠
          some (.mark '\x7d') := by
        rw [List.flatMap_cons, Declaration.lexemes, List.append_assoc, List.append_assoc]
        exact (h.2 e List.mem_cons_self).head?
      rw [dropSemicolons, if_neg fun hs => hhead hs.2, render_append_mark, ih h.2, h.1.isTight.render]
      simp [joinWith, String.toList_append]

theorem isTight_selectors {l : List String} (h : ∀ s ∈ l, IsTight s.toList) :
    IsTight (joinWith "," l).toList := by
  induction l with
  | nil => exact .name (s := "") (by decide)
  | cons s l ih =>
    rw [List.forall_mem_cons] at h
    cases l with
    | nil => simpa [joinWith] using h.1
    | cons t l =>
      have hj : (joinWith "," (s :: t :: l)).toList =
          s.toList ++ ',' :: (joinWith "," (t :: l)).toList := toList_joinWith_cons_cons ..
      rw [hj]
      exact h.1.mark (ih h.2) (.inr rfl)

theorem Rule.IsPlain.render {r : Rule} (h : r.IsPlain) :
    render (dropSemicolons (r.lexemes ++ ls)) = r.compact.toList ++ render (dropSemicolons ls) := by
  rw [Rule.lexemes, List.append_assoc, List.cons_append, List.append_assoc, List.singleton_append,
    render_tight (isTight_selectors h.selectors) (by decide), render_declarations h.declarations]
  simp [compact, String.toList_append]

theorem Block.IsPlain.render {b : Block} (h : b.IsPlain) :
    render (dropSemicolons (b.lexemes ++ ls)) = b.compact.toList ++ render (dropSemicolons ls) := by
  cases h with
  | rule h => exact h.render
  | media h =>
    have hq : Minify.lexemes ("@media " ++ DarkMode.query).toList =
        Minify.lexemes ("@media " ++ compactQuery DarkMode.query).toList := by decide
    have ht : IsTight ("@media " ++ compactQuery DarkMode.query).toList := by
      constructor <;> decide
    rw [Block.lexemes, hq, List.append_assoc, List.cons_append, List.append_assoc,
      List.singleton_append, render_tight ht (by decide), h.render, dropSemicolons_mark (by decide),
      Minify.render]
    simp [compact, String.toList_append]

theorem render_blocks {bs : List Block} (h : ∀ b ∈ bs, b.IsPlain) :
    render (dropSemicolons (bs.flatMap Block.lexemes)) =
      (String.join (bs.map Block.compact)).toList := by
  induction bs with
  | nil => rfl
  | cons b bs ih =>
    rw [List.forall_mem_cons] at h
    rw [List.flatMap_cons, h.1.render, ih h.2, List.map_cons, String.join_cons, String.toList_append]

end Compact

end Stylebook
