import Stylebook.Proofs.Manifest.Completion
import Stylebook.Proofs.Stylesheet.Short

/-!
When a stylesheet is empty: where it is held back, and where shortening leaves nothing of it.
-/

namespace Stylebook

open Text

namespace Minify

section Blank

variable {ls : List Lexeme} {s : List Char}

theorem dropSemicolons_eq_nil_iff : dropSemicolons ls = [] ↔ ls = [] := by
  refine ⟨fun h => ?_, fun h => by rw [h]; rfl⟩
  induction ls with
  | nil => rfl
  | cons l rest ih =>
    rw [dropSemicolons] at h
    split at h
    · rename_i hl
      rw [ih h] at hl
      cases hl.2
    · cases h

theorem lexemesFrom_eq_nil_iff (run s : List Char) :
    lexemesFrom run s = [] ↔ run = [] ∧ ∀ c ∈ s, isBlank c = true := by
  have hword (run : List Char) : wordOf run = [] ↔ run = [] := by
    cases run <;> simp [wordOf]
  induction s generalizing run with
  | nil => simp [lexemesFrom, hword]
  | cons c s ih =>
    rw [lexemesFrom]
    split
    · rename_i hc
      simp [hword, ih, hc]
    · rename_i hc
      split <;> simp [ih, hc]

/-- Shortening leaves nothing but of blanks and comments. -/
theorem shorten_eq_nil_iff : shorten s = [] ↔ ∀ c ∈ dropComments s, isBlank c = true := by
  have hproper : ∀ l ∈ dropSemicolons (lexemes (dropComments s)), l.IsProper :=
    fun l hl => isProper_lexemesFrom (by simp) l (mem_of_mem_dropSemicolons hl)
  have hrender : render (dropSemicolons (lexemes (dropComments s))) = [] ↔
      dropSemicolons (lexemes (dropComments s)) = [] :=
    ⟨eq_nil_of_render hproper, fun h => by rw [h]; rfl⟩
  rw [shorten_eq, hrender, dropSemicolons_eq_nil_iff, lexemes, lexemesFrom_eq_nil_iff]
  simp

end Blank

section Closed

variable {w r s t : List Char}

/-- The end of a comment. -/
def closing : List Char := [' ', '*', '/']

/-- With an end at hand a comment is closed: there, or before. -/
theorem afterComment?_closing (w : List Char) : ∃ r, (r = [] ∨ ∃ v, r = v ++ closing ∧ v.length < w.length) ∧
    ∀ s, afterComment? (w ++ closing ++ s) = some (r ++ s) := by
  induction w with
  | nil => exact ⟨[], .inl rfl, fun s => rfl⟩
  | cons c w ih =>
    by_cases hend : c = '*' ∧ w.head? = some '/'
    · obtain ⟨rfl, hw⟩ := hend
      obtain ⟨v, rfl⟩ := List.head?_eq_some_iff.mp hw
      exact ⟨v ++ closing, .inr ⟨v, rfl, by simp only [List.length_cons]; omega⟩, fun s => rfl⟩
    · obtain ⟨r, hr, h⟩ := ih
      refine ⟨r, hr.imp_right fun ⟨v, hv, hlt⟩ => ⟨v, hv, by simp; omega⟩, fun s => ?_⟩
      rw [List.cons_append, List.cons_append, afterComment?, h]
      rintro rest rfl hrest
      refine hend ⟨rfl, ?_⟩
      cases w with
      | nil => cases hrest
      | cons d w => cases hrest; rfl

theorem dropComments_opening (h : afterComment? s = some r) : dropComments ('/' :: '*' :: s) = dropComments r := by
  rw [dropComments, h]

theorem head?_closing (w s : List Char) : (w ++ closing ++ s).head? = some (w.headD ' ') := by
  cases w <;> rfl

/-- What ends as a comment does ends outside of comments. -/
theorem dropComments_closing (w s : List Char) :
    dropComments (w ++ closing ++ '\n' :: s) = dropComments (w ++ closing) ++ '\n' :: dropComments s := by
  have hline : dropComments ('\n' :: s) = '\n' :: dropComments s := dropComments_cons (.inl (by decide))
  -- a comment within takes the induction to any shorter text
  induction hn : w.length using Nat.strongRecOn generalizing w with
  | ind n ih =>
    subst hn
    cases w with
    | nil =>
      have hclosing (t : List Char) (ht : t.head? ≠ some '*') : dropComments (closing ++ t) =
          closing ++ dropComments t := by
        rw [closing]
        simp only [List.cons_append, List.nil_append]
        rw [dropComments_cons (.inl (by decide)), dropComments_cons (.inl (by decide)),
          dropComments_cons (.inr ht)]
      have hnil := hclosing [] (by simp)
      rw [List.append_nil] at hnil
      rw [List.nil_append, hclosing _ (by simp), hnil, hline, dropComments, List.append_nil]
    | cons c w =>
      by_cases hopen : c = '/' ∧ w.head? = some '*'
      · obtain ⟨rfl, hw⟩ := hopen
        obtain ⟨v, rfl⟩ := List.head?_eq_some_iff.mp hw
        obtain ⟨r, hr, h⟩ := afterComment?_closing v
        have hnil := h []
        rw [List.append_nil, List.append_nil] at hnil
        simp only [List.cons_append]
        rw [dropComments_opening (h _), dropComments_opening hnil]
        rcases hr with rfl | ⟨u, rfl, hlt⟩
        · rw [List.nil_append, hline, dropComments, List.nil_append]
        · exact ih u.length (by simp only [List.length_cons]; omega) u rfl
      · have hhead (t : List Char) : c ≠ '/' ∨ (w ++ closing ++ t).head? ≠ some '*' := by
          rw [head?_closing]
          cases w with
          | nil => exact .inr (by decide)
          | cons d w => exact Decidable.not_and_iff_or_not.mp hopen
        have hnil := hhead []
        rw [List.append_nil] at hnil
        simp only [List.cons_append]
        rw [dropComments_cons (hhead _), dropComments_cons hnil, ih w.length (by simp) w rfl, List.cons_append]

end Closed

/-- Whether shortening leaves nothing of some parts of a sheet. -/
def Vanish (parts : List String) : Prop := ∀ c ∈ dropComments (joinWith "\n" parts).toList, isBlank c = true

section Parts

variable {parts : List String} {t u : String}

theorem toList_comment (t : String) : (comment t).toList = '/' :: '*' :: ' ' :: t.toList ++ closing := by
  simp [comment, closing, String.toList_append]

theorem vanish_comment_cons : Vanish (comment t :: u :: parts) ↔ Vanish [comment t] ∧ Vanish (u :: parts) := by
  have hsplit : (joinWith "\n" (comment t :: u :: parts)).toList =
      '/' :: '*' :: ' ' :: t.toList ++ closing ++ '\n' :: (joinWith "\n" (u :: parts)).toList := by
    rw [← toList_comment]
    exact toList_joinWith_cons_cons ..
  have hone : (joinWith "\n" [comment t]).toList = '/' :: '*' :: ' ' :: t.toList ++ closing := by
    rw [joinWith, String.intercalate_singleton, toList_comment]
  rw [Vanish, hsplit, dropComments_closing, Vanish, hone, Vanish]
  simp only [List.forall_mem_append, List.forall_mem_cons]
  exact and_congr_right fun _ => and_iff_right (by decide)

/-- A comment without stars is nothing but a comment. -/
theorem vanish_comment (h : '*' ∉ t.toList) : Vanish [comment t] := by
  have hd := dropComments_comment (s := []) h
  rw [List.append_nil, dropComments] at hd
  rw [Vanish, joinWith, String.intercalate_singleton, hd]
  exact List.forall_mem_nil _

theorem vanish_empty_cons : Vanish ("" :: u :: parts) ↔ Vanish (u :: parts) := by
  have hsplit : (joinWith "\n" ("" :: u :: parts)).toList = '\n' :: (joinWith "\n" (u :: parts)).toList :=
    toList_joinWith_cons_cons ..
  rw [Vanish, hsplit, dropComments_cons (.inl (by decide)), Vanish, List.forall_mem_cons]
  exact and_iff_right (by decide)

theorem head?_joinWith (sep : String) (parts : List String) {c : Char} (h : t.toList.head? = some c) :
    (joinWith sep (t :: parts)).toList.head? = some c := by
  cases parts with
  | nil => rwa [joinWith, String.intercalate_singleton]
  | cons u parts =>
    obtain ⟨rest, hrest⟩ := List.head?_eq_some_iff.mp h
    rw [toList_joinWith_cons_cons, hrest]
    rfl

/-- Texts that do not start like a comment or with a blank. -/
def Shows (t : String) : Prop := ∃ c, t.toList.head? = some c ∧ isBlank c = false ∧ c ≠ '/'

theorem Shows.joinWith {sep : String} (h : Shows t) : Shows (joinWith sep (t :: parts)) := by
  obtain ⟨c, hc, hb, hs⟩ := h
  exact ⟨c, head?_joinWith sep parts hc, hb, hs⟩

theorem Shows.append (h : Shows t) (u : String) : Shows (t ++ u) := by
  obtain ⟨c, hc, hb, hs⟩ := h
  obtain ⟨rest, hrest⟩ := List.head?_eq_some_iff.mp hc
  exact ⟨c, by rw [String.toList_append, hrest]; rfl, hb, hs⟩

/-- What does not start like a comment stays, whatever follows. -/
theorem Shows.not_vanish (h : Shows t) : ¬ Vanish (t :: parts) := by
  obtain ⟨c, hc, hb, hs⟩ := h
  intro hv
  obtain ⟨rest, hrest⟩ := List.head?_eq_some_iff.mp (head?_joinWith "\n" parts hc)
  rw [Vanish, hrest, dropComments_cons (.inl hs), List.forall_mem_cons, hb] at hv
  cases hv.1

end Parts

end Minify

open Minify

theorem Rule.shows_text {r : Rule} {selector : String} (h : r.selectors = [selector]) (hs : Shows selector) :
    Shows r.text := by
  have hline : Shows ("" ++ r.selector ++ " \x7b") := by
    rw [Rule.selector, h, joinWith, String.intercalate_singleton, String.empty_append]
    exact hs.append _
  rw [text, lines, List.cons_append]
  exact hline.joinWith

namespace Sheet

/-- The rules of components, each group after a comment. -/
theorem vanish_components_iff {cs : List (String × List Rule)} (h : ∀ c ∈ cs, ∀ r ∈ c.2, Shows r.text) :
    Vanish ("" :: cs.flatMap fun c => [comment ("Component: " ++ c.1), paragraphs (c.2.map Rule.text), ""]) ↔
      ∀ c ∈ cs, Vanish [comment ("Component: " ++ c.1)] ∧ c.2 = [] := by
  induction cs with
  | nil => simp [Vanish, joinWith, dropComments]
  | cons c cs ih =>
    rw [List.forall_mem_cons] at h ⊢
    rw [List.flatMap_cons, List.cons_append, List.cons_append, vanish_empty_cons, vanish_comment_cons,
      ← ih h.2, and_assoc]
    refine and_congr_right fun _ => ?_
    cases hr : c.2 with
    | nil =>
      rw [and_iff_right rfl]
      exact vanish_empty_cons
    | cons r rules =>
      have hshow : Shows (paragraphs ((r :: rules).map Rule.text)) :=
        (h.1 r (by simp [hr])).joinWith
      exact ⟨fun hv => absurd hv hshow.not_vanish, fun hv => absurd hv.1 (by simp)⟩

/-- Nothing is left of a sheet that has neither custom properties nor rules, if its comments are comments. -/
theorem minify_eq_empty_iff {s : Sheet} (hdark : s.root = none → s.dark = none)
    (hroot : ∀ b, s.root = some b → Shows b.text) (hrules : ∀ c ∈ s.components, ∀ r ∈ c.2, Shows r.text) :
    minify s.text = "" ↔ Vanish [comment s.title] ∧ s.root = none ∧
      ∀ c ∈ s.components, Vanish [comment ("Component: " ++ c.1)] ∧ c.2 = [] := by
  have hmin : minify s.text = "" ↔ Vanish s.parts := by
    rw [Vanish, ← shorten_eq_nil_iff, minify, ← String.toList_eq_nil_iff, String.toList_ofList, text]
  rw [hmin, parts]
  cases hr : s.root with
  | none =>
    rw [hdark hr, ← vanish_components_iff hrules]
    simp only [Option.toList_none, List.flatMap_nil, List.append_nil, List.cons_append, List.nil_append,
      true_and]
    exact vanish_comment_cons
  | some b =>
    simp only [Option.toList_some, List.flatMap_cons, List.cons_append, List.nil_append, reduceCtorEq, false_and,
      and_false, iff_false]
    rw [vanish_comment_cons, vanish_empty_cons]
    exact fun hv => (hroot b hr).not_vanish hv.2

end Sheet

namespace Component

variable {c : Component} {tokens : Tokens} {pre : String} {r : Rule}

/-- All rules of a component are about a class. -/
theorem selectors_of_mem_rules (h : r ∈ c.rules tokens pre) : ∃ s, r.selectors = ["." ++ s] := by
  rw [rules_eq] at h
  obtain ⟨clause, -, rfl⟩ := List.mem_map.mp h
  exact ⟨_, by rw [clauseRule, String.append_assoc]⟩

/-- No styles at all, or none but under conditions that ask for nothing. -/
structure Unstyled (c : Component) : Prop where
  base : ∀ styles, c.baseStyles = some styles → styles.isEmpty = true
  flat : ∀ key styles, (key, .flat styles) ∈ c.mappings.entries → styles.isEmpty = true
  conditional : ∀ key entries, (key, .conditional entries) ∈ c.mappings.entries →
    ∀ e ∈ entries, e.condition.isEmpty = true ∨ e.styles.isEmpty = true

theorem mappingClauses_eq_nil_iff {key : String} {mapping : Mapping} :
    mapping.clauses key = [] ↔ match mapping with
      | .flat styles => styles.isEmpty = true
      | .conditional entries => ∀ e ∈ entries, e.condition.isEmpty = true ∨ e.styles.isEmpty = true := by
  cases mapping with
  | flat styles => simp [Mapping.clauses]
  | conditional entries =>
    rw [Mapping.clauses, List.map_eq_nil_iff, List.filter_eq_nil_iff]
    refine forall₂_congr fun e _ => ?_
    rw [ConditionalStyles.isStyled]
    cases e.condition.isEmpty <;> simp

theorem rules_eq_nil_iff : c.rules tokens pre = [] ↔ c.Unstyled := by
  have hbase : c.styledBase?.toList = [] ↔ ∀ styles, c.baseStyles = some styles → styles.isEmpty = true := by
    simp [styledBase?]
  rw [rules_eq, List.map_eq_nil_iff, clauses, List.append_eq_nil_iff, List.map_eq_nil_iff, hbase,
    List.flatMap_eq_nil_iff]
  simp only [mappingClauses_eq_nil_iff]
  constructor
  · rintro ⟨hb, hm⟩
    exact ⟨hb, fun key styles h => hm _ h, fun key entries h => hm _ h⟩
  · intro h
    refine ⟨h.base, ?_⟩
    rintro ⟨key, mapping⟩ hm
    cases mapping with
    | flat styles => exact h.flat key styles hm
    | conditional entries => exact h.conditional key entries hm

end Component

namespace DesignSystem

variable {s : DesignSystem}

theorem shows_root : Shows ":root" := ⟨':', rfl, by decide, by decide⟩

theorem shows_dot : Shows "." := ⟨'.', rfl, by decide, by decide⟩

/-- No custom properties, no rules, and names that end no comment. -/
structure Vanishes (s : DesignSystem) : Prop where
  properties : s.settings.cssVariables = false
  title : Vanish [comment s.sheet.title]
  components : ∀ e ∈ s.components.entries, Vanish [comment ("Component: " ++ e.1)] ∧ e.2.Unstyled

theorem css_true_eq_empty_iff : s.css true = "" ↔ s.Vanishes := by
  have hroot : s.sheet.root = none ↔ s.settings.cssVariables = false := by
    unfold sheet
    cases s.settings.cssVariables <;> simp
  have hdark : s.sheet.root = none → s.sheet.dark = none := by
    rw [hroot]
    intro h
    unfold sheet
    simp [h]
  have hshows : ∀ b, s.sheet.root = some b → Shows b.text := by
    intro b hb
    unfold sheet at hb
    dsimp only at hb
    split at hb
    · cases hb
      exact Rule.shows_text (r := s.tokens.rootRule s.pre) rfl shows_root
    · cases hb
  have hrules : ∀ c ∈ s.sheet.components, ∀ r ∈ c.2, Shows r.text := by
    intro c hc r hr
    obtain ⟨e, -, rfl⟩ := List.mem_map.mp hc
    obtain ⟨selector, hs⟩ := Component.selectors_of_mem_rules hr
    exact Rule.shows_text hs (shows_dot.append selector)
  have hcomponents : (∀ c ∈ s.sheet.components, Vanish [comment ("Component: " ++ c.1)] ∧ c.2 = []) ↔
      ∀ e ∈ s.components.entries, Vanish [comment ("Component: " ++ e.1)] ∧ e.2.Unstyled := by
    unfold sheet
    simp only [List.forall_mem_map, Component.rules_eq_nil_iff]
  rw [css, if_pos rfl, Sheet.minify_eq_empty_iff hdark hshows hrules, hroot, hcomponents]
  constructor
  · rintro ⟨ht, hp, hc⟩
    exact ⟨hp, ht, hc⟩
  · intro h
    exact ⟨h.title, h.properties, h.components⟩

theorem css_false_ne_empty (s : DesignSystem) : s.css false ≠ "" := by
  have h : (comment s.sheet.title).toList.head? = some '/' := by
    rw [toList_comment]
    rfl
  intro hcss
  have hhead : (s.css false).toList.head? = some '/' := by
    rw [css_false, Sheet.text, Sheet.parts]
    exact head?_joinWith _ _ h
  rw [hcss] at hhead
  cases hhead

theorem vanishes_withPrefix? (p : Option String) : (s.withPrefix? p).Vanishes ↔ s.Vanishes := by
  cases p with
  | none => exact Iff.rfl
  | some p =>
    rw [withPrefix?]
    split
    · exact Iff.rfl
    · constructor <;> exact fun h => ⟨h.properties, h.title, h.components⟩

variable {o : BuildOptions} {b : Build}

theorem css_build_eq_empty_iff (h : s.build o = .ok b) :
    b.css = "" ↔ s.Withheld o ∨ o.short = true ∧ s.Vanishes := by
  have hcss : (s.withPrefix? o.cssPrefix).css o.short = "" ↔ o.short = true ∧ s.Vanishes := by
    cases o.short with
    | true => simp [css_true_eq_empty_iff, vanishes_withPrefix?]
    | false => simp [css_false_ne_empty]
  obtain ⟨-, m, -, ⟨hw, rfl⟩ | ⟨hw, -, rfl⟩⟩ := build_eq_ok_iff.mp h
  · simp [hw]
  · simp [hw, hcss]

theorem not_withheld_of_success (h : s.build o = .ok b) (hs : b.success = true) : ¬ s.Withheld o := by
  obtain ⟨-, m, -, ⟨-, rfl⟩ | ⟨hw, -⟩⟩ := build_eq_ok_iff.mp h
  · cases hs
  · exact hw

/-- There is a build exactly if all that it writes can be written. Its stylesheet is empty if it is held back, or
if it is shortened and there is nothing in it but comments. A build that holds it back is no success. -/
theorem build_css_eq_empty_iff (s : DesignSystem) (o : BuildOptions) :
    ((∃ b, s.build o = .ok b) ↔ s.CanBuild o) ∧
    ∀ b, s.build o = .ok b →
      (b.css = "" ↔ s.Withheld o ∨ o.short = true ∧ s.Vanishes) ∧
      (b.success = true → (b.css = "" ↔ o.short = true ∧ s.Vanishes)) := by
  refine ⟨exists_build_iff, fun b hb => ⟨css_build_eq_empty_iff hb, fun hs => ?_⟩⟩
  rw [css_build_eq_empty_iff hb, or_iff_right (not_withheld_of_success hb hs)]

/-- A component without styles. -/
def box : Component := ⟨"Box", none, ∅, [], ∅, none⟩

theorem box_unstyled : box.Unstyled where
  base _ h := nomatch h
  flat _ _ h := nomatch h
  conditional _ _ h := nomatch h

def wireframe : DesignSystem where
  name := "acme"
  version := none
  tokens := ∅
  darkTokens := none
  components := .ofList [("Box", box)]
  settings := { Settings.default with cssVariables := false }

theorem wireframe_vanishes : wireframe.Vanishes where
  properties := rfl
  title := vanish_comment (by decide)
  components := by
    intro e he
    obtain rfl := List.mem_singleton.mp he
    exact ⟨vanish_comment (by decide), box_unstyled⟩

theorem wireframe_canBuild (o : BuildOptions) : wireframe.CanBuild o where
  issues := by decide
  manifest := ⟨by decide, by decide⟩
  sheet _ := by decide

theorem exists_build_wireframe : ∃ b, wireframe.build ⟨true, none, none⟩ = .ok b ∧ b.success = true := by
  obtain ⟨b, hb⟩ := exists_build_iff.mpr (wireframe_canBuild ⟨true, none, none⟩)
  have hs : (wireframe.build ⟨true, none, none⟩).toOption.map Build.success = some true := by decide
  rw [hb] at hs
  exact ⟨b, hb, Option.some.inj hs⟩

theorem build_css_eq_empty_iff_wireframe :
    (∃ b, wireframe.build ⟨true, none, none⟩ = .ok b ∧ b.success = true ∧ b.css = "") ∧
    ∃ b, wireframe.build ⟨false, none, some true⟩ = .ok b ∧ b.css ≠ "" := by
  constructor
  · obtain ⟨b, hb, hs⟩ := exists_build_wireframe
    have hempty := (build_css_eq_empty_iff wireframe ⟨true, none, none⟩).2 b hb
    exact ⟨b, hb, hs, (hempty.2 hs).mpr ⟨rfl, wireframe_vanishes⟩⟩
  · obtain ⟨hends, hempty⟩ := build_css_eq_empty_iff wireframe ⟨false, none, some true⟩
    obtain ⟨b, hb⟩ := hends.mpr (wireframe_canBuild _)
    refine ⟨b, hb, fun hcss => ?_⟩
    rcases (hempty b hb).1.mp hcss with ⟨-, hv⟩ | ⟨hf, -⟩
    · have hvalid : (wireframe.check (some true)).valid = true := by decide
      exact absurd hv (by simpa using hvalid)
    · cases hf

/-- Not all empty stylesheets are held back, nor has every success one that is not empty. -/
theorem build_css_empty : ¬ ∀ (s : DesignSystem) (o : BuildOptions) (b : Build), s.build o = .ok b →
    (b.css = "" ↔ s.Withheld o) ∧ (b.success = true → b.css ≠ "") := by
  intro h
  obtain ⟨b, hb, hs⟩ := exists_build_wireframe
  exact (h wireframe _ b hb).2 hs ((css_build_eq_empty_iff hb).mpr (.inr ⟨rfl, wireframe_vanishes⟩))

/-- The wireframe with a rule about a day, in a component that is listed under another name. -/
def calendar : DesignSystem := { wireframe with
  components := .ofList [("Day", { box with
    constraints := [
      { trigger := .ofList [("since", .compares .atLeast (.moment (.day ⟨2024, 2, 29⟩)))]
        consequence := .forbid ["until"]
        suggest := none
        message := none }] })] }

/-- A day has no form in JSON, so there is no build, although its stylesheet would be held back. -/
example : calendar.Withheld ⟨true, none, some true⟩ ∧
    (calendar.build ⟨true, none, some true⟩).toOption.isNone = true := ⟨⟨rfl, by decide⟩, by decide⟩

end DesignSystem

end Stylebook
