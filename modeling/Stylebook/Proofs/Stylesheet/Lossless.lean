import Stylebook.Proofs.Stylesheet.Short

/-!
What shortening keeps. A text without comments keeps all of its lexemes but the semicolons before a closing
brace, and of its blanks there is one space left between two words. A second time there is nothing more to
shorten, unless one semicolon comes right after another.
-/

namespace Stylebook.Minify

open Text

variable {c : Char} {a b run s w : List Char} {ls : List Lexeme}

section Reading

/-- Lexemes are read back from their text: the space keeps two words apart, and marks stand for themselves. -/
theorem lexemes_render (h : ∀ l ∈ ls, l.IsProper) : lexemes (render ls) = ls := by
  induction ls with
  | nil => rfl
  | cons l ls ih =>
    rw [List.forall_mem_cons] at h
    have ih := ih h.2
    cases h.1 with
    | @mark c hc => rw [render, lexemes, lexemesFrom_mark hc, ih, wordOf_nil, List.nil_append]
    | @word w hw hp =>
      have hone := wordOf_of_ne_nil hw
      rw [render, List.append_assoc, lexemes, lexemesFrom_append_plain hp, List.nil_append]
      cases ls with
      | nil => rw [gap_nil, render, List.append_nil, lexemesFrom, hone]
      | cons l ls =>
        cases h.2 l List.mem_cons_self with
        | @mark c hc =>
          rw [render, lexemes, lexemesFrom_mark hc, wordOf_nil, List.nil_append] at ih
          rw [gap_mark, List.nil_append, render, lexemesFrom_mark hc, hone, ih, List.singleton_append]
        | word hv hq =>
          rw [gap, List.singleton_append, lexemesFrom_blank (by decide), hone, ih, List.singleton_append]

/-- A single space with words on both sides. -/
structure SpaceBetween (a : List Char) (c : Char) (b : List Char) : Prop where
  space : c = ' '
  before : ∃ d ∈ a.getLast?, isPlain d = true
  after : ∃ d ∈ b.head?, isPlain d = true

theorem SpaceBetween.behind (s : List Char) (h : SpaceBetween a c b) : SpaceBetween (s ++ a) c b := by
  obtain ⟨d, hd, hp⟩ := h.before
  exact ⟨h.space, ⟨d, by simp [Option.mem_def.mp hd], hp⟩, h.after⟩

/-- The text of a word first starts with a character of the word. -/
theorem head?_render_word (hw : w ≠ []) (hp : ∀ d ∈ w, isPlain d = true) (ls : List Lexeme) :
    ∃ d ∈ (render (.word w :: ls)).head?, isPlain d = true := by
  obtain ⟨d, w, rfl⟩ := List.exists_cons_of_ne_nil hw
  exact ⟨d, rfl, hp d List.mem_cons_self⟩

/-- Behind a word there is the gap to the next lexeme, and it is a space only before a word. -/
theorem spaceBetween_gap (hw : w ≠ []) (hp : ∀ d ∈ w, isPlain d = true) (h : ∀ l ∈ ls, l.IsProper)
    (hlater : ∀ {a}, render ls = a ++ c :: b → SpaceBetween a c b) (hr : gap ls ++ render ls = s ++ c :: b) :
    SpaceBetween (w ++ s) c b := by
  cases ls with
  | nil => simp [render] at hr
  | cons l ls =>
    cases h l List.mem_cons_self with
    | mark => exact (hlater hr).behind w
    | word hv hq =>
      cases s with
      | nil =>
        obtain ⟨rfl, rfl⟩ := List.cons.inj hr
        have hlast := w.getLast?_eq_some_getLast hw
        exact ⟨rfl, ⟨w.getLast hw, by simp [hlast], hp _ (List.getLast_mem hw)⟩, head?_render_word hv hq ls⟩
      | cons d s =>
        obtain ⟨rfl, hrest⟩ := List.cons.inj hr
        have hs := (hlater hrest).behind (w ++ [' '])
        rwa [List.append_assoc, List.singleton_append] at hs

/-- The only blanks in the text of lexemes are single spaces with words on both sides. -/
theorem spaceBetween_of_render (h : ∀ l ∈ ls, l.IsProper) (hr : render ls = a ++ c :: b)
    (hc : isBlank c = true) : SpaceBetween a c b := by
  induction ls generalizing a with
  | nil => simp [render] at hr
  | cons l ls ih =>
    rw [List.forall_mem_cons] at h
    have hlater {a : List Char} (hr : render ls = a ++ c :: b) : SpaceBetween a c b := ih h.2 hr
    cases h.1 with
    | @mark m hm =>
      cases a with
      | nil =>
        cases hr
        rw [isBlank_of_isMark hm] at hc
        cases hc
      | cons d a =>
        obtain ⟨rfl, hrest⟩ := List.cons.inj hr
        exact (hlater hrest).behind [m]
    | @word w hw hp =>
      rw [render, List.append_assoc, List.append_eq_append_iff] at hr
      obtain ⟨s, rfl, hs⟩ | ⟨s, rfl, hs⟩ := hr
      · exact spaceBetween_gap hw hp h.2 hlater hs
      · -- the blank is not within the word
        cases s with
        | nil =>
          have hend := spaceBetween_gap hw hp h.2 hlater (s := []) hs.symm
          rwa [List.append_nil, List.append_nil] at hend
        | cons d s =>
          obtain ⟨rfl, -⟩ := List.cons.inj hs
          have hplain := (isPlain_iff.mp (hp c (by simp))).1
          rw [hplain] at hc
          cases hc

end Reading

section Opening

/-- The start of a comment. -/
def opening : List Char := ['/', '*']

theorem isPlain_of_mem_opening : ∀ c ∈ opening, isPlain c = true := by
  rw [opening, List.forall_mem_cons, List.forall_mem_singleton]
  decide

theorem dropComments_eq_self (h : ¬ opening <:+: s) : dropComments s = s := by
  induction s with
  | nil => rw [dropComments]
  | cons c s ih =>
    rw [List.infix_cons_iff, not_or] at h
    rw [dropComments_cons ?_, ih h.2]
    by_cases hc : c = '/'
    · subst hc
      right
      intro hs
      obtain ⟨t, rfl⟩ := List.head?_eq_some_iff.mp hs
      exact h.1 ⟨t, rfl⟩
    · exact .inl hc

/-- A word under way is the start of a word. -/
theorem exists_word_lexemesFrom (h : run ≠ []) : ∃ v, .word (run ++ v) ∈ lexemesFrom run s := by
  have hend (ls : List Lexeme) : ∃ v, .word (run ++ v) ∈ wordOf run ++ ls :=
    ⟨[], by simp [wordOf_of_ne_nil h]⟩
  induction s generalizing run with
  | nil => simpa [lexemesFrom] using hend []
  | cons c s ih =>
    obtain hc | hc | hc := blank_or_mark_or_plain c
    · rw [lexemesFrom_blank hc]
      exact hend _
    · rw [lexemesFrom_mark hc]
      exact hend _
    · have hrun : run ++ [c] ≠ [] := by simp
      obtain ⟨v, hv⟩ := ih hrun fun ls => ⟨[], by simp [wordOf_of_ne_nil hrun]⟩
      rw [lexemesFrom_plain hc]
      exact ⟨c :: v, by simpa using hv⟩

/-- What has neither blanks nor marks in it stands within a word. -/
theorem exists_word_of_infix (hne : w ≠ []) (hw : ∀ c ∈ w, isPlain c = true) (h : w <:+: s)
    (run : List Char) : ∃ v, .word v ∈ lexemesFrom run s ∧ w <:+: v := by
  obtain ⟨before, after, rfl⟩ := h
  rw [List.append_assoc]
  induction before generalizing run with
  | nil =>
    have hrun : run ++ w ≠ [] := by simp [hne]
    obtain ⟨v, hv⟩ := exists_word_lexemesFrom (s := after) hrun
    rw [List.nil_append, lexemesFrom_append_plain hw]
    exact ⟨_, hv, run, v, rfl⟩
  | cons c before ih =>
    rw [List.cons_append]
    obtain hc | hc | hc := blank_or_mark_or_plain c
    · obtain ⟨v, hv, hi⟩ := ih []
      rw [lexemesFrom_blank hc]
      exact ⟨v, List.mem_append_right _ hv, hi⟩
    · obtain ⟨v, hv, hi⟩ := ih []
      rw [lexemesFrom_mark hc]
      exact ⟨v, List.mem_append_right _ (List.mem_cons_of_mem _ hv), hi⟩
    · rw [lexemesFrom_plain hc]
      exact ih (run ++ [c])

theorem infix_of_word_mem (h : .word w ∈ lexemesFrom run s) : w <:+: run ++ s := by
  have hone {run s : List Char} {ls : List Lexeme} (hm : .word w ∈ wordOf run ++ ls)
      (hs : .word w ∈ ls → w <:+: s) : w <:+: run ++ s := by
    obtain hm | hm := List.mem_append.mp hm
    · rw [wordOf] at hm
      split at hm
      · cases hm
      · cases List.mem_singleton.mp hm
        exact List.infix_append' [] w s
    · exact (hs hm).trans (List.suffix_append run s).isInfix
  induction s generalizing run with
  | nil =>
    rw [lexemesFrom, ← List.append_nil (wordOf run)] at h
    exact hone h fun hm => absurd hm List.not_mem_nil
  | cons c s ih =>
    have hlater (hm : .word w ∈ lexemes s) : w <:+: c :: s := by
      have hs : w <:+: [] ++ s := ih hm
      exact hs.trans (List.suffix_cons c s).isInfix
    obtain hc | hc | hc := blank_or_mark_or_plain c
    · rw [lexemesFrom_blank hc] at h
      exact hone h hlater
    · rw [lexemesFrom_mark hc] at h
      refine hone h fun hm => hlater ?_
      simpa using hm
    · rw [lexemesFrom_plain hc] at h
      simpa using ih h

end Opening

section Semicolons

/-- Without two semicolons in a row, none is left before a closing brace. -/
theorem dropSemicolons_again (h : ¬ [.mark ';', .mark ';'] <:+: ls) :
    dropSemicolons (dropSemicolons ls) = dropSemicolons ls := by
  induction ls with
  | nil => rfl
  | cons l ls ih =>
    rw [List.infix_cons_iff, not_or] at h
    have ih := ih h.2
    by_cases hdrop : l = .mark ';' ∧ ls.head? = some (.mark '\x7d')
    · rw [dropSemicolons, if_pos hdrop, ih]
    · rw [dropSemicolons, if_neg hdrop, dropSemicolons, if_neg ?_, ih]
      rintro ⟨rfl, hhead⟩
      -- a brace comes next only now, so a semicolon stood between
      cases ls with
      | nil => cases hhead
      | cons m ls =>
        rw [dropSemicolons] at hhead
        split at hhead
        · rename_i hm
          exact h.1 ⟨ls, by rw [hm.1]; rfl⟩
        · exact hdrop ⟨rfl, hhead⟩

end Semicolons

end Stylebook.Minify

namespace Stylebook

open Minify

/-- Shortening a text without comments keeps its lexemes, semicolons before a closing brace left out. The
blanks that stay are single spaces between two words. Shortening again changes nothing, if no semicolon comes
right after another. -/
theorem lexemes_minify {css : String} (h : ¬ opening <:+: css.toList) :
    lexemes (minify css).toList = dropSemicolons (lexemes css.toList) ∧
    (∀ before c after, (minify css).toList = before ++ c :: after → Text.isBlank c = true →
      SpaceBetween before c after) ∧
    (¬ [.mark ';', .mark ';'] <:+: lexemes css.toList → minify (minify css) = minify css) := by
  have hproper : ∀ l ∈ dropSemicolons (lexemes css.toList), l.IsProper :=
    fun l hl => isProper_lexemesFrom (by simp) l (mem_of_mem_dropSemicolons hl)
  have hshort {s : List Char} (hs : ¬ opening <:+: s) : shorten s = render (dropSemicolons (lexemes s)) := by
    rw [shorten_eq, dropComments_eq_self hs]
  have htext : (minify css).toList = render (dropSemicolons (lexemes css.toList)) := by
    rw [minify, String.toList_ofList, hshort h]
  have hread : lexemes (minify css).toList = dropSemicolons (lexemes css.toList) := by
    rw [htext, lexemes_render hproper]
  refine ⟨hread, fun before c after he hc => spaceBetween_of_render hproper (htext ▸ he) hc, fun hs => ?_⟩
  have hopening : ¬ opening <:+: (minify css).toList := by
    intro ho
    obtain ⟨w, hw, hi⟩ := exists_word_of_infix (by decide) isPlain_of_mem_opening ho []
    have hmem : .word w ∈ lexemes css.toList := mem_of_mem_dropSemicolons (hread ▸ hw)
    exact h (hi.trans (infix_of_word_mem hmem))
  rw [minify, hshort hopening, hread, dropSemicolons_again hs, ← htext, String.ofList_toList]

/-- Of two semicolons one comes before a closing brace. -/
theorem lexemes_minify_loose :
    ¬ opening <:+: "a  b: c ;\n\x7d ; ".toList ∧
    ¬ [.mark ';', .mark ';'] <:+: lexemes "a  b: c ;\n\x7d ; ".toList ∧
    lexemes (minify "a  b: c ;\n\x7d ; ").toList =
      [.word ['a'], .word ['b'], .mark ':', .word ['c'], .mark '\x7d', .mark ';'] ∧
    minify (minify "a  b: c ;\n\x7d ; ") = minify "a  b: c ;\n\x7d ; " := by
  have ho : ¬ opening <:+: "a  b: c ;\n\x7d ; ".toList :=
    fun hi => absurd (hi.subset (List.mem_cons_self (a := '/'))) (by decide)
  have hs : ¬ [.mark ';', .mark ';'] <:+: lexemes "a  b: c ;\n\x7d ; ".toList := by
    have hl : lexemes "a  b: c ;\n\x7d ; ".toList =
        [.word ['a'], .word ['b'], .mark ':', .word ['c'], .mark ';', .mark '\x7d', .mark ';'] := by
      decide
    rw [hl]
    simp [List.infix_cons_iff]
  obtain ⟨hread, -, hagain⟩ := lexemes_minify ho
  refine ⟨ho, hs, hread.trans ?_, hagain hs⟩
  decide

end Stylebook
