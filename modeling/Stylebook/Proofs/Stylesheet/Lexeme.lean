import Stylebook.Stylesheet.Minify

/-!
The lexemes of a stylesheet: the marks, and the words between marks and blanks. Shortening keeps the
lexemes of a text without its comments, semicolons before a closing brace left out, and writes them with
one space between two words and nothing between others.
-/

namespace Stylebook.Minify

open Text

inductive Lexeme where
  | mark (c : Char)
  | word (w : List Char)
  deriving DecidableEq, Repr

/-- A run of characters as a word, if there is one. -/
def wordOf (run : List Char) : List Lexeme := if run.isEmpty then [] else [.word run]

/-- The lexemes of a text, `run` being the word under way. -/
def lexemesFrom (run : List Char) : List Char → List Lexeme
  | [] => wordOf run
  | c :: cs =>
    if isBlank c then wordOf run ++ lexemesFrom [] cs
    else if isMark c then wordOf run ++ .mark c :: lexemesFrom [] cs
    else lexemesFrom (run ++ [c]) cs

def lexemes (s : List Char) : List Lexeme := lexemesFrom [] s

/-- What keeps a word apart from the lexemes after it. -/
def gap : List Lexeme → List Char
  | .word _ :: _ => [' ']
  | _ => []

@[simp] theorem gap_nil : gap [] = [] := rfl

@[simp] theorem gap_mark (c : Char) (ls : List Lexeme) : gap (.mark c :: ls) = [] := rfl

/-- Lexemes as text. -/
def render : List Lexeme → List Char
  | [] => []
  | .mark c :: rest => c :: render rest
  | .word w :: rest => w ++ gap rest ++ render rest

/-- The lexemes without semicolons that stand before a closing brace. -/
def dropSemicolons : List Lexeme → List Lexeme
  | [] => []
  | l :: rest =>
    if l = .mark ';' ∧ rest.head? = some (.mark '\x7d') then dropSemicolons rest
    else l :: dropSemicolons rest

/-- A character that belongs to words. -/
def isPlain (c : Char) : Bool := !isBlank c && !isMark c

/-- Marks are marks, and words are words. -/
inductive Lexeme.IsProper : Lexeme → Prop
  | mark {c : Char} (h : isMark c = true) : IsProper (.mark c)
  | word {w : List Char} (hw : w ≠ []) (h : ∀ c ∈ w, isPlain c = true) : IsProper (.word w)

variable {c : Char} {w run s t out : List Char} {ls : List Lexeme}

theorem isBlank_of_isMark (h : isMark c = true) : isBlank c = false := by
  simp only [isMark, Bool.or_eq_true, beq_iff_eq] at h
  rcases h with (((rfl | rfl) | rfl) | rfl) | rfl <;> decide

theorem isMark_of_isBlank (h : isBlank c = true) : isMark c = false := by
  rw [← Bool.not_eq_true]
  intro hm
  rw [isBlank_of_isMark hm] at h
  cases h

theorem isPlain_iff : isPlain c = true ↔ isBlank c = false ∧ isMark c = false := by simp [isPlain]

theorem ne_space_of_nonblank (h : isBlank c = false) : c ≠ ' ' := by
  rintro rfl
  revert h
  decide

/-- A character ends a word as a blank or as a mark, or it belongs to one. -/
theorem blank_or_mark_or_plain (c : Char) :
    isBlank c = true ∨ isMark c = true ∨ isPlain c = true := by
  rw [isPlain_iff]
  cases isBlank c <;> cases isMark c <;> simp

section Lexemes

@[simp] theorem wordOf_nil : wordOf [] = [] := rfl

theorem wordOf_of_ne_nil (h : run ≠ []) : wordOf run = [.word run] := by
  rw [wordOf, if_neg (by simpa using h)]

theorem lexemesFrom_blank (h : isBlank c = true) :
    lexemesFrom run (c :: s) = wordOf run ++ lexemes s := by
  rw [lexemesFrom, if_pos h, lexemes]

theorem lexemesFrom_mark (h : isMark c = true) :
    lexemesFrom run (c :: s) = wordOf run ++ .mark c :: lexemes s := by
  rw [lexemesFrom, if_neg (by simp [isBlank_of_isMark h]), if_pos h, lexemes]

theorem lexemesFrom_plain (h : isPlain c = true) :
    lexemesFrom run (c :: s) = lexemesFrom (run ++ [c]) s := by
  rw [isPlain_iff] at h
  rw [lexemesFrom, if_neg (by simp [h.1]), if_neg (by simp [h.2])]

theorem lexemesFrom_append_plain (h : ∀ c ∈ w, isPlain c = true) (run s : List Char) :
    lexemesFrom run (w ++ s) = lexemesFrom (run ++ w) s := by
  induction w generalizing run with
  | nil => simp
  | cons c w ih =>
    rw [List.forall_mem_cons] at h
    rw [List.cons_append, lexemesFrom_plain h.1, ih h.2, List.append_assoc, List.singleton_append]

theorem lexemes_plain (h : ∀ c ∈ w, isPlain c = true) : lexemes w = wordOf w := by
  have hw := lexemesFrom_append_plain h [] []
  rwa [List.append_nil, List.nil_append] at hw

/-- What ends a word leaves a lexeme if it is a mark. -/
theorem lexemesFrom_append_break (h : isPlain c = false) (run s t : List Char) :
    lexemesFrom run (s ++ c :: t) =
      lexemesFrom run s ++ ((if isMark c then [.mark c] else []) ++ lexemes t) := by
  induction s generalizing run with
  | nil =>
    rcases blank_or_mark_or_plain c with hc | hc | hc
    · rw [List.nil_append, lexemesFrom_blank hc, lexemesFrom, isMark_of_isBlank hc]
      rfl
    · rw [List.nil_append, lexemesFrom_mark hc, lexemesFrom, if_pos hc]
      rfl
    · rw [h] at hc
      cases hc
  | cons d s ih =>
    rw [List.cons_append]
    rcases blank_or_mark_or_plain d with hd | hd | hd
    · rw [lexemesFrom_blank hd, lexemesFrom_blank hd, lexemes, ih, List.append_assoc, lexemes, lexemes]
    · rw [lexemesFrom_mark hd, lexemesFrom_mark hd, lexemes, ih, List.append_assoc,
        List.cons_append, lexemes, lexemes]
    · rw [lexemesFrom_plain hd, lexemesFrom_plain hd, ih]

theorem lexemes_append_blank (h : isBlank c = true) :
    lexemes (s ++ c :: t) = lexemes s ++ lexemes t := by
  have hb := lexemesFrom_append_break (c := c) (by simp [isPlain, h]) [] s t
  rwa [if_neg (by simp [isMark_of_isBlank h])] at hb

theorem lexemes_append_mark (h : isMark c = true) :
    lexemes (s ++ c :: t) = lexemes s ++ .mark c :: lexemes t := by
  have hb := lexemesFrom_append_break (c := c) (by simp [isPlain, h]) [] s t
  rwa [if_pos h] at hb

theorem isProper_wordOf (h : ∀ c ∈ run, isPlain c = true) : ∀ l ∈ wordOf run, l.IsProper := by
  intro l hl
  rw [wordOf] at hl
  split at hl
  · cases hl
  · rename_i hr
    obtain rfl := List.mem_singleton.mp hl
    exact .word (by simpa using hr) h

theorem isProper_lexemesFrom (h : ∀ c ∈ run, isPlain c = true) :
    ∀ l ∈ lexemesFrom run s, l.IsProper := by
  induction s generalizing run with
  | nil => exact isProper_wordOf h
  | cons c s ih =>
    rcases blank_or_mark_or_plain c with hc | hc | hc
    · rw [lexemesFrom_blank hc, List.forall_mem_append]
      exact ⟨isProper_wordOf h, ih (by simp)⟩
    · rw [lexemesFrom_mark hc, List.forall_mem_append, List.forall_mem_cons]
      exact ⟨isProper_wordOf h, .mark hc, ih (by simp)⟩
    · rw [lexemesFrom_plain hc]
      refine ih fun d hd => ?_
      rcases List.mem_append.mp hd with hd | hd
      · exact h d hd
      · rwa [List.mem_singleton.mp hd]

/-- The marks among the lexemes stand in the text. -/
theorem mem_of_mark_mem (h : .mark c ∈ lexemesFrom run s) : c ∈ s := by
  have hw : .mark c ∉ wordOf run := by
    rw [wordOf]
    split <;> simp
  induction s generalizing run with
  | nil => exact absurd h hw
  | cons d s ih =>
    rcases blank_or_mark_or_plain d with hd | hd | hd
    · rw [lexemesFrom_blank hd, List.mem_append, or_iff_right hw] at h
      exact List.mem_cons_of_mem _ (ih h (by simp))
    · rw [lexemesFrom_mark hd, List.mem_append, or_iff_right hw, List.mem_cons] at h
      rcases h with h | h
      · cases h
        exact List.mem_cons_self
      · exact List.mem_cons_of_mem _ (ih h (by simp))
    · rw [lexemesFrom_plain hd] at h
      refine List.mem_cons_of_mem _ (ih h ?_)
      rw [wordOf]
      split <;> simp

/-- A word under way comes first. -/
theorem gap_lexemesFrom (h : run ≠ []) : gap (lexemesFrom run s) = [' '] := by
  induction s generalizing run with
  | nil => rw [lexemesFrom, wordOf_of_ne_nil h, gap]
  | cons c s ih =>
    rcases blank_or_mark_or_plain c with hc | hc | hc
    · rw [lexemesFrom_blank hc, wordOf_of_ne_nil h, List.singleton_append, gap]
    · rw [lexemesFrom_mark hc, wordOf_of_ne_nil h, List.singleton_append, gap]
    · rw [lexemesFrom_plain hc]
      exact ih (by simp)

end Lexemes

section Render

theorem render_wordOf : render (wordOf run) = run := by
  rw [wordOf]
  split
  · rename_i h
    rw [List.isEmpty_iff.mp h, render]
  · simp [render, gap]

/-- Nothing stands beside a mark. -/
theorem render_append_mark {ms : List Lexeme} :
    render (ls ++ .mark c :: ms) = render ls ++ c :: render ms := by
  induction ls with
  | nil => rfl
  | cons l ls ih =>
    cases l with
    | mark d => rw [List.cons_append, render, ih, render, List.cons_append]
    | word w =>
      have hg : gap (ls ++ .mark c :: ms) = gap ls := by
        cases ls with
        | nil => rfl
        | cons l ls => cases l <;> rfl
      rw [List.cons_append, render, ih, hg, render, ← List.append_assoc]

theorem eq_nil_of_render (h : ∀ l ∈ ls, l.IsProper) (hr : render ls = []) : ls = [] := by
  cases ls with
  | nil => rfl
  | cons l ls =>
    cases h l List.mem_cons_self with
    | mark hc => cases hr
    | word hw hp =>
      rw [render, List.append_assoc, List.append_eq_nil_iff] at hr
      exact absurd hr.1 hw

theorem isBlank_of_head_render (h : ∀ l ∈ ls, l.IsProper) :
    ∀ c ∈ (render ls).head?, isBlank c = false := by
  cases ls with
  | nil => simp [render]
  | cons l ls =>
    rw [List.forall_mem_cons] at h
    cases h.1 with
    | mark hc =>
      intro c hm
      cases hm
      exact isBlank_of_isMark hc
    | word hw hp =>
      obtain ⟨c, w, rfl⟩ := List.exists_cons_of_ne_nil hw
      intro d hm
      cases hm
      exact (isPlain_iff.mp (hp c List.mem_cons_self)).1

theorem isBlank_of_getLast_render (h : ∀ l ∈ ls, l.IsProper) :
    ∀ c ∈ (render ls).getLast?, isBlank c = false := by
  induction ls with
  | nil => simp [render]
  | cons l ls ih =>
    rw [List.forall_mem_cons] at h
    have ih := ih h.2
    intro d hd
    cases h.1 with
    | mark hc =>
      rw [render, List.getLast?_cons] at hd
      cases hl : (render ls).getLast? with
      | none =>
        rw [hl] at hd
        cases hd
        exact isBlank_of_isMark hc
      | some e =>
        rw [hl] at hd ih
        cases hd
        exact ih _ rfl
    | @word w hw hp =>
      rw [render, List.getLast?_append] at hd
      cases hl : (render ls).getLast? with
      | some e =>
        rw [hl] at hd ih
        cases hd
        exact ih _ rfl
      | none =>
        -- no lexemes follow, so there is no space after the word
        obtain rfl := eq_nil_of_render h.2 (List.getLast?_eq_none_iff.mp hl)
        rw [hl, gap_nil, List.append_nil, Option.none_or] at hd
        exact (isPlain_iff.mp (hp d (List.mem_of_getLast? hd))).1

end Render

/-- The text is that of the lexemes, with a space after it perhaps. -/
def Writes (out : List Char) (ls : List Lexeme) : Prop := out = render ls ∨ out = render ls ++ [' ']

namespace Writes

theorem mark (h : Writes out ls) : Writes (c :: out) (.mark c :: ls) :=
  h.imp (congrArg (c :: ·)) (congrArg (c :: ·))

theorem word (h : Writes out ls) : Writes (w ++ gap ls ++ out) (.word w :: ls) := by
  rcases h with rfl | rfl
  · exact .inl rfl
  · exact .inr (List.append_assoc ..).symm

end Writes

theorem squeeze_blank {after : Bool} (h : isBlank c = true) :
    squeeze after (c :: s) = if after then squeeze true s else ' ' :: squeeze true s := by
  rw [squeeze, if_pos h]

theorem squeeze_nonblank {after : Bool} (h : isBlank c = false) :
    squeeze after (c :: s) = c :: squeeze false s := by
  rw [squeeze, if_neg (by simp [h])]

theorem tighten_nonblank {before : Bool} (h : isBlank c = false) :
    tighten before (c :: s) = c :: tighten (isMark c) s := by
  rw [tighten, if_neg (by simp [ne_space_of_nonblank h])]

/-- The invariant of squeezing and tightening: what is to come after a mark, after a word, after a
blank that follows a word, and after a blank that was dropped. -/
theorem writes_tighten (s : List Char) :
    Writes (tighten true (squeeze false s)) (lexemes s) ∧
    (∀ run, run ≠ [] → Writes (run ++ tighten false (squeeze false s)) (lexemesFrom run s)) ∧
    (∀ run, run ≠ [] →
      Writes (run ++ tighten false (' ' :: squeeze true s)) (.word run :: lexemes s)) ∧
    ∀ before, Writes (tighten before (squeeze true s)) (lexemes s) := by
  induction s with
  | nil =>
    refine ⟨.inl rfl, fun run hr => .inl ?_, fun run hr => .inr ?_, fun before => .inl rfl⟩
    · rw [lexemesFrom, render_wordOf]
      simp [squeeze, tighten]
    · simp [squeeze, tighten, lexemes, lexemesFrom, render, gap]
  | cons c s ih =>
    obtain ⟨hmark, hword, hblank, hdropped⟩ := ih
    -- a blank only changes the state; a mark is written, and so is a character of a word
    rcases blank_or_mark_or_plain c with hc | hc | hc
    · have hl : lexemes (c :: s) = lexemes s := by rw [lexemes, lexemesFrom_blank hc]; rfl
      simp only [squeeze_blank hc, hl, if_true, Bool.false_eq_true, if_false]
      refine ⟨?_, fun run hr => ?_, hblank, hdropped⟩
      · rw [tighten, if_pos (by simp)]
        exact hdropped false
      · rw [lexemesFrom_blank hc, wordOf_of_ne_nil hr]
        exact hblank run hr
    · have hb := isBlank_of_isMark hc
      have hl : lexemes (c :: s) = .mark c :: lexemes s := by rw [lexemes, lexemesFrom_mark hc]; rfl
      have hout (before : Bool) : Writes (tighten before (c :: squeeze false s)) (.mark c :: lexemes s) := by
        rw [tighten_nonblank hb, hc]
        exact hmark.mark
      have hrun (run : List Char) :
          Writes (run ++ tighten false (c :: squeeze false s)) (.word run :: .mark c :: lexemes s) := by
        have hw := (hout false).word (w := run)
        rwa [gap_mark, List.append_nil] at hw
      simp only [squeeze_nonblank hb, hl]
      refine ⟨hout true, fun run hr => ?_, fun run hr => ?_, hout⟩
      · rw [lexemesFrom_mark hc, wordOf_of_ne_nil hr]
        exact hrun run
      · rw [tighten, if_pos (by simp [hc])]
        exact hrun run
    · obtain ⟨hb, hm⟩ := isPlain_iff.mp hc
      have hl : lexemes (c :: s) = lexemesFrom [c] s := by rw [lexemes, lexemesFrom_plain hc]; rfl
      have hout (before : Bool) : Writes (tighten before (c :: squeeze false s)) (lexemesFrom [c] s) := by
        rw [tighten_nonblank hb, hm]
        exact hword [c] (by simp)
      simp only [squeeze_nonblank hb, hl]
      refine ⟨hout true, fun run hr => ?_, fun run hr => ?_, hout⟩
      · rw [lexemesFrom_plain hc, tighten_nonblank hb, hm, List.append_cons]
        exact hword (run ++ [c]) (by simp)
      · have hw := (hout false).word (w := run)
        rw [gap_lexemesFrom (by simp), List.append_assoc] at hw
        rw [tighten, if_neg (by simp [hm])]
        exact hw

/-- A text at whose start there is no word yet may have a space before its lexemes, too. -/
theorem exists_tighten_squeeze (s : List Char) :
    ∃ lead out, (lead = [] ∨ lead = [' ']) ∧ tighten false (squeeze false s) = lead ++ out ∧
      Writes out (lexemes s) := by
  cases s with
  | nil => exact ⟨[], [], .inl rfl, rfl, .inl rfl⟩
  | cons c s =>
    cases hc : isBlank c with
    | false =>
      refine ⟨[], _, .inl rfl, rfl, ?_⟩
      have h := (writes_tighten (c :: s)).1
      rwa [squeeze_nonblank hc, tighten_nonblank hc] at h ⊢
    | true =>
      have h := (writes_tighten s).2.2.2 false
      have hl : lexemes (c :: s) = lexemes s := by rw [lexemes, lexemesFrom_blank hc]; rfl
      rw [squeeze_blank hc, if_neg Bool.false_ne_true, tighten, hl]
      split
      · exact ⟨[], _, .inl rfl, rfl, h⟩
      · exact ⟨[' '], _, .inr rfl, rfl, h⟩

section Semicolons

theorem dropFinalSemicolons_append (h : ';' ∉ w) :
    dropFinalSemicolons (w ++ s) = w ++ dropFinalSemicolons s := by
  induction w with
  | nil => rfl
  | cons c w ih =>
    rw [List.mem_cons, not_or] at h
    rw [List.cons_append, dropFinalSemicolons, if_neg (by simp [Ne.symm h.1]), ih h.2,
      List.cons_append]

theorem mem_of_mem_dropSemicolons {l : Lexeme} (h : l ∈ dropSemicolons ls) : l ∈ ls := by
  induction ls with
  | nil => exact h
  | cons m ls ih =>
    rw [dropSemicolons] at h
    split at h
    · exact List.mem_cons_of_mem _ (ih h)
    · rcases List.mem_cons.mp h with rfl | h
      · exact List.mem_cons_self
      · exact List.mem_cons_of_mem _ (ih h)

theorem gap_dropSemicolons : gap (dropSemicolons ls) = gap ls := by
  induction ls with
  | nil => rfl
  | cons l ls ih =>
    rw [dropSemicolons]
    split
    · rename_i h
      obtain ⟨rfl, h⟩ := h
      rw [ih]
      cases ls with
      | nil => rfl
      | cons l ls => cases h; rfl
    · cases l <;> rfl

theorem head?_render_eq_iff (h : ∀ l ∈ ls, l.IsProper) (ht : t = [] ∨ t = [' ']) (hc : isMark c = true) :
    (render ls ++ t).head? = some c ↔ ls.head? = some (.mark c) := by
  cases ls with
  | nil =>
    rcases ht with rfl | rfl
    · simp [render]
    · simpa [render] using (ne_space_of_nonblank (isBlank_of_isMark hc)).symm
  | cons l ls =>
    cases h l List.mem_cons_self with
    | mark hd => simp [render]
    | word hw hp =>
      obtain ⟨d, w, rfl⟩ := List.exists_cons_of_ne_nil hw
      have hd := (isPlain_iff.mp (hp d List.mem_cons_self)).2
      have hne : d ≠ c := by
        rintro rfl
        rw [hc] at hd
        cases hd
      simpa [render] using hne

/-- Dropping semicolons from the text drops them from its lexemes. -/
theorem dropFinalSemicolons_render (h : ∀ l ∈ ls, l.IsProper) (ht : t = [] ∨ t = [' ']) :
    dropFinalSemicolons (render ls ++ t) = render (dropSemicolons ls) ++ t := by
  induction ls with
  | nil => rcases ht with rfl | rfl <;> rfl
  | cons l ls ih =>
    rw [List.forall_mem_cons] at h
    have hhead := head?_render_eq_iff (c := '\x7d') h.2 ht (by decide)
    have ih := ih h.2
    cases h.1 with
    | @mark c hc =>
      rw [render, List.cons_append, dropFinalSemicolons, dropSemicolons, ih]
      simp only [Bool.and_eq_true, beq_iff_eq, hhead, Lexeme.mark.injEq]
      split <;> rfl
    | @word w hw hp =>
      have hs : ';' ∉ w ++ gap ls := by
        rw [List.mem_append, not_or]
        constructor
        · intro hm
          exact absurd (hp _ hm) (by decide)
        · cases ls with
          | nil => simp [gap]
          | cons l ls => cases l <;> simp [gap]
      rw [render, List.append_assoc, dropFinalSemicolons_append hs, ih, dropSemicolons,
        if_neg (by simp), render, gap_dropSemicolons, ← List.append_assoc]

end Semicolons

/-- Shortening a text writes the lexemes that it has without its comments. -/
theorem shorten_eq (s : List Char) :
    shorten s = render (dropSemicolons (lexemes (dropComments s))) := by
  obtain ⟨lead, out, hlead, he, hout⟩ := exists_tighten_squeeze (dropComments s)
  have hp : ∀ l ∈ lexemes (dropComments s), l.IsProper := isProper_lexemesFrom (by simp)
  obtain ⟨t, ht, rfl⟩ : ∃ t, (t = [] ∨ t = [' ']) ∧ out = render (lexemes (dropComments s)) ++ t := by
    rcases hout with rfl | rfl
    · exact ⟨[], .inl rfl, (List.append_nil _).symm⟩
    · exact ⟨[' '], .inr rfl, rfl⟩
  have hblank : ∀ b : List Char, b = [] ∨ b = [' '] → ∀ c ∈ b, isBlank c = true := by
    rintro b (rfl | rfl) <;> exact List.all_eq_true.mp rfl
  have hdrop : ∀ l ∈ dropSemicolons (lexemes (dropComments s)), l.IsProper :=
    fun l hl => hp l (mem_of_mem_dropSemicolons hl)
  have hs : ';' ∉ lead := by rcases hlead with rfl | rfl <;> decide
  rw [shorten, he, dropFinalSemicolons_append hs, dropFinalSemicolons_render hp ht,
    ← List.append_assoc]
  exact trimmed_append (hblank lead hlead) (hblank t ht) (isBlank_of_head_render hdrop)
    (isBlank_of_getLast_render hdrop)

end Stylebook.Minify
