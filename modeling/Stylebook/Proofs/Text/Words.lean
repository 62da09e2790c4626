import Stylebook.Text.Blank
import Stylebook.Text.Cut
import Stylebook.Text.Pattern

/-!
Words and identifiers. No character of an identifier is blank, so a text that passes for one is a
single word, with a line end after it at most. Around a single word there are blanks only. Texts that are
joined stand in the whole.
-/

namespace Stylebook.Text

/-- The blanks beyond ASCII. -/
def wideBlanks : List Char :=
  [0x85, 0xa0, 0x1680, 0x2000, 0x2001, 0x2002, 0x2003, 0x2004, 0x2005, 0x2006, 0x2007, 0x2008,
    0x2009, 0x200a, 0x2028, 0x2029, 0x202f, 0x205f, 0x3000].map Char.ofNat

theorem mem_wideBlanks {c : Char} (h : isBlank c = true) (hc : 0x80 ≤ c.toNat) : c ∈ wideBlanks := by
  refine List.mem_map.mpr ⟨c.toNat, ?_, Char.ofNat_toNat c⟩
  simp only [isBlank, Bool.or_eq_true, Bool.and_eq_true, decide_eq_true_iff, beq_iff_eq] at h
  simp only [List.mem_cons, List.not_mem_nil, or_false]
  omega

theorem inRanges_wideBlanks {c : Char} (h : c ∈ wideBlanks) :
    inRanges alphanumericRanges c = false := by
  have ha : (wideBlanks.all fun d => !inRanges alphanumericRanges d) = true := by decide +kernel
  simpa using List.all_eq_true.mp ha c h

theorem isBlank_of_alphanum {n : Nat} (hn : n < 0x80) (h : (Char.ofNat n).isAlphanum = true) :
    isBlank (Char.ofNat n) = false := by
  have ha : ∀ n < 0x80, (Char.ofNat n).isAlphanum = true → isBlank (Char.ofNat n) = false := by decide
  exact ha n hn h

theorem isBlank_of_alphanumeric {c : Char} (h : isAlphanumeric c = true) : isBlank c = false := by
  rw [isAlphanumeric] at h
  split at h
  · rename_i hc
    rw [← Char.ofNat_toNat c] at h ⊢
    exact isBlank_of_alphanum hc h
  · rename_i hc
    rw [← Bool.not_eq_true]
    intro hb
    rw [inRanges_wideBlanks (mem_wideBlanks hb (by omega))] at h
    cases h

theorem isBlank_of_wordChar {c : Char} (h : (isWordChar c || c == '-') = true) :
    isBlank c = false := by
  rw [isWordChar, Bool.or_eq_true, Bool.or_eq_true, beq_iff_eq, beq_iff_eq] at h
  rcases h with (rfl | h) | rfl
  · decide
  · exact isBlank_of_alphanumeric h
  · decide

theorem isBlank_of_letterAscii {c : Char} (h : isLetterAscii c = true) : isBlank c = false := by
  simp only [isLetterAscii, isLowerAscii, isUpperAscii, Bool.or_eq_true, Bool.and_eq_true,
    decide_eq_true_iff, Char.le_def, UInt32.le_iff_toNat_le] at h
  change (97 ≤ c.toNat ∧ c.toNat ≤ 122) ∨ (65 ≤ c.toNat ∧ c.toNat ≤ 90) at h
  rw [← Bool.not_eq_true]
  intro hb
  simp only [isBlank, Bool.or_eq_true, Bool.and_eq_true, decide_eq_true_iff, beq_iff_eq] at hb
  omega

/-- A run of characters that are not blank is added to the one under way. -/
theorem wordsFrom_append {w : List Char} (hw : ∀ c ∈ w, isBlank c = false) (run s : List Char) :
    wordsFrom run (w ++ s) = wordsFrom (run ++ w) s := by
  induction w generalizing run with
  | nil => simp
  | cons c w ih =>
    rw [List.forall_mem_cons] at hw
    rw [List.cons_append, wordsFrom, if_neg (by simp [hw.1]), ih hw.2, List.append_assoc,
      List.singleton_append]

/-- What passes for a name of some pattern is one, with a line end after it at most. -/
theorem isNamed_iff {first next : Char → Bool} (hn : next '\n' = false) {s : List Char} :
    isNamed first next s = true ↔ ∃ c w, first c = true ∧ (∀ d ∈ w, next d = true) ∧
      (s = c :: w ∨ s = c :: w ++ ['\n']) := by
  cases s with
  | nil => simp [isNamed]
  | cons c cs =>
    rw [isNamed, Bool.and_eq_true, atEnd, Bool.or_eq_true, beq_iff_eq, beq_iff_eq]
    constructor
    · rintro ⟨hc, hend⟩
      have hcs := List.takeWhile_append_dropWhile (p := next) (l := cs)
      refine ⟨c, cs.takeWhile next, hc, List.all_eq_true.mp List.all_takeWhile, ?_⟩
      -- after the run there is nothing, or a line end
      rcases hend with hr | hr <;> rw [hr] at hcs
      · rw [List.append_nil] at hcs
        exact .inl (congrArg (c :: ·) hcs.symm)
      · exact .inr (congrArg (c :: ·) hcs.symm)
    · rintro ⟨d, w, hc, hw, he⟩
      have hdrop (rest : List Char) : (w ++ rest).dropWhile next = rest.dropWhile next :=
        List.dropWhile_append_of_pos hw
      rcases he with he | he <;> obtain ⟨rfl, rfl⟩ := List.cons.inj he
      · have hnil := hdrop []
        rw [List.append_nil] at hnil
        exact ⟨hc, .inl hnil⟩
      · exact ⟨hc, .inr ((hdrop ['\n']).trans (List.dropWhile_cons_of_neg (by simp [hn])))⟩

/-- A character that an identifier may go on with. -/
def isNameChar (c : Char) : Bool := isWordChar c || c == '-'

theorem isIdentifier_iff {s : String} : isIdentifier s = true ↔
    ∃ c w, isLetterAscii c = true ∧ (∀ d ∈ w, isNameChar d = true) ∧
      (s.toList = c :: w ∨ s.toList = c :: w ++ ['\n']) :=
  isNamed_iff (by decide)

/-- Characters that are not blank, with a line end after them at most, are one word. -/
theorem words_of_nonblank {s : String} {w : List Char} (hne : w ≠ []) (hw : ∀ c ∈ w, isBlank c = false)
    (hs : s.toList = w ∨ s.toList = w ++ ['\n']) : words s = [.ofList w] := by
  have hrun : w.isEmpty = false := List.isEmpty_eq_false_iff.mpr hne
  rw [words]
  rcases hs with hs | hs <;> rw [hs]
  · have happ := wordsFrom_append hw [] []
    rw [List.append_nil, List.nil_append, wordsFrom, hrun] at happ
    rw [happ]
    rfl
  · rw [wordsFrom_append hw, List.nil_append, wordsFrom, if_pos (by decide), hrun]
    rfl

/-- A text that passes for an identifier is a word, or a word and a line end. -/
theorem words_of_isIdentifier {s : String} (h : isIdentifier s = true) :
    ∃ w, words s = [w] ∧ (s = w ∨ s = w ++ "\n") := by
  obtain ⟨c, w, hc, hw, hs⟩ := isIdentifier_iff.mp h
  have hnonblank : ∀ d ∈ c :: w, isBlank d = false :=
    List.forall_mem_cons.mpr ⟨isBlank_of_letterAscii hc, fun d hd => isBlank_of_wordChar (hw d hd)⟩
  refine ⟨.ofList (c :: w), words_of_nonblank (List.cons_ne_nil c w) hnonblank hs, ?_⟩
  rw [← String.ofList_toList (s := s)]
  rcases hs with hs | hs <;> rw [hs]
  · exact .inl rfl
  · exact .inr String.ofList_append

theorem isIdentifier_eq_false {s : String} (h : (words s).length ≠ 1) : isIdentifier s = false := by
  rw [← Bool.not_eq_true]
  intro hi
  obtain ⟨w, hw, -⟩ := words_of_isIdentifier hi
  exact h (by rw [hw]; rfl)

/-- Where there is no word, there is nothing but blanks. -/
theorem blank_of_wordsFrom_eq_nil {run s : List Char} (h : wordsFrom run s = []) :
    run = [] ∧ ∀ c ∈ s, isBlank c = true := by
  induction s generalizing run with
  | nil =>
    rw [wordsFrom] at h
    split at h
    · rename_i hr
      exact ⟨List.isEmpty_iff.mp hr, by simp⟩
    · cases h
  | cons c cs ih =>
    rw [wordsFrom] at h
    split at h
    · rename_i hc
      split at h
      · rename_i hr
        exact ⟨List.isEmpty_iff.mp hr, List.forall_mem_cons.mpr ⟨hc, (ih h).2⟩⟩
      · cases h
    · exact absurd (ih h).1 (by simp)

/-- Around a single word there are blanks only. -/
theorem exists_of_wordsFrom_singleton {run s w : List Char} (h : wordsFrom run s = [w]) :
    w ≠ [] ∧ ∃ before after, (∀ c ∈ before, isBlank c = true) ∧ (∀ c ∈ after, isBlank c = true) ∧
      run ++ s = before ++ w ++ after := by
  induction s generalizing run with
  | nil =>
    rw [wordsFrom] at h
    split at h
    · cases h
    · rename_i hr
      cases h
      exact ⟨fun he => hr (List.isEmpty_iff.mpr he), [], [], by simp, by simp, by simp⟩
  | cons c cs ih =>
    rw [wordsFrom] at h
    split at h
    · rename_i hc
      split at h
      · rename_i hr
        obtain rfl := List.isEmpty_iff.mp hr
        obtain ⟨hw, before, after, hb, ha, hs⟩ := ih h
        rw [List.nil_append] at hs
        exact ⟨hw, c :: before, after, List.forall_mem_cons.mpr ⟨hc, hb⟩, ha, by rw [hs]; rfl⟩
      · rename_i hr
        obtain ⟨rfl, hrest⟩ := List.cons.inj h
        have hblank := (blank_of_wordsFrom_eq_nil hrest).2
        exact ⟨fun he => hr (List.isEmpty_iff.mpr he), [], c :: cs, by simp,
          List.forall_mem_cons.mpr ⟨hc, hblank⟩, rfl⟩
    · obtain ⟨hw, before, after, hb, ha, hs⟩ := ih h
      exact ⟨hw, before, after, hb, ha, by rw [← hs]; simp⟩

theorem ne_nil_of_mem_wordsFrom {run s w : List Char} (h : w ∈ wordsFrom run s) : w ≠ [] := by
  induction s generalizing run with
  | nil =>
    rw [wordsFrom] at h
    split at h
    · cases h
    · rename_i hr
      obtain rfl := List.mem_singleton.mp h
      exact fun he => hr (List.isEmpty_iff.mpr he)
  | cons c cs ih =>
    rw [wordsFrom] at h
    split at h
    · split at h
      · exact ih h
      · rename_i hr
        rcases List.mem_cons.mp h with rfl | h
        · exact fun he => hr (List.isEmpty_iff.mpr he)
        · exact ih h
    · exact ih h

theorem ne_empty_of_mem_words {s w : String} (h : w ∈ words s) : w ≠ "" := by
  obtain ⟨l, hl, rfl⟩ := List.mem_map.mp h
  exact fun he => ne_nil_of_mem_wordsFrom hl (String.ofList_eq_empty_iff.mp he)

theorem ne_empty_of_words_singleton {s w : String} (h : words s = [w]) : w ≠ "" :=
  ne_empty_of_mem_words (h ▸ List.mem_cons_self)

/-- A text of one word that neither starts nor ends with a blank is this word. -/
theorem eq_of_words_singleton {s w : String} (h : words s = [w])
    (hf : ∀ c ∈ s.toList.head?, isBlank c = false) (hl : ∀ c ∈ s.toList.getLast?, isBlank c = false) :
    s = w := by
  obtain ⟨l, hlist, rfl⟩ := List.map_eq_singleton_iff.mp h
  obtain ⟨-, before, after, hb, ha, hs⟩ := exists_of_wordsFrom_singleton hlist
  rw [List.nil_append] at hs
  have hbefore : before = [] := by
    cases before with
    | nil => rfl
    | cons c before =>
      have hc := hf c (by rw [hs]; rfl)
      rw [hb c List.mem_cons_self] at hc
      cases hc
  have hafter : after = [] := by
    rcases List.eq_nil_or_concat after with he | ⟨l, c, he⟩
    · exact he
    · have hc := hl c (by rw [hs, he]; simp)
      rw [ha c (by simp [he])] at hc
      cases hc
  rw [← String.toList_inj, String.toList_ofList, hs, hbefore, hafter]
  simp

/-- A text without blanks has one word at most. -/
theorem length_words_le_one {s : String} (h : ∀ c ∈ s.toList, isBlank c = false) :
    (words s).length ≤ 1 := by
  have hw := wordsFrom_append h [] []
  rw [List.append_nil, List.nil_append, wordsFrom] at hw
  rw [words, List.length_map, hw]
  split <;> simp

theorem nonblank_of_mem_words {s w : String} (h : w ∈ words s) : ∀ c ∈ w.toList, isBlank c = false := by
  obtain ⟨l, hl, rfl⟩ := List.mem_map.mp h
  rw [String.toList_ofList]
  exact wordsFrom_nonblank (by simp) l hl

/-- A text with blanks in it is more than its word. -/
theorem ne_of_words_singleton {s w : String} (h : words s = [w]) (hb : ∃ c ∈ s.toList, isBlank c = true) :
    s ≠ w := by
  rintro rfl
  obtain ⟨c, hc, hblank⟩ := hb
  have hw : s ∈ words s := h ▸ List.mem_cons_self
  rw [nonblank_of_mem_words hw c hc] at hblank
  cases hblank

theorem exists_joinWith {sep p : String} {parts : List String} (h : p ∈ parts) :
    ∃ before after, joinWith sep parts = before ++ p ++ after := by
  induction parts with
  | nil => cases h
  | cons q parts ih =>
    cases parts with
    | nil =>
      obtain rfl := List.mem_singleton.mp h
      exact ⟨"", "", by simp [joinWith]⟩
    | cons r parts =>
      rw [joinWith, String.intercalate_cons_cons]
      rcases List.mem_cons.mp h with rfl | h
      · exact ⟨"", sep ++ joinWith sep (r :: parts), by simp [joinWith, String.append_assoc]⟩
      · obtain ⟨before, after, he⟩ := ih h
        rw [joinWith] at he
        exact ⟨q ++ sep ++ before, after, by simp [he, String.append_assoc]⟩

theorem joinWith_singleton (sep s : String) : joinWith sep [s] = s := by
  rw [joinWith, String.intercalate_singleton]

theorem joinWith_cons_cons (sep s t : String) (l : List String) :
    joinWith sep (s :: t :: l) = s ++ sep ++ joinWith sep (t :: l) := by
  rw [joinWith, String.intercalate_cons_cons, joinWith]

theorem toList_joinWith_cons_cons (sep s t : String) (l : List String) :
    (joinWith sep (s :: t :: l)).toList =
      s.toList ++ (sep.toList ++ (joinWith sep (t :: l)).toList) := by
  rw [joinWith_cons_cons, String.toList_append, String.toList_append, List.append_assoc]

theorem mem_joinWith {c : Char} {sep : String} {l : List String} (h : c ∈ (joinWith sep l).toList) :
    c ∈ sep.toList ∨ ∃ s ∈ l, c ∈ s.toList := by
  induction l with
  | nil => simp [joinWith] at h
  | cons s l ih =>
    cases l with
    | nil => exact .inr ⟨s, List.mem_cons_self, by simpa [joinWith] using h⟩
    | cons t l =>
      rw [toList_joinWith_cons_cons, List.mem_append, List.mem_append] at h
      rcases h with h | h | h
      · exact .inr ⟨s, List.mem_cons_self, h⟩
      · exact .inl h
      · exact (ih h).imp id fun ⟨u, hu, hc⟩ => ⟨u, List.mem_cons_of_mem _ hu, hc⟩

/-- Texts without the separator are the pieces of what is joined of them. -/
theorem pieces_joinWith {c : Char} {sep : String} {l : List String} (hsep : sep.toList = [c]) (hne : l ≠ [])
    (h : ∀ s ∈ l, c ∉ s.toList) : pieces c (joinWith sep l).toList = l.map String.toList := by
  induction l with
  | nil => exact absurd rfl hne
  | cons s l ih =>
    rw [List.forall_mem_cons] at h
    cases l with
    | nil => rw [joinWith_singleton, pieces_of_not_mem h.1, List.map_singleton]
    | cons t l =>
      rw [toList_joinWith_cons_cons, hsep, List.map_cons, ← ih (List.cons_ne_nil t l) h.2]
      exact pieces_append h.1 _

/-- Words that are joined with a space are the words of the whole. -/
theorem words_joinWith {l : List String} (h : ∀ w ∈ l, w ≠ "" ∧ ∀ c ∈ w.toList, isBlank c = false) :
    words (joinWith " " l) = l := by
  induction l with
  | nil => rfl
  | cons w l ih =>
    rw [List.forall_mem_cons] at h
    obtain ⟨⟨hne, hw⟩, hl⟩ := h
    have hlist : w.toList ≠ [] := mt String.toList_eq_nil_iff.mp hne
    cases l with
    | nil =>
      rw [joinWith_singleton, words_of_nonblank hlist hw (.inl rfl), String.ofList_toList]
    | cons v l =>
      have hrun : w.toList.isEmpty = false := List.isEmpty_eq_false_iff.mpr hlist
      have hspace : isBlank ' ' = true := by decide
      have htail : wordsFrom [] (w.toList ++ ' ' :: (joinWith " " (v :: l)).toList) =
          w.toList :: wordsFrom [] (joinWith " " (v :: l)).toList := by
        rw [wordsFrom_append hw, List.nil_append, wordsFrom, if_pos hspace, hrun,
          if_neg Bool.false_ne_true]
      rw [words, toList_joinWith_cons_cons]
      change (wordsFrom [] (w.toList ++ ' ' :: (joinWith " " (v :: l)).toList)).map String.ofList = _
      rw [htail, List.map_cons, String.ofList_toList]
      exact congrArg (w :: ·) (ih hl)

end Stylebook.Text
