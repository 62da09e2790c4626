import Stylebook.Proofs.Text.Words

/-!
What the patterns of names and of versions accept: texts of a certain form, and such texts with a line end
after them. Digits and letters of a version may be those of any script; among ASCII texts these are the
digits, the letters and the underscore of ASCII.
-/

namespace Stylebook.Text

variable {p q digit digit' next next' : Char → Bool} {c mark : Char} {s t run rest suffix : List Char}

/-- The text has the form `P`, or is a text of that form with a line end after it. -/
def UpToLineEnd (P : List Char → Prop) (s : List Char) : Prop := P s ∨ ∃ t, P t ∧ s = t ++ ['\n']

/-- One character of class `first`, then only characters of class `next`. -/
def IsMadeOf (first next : Char → Bool) (s : List Char) : Prop :=
  ∃ c w, s = c :: w ∧ first c = true ∧ ∀ d ∈ w, next d = true

/-- One or more characters, all of class `p`. -/
def IsRun (p : Char → Bool) (s : List Char) : Prop := s ≠ [] ∧ ∀ c ∈ s, p c = true

/-- Nothing, or a mark with a run after it. -/
def IsSuffix (mark : Char) (p : Char → Bool) (s : List Char) : Prop :=
  s = [] ∨ ∃ run, IsRun p run ∧ s = mark :: run

/-- Three runs of digits with dots between them, then a suffix after `-`, then one after `+`; either suffix
may be absent. -/
def IsNumbering (digit next : Char → Bool) (s : List Char) : Prop :=
  ∃ a b c pre build, IsRun digit a ∧ IsRun digit b ∧ IsRun digit c ∧ IsSuffix '-' next pre ∧
    IsSuffix '+' next build ∧ s = a ++ '.' :: (b ++ '.' :: (c ++ (pre ++ build)))

theorem upToLineEnd_iff {P : List Char → Prop} (h : '\n' ∉ s) : UpToLineEnd P s ↔ P s := by
  refine ⟨fun hs => hs.resolve_right ?_, .inl⟩
  rintro ⟨t, -, rfl⟩
  exact h (by simp)

theorem atEnd_iff : atEnd s = true ↔ s = [] ∨ s = ['\n'] := by simp [atEnd]

theorem isNamed_iff_upToLineEnd {first : Char → Bool} (hn : next '\n' = false) :
    isNamed first next s = true ↔ UpToLineEnd (IsMadeOf first next) s := by
  rw [isNamed_iff hn]
  constructor
  · rintro ⟨c, w, hc, hw, rfl | rfl⟩
    · exact .inl ⟨c, w, rfl, hc, hw⟩
    · exact .inr ⟨c :: w, ⟨c, w, rfl, hc, hw⟩, rfl⟩
  · rintro (⟨c, w, rfl, hc, hw⟩ | ⟨-, ⟨c, w, rfl, hc, hw⟩, rfl⟩)
    · exact ⟨c, w, hc, hw, .inl rfl⟩
    · exact ⟨c, w, hc, hw, .inr rfl⟩

section Steps

theorem takeRun?_eq_some_iff : takeRun? p s = some rest ↔
    ∃ run, IsRun p run ∧ s = run ++ rest ∧ ∀ c ∈ rest.head?, p c = false := by
  rw [takeRun?]
  constructor
  · intro h
    split at h
    · cases h
    · rename_i hne
      cases h
      rw [List.isEmpty_iff] at hne
      exact ⟨_, ⟨hne, List.all_eq_true.mp List.all_takeWhile⟩, List.takeWhile_append_dropWhile.symm,
        head?_dropWhile_false⟩
  · rintro ⟨run, ⟨hne, hrun⟩, rfl, hrest⟩
    have hfront : (run ++ rest).takeWhile p ≠ [] := by
      rw [List.takeWhile_append_of_pos hrun]
      simp [hne]
    rw [if_neg (by simpa using hfront), List.dropWhile_append_of_pos hrun, dropWhile_head hrest]

theorem takeMark?_eq_some_iff : takeMark? c s = some rest ↔ s = c :: rest := by
  cases s with
  | nil => simp [takeMark?]
  | cons d s =>
    rw [takeMark?, List.cons.injEq]
    split
    · rename_i hd
      simp [hd]
    · rename_i hd
      simp [hd]

theorem exists_of_skipSuffix? (h : skipSuffix? mark s = some rest) :
    ∃ suffix, IsSuffix mark isSuffixChar suffix ∧ s = suffix ++ rest := by
  rw [skipSuffix?] at h
  split at h
  · cases h
    exact ⟨[], .inl rfl, rfl⟩
  · rename_i back hmark
    obtain ⟨run, hrun, rfl, -⟩ := takeRun?_eq_some_iff.mp h
    exact ⟨mark :: run, .inr ⟨run, hrun, rfl⟩, takeMark?_eq_some_iff.mp hmark⟩

theorem skipSuffix?_append (h : IsSuffix mark isSuffixChar suffix)
    (hrest : ∀ c ∈ rest.head?, c ≠ mark ∧ isSuffixChar c = false) :
    skipSuffix? mark (suffix ++ rest) = some rest := by
  rw [skipSuffix?]
  rcases h with rfl | ⟨run, hrun, rfl⟩
  · have hmark : takeMark? mark rest = none := by
      cases rest with
      | nil => rfl
      | cons d rest => exact if_neg (hrest d rfl).1
    rw [List.nil_append, hmark]
  · have hmark : takeMark? mark (mark :: run ++ rest) = some (run ++ rest) :=
      takeMark?_eq_some_iff.mpr rfl
    rw [hmark]
    exact takeRun?_eq_some_iff.mpr ⟨run, hrun, rfl, fun c hc => (hrest c hc).2⟩

end Steps

section Numbering

/-- What follows the numbers and the suffixes of a version. -/
def afterVersion? (s : List Char) : Option (List Char) := do
  let r ← takeRun? isDecimalDigit s
  let r ← takeRun? isDecimalDigit (← takeMark? '.' r)
  let r ← takeRun? isDecimalDigit (← takeMark? '.' r)
  skipSuffix? '+' (← skipSuffix? '-' r)

theorem isVersion_eq (s : String) : isVersion s = ((afterVersion? s.toList).map atEnd).getD false := rfl

theorem exists_of_afterVersion? (h : afterVersion? s = some rest) :
    ∃ t, IsNumbering isDecimalDigit isSuffixChar t ∧ s = t ++ rest := by
  obtain ⟨r₁, h₁, h⟩ := Option.bind_eq_some_iff.mp h
  obtain ⟨r₂, h₂, h⟩ := Option.bind_eq_some_iff.mp h
  obtain ⟨r₃, h₃, h⟩ := Option.bind_eq_some_iff.mp h
  obtain ⟨r₄, h₄, h⟩ := Option.bind_eq_some_iff.mp h
  obtain ⟨r₅, h₅, h⟩ := Option.bind_eq_some_iff.mp h
  obtain ⟨r₆, h₆, h₇⟩ := Option.bind_eq_some_iff.mp h
  obtain ⟨a, ha, rfl, -⟩ := takeRun?_eq_some_iff.mp h₁
  obtain rfl := takeMark?_eq_some_iff.mp h₂
  obtain ⟨b, hb, rfl, -⟩ := takeRun?_eq_some_iff.mp h₃
  obtain rfl := takeMark?_eq_some_iff.mp h₄
  obtain ⟨c, hc, rfl, -⟩ := takeRun?_eq_some_iff.mp h₅
  obtain ⟨pre, hpre, rfl⟩ := exists_of_skipSuffix? h₆
  obtain ⟨build, hbuild, rfl⟩ := exists_of_skipSuffix? h₇
  exact ⟨_, ⟨a, b, c, pre, build, ha, hb, hc, hpre, hbuild, rfl⟩, by simp⟩

/-- What follows a suffix starts with the mark of the suffix if the suffix is there. -/
theorem IsSuffix.head_append (h : IsSuffix mark p suffix) (hc : c ∈ (suffix ++ rest).head?) :
    c = mark ∨ c ∈ rest.head? := by
  rcases h with rfl | ⟨run, -, rfl⟩
  · exact .inr hc
  · exact .inl (Option.mem_some.mp hc).symm

/-- Every run of digits and every suffix ends where it should, as no mark of a version and no line end is a
character of its class. -/
theorem afterVersion?_append (h : IsNumbering isDecimalDigit isSuffixChar t) (hrest : atEnd rest = true) :
    afterVersion? (t ++ rest) = some rest := by
  obtain ⟨a, b, c, pre, build, ha, hb, hc, hpre, hbuild, rfl⟩ := h
  have hend : ∀ d ∈ rest.head?, d = '\n' := by
    rcases atEnd_iff.mp hrest with rfl | rfl <;> simp
  have hdot {s : List Char} : ∀ d ∈ ('.' :: s).head?, isDecimalDigit d = false := by
    intro d hd
    obtain rfl := Option.mem_some.mp hd
    decide
  have hnumber : ∀ d ∈ (pre ++ (build ++ rest)).head?, isDecimalDigit d = false := by
    intro d hd
    rcases hpre.head_append hd with rfl | hd
    · decide
    · rcases hbuild.head_append hd with rfl | hd
      · decide
      · rw [hend d hd]
        decide
  have hpreEnd : ∀ d ∈ (build ++ rest).head?, d ≠ '-' ∧ isSuffixChar d = false := by
    intro d hd
    rcases hbuild.head_append hd with rfl | hd
    · decide
    · rw [hend d hd]
      decide
  have hbuildEnd : ∀ d ∈ rest.head?, d ≠ '+' ∧ isSuffixChar d = false := by
    intro d hd
    rw [hend d hd]
    decide
  have hshape : a ++ '.' :: (b ++ '.' :: (c ++ (pre ++ build))) ++ rest =
      a ++ '.' :: (b ++ '.' :: (c ++ (pre ++ (build ++ rest)))) := by simp
  rw [hshape]
  refine Option.bind_eq_some_iff.mpr ⟨_, takeRun?_eq_some_iff.mpr ⟨a, ha, rfl, hdot⟩, ?_⟩
  refine Option.bind_eq_some_iff.mpr ⟨_, takeMark?_eq_some_iff.mpr rfl, ?_⟩
  refine Option.bind_eq_some_iff.mpr ⟨_, takeRun?_eq_some_iff.mpr ⟨b, hb, rfl, hdot⟩, ?_⟩
  refine Option.bind_eq_some_iff.mpr ⟨_, takeMark?_eq_some_iff.mpr rfl, ?_⟩
  refine Option.bind_eq_some_iff.mpr ⟨_, takeRun?_eq_some_iff.mpr ⟨c, hc, rfl, hnumber⟩, ?_⟩
  refine Option.bind_eq_some_iff.mpr ⟨_, skipSuffix?_append hpre hpreEnd, ?_⟩
  exact skipSuffix?_append hbuild hbuildEnd

theorem isVersion_iff {s : String} :
    isVersion s = true ↔ UpToLineEnd (IsNumbering isDecimalDigit isSuffixChar) s.toList := by
  rw [isVersion_eq]
  constructor
  · intro h
    cases hafter : afterVersion? s.toList with
    | none =>
      rw [hafter] at h
      cases h
    | some rest =>
      rw [hafter] at h
      obtain ⟨t, ht, hs⟩ := exists_of_afterVersion? hafter
      rcases atEnd_iff.mp h with rfl | rfl
      · rw [List.append_nil] at hs
        exact .inl (hs ▸ ht)
      · exact .inr ⟨t, ht, hs⟩
  · rintro (ht | ⟨t, ht, hs⟩)
    · have hafter : afterVersion? (s.toList ++ []) = some [] := afterVersion?_append ht rfl
      rw [List.append_nil] at hafter
      rw [hafter]
      rfl
    · rw [hs, afterVersion?_append ht rfl]
      rfl

end Numbering

section Scripts

theorem IsRun.imp (h : ∀ c ∈ s, p c = true → q c = true) (hs : IsRun p s) : IsRun q s :=
  ⟨hs.1, fun c hc => h c hc (hs.2 c hc)⟩

theorem IsSuffix.imp (h : ∀ c ∈ s, p c = true → q c = true) (hs : IsSuffix mark p s) :
    IsSuffix mark q s := by
  rcases hs with rfl | ⟨run, hrun, rfl⟩
  · exact .inl rfl
  · exact .inr ⟨run, hrun.imp (List.forall_mem_cons.mp h).2, rfl⟩

theorem IsNumbering.imp (hd : ∀ c ∈ s, digit c = true → digit' c = true)
    (hn : ∀ c ∈ s, next c = true → next' c = true) (hs : IsNumbering digit next s) :
    IsNumbering digit' next' s := by
  obtain ⟨a, b, c, pre, build, ha, hb, hc, hpre, hbuild, rfl⟩ := hs
  simp only [List.forall_mem_append, List.forall_mem_cons] at hd hn
  exact ⟨a, b, c, pre, build, ha.imp hd.1, hb.imp hd.2.2.1, hc.imp hd.2.2.2.2.1,
    hpre.imp hn.2.2.2.2.2.1, hbuild.imp hn.2.2.2.2.2.2, rfl⟩

/-- A letter, a digit or one of the marks that may stand in the suffix of a version, in ASCII. -/
def isSuffixAscii (c : Char) : Bool := isLetterAscii c || isDigitAscii c || c == '_' || c == '.' || c == '-'

theorem classes_ascii (h : c.toNat < 0x80) :
    isDecimalDigit c = isDigitAscii c ∧ isSuffixChar c = isSuffixAscii c := by
  have hall : ∀ n < 0x80, isDecimalDigit (Char.ofNat n) = isDigitAscii (Char.ofNat n) ∧
      isSuffixChar (Char.ofNat n) = isSuffixAscii (Char.ofNat n) := by decide +kernel
  have hc := hall c.toNat h
  rwa [Char.ofNat_toNat] at hc

theorem lt_of_isSuffixAscii (h : isSuffixAscii c = true) : c.toNat < 0x80 := by
  simp only [isSuffixAscii, isLetterAscii, isLowerAscii, isUpperAscii, isDigitAscii, Bool.or_eq_true,
    Bool.and_eq_true, decide_eq_true_iff, beq_iff_eq, Char.le_def, UInt32.le_iff_toNat_le] at h
  change (((((97 ≤ c.toNat ∧ c.toNat ≤ 122) ∨ (65 ≤ c.toNat ∧ c.toNat ≤ 90)) ∨
    (48 ≤ c.toNat ∧ c.toNat ≤ 57)) ∨ c = '_') ∨ c = '.') ∨ c = '-' at h
  rcases h with ((h | rfl) | rfl) | rfl
  · omega
  all_goals decide

/-- What is spelled in digits and letters of ASCII is spelled in digits and letters. -/
theorem IsNumbering.of_ascii (h : IsNumbering isDigitAscii isSuffixAscii s) :
    IsNumbering isDecimalDigit isSuffixChar s := by
  refine h.imp (fun c _ hc => ?_) fun c _ hc => ?_
  · have hsuffix : isSuffixAscii c = true := by simp [isSuffixAscii, hc]
    rwa [(classes_ascii (lt_of_isSuffixAscii hsuffix)).1]
  · rwa [(classes_ascii (lt_of_isSuffixAscii hc)).2]

/-- In a text of ASCII there are no other digits and letters. -/
theorem IsNumbering.ascii (hs : ∀ c ∈ s, c.toNat < 0x80) (h : IsNumbering isDecimalDigit isSuffixChar s) :
    IsNumbering isDigitAscii isSuffixAscii s := by
  refine h.imp (fun c hm hc => ?_) fun c hm hc => ?_
  · rwa [← (classes_ascii (hs c hm)).1]
  · rwa [← (classes_ascii (hs c hm)).2]

end Scripts

end Stylebook.Text
