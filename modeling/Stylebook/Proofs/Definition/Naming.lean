import Stylebook.Plugin
import Stylebook.Proofs.Property.Default
import Stylebook.Proofs.Text.Version
import Stylebook.Proofs.Token.Category

/-!
The names and the versions that pass. The checks of a system accept the names of tokens and properties and
the values of enumerations that have a certain form, and plugins come with versions of a certain form; but a
line end after any of these is accepted as well, and versions may be spelled in digits and letters of any
script.
-/

namespace Stylebook

open Text

/-- A small letter or a digit, then such characters, dots and hyphens. -/
def TokenNameForm : List Char → Prop := IsMadeOf (fun c => isLowerAscii c || isDigitAscii c) isTokenChar

/-- A small letter, then letters and digits. -/
def PropertyNameForm : List Char → Prop := IsMadeOf isLowerAscii fun c => isLetterAscii c || isDigitAscii c

/-- A small letter or a digit, then such characters and hyphens. -/
def EnumValueForm : List Char → Prop :=
  IsMadeOf (fun c => isLowerAscii c || isDigitAscii c) fun c => isLowerAscii c || isDigitAscii c || c == '-'

/-- The warning about the value of an enumeration. -/
def valueWarning (path value : String) : Issue :=
  ⟨.warning, .invalidEnumValue, "Enum value " ++ quoteName value ++ " should be lowercase and kebab-case",
    path ++ ".values", none⟩

/-- The text passes as a token's name, as a property's name, as a value of an enumeration and as a version
exactly if it has the form for it. -/
structure PassesAs (token property value version : List Char → Prop) (s : String) : Prop where
  token : ∀ category v,
    (∀ i ∈ tokenIssues category s v, i.code ≠ .invalidTokenName) ↔ token s.toList
  property : ∀ path (p : Property),
    (∀ i ∈ p.issues s path, i.code ≠ .invalidPropertyName) ↔ property s.toList
  value : ∀ name path (p : Property), s ∈ p.values?.getD [] →
    (valueWarning path s ∉ p.issues name path ↔ value s.toList)
  version : ∀ p : Plugin, p.name ≠ "" → p.version = s → ((∃ q, p.check = .ok q) ↔ version s.toList)

section Issues

variable {category name path s t : String} {v : Literal} {p : Property} {d : Domain} {i : Issue}
  {values : List String}

theorem forall_tokenIssues_iff :
    (∀ i ∈ tokenIssues category s v, i.code ≠ .invalidTokenName) ↔ isTokenName s = true := by
  refine ⟨isTokenName_of_tokenIssues, fun h i hi => ?_⟩
  rw [tokenIssues, h, if_pos rfl, List.nil_append] at hi
  rw [eq_of_mem_when hi]
  exact IssueCode.noConfusion

theorem code_of_mem_nameIssues (h : i ∈ Property.nameIssues name path) : i.code = .invalidPropertyName := by
  rw [eq_of_mem_unless h]

theorem code_of_mem_defaultIssues (h : i ∈ Property.defaultIssues name path d) :
    i.code = .invalidDefault := by
  rw [eq_of_mem_unless h]

theorem valueWarning_inj : valueWarning path s = valueWarning path t ↔ s = t := by
  simp [valueWarning, quoteName, ← String.toList_inj]

theorem valueWarning_mem_enumIssues_iff :
    valueWarning path s ∈ Property.enumIssues name path values ↔ s ∈ values ∧ isEnumValue s = false := by
  rw [Property.enumIssues, List.mem_append, List.mem_map]
  constructor
  · rintro (h | ⟨v, hv, he⟩)
    · cases eq_of_mem_when h
    · obtain rfl := valueWarning_inj.mp he
      rwa [List.mem_filter, Bool.not_eq_true'] at hv
  · rintro ⟨hs, hbad⟩
    exact .inr ⟨s, List.mem_filter.mpr ⟨hs, by rw [hbad]; rfl⟩, rfl⟩

theorem forall_nameIssues_iff :
    (∀ i ∈ p.issues name path, i.code ≠ .invalidPropertyName) ↔ isPropertyName name = true := by
  have hname : (∀ i ∈ Property.nameIssues name path, i.code ≠ .invalidPropertyName) ↔
      isPropertyName name = true := by
    rw [Property.nameIssues]
    cases isPropertyName name <;> simp
  have hrest : ∀ i ∈ Property.domainIssues name path p.domain ++ Property.defaultIssues name path p.domain,
      i.code ≠ .invalidPropertyName := by
    intro i hi hcode
    rcases List.mem_append.mp hi with hi | hi
    · have hmem := code_of_mem_domainIssues hi
      rw [hcode] at hmem
      exact absurd hmem (by decide)
    · rw [code_of_mem_defaultIssues hi] at hcode
      cases hcode
  rw [Property.issues, List.append_assoc, List.forall_mem_append, hname]
  exact and_iff_left hrest

theorem valueWarning_mem_issues_iff :
    valueWarning path s ∈ p.issues name path ↔ s ∈ p.values?.getD [] ∧ isEnumValue s = false := by
  have hdomain : valueWarning path s ∈ Property.domainIssues name path p.domain ↔
      s ∈ p.domain.values?.getD [] ∧ isEnumValue s = false := by
    cases p.domain with
    | enum values default => exact valueWarning_mem_enumIssues_iff
    | number default lo hi => exact ⟨fun h => (nomatch code_of_mem_rangeIssues h), fun h => nomatch h.1⟩
    | boolean | string => exact ⟨fun h => (nomatch h), fun h => nomatch h.1⟩
  rw [Property.issues, List.mem_append, List.mem_append, hdomain]
  constructor
  · rintro ((h | h) | h)
    · cases code_of_mem_nameIssues h
    · exact h
    · cases code_of_mem_defaultIssues h
  · exact fun h => .inl (.inr h)

end Issues

theorem Plugin.exists_check_iff {p : Plugin} (hn : p.name ≠ "") :
    (∃ q, p.check = .ok q) ↔ isVersion p.version = true := by
  have hname : p.name.isEmpty = false := by simpa using hn
  rw [check, hname, if_neg Bool.false_ne_true]
  by_cases hv : p.version = ""
  · rw [hv]
    exact ⟨fun ⟨_, h⟩ => (nomatch h), fun h => absurd h (by decide)⟩
  · have hversion : p.version.isEmpty = false := by simpa using hv
    rw [hversion, if_neg Bool.false_ne_true]
    cases isVersion p.version <;> simp

namespace PassesAs

variable {token property value version token' property' value' version' : List Char → Prop} {s : String}

theorem congr (h : PassesAs token property value version s) (ht : token s.toList ↔ token' s.toList)
    (hp : property s.toList ↔ property' s.toList) (hv : value s.toList ↔ value' s.toList)
    (hn : version s.toList ↔ version' s.toList) : PassesAs token' property' value' version' s where
  token category v := (h.token category v).trans ht
  property path p := (h.property path p).trans hp
  value name path p hs := (h.value name path p hs).trans hv
  version p hname hversion := (h.version p hname hversion).trans hn

theorem upToLineEnd (s : String) : PassesAs (UpToLineEnd TokenNameForm) (UpToLineEnd PropertyNameForm)
    (UpToLineEnd EnumValueForm) (UpToLineEnd (IsNumbering isDecimalDigit isSuffixChar)) s where
  token _ _ := forall_tokenIssues_iff.trans (isNamed_iff_upToLineEnd (by decide))
  property _ _ := forall_nameIssues_iff.trans (isNamed_iff_upToLineEnd (by decide))
  value name path p hs := by
    have hform : isEnumValue s = true ↔ UpToLineEnd EnumValueForm s.toList :=
      isNamed_iff_upToLineEnd (by decide)
    rw [← hform, valueWarning_mem_issues_iff, not_and, Bool.not_eq_false]
    exact ⟨fun h => h hs, fun h _ => h⟩
  version p hname hversion := (Plugin.exists_check_iff hname).trans (hversion ▸ isVersion_iff)

end PassesAs

/-- Names and versions pass exactly if they have the form for it, or have it but for a line end at the end.
Without a line end it is the form alone that decides, and among texts of ASCII the digits and letters of a
version are those of ASCII. -/
theorem names_and_versions_pass (s : String) :
    PassesAs (UpToLineEnd TokenNameForm) (UpToLineEnd PropertyNameForm) (UpToLineEnd EnumValueForm)
      (UpToLineEnd (IsNumbering isDecimalDigit isSuffixChar)) s ∧
    ('\n' ∉ s.toList →
      PassesAs TokenNameForm PropertyNameForm EnumValueForm (IsNumbering isDecimalDigit isSuffixChar) s) ∧
    ('\n' ∉ s.toList → (∀ c ∈ s.toList, c.toNat < 0x80) →
      PassesAs TokenNameForm PropertyNameForm EnumValueForm (IsNumbering isDigitAscii isSuffixAscii) s) := by
  have hforms (h : '\n' ∉ s.toList) :
      PassesAs TokenNameForm PropertyNameForm EnumValueForm (IsNumbering isDecimalDigit isSuffixChar) s :=
    (PassesAs.upToLineEnd s).congr (upToLineEnd_iff h) (upToLineEnd_iff h) (upToLineEnd_iff h)
      (upToLineEnd_iff h)
  exact ⟨.upToLineEnd s, hforms, fun h hascii =>
    (hforms h).congr .rfl .rfl .rfl ⟨.ascii hascii, .of_ascii⟩⟩

/-- A version with both suffixes is accepted, but no property can have it for its name. -/
theorem names_and_versions_pass_release :
    (∀ p : Plugin, p.name ≠ "" → p.version = "2.0.1-rc.1+build_7" → ∃ q, p.check = .ok q) ∧
      ∀ path (p : Property), ∃ i ∈ p.issues "2.0.1-rc.1+build_7" path, i.code = .invalidPropertyName := by
  obtain ⟨-, -, hascii⟩ := names_and_versions_pass "2.0.1-rc.1+build_7"
  have hpass := hascii (by decide) (by simp)
  constructor
  · intro p hname hversion
    refine (hpass.version p hname hversion).mpr
      ⟨['2'], ['0'], ['1'], '-' :: "rc.1".toList, '+' :: "build_7".toList, ?_⟩
    have hrun {p : Char → Bool} {s : List Char} (hne : s ≠ []) (hs : s.all p = true) : IsRun p s :=
      ⟨hne, List.all_eq_true.mp hs⟩
    exact ⟨hrun (by decide) rfl, hrun (by decide) rfl, hrun (by decide) rfl,
      .inr ⟨_, hrun (by decide) rfl, rfl⟩, .inr ⟨_, hrun (by decide) rfl, rfl⟩, by decide⟩
  · intro path p
    by_contra hnone
    obtain ⟨c, w, he, hc, -⟩ := (hpass.property path p).mp fun i hi hcode => hnone ⟨i, hi, hcode⟩
    obtain rfl : '2' = c := (List.cons.inj he).1
    cases hc

/-- A line end passes with a name, and the digits of other scripts pass in a version. -/
theorem line_end_and_digits_pass :
    ¬ PassesAs TokenNameForm PropertyNameForm EnumValueForm (IsNumbering isDigitAscii isSuffixAscii)
      "text\n" ∧
    ¬ PassesAs TokenNameForm PropertyNameForm EnumValueForm (IsNumbering isDigitAscii isSuffixAscii)
      "１.２.３" := by
  constructor
  · intro h
    have hnone : tokenIssues "ink" "text\n" (.text "black") = [] := by decide
    obtain ⟨c, w, he, -, hw⟩ := (h.token "ink" (.text "black")).mp (by simp [hnone])
    obtain rfl : "ext\n".toList = w := (List.cons.inj he).2
    exact absurd (hw '\n' (by decide)) (by decide)
  · intro h
    have hcheck : Plugin.check { Plugin.preset "ink" ∅ ∅ ∅ none with version := "１.２.３" } = .ok _ := rfl
    obtain ⟨a, b, c, pre, build, ha, -, -, -, -, he⟩ := (h.version _ (by decide) rfl).mp ⟨_, hcheck⟩
    obtain ⟨d, a, rfl⟩ := List.exists_cons_of_ne_nil ha.1
    obtain rfl : '１' = d := (List.cons.inj he).1
    exact absurd (ha.2 '１' List.mem_cons_self) (by decide)

end Stylebook
