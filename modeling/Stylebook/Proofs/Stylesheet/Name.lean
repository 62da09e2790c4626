import Stylebook.Proofs.Text.Words
import Stylebook.Stylesheet.Compile

/-!
Names: texts without blanks, marks and stars. Lower case, hyphens and the names that a sheet builds
from others leave names what they are.
-/

namespace Stylebook

open Text

/-- A character of a name. -/
def isBare (c : Char) : Bool := !isBlank c && !Minify.isMark c && c != '*'

def IsName (s : String) : Prop := ∀ c ∈ s.toList, isBare c = true

instance (s : String) : Decidable (IsName s) := List.decidableBAll _ s.toList

/-- Words that are names, with one space between two of them. -/
def IsPhrase (s : String) : Prop := ∃ ws, (∀ w ∈ ws, w ≠ "" ∧ IsName w) ∧ s = joinWith " " ws

section Phrase

theorem intercalate_pieces (sep : Char) (s : List Char) : [sep].intercalate (pieces sep s) = s := by
  induction s with
  | nil => rfl
  | cons c s ih =>
    have hne : pieces sep s ≠ [] := pieces_ne_nil
    obtain ⟨p, ps, hp⟩ := List.exists_cons_of_ne_nil hne
    rw [hp] at ih
    rw [pieces, hp]
    split
    · rename_i hc
      rw [List.intercalate_cons_cons, ih, hc]
      rfl
    · cases ps <;> simp_all [List.intercalate_cons_cons]

theorem isPhrase_iff {s : String} : IsPhrase s ↔
    s = "" ∨ ∀ w ∈ pieces ' ' s.toList, w ≠ [] ∧ w.all isBare = true := by
  constructor
  · rintro ⟨ws, h, rfl⟩
    cases ws with
    | nil => exact .inl rfl
    | cons w ws =>
      have hspace : ∀ v ∈ w :: ws, ' ' ∉ v.toList :=
        fun v hv hs => absurd ((h v hv).2 ' ' hs) (by decide)
      right
      rw [pieces_joinWith rfl (by simp) hspace, List.forall_mem_map]
      exact fun v hv => ⟨mt String.toList_eq_nil_iff.mp (h v hv).1, List.all_eq_true.mpr (h v hv).2⟩
  · rintro (rfl | h)
    · exact ⟨[], by simp, rfl⟩
    · have hs : (joinWith " " ((pieces ' ' s.toList).map String.ofList)).toList = s.toList := by
        have hid : String.toList ∘ String.ofList = id := funext fun l => String.toList_ofList
        rw [joinWith, String.toList_intercalate, List.map_map, hid, List.map_id]
        exact intercalate_pieces ' ' s.toList
      refine ⟨(pieces ' ' s.toList).map String.ofList, ?_, (String.toList_inj.mp hs).symm⟩
      rw [List.forall_mem_map]
      intro w hw
      rw [IsName, String.toList_ofList]
      exact ⟨mt String.ofList_eq_empty_iff.mp (h w hw).1, List.all_eq_true.mp (h w hw).2⟩

instance (s : String) : Decidable (IsPhrase s) := decidable_of_iff' _ isPhrase_iff

end Phrase

section Case

/-- The characters that names do without, by code point. -/
def breaks : List (Nat × Nat) :=
  [(0x09, 0x0d), (0x1c, 0x20), (0x2a, 0x2a), (0x2c, 0x2c), (0x3a, 0x3b), (0x7b, 0x7b), (0x7d, 0x7d),
    (0x85, 0x85), (0xa0, 0xa0), (0x1680, 0x1680), (0x2000, 0x200a), (0x2028, 0x2029),
    (0x202f, 0x202f), (0x205f, 0x205f), (0x3000, 0x3000)]

theorem isBare_of_breaks {c : Char} (h : inRanges breaks c = false) : isBare c = true := by
  rw [← Bool.not_eq_false]
  intro hb
  simp only [isBare, bne, Minify.isMark, Bool.and_eq_false_iff, Bool.not_eq_false',
    Bool.or_eq_true, beq_iff_eq] at hb
  rcases hb with (hb | (((rfl | rfl) | rfl) | rfl) | rfl) | rfl
  · rw [← Bool.not_eq_true] at h
    refine h (inRanges_iff.mpr ?_)
    simp only [isBlank, Bool.or_eq_true, Bool.and_eq_true, decide_eq_true_iff, beq_iff_eq] at hb
    simp only [breaks, List.mem_cons, List.not_mem_nil, or_false, exists_eq_or_imp, exists_eq_left]
    omega
  all_goals exact absurd h (by decide)

/-- No small letter is a break. -/
theorem inRanges_breaks_shift {r : CaseRun} (hr : r ∈ caseRuns) {n : Nat} (h : r.holds n = true) :
    inRanges breaks (Char.ofNat (n + r.shift).toNat) = false := by
  have hall : (caseRuns.all fun r => breaks.all fun b =>
      decide (r.last + r.shift < b.1 ∨ b.2 < r.first + r.shift)) = true := by decide +kernel
  rw [← Bool.not_eq_true, inRanges_iff]
  rintro ⟨b, hb, hlow, hhigh⟩
  have hrb := of_decide_eq_true (List.all_eq_true.mp (List.all_eq_true.mp hall r hr) b hb)
  have hpos : ∀ b ∈ breaks, 0 < b.1 := by decide
  have hb := hpos b hb
  simp only [CaseRun.holds, Bool.and_eq_true, decide_eq_true_iff] at h
  -- a number that is no code point gives the character of code point zero
  have hn (m : Nat) : (Char.ofNat m).toNat = m ∨ (Char.ofNat m).toNat = 0 := by
    by_cases hm : m.isValidChar
    · exact .inl (by rw [Char.ofNat, dif_pos hm]; rfl)
    · exact .inr (by rw [Char.ofNat, dif_neg hm]; rfl)
  rcases hn (n + r.shift).toNat with hn | hn <;> omega

theorem isBare_lowerChar {c : Char} (h : isBare c = true) : isBare (lowerChar c) = true := by
  have hascii : ∀ n < 0x80, isBare (Char.ofNat n) = true → isBare (Char.ofNat n).toLower = true := by
    decide +kernel
  rw [lowerChar]
  split
  · rename_i hc
    rw [← Char.ofNat_toNat c] at h ⊢
    exact hascii c.toNat hc h
  · split
    · rename_i r hr
      have hc : r.holds c.toNat = true := List.find?_some (p := fun r : CaseRun => r.holds c.toNat) hr
      exact isBare_of_breaks (inRanges_breaks_shift (List.mem_of_find?_eq_some hr) hc)
    · exact h

theorem isBare_lowerAfter {s before : List Char} (h : ∀ c ∈ s, isBare c = true) :
    ∀ c ∈ lowerAfter before s, isBare c = true := by
  induction s generalizing before with
  | nil => simp [lowerAfter]
  | cons c s ih =>
    rw [List.forall_mem_cons] at h
    rw [lowerAfter, List.forall_mem_append]
    refine ⟨?_, ih h.2⟩
    split
    · split <;> exact List.all_eq_true.mp rfl
    · split
      · exact List.all_eq_true.mp rfl
      · rw [List.forall_mem_singleton]
        exact isBare_lowerChar h.1

theorem isBare_hyphenate {s : List Char} (h : ∀ c ∈ s, isBare c = true) :
    ∀ c ∈ hyphenate s, isBare c = true := by
  induction s using hyphenate.induct with
  | case1 c d rest hcd ih =>
    rw [List.forall_mem_cons] at h
    rw [hyphenate, if_pos hcd, List.forall_mem_cons, List.forall_mem_cons]
    exact ⟨h.1, by decide, ih h.2⟩
  | case2 c d rest hcd ih =>
    rw [List.forall_mem_cons] at h
    rw [hyphenate, if_neg hcd, List.forall_mem_cons]
    exact ⟨h.1, ih h.2⟩
  | case3 s hs =>
    rwa [hyphenate]
    exact hs

end Case

namespace IsName

variable {s t : String}

theorem append (hs : IsName s) (ht : IsName t) : IsName (s ++ t) := by
  rw [IsName, String.toList_append, List.forall_mem_append]
  exact ⟨hs, ht⟩

theorem join {l : List String} (h : ∀ s ∈ l, IsName s) : IsName (String.join l) := by
  induction l with
  | nil => decide
  | cons s l ih =>
    rw [List.forall_mem_cons] at h
    rw [String.join_cons]
    exact h.1.append (ih h.2)

theorem lower (h : IsName s) : IsName (lower s) := by
  rw [IsName, Text.lower, String.toList_ofList]
  exact isBare_lowerAfter h

theorem kebab (h : IsName s) : IsName (kebab s) := by
  rw [Stylebook.kebab]
  refine lower ?_
  rw [IsName, String.toList_ofList]
  exact isBare_hyphenate h

theorem variableName {pre category name : String} (hp : IsName pre) (hc : IsName category)
    (hn : IsName name) : IsName (variableName pre category name) :=
  ((((append (by decide) hp).append (by decide)).append hc).append (by decide)).append hn

theorem attributeSelectors {pairs : List (String × String)}
    (h : ∀ e ∈ pairs, IsName e.1 ∧ IsName e.2) : IsName (attributeSelectors pairs) := by
  refine join fun s hs => ?_
  obtain ⟨e, he, rfl⟩ := List.mem_map.mp hs
  exact (((append (by decide) (h e he).1.kebab).append (by decide)).append (h e he).2).append
    (by decide)

end IsName

end Stylebook
