import Mathlib.Data.List.Forall2
import Stylebook.Constraint
import Stylebook.Mapping
import Stylebook.Proofs.Text.Words

/-!
Keys of mappings, and entries of rules that forbid, as they are written. Properties and values that neither
start nor end with a blank are read as they were written, whatever blanks stand around them.
-/

namespace Stylebook

open Text

namespace Text

/-- A text that neither starts nor ends with a blank. -/
structure IsTrimmed (s : String) : Prop where
  head : ∀ c ∈ s.toList.head?, isBlank c = false
  last : ∀ c ∈ s.toList.getLast?, isBlank c = false

theorem isTrimmed_iff {s : String} : IsTrimmed s ↔ s.toList.head?.all (fun c => !isBlank c) = true ∧
    s.toList.getLast?.all (fun c => !isBlank c) = true := by
  simp only [Option.all_eq_true, Bool.not_eq_true']
  exact ⟨fun h => ⟨h.head, h.last⟩, fun h => ⟨h.1, h.2⟩⟩

instance (s : String) : Decidable (IsTrimmed s) := decidable_of_iff' _ isTrimmed_iff

variable {s before after : String} {c : Char}

theorem not_mem_of_isBlankText (h : isBlankText s = true) (hc : isBlank c = false) : c ∉ s.toList := by
  intro hm
  rw [List.all_eq_true.mp h c hm] at hc
  cases hc

theorem IsTrimmed.trimmed_padded (hs : IsTrimmed s) (hb : isBlankText before = true)
    (ha : isBlankText after = true) : trimmed (before ++ s ++ after).toList = s.toList := by
  rw [String.toList_append, String.toList_append]
  exact trimmed_append (List.all_eq_true.mp hb) (List.all_eq_true.mp ha) hs.head hs.last

theorem IsTrimmed.trimmed (hs : IsTrimmed s) : trimmed s.toList = s.toList := by
  have h : Text.trimmed ("" ++ s ++ "").toList = s.toList := hs.trimmed_padded rfl rfl
  simpa using h

end Text

/-- The text says that a property has a value: `p=v`, with any blanks around both. -/
def Spells (pair : String × String) (text : String) : Prop :=
  ∃ a b c d, isBlankText a = true ∧ isBlankText b = true ∧ isBlankText c = true ∧ isBlankText d = true ∧
    text = a ++ pair.1 ++ b ++ "=" ++ (c ++ pair.2 ++ d)

/-- A property and a value that can be told apart in the key of a mapping, and be told from other pairs. -/
structure IsKeyPair (pair : String × String) : Prop where
  property : IsTrimmed pair.1
  value : IsTrimmed pair.2
  signless : '=' ∉ pair.1.toList
  commaless : ',' ∉ pair.1.toList ∧ ',' ∉ pair.2.toList

instance (pair : String × String) : Decidable (IsKeyPair pair) :=
  decidable_of_iff (IsTrimmed pair.1 ∧ IsTrimmed pair.2 ∧ '=' ∉ pair.1.toList ∧
    ',' ∉ pair.1.toList ∧ ',' ∉ pair.2.toList)
    ⟨fun ⟨h₁, h₂, h₃, h₄⟩ => ⟨h₁, h₂, h₃, h₄⟩, fun h => ⟨h.property, h.value, h.signless, h.commaless⟩⟩

/-- One part of the key of a mapping, as it is read. -/
def readPair (part : List Char) : String × String :=
  (.ofList (trimmed (cutFirst '=' part).1), .ofList (trimmed ((cutFirst '=' part).2.getD [])))

theorem mappingPairs_eq (key : String) : mappingPairs key = (pieces ',' key.toList).map readPair := rfl

namespace Spells

variable {p v text : String}

/-- The first sign of equality is the one between property and value, as there is none in the property. -/
theorem exists_cut (h : Spells (p, v) text) (hp : IsTrimmed p) (hv : IsTrimmed v) (hs : '=' ∉ p.toList) :
    ∃ front back, cutFirst '=' text.toList = (front, some back) ∧ trimmed front = p.toList ∧
      trimmed back = v.toList := by
  obtain ⟨a, b, c, d, ha, hb, hc, hd, rfl⟩ := h
  refine ⟨(a ++ p ++ b).toList, (c ++ v ++ d).toList, ?_, hp.trimmed_padded ha hb, hv.trimmed_padded hc hd⟩
  have hsign : '=' ∉ (a ++ p ++ b).toList := by
    simp only [String.toList_append, List.mem_append, not_or]
    exact ⟨⟨not_mem_of_isBlankText ha (by decide), hs⟩, not_mem_of_isBlankText hb (by decide)⟩
  have htext : (a ++ p ++ b ++ "=" ++ (c ++ v ++ d)).toList =
      (a ++ p ++ b).toList ++ '=' :: (c ++ v ++ d).toList := by simp
  rw [htext, cutFirst_append hsign]

theorem readPair (h : Spells (p, v) text) (he : IsKeyPair (p, v)) : readPair text.toList = (p, v) := by
  obtain ⟨front, back, hcut, hp, hv⟩ := h.exists_cut he.property he.value he.signless
  rw [Stylebook.readPair, hcut, hp, Option.getD_some, hv, String.ofList_toList, String.ofList_toList]

theorem comma_not_mem (h : Spells (p, v) text) (he : IsKeyPair (p, v)) : ',' ∉ text.toList := by
  obtain ⟨a, b, c, d, ha, hb, hc, hd, rfl⟩ := h
  have hblank {s : String} (hs : isBlankText s = true) : ',' ∉ s.toList :=
    not_mem_of_isBlankText hs (by decide)
  simp only [String.toList_append, List.mem_append, not_or]
  exact ⟨⟨⟨⟨hblank ha, he.commaless.1⟩, hblank hb⟩, by decide⟩, ⟨hblank hc, he.commaless.2⟩, hblank hd⟩

end Spells

/-- Texts that spell pairs, with commas between them, are read as these pairs. -/
theorem mappingPairs_joinWith {pairs : List (String × String)} {texts : List String} (hne : pairs ≠ [])
    (hp : ∀ e ∈ pairs, IsKeyPair e) (ht : List.Forall₂ Spells pairs texts) :
    mappingPairs (joinWith "," texts) = pairs := by
  have hread : (∀ t ∈ texts, ',' ∉ t.toList) ∧ (texts.map String.toList).map readPair = pairs := by
    clear hne
    induction ht with
    | nil => exact ⟨by simp, rfl⟩
    | cons hs _ ih =>
      rw [List.forall_mem_cons] at hp
      obtain ⟨hcommas, hmap⟩ := ih hp.2
      refine ⟨List.forall_mem_cons.mpr ⟨hs.comma_not_mem hp.1, hcommas⟩, ?_⟩
      rw [List.map_cons, List.map_cons, hs.readPair hp.1, hmap]
  have htexts : texts ≠ [] := by
    rintro rfl
    exact hne (List.forall₂_nil_right_iff.mp ht)
  rw [mappingPairs_eq, pieces_joinWith rfl htexts hread.1, hread.2]

theorem mappingPairs_eq_cons (key : String) :
    ∃ v rest, mappingPairs key = (mappingProperty key, v) :: rest :=
  ⟨_, _, (List.cons_head_tail (mappingPairs_ne_nil key)).symm⟩

namespace Ban

variable {p v text : String}

theorem ofText_of_spells (h : Spells (p, v) text) (hp : IsTrimmed p) (hv : IsTrimmed v)
    (hs : '=' ∉ p.toList) : ofText text = ⟨p, some v⟩ := by
  obtain ⟨front, back, hcut, hfront, hback⟩ := h.exists_cut hp hv hs
  rw [ofText, hcut]
  dsimp only
  rw [hfront, Option.map_some, hback, String.ofList_toList, String.ofList_toList]

theorem ofText_bare (hp : IsTrimmed p) (hs : '=' ∉ p.toList) : ofText p = ⟨p, none⟩ := by
  rw [ofText, cutFirst_of_not_mem hs]
  dsimp only
  rw [hp.trimmed, String.ofList_toList, Option.map_none]

end Ban

/-- What is written as the key of a mapping is read as the pairs that it spells, whatever blanks stand around
commas and signs of equality. Any text at all is read as one pair or more, of which the first gives the
property of the mapping. And an entry of a rule that forbids is read as the property, and the value if there
is one, that it was written for. -/
theorem keys_and_bans_read_back :
    (∀ (pairs : List (String × String)) (texts : List String), pairs ≠ [] → (∀ e ∈ pairs, IsKeyPair e) →
      List.Forall₂ Spells pairs texts → mappingPairs (joinWith "," texts) = pairs) ∧
    (∀ key, ∃ v rest, mappingPairs key = (mappingProperty key, v) :: rest) ∧
    ∀ p v, IsTrimmed p → IsTrimmed v → '=' ∉ p.toList →
      Ban.ofText (p ++ "=" ++ v) = ⟨p, some v⟩ ∧ Ban.ofText p = ⟨p, none⟩ := by
  refine ⟨fun pairs texts hne hp ht => mappingPairs_joinWith hne hp ht, mappingPairs_eq_cons, ?_⟩
  intro p v hp hv hs
  have hspells : Spells (p, v) (p ++ "=" ++ v) := ⟨"", "", "", "", rfl, rfl, rfl, rfl, by simp⟩
  exact ⟨Ban.ofText_of_spells hspells hp hv hs, Ban.ofText_bare hp hs⟩

/-- A value with a sign of equality in it, a pair of two empty texts, and blanks of several scripts. -/
theorem keys_and_bans_read_back_sizes :
    mappingPairs "size\u00a0= small ,\ttone=a = b,\u3000=\n" =
        [("size", "small"), ("tone", "a = b"), ("", "")] ∧
      Ban.ofText "tone=a = b" = ⟨"tone", some "a = b"⟩ := by
  have hp : ∀ e ∈ [("size", "small"), ("tone", "a = b"), ("", "")], IsKeyPair e := by decide
  have ht : List.Forall₂ Spells [("size", "small"), ("tone", "a = b"), ("", "")]
      ["size\u00a0= small ", "\ttone=a = b", "\u3000=\n"] :=
    .cons ⟨"", "\u00a0", " ", " ", by decide⟩ (.cons ⟨"\t", "", "", "", by decide⟩
      (.cons ⟨"\u3000", "", "", "\n", by decide⟩ .nil))
  exact ⟨keys_and_bans_read_back.1 _ _ (List.cons_ne_nil _ _) hp ht,
    (keys_and_bans_read_back.2.2 "tone" "a = b" (by decide) (by decide) (by decide)).1⟩

end Stylebook
