import Stylebook.Proofs.Dict.Layers
import Stylebook.Proofs.Theme.Frame
import Stylebook.Proofs.Theme.Joined
import Mathlib.Data.List.Nodup

/-!
Base styles that are inherited. A theme's override of a component is merged into that of its parent, and only
the outcome is laid over the component. Its base styles come out as if the overrides were laid over the
component in turn, but for styles that have branches, are replaced by the parent and have branches again:
the merged override has no trace of the replacement. That holds where child and parent call base styles by one
name; of two names the child's is the last, and the parent's base styles are lost.
-/

namespace Stylebook

open Decoded Decoding

namespace StyleValue

/-- A style over what is there: branches are laid over branches, anything else takes the place. -/
def laidOn (top : StyleValue) (below : Option StyleValue) : StyleValue :=
  match below, top with
  | some (.branches d), .branches e => .branches (d.update e)
  | _, v => v

/-- All that `top` says holds of a style, which may have further branches. -/
def Shows (v : StyleValue) : StyleValue → Prop
  | .literal l => v = .literal l
  | .branches e => ∃ d, v = .branches d ∧ ∀ b l, e.get? b = some l → d.get? b = some l

variable {top : StyleValue} {below : Option StyleValue} {d e : Dict Literal}

theorem laidOn_none : top.laidOn none = top := rfl

theorem laidOn_branches : (StyleValue.branches e).laidOn (some (.branches d)) = .branches (d.update e) := rfl

theorem laidOn_of_not_branches (h : ∀ d, below ≠ some (.branches d)) : top.laidOn below = top := by
  cases below with
  | none => rfl
  | some v =>
    cases v with
    | literal l => rfl
    | branches d => exact absurd rfl (h d)

theorem laidOn_literal (l : Literal) : (StyleValue.literal l).laidOn below = .literal l := by
  cases below with
  | none => rfl
  | some v => cases v <;> rfl

theorem shows_laidOn (top : StyleValue) (below : Option StyleValue) : (top.laidOn below).Shows top := by
  cases top with
  | literal l => exact laidOn_literal l
  | branches e =>
    by_cases h : ∃ d, below = some (.branches d)
    · obtain ⟨d, rfl⟩ := h
      exact ⟨d.update e, rfl, fun b l hb => by rw [Dict.get?_update, hb]; rfl⟩
    · rw [laidOn_of_not_branches fun d hd => h ⟨d, hd⟩]
      exact ⟨e, rfl, fun _ _ hb => hb⟩

theorem Shows.trans {u v w : StyleValue} (h : w.Shows v) (h' : v.Shows u) : w.Shows u := by
  cases u with
  | literal l =>
    obtain rfl : v = literal l := h'
    exact h
  | branches e =>
    obtain ⟨d, rfl, hd⟩ := h'
    obtain ⟨c, rfl, hc⟩ := h
    exact ⟨c, rfl, fun b l hb => hc b l (hd b l hb)⟩

/-- Of three styles over one another it makes no difference which two are joined first, unless the one in
between cuts off the branches below. -/
theorem laidOn_laidOn (mid : StyleValue) (h : ∀ d e l, below = some (.branches d) → top = .branches e →
    mid ≠ .literal l) : (top.laidOn (some mid)).laidOn below = top.laidOn (some (mid.laidOn below)) := by
  cases top with
  | literal l => rw [laidOn_literal, laidOn_literal, laidOn_literal]
  | branches e =>
    by_cases hb : ∃ d, below = some (.branches d)
    · obtain ⟨d, rfl⟩ := hb
      cases mid with
      | literal l => exact absurd rfl (h d e l rfl rfl)
      | branches m => exact congrArg branches (d.update_assoc m e).symm
    · have hb : ∀ d, below ≠ some (.branches d) := fun d hd => hb ⟨d, hd⟩
      rw [laidOn_of_not_branches hb, laidOn_of_not_branches hb]

end StyleValue

namespace StyleMap

/-- Styles laid over styles. -/
def lay (base top : StyleMap) : StyleMap := base.joinWith StyleValue.laidOn top

/-- A style that has branches, is replaced by the styles above and given branches anew by those on top,
which do not happen to bring back all that was there. -/
def Reopened (s p q : StyleMap) (k : String) : Prop :=
  ∃ d l e, s.get? k = some (.branches d) ∧ p.get? k = some (.literal l) ∧
    q.get? k = some (.branches e) ∧ d.update e ≠ e

variable {s p q : StyleMap} {k : String}

theorem get?_lay (base top : StyleMap) : (base.lay top).get? k =
    ((top.get? k).map fun v => v.laidOn (base.get? k)).or (base.get? k) :=
  Dict.get?_joinWith _ base top

theorem keys_lay (base top : StyleMap) : (base.lay top).keys = Pairs.joinKeys base.keys top.keys :=
  Dict.keys_joinWith _ base top

theorem mem_keys_lay (base top : StyleMap) : k ∈ (base.lay top).keys ↔ k ∈ base.keys ∨ k ∈ top.keys := by
  rw [keys_lay, Pairs.mem_joinKeys]

theorem get?_lay_of_none (h : q.get? k = none) : (s.lay q).get? k = s.get? k := by
  rw [get?_lay, h]
  rfl

theorem get?_lay_of_some {v : StyleValue} (h : q.get? k = some v) :
    (s.lay q).get? k = some (v.laidOn (s.get? k)) := by
  rw [get?_lay, h]
  rfl

theorem empty_lay (q : StyleMap) : (∅ : StyleMap).lay q = q := by
  refine Dict.eq_of_get? ?_ fun k => ?_
  · rw [keys_lay]
    exact Pairs.nil_joinKeys q.keys
  · cases hq : q.get? k with
    | none => exact get?_lay_of_none hq
    | some v => exact get?_lay_of_some hq

theorem keys_lay_lay (s p q : StyleMap) : (s.lay (p.lay q)).keys = ((s.lay p).lay q).keys := by
  simp only [keys_lay, Pairs.joinKeys_assoc]

section Reopened

variable {d e : Dict Literal} {l : Literal}

theorem get?_merged_of_reopened (hs : s.get? k = some (.branches d)) (hp : p.get? k = some (.literal l))
    (hq : q.get? k = some (.branches e)) :
    (s.lay (p.lay q)).get? k = some (.branches (d.update e)) := by
  have hpq := get?_lay_of_some (s := p) hq
  rw [hp] at hpq
  rw [get?_lay_of_some hpq, hs]
  rfl

theorem get?_stepwise_of_reopened (hp : p.get? k = some (.literal l)) (hq : q.get? k = some (.branches e)) :
    ((s.lay p).lay q).get? k = some (.branches e) := by
  rw [get?_lay_of_some hq, get?_lay_of_some hp, StyleValue.laidOn_literal]
  rfl

end Reopened

theorem get?_merged_eq_iff (s p q : StyleMap) (k : String) :
    (s.lay (p.lay q)).get? k = ((s.lay p).lay q).get? k ↔ ¬ Reopened s p q k := by
  constructor
  · rintro he ⟨d, l, e, hs, hp, hq, hne⟩
    rw [get?_merged_of_reopened hs hp hq, get?_stepwise_of_reopened hp hq] at he
    exact hne (StyleValue.branches.inj (Option.some.inj he))
  · intro h
    cases hq : q.get? k with
    | none =>
      rw [get?_lay_of_none hq, get?_lay, get?_lay_of_none hq, get?_lay]
    | some v =>
      have hpq := get?_lay_of_some (s := p) hq
      rw [get?_lay_of_some hpq, get?_lay_of_some hq]
      cases hp : p.get? k with
      | none => rw [get?_lay_of_none hp, StyleValue.laidOn_none]
      | some m =>
        rw [get?_lay_of_some hp]
        by_cases hcut : ∃ d l e, s.get? k = some (.branches d) ∧ m = .literal l ∧ v = .branches e
        -- the branches below are cut off, but the uppermost ones bring them all back
        · obtain ⟨d, l, e, hs, rfl, rfl⟩ := hcut
          have hback : d.update e = e := Classical.not_not.mp fun hne => h ⟨d, l, e, hs, hp, hq, hne⟩
          rw [hs, StyleValue.laidOn_literal]
          exact congrArg (fun e => some (StyleValue.branches e)) hback
        · exact congrArg some (StyleValue.laidOn_laidOn m fun d e l hs hv hm => hcut ⟨d, l, e, hs, hm, hv⟩)

/-- Base styles after a merged override, beside those after the parent's override and those after the
child's was laid over these in turn: `s` are those of the component itself, `p` and `q` what parent and child
give. -/
structure Inherits (s p q first stepwise merged : StyleMap) : Prop where
  keys : merged.keys = stepwise.keys
  kept : ∀ k, k ∈ merged.keys ↔ k ∈ s.keys ∨ k ∈ p.keys ∨ k ∈ q.keys
  rest : ∀ k, q.get? k = none → merged.get? k = first.get? k
  wins : ∀ k v, q.get? k = some v → ∃ w, merged.get? k = some w ∧ w.Shows v
  branches : ∀ k d e, first.get? k = some (.branches d) → q.get? k = some (.branches e) →
    merged.get? k = some (.branches (d.update e))
  same : ∀ k, merged.get? k = stepwise.get? k ↔ ¬ Reopened s p q k
  reopened : ∀ k d l e, s.get? k = some (.branches d) → p.get? k = some (.literal l) →
    q.get? k = some (.branches e) →
      merged.get? k = some (.branches (d.update e)) ∧ stepwise.get? k = some (.branches e)

theorem inherits_lay (s p q : StyleMap) :
    Inherits s p q (s.lay p) ((s.lay p).lay q) (s.lay (p.lay q)) where
  keys := keys_lay_lay s p q
  kept k := by rw [mem_keys_lay, mem_keys_lay]
  rest k hq := by rw [get?_lay, get?_lay_of_none hq, get?_lay]
  wins k v hq :=
    ⟨_, get?_lay_of_some (get?_lay_of_some hq), (StyleValue.shows_laidOn _ _).trans (StyleValue.shows_laidOn _ _)⟩
  branches k d e hd hq := by
    -- what still has branches after the parent is no style that the parent replaced
    have hcut : ¬ Reopened s p q k := by
      rintro ⟨_, l, -, -, hp, -, -⟩
      rw [get?_lay_of_some hp, StyleValue.laidOn_literal] at hd
      cases hd
    rw [(get?_merged_eq_iff s p q k).mpr hcut, get?_lay_of_some hq, hd, StyleValue.laidOn_branches]
  same := get?_merged_eq_iff s p q
  reopened k d l e hs hp hq := ⟨get?_merged_of_reopened hs hp hq, get?_stepwise_of_reopened hp hq⟩

/-- Base styles after a merged override that has kept those of the child and none of the parent's: what the
parent alone gives is lost, and what the child gives is laid over the component's own styles. -/
structure Forgets (s p q stepwise merged : StyleMap) : Prop where
  kept : ∀ k, k ∈ merged.keys ↔ k ∈ s.keys ∨ k ∈ q.keys
  wins : ∀ k v, q.get? k = some v → merged.get? k = some (v.laidOn (s.get? k))
  lost : ∀ k v, p.get? k = some v → q.get? k = none →
    merged.get? k = s.get? k ∧ stepwise.get? k = some (v.laidOn (s.get? k))
  rest : ∀ k, p.get? k = none → merged.get? k = stepwise.get? k

theorem forgets_lay (s p q : StyleMap) : Forgets s p q ((s.lay p).lay q) (s.lay q) where
  kept _ := mem_keys_lay s q
  wins _ _ := get?_lay_of_some
  lost k v hp hq := ⟨get?_lay_of_none hq, by rw [get?_lay_of_none hq, get?_lay_of_some hp]⟩
  rest k hp := by rw [get?_lay, get?_lay, get?_lay_of_none hp]

/-- What is no object is read as a literal. -/
theorem exists_of_readStyleValue_scalar {w : Value} {v : StyleValue} (hw : ∀ fs, w ≠ .object fs)
    (h : readStyleValue w = ok v) : ∃ l, v = .literal l := by
  rw [readStyleValue] at h
  split at h
  · rename_i l _
    exact ⟨l, (ok.inj h).symm⟩
  · rename_i hd _
    cases w with
    | object fs => exact absurd rfl (hw fs)
    | _ => cases hd
  · cases h

/-- The branches that a style is laid over, if any, in raw data and as read. -/
theorem exists_branches {below : Option Value} {old : Option StyleValue}
    (h : below.map readStyleValue = old.map ok) (e : Dict Literal) :
    ∃ d, dict literal (.object (below.getD .null).fieldsOf) = ok d ∧
      (StyleValue.branches e).laidOn old = .branches (d.update e) := by
  have hempty : (∅ : Dict Literal).update e = e := Dict.ofList_entries e
  cases below with
  | none =>
    obtain rfl : old = none := by simpa using h.symm
    exact ⟨∅, rfl, congrArg StyleValue.branches hempty.symm⟩
  | some w =>
    obtain ⟨v, rfl⟩ : ∃ v, old = some v := by
      cases old with
      | none => cases h
      | some v => exact ⟨v, rfl⟩
    have hv : readStyleValue w = ok v := Option.some.inj h
    by_cases hw : ∃ fs, w = .object fs
    · obtain ⟨fs, rfl⟩ := hw
      obtain ⟨d, hd, rfl⟩ := exists_of_readStyleValue hv
      exact ⟨d, hd, rfl⟩
    · obtain ⟨l, rfl⟩ := exists_of_readStyleValue_scalar (fun fs hfs => hw ⟨fs, hfs⟩) hv
      have hfields : w.fieldsOf = [] := by
        cases w with
        | object fs => exact absurd ⟨fs, rfl⟩ hw
        | _ => rfl
      exact ⟨∅, by rw [Option.getD_some, hfields]; rfl, congrArg StyleValue.branches hempty.symm⟩

theorem literal_null (l : Literal) : literal .null ≠ ok l := nofun

theorem readStyleValue_null (v : StyleValue) : readStyleValue .null ≠ ok v := nofun

theorem joins_readStyleValue : Joins readStyleValue StyleValue.laidOn := by
  intro below old w v hbelow hdistinct hw hv
  by_cases hfs : ∃ fs, w = .object fs
  · obtain ⟨fs, rfl⟩ := hfs
    obtain ⟨e, he, rfl⟩ := exists_of_readStyleValue hv
    obtain ⟨d, hd, hover⟩ := exists_branches hbelow e
    have hbase := Value.namesDistinct_fieldsOf (Value.namesDistinct_getD hdistinct)
    rw [Value.laidOver, hover, ← Dict.joinWith_fst]
    exact readStyleValue_branches (dict_deepMerge joins_literal literal_null hd he hbase hw)
  · have hfs : ∀ fs, w ≠ .object fs := fun fs h => hfs ⟨fs, h⟩
    obtain ⟨l, rfl⟩ := exists_of_readStyleValue_scalar hfs hv
    rw [Value.laidOver_scalar hfs, StyleValue.laidOn_literal, hv]

theorem readsAlone_readStyleValue : ReadsAlone readStyleValue := by
  intro below w v hbelow hw hfree h
  cases w with
  | object fs =>
    rw [Value.laidOver] at h
    obtain ⟨d, hd, -⟩ := exists_of_readStyleValue h
    have hbase := Value.namesDistinct_fieldsOf hbelow
    obtain ⟨e, he⟩ := exists_of_dict_deepMerge readsAlone_literal hd hbase hw hfree
    exact ⟨_, readStyleValue_branches he⟩
  | _ => exact ⟨v, h⟩

theorem namesDistinct_fields (m : StyleMap) :
    (Value.object (Pairs.fields StyleValue.toValue m.entries)).namesDistinct = true := by
  refine Value.namesDistinct_fields (fun v => ?_) m
  have hl (l : Literal) : l.toValue.namesDistinct = true := by cases l <;> rfl
  cases v with
  | literal l => exact hl l
  | branches d =>
    rw [StyleValue.toValue, Value.ofDict_eq]
    exact Value.namesDistinct_fields hl d

end StyleMap

namespace Override

/-- The names that base styles may go by. -/
def spellings : List String := ["baseStyles", "base_styles"]

/-- An override gives base styles as an object, under one of their names and not under the other. -/
structure GivesStyles (override : Fields) (spelling : String) (styles : Fields) : Prop where
  spelled : spelling ∈ spellings
  given : Fields.get? override spelling = some (.object styles)
  once : ∀ other ∈ spellings, other ≠ spelling → Fields.get? override other = none

variable {override parent child fs P Q : Fields} {spelling other name : String}

theorem mem_spellings_of_partName {k : Key} (h : partName k = .text "base_styles") :
    ∃ s ∈ spellings, k = .text s := by
  rcases eq_of_partName h with rfl | ⟨rfl, -⟩
  · exact ⟨_, by simp [spellings], rfl⟩
  · exact ⟨_, by simp [spellings], rfl⟩

theorem partName_spelling (h : spelling ∈ spellings) : partName (.text spelling) = .text "base_styles" := by
  simp only [spellings, List.mem_cons, List.not_mem_nil, or_false] at h
  rcases h with rfl | rfl <;> rfl

/-- There are two names only. -/
theorem eq_of_ne_spelling {s : String} (h : spelling ∈ spellings) (hs : s ∈ spellings) (hne : s ≠ spelling)
    (ho : other ∈ spellings) (hne' : other ≠ spelling) : s = other := by
  simp only [spellings, List.mem_cons, List.not_mem_nil, or_false] at h hs ho
  grind

namespace GivesStyles

/-- As one of the names is not used, no two fields count under one name. -/
theorem nodup_partNames (hg : GivesStyles override spelling fs) (hn : (Pairs.keys override).Nodup) :
    (Pairs.keys (override.map fun e => (partName e.1, e.2))).Nodup := by
  have hkeys := Pairs.keys_map_both partName id override
  have honly {k : Key} (hk : k ∈ Pairs.keys override) (hb : partName k = .text "base_styles") :
      k = .text spelling := by
    obtain ⟨s, hs, rfl⟩ := mem_spellings_of_partName hb
    by_cases he : s = spelling
    · rw [he]
    · exact absurd hk (Pairs.get?_eq_none_iff.mp (hg.once s hs he))
  refine hkeys ▸ List.Nodup.map_on (fun j hj k hk h => ?_) hn
  by_cases hb : partName j = .text "base_styles"
  · rw [honly hj hb, honly hk (h ▸ hb)]
  · have hself {k : Key} (hb : partName k ≠ .text "base_styles") : partName k = k := by
      rw [partName] at hb ⊢
      split
      · rename_i hk
        exact absurd (if_pos hk) hb
      · rfl
    rw [← hself hb, h, hself (h ▸ hb)]

theorem get?_rename (hg : GivesStyles override spelling fs) (hn : (Pairs.keys override).Nodup) :
    Fields.get? (rename override) "base_styles" = some (.object fs) := by
  have hnames := hg.nodup_partNames hn
  have hmem : (Key.text "base_styles", Value.object fs) ∈ override.map fun e => (partName e.1, e.2) :=
    List.mem_map.mpr ⟨_, Pairs.mem_of_get? hg.given, by rw [partName_spelling hg.spelled]⟩
  rw [rename_eq, Fields.get?, Pairs.get?_setAll hnames, (Pairs.get?_eq_some_iff hnames).mpr hmem]
  rfl

/-- Styles under one name are merged with each other. -/
theorem deepMerge (hp : GivesStyles parent spelling P) (hq : GivesStyles child spelling Q)
    (hn : (Pairs.keys child).Nodup) :
    GivesStyles (deepMerge parent child) spelling (Stylebook.deepMerge P Q) where
  spelled := hp.spelled
  given := by
    have hparent := hp.given
    have hchild := hq.given
    rw [Fields.get?] at hparent hchild ⊢
    have hne : Value.object Q ≠ .null := by simp
    rw [get?_deepMerge hn, hparent, hchild, mergedAt_some hne, Option.getD_some, Value.laidOver]
    rfl
  once other ho hne := by
    have hparent := hp.once other ho hne
    have hchild := hq.once other ho hne
    rw [Fields.get?] at hparent hchild ⊢
    rw [get?_deepMerge hn, hparent, hchild]
    rfl

/-- Styles under another name than the parent's stand after the parent's, and are the only ones left once both
count under one name. -/
theorem get?_rename_deepMerge (hp : GivesStyles parent spelling P) (hq : GivesStyles child other Q)
    (hne : other ≠ spelling) (hparent : (Pairs.keys parent).Nodup) (hchild : (Pairs.keys child).Nodup) :
    Fields.get? (rename (Stylebook.deepMerge parent child)) "base_styles" =
      some (.object (Stylebook.deepMerge [] Q)) := by
  have hn : (Pairs.keys (Stylebook.deepMerge parent child)).Nodup := nodup_deepMerge hparent
  have hgiven : Pairs.get? (.text other) (Stylebook.deepMerge parent child) =
      some (.object (Stylebook.deepMerge [] Q)) := by
    have hmerged := hp.once other hq.spelled hne
    have hQ := hq.given
    rw [Fields.get?] at hmerged hQ
    have hnull : Value.object Q ≠ .null := by simp
    rw [get?_deepMerge hchild, hmerged, hQ, mergedAt_some hnull, Option.getD_none, Value.laidOver]
    rfl
  obtain ⟨front, back, hsplit, hfront⟩ := exists_deepMerge_eq_append parent child
  rw [hsplit] at hn hgiven ⊢
  have hlate : Pairs.get? (.text other) front = none := by
    rw [Pairs.get?_eq_none_iff, hfront, ← Pairs.get?_eq_none_iff]
    exact hp.once other hq.spelled hne
  have hearly : Key.text spelling ∈ Pairs.keys front := by
    rw [hfront]
    exact List.mem_map.mpr ⟨_, Pairs.mem_of_get? hp.given, rfl⟩
  rw [Pairs.get?_append, hlate, Option.none_or] at hgiven
  rw [Pairs.keys_append, List.nodup_append] at hn
  have honly {k : Key} (hk : k ∈ Pairs.keys back) (hb : partName k = .text "base_styles") :
      k = .text other := by
    obtain ⟨s, hs, rfl⟩ := mem_spellings_of_partName hb
    have hs' : s ≠ spelling := fun he => hn.2.2 _ hearly _ hk (congrArg Key.text he.symm)
    rw [eq_of_ne_spelling hp.spelled hs hs' hq.spelled hne]
  rw [rename_eq, List.map_append, Fields.get?, Pairs.setAll_append]
  refine Pairs.get?_setAll_of_forall (fun w hw => ?_) (.inl ?_)
  · obtain ⟨⟨k, _⟩, hmem, he⟩ := List.mem_map.mp hw
    obtain ⟨hk, rfl⟩ := Prod.mk.inj he
    obtain rfl := honly (List.mem_map.mpr ⟨_, hmem, rfl⟩) hk
    exact Option.some.inj (((Pairs.get?_eq_some_iff hn.2.1).mpr hmem).symm.trans hgiven)
  · exact List.mem_map.mpr ⟨_, Pairs.mem_of_get? hgiven, by rw [partName_spelling hq.spelled]⟩

end GivesStyles

theorem fields?_of_object (h : Fields.get? override name = some (.object fs)) :
    fields? override name = .ok (if fs = [] then none else some fs) := by
  have hget : Fields.getD override name = .object fs := by
    rw [Fields.getD, h]
    rfl
  rw [fields?, hget]
  cases fs <;> rfl

theorem baseStyles_eq_none_iff {o o' : Option StyleMap} {fs : Option Fields}
    (h : nullable StyleMap.decode (changed (.ofOption StyleMap.toValue o) fs) = ok o') :
    o' = none ↔ o = none ∧ fs = none := by
  cases o with
  | some m =>
    rw [Value.ofOption, StyleMap.toValue, Value.ofDict_eq, changed_object] at h
    obtain ⟨m', -, rfl⟩ := map_eq_ok_iff.mp h
    simp
  | none =>
    cases fs with
    | none =>
      cases h
      simp
    | some l =>
      rw [changed, Value.laidOver] at h
      obtain ⟨m', -, rfl⟩ := map_eq_ok_iff.mp h
      simp

end Override

theorem eq_iff_getD_eq {α : Type} {o o' : Option α} (a : α) (h : o = none ↔ o' = none) :
    o = o' ↔ o.getD a = o'.getD a := by
  cases o <;> cases o' <;> simp_all

namespace Component

open Override

variable {c c' c₁ c₂ c₃ : Component} {override parent child fs P Q : Fields} {spelling other : String}
  {p q : StyleMap}

/-- Where the base styles of a changed component are read from, and when it has any. -/
theorem read_styles (hg : Fields.get? (rename override) "base_styles" = some (.object fs))
    (h : c.withOverride override = .ok c') :
    StyleMap.decode (.object (deepMerge
      (Pairs.fields StyleValue.toValue (c.baseStyles.getD ∅).entries) fs)) = ok (c'.baseStyles.getD ∅) ∧
    (c'.baseStyles = none ↔ c.baseStyles = none ∧ fs = []) := by
  obtain ⟨data, hdata, hc⟩ := withOverride_eq_ok_iff.mp h
  obtain ⟨description, baseStyles, properties, mappings, hparts⟩ := exists_parts hdata
  obtain ⟨vs, -, rfl⟩ := (mergeInto_eq_ok_iff hparts).mp hdata
  obtain ⟨_, hfs, -, hreads⟩ := reads_of_decode hc
  cases hfs
  obtain ⟨-, -, -, -, -, hbase⟩ := reads_described_iff.mp hreads
  obtain rfl := Except.ok.inj (hparts.baseStyles.symm.trans (fields?_of_object hg))
  have hstyles := read_baseStyles hbase
  have hfs : (if fs = [] then none else some fs).getD [] = fs := by
    split
    · rename_i he
      exact he.symm
    · rfl
  rw [hfs] at hstyles
  exact ⟨hstyles, by simpa using baseStyles_eq_none_iff hbase⟩

/-- The base styles that an override gives are laid over those of the component; with none on either side
there are none. -/
theorem styles_withOverride (hg : Fields.get? (rename override) "base_styles" = some (.object fs))
    (hfs : (Value.object fs).namesDistinct = true) (hp : StyleMap.decode (.object fs) = ok p)
    (h : c.withOverride override = .ok c') :
    c'.baseStyles.getD ∅ = (c.baseStyles.getD ∅).lay p ∧
      (c'.baseStyles = none ↔ c.baseStyles = none ∧ p.keys = []) := by
  obtain ⟨hread, hnone⟩ := read_styles hg h
  constructor
  · have hold := dict_ofDict (d := c.baseStyles.getD ∅) fun e _ => StyleMap.readStyleValue_toValue e.2
    rw [Value.ofDict_eq] at hold
    have hjoined := dict_deepMerge StyleMap.joins_readStyleValue StyleMap.readStyleValue_null hold hp
      (StyleMap.namesDistinct_fields _) hfs
    exact ok.inj (hread.symm.trans hjoined)
  · have hkeys := keys_of_dict (Value.namesDistinct_object.mp hfs).1 hp
    rw [hnone, ← List.map_eq_nil_iff (f := Key.text), ← hkeys, Pairs.keys, List.map_eq_nil_iff]

/-- Base styles without nulls that an override gives can be read by themselves. -/
theorem exists_styles (hg : Fields.get? (rename override) "base_styles" = some (.object fs))
    (hfs : (Value.object fs).namesDistinct = true) (hnull : (Value.object fs).nullFree = true)
    (h : c.withOverride override = .ok c') : ∃ p, StyleMap.decode (.object fs) = ok p :=
  exists_of_dict_deepMerge StyleMap.readsAlone_readStyleValue (read_styles hg h).1
    (StyleMap.namesDistinct_fields _) hfs hnull

/-- Where both parts of a merged override call their base styles by one name, these are merged before they are laid
over those of the component. -/
theorem styles_deepMerge_of_eq (hparent : (Value.object parent).namesDistinct = true)
    (hchild : (Value.object child).namesDistinct = true) (hp : GivesStyles parent spelling P)
    (hq : GivesStyles child spelling Q) (hreadP : StyleMap.decode (.object P) = ok p)
    (hreadQ : StyleMap.decode (.object Q) = ok q) (h : c.withOverride (deepMerge parent child) = .ok c') :
    c'.baseStyles.getD ∅ = (c.baseStyles.getD ∅).lay (p.lay q) ∧
      (c'.baseStyles = none ↔ c.baseStyles = none ∧ (p.lay q).keys = []) := by
  obtain ⟨hparentNodup, hparentValues⟩ := Value.namesDistinct_object.mp hparent
  obtain ⟨hchildNodup, hchildValues⟩ := Value.namesDistinct_object.mp hchild
  have hP := hparentValues _ (Pairs.mem_of_get? hp.given)
  have hQ := hchildValues _ (Pairs.mem_of_get? hq.given)
  have hread : StyleMap.decode (.object (deepMerge P Q)) = ok (p.lay q) :=
    dict_deepMerge StyleMap.joins_readStyleValue StyleMap.readStyleValue_null hreadP hreadQ hP hQ
  have hmerged := (hp.deepMerge hq hchildNodup).get?_rename (nodup_deepMerge hparentNodup)
  exact styles_withOverride hmerged (namesDistinct_deepMerge P hP Q (Value.namesDistinct_object.mp hQ).2) hread h

/-- Where they call them by different names, only those of the child are laid over those of the component. -/
theorem styles_deepMerge_of_ne (hparent : (Value.object parent).namesDistinct = true)
    (hchild : (Value.object child).namesDistinct = true) (hp : GivesStyles parent spelling P)
    (hq : GivesStyles child other Q) (hne : other ≠ spelling) (hreadQ : StyleMap.decode (.object Q) = ok q)
    (h : c.withOverride (deepMerge parent child) = .ok c') :
    c'.baseStyles.getD ∅ = (c.baseStyles.getD ∅).lay q := by
  obtain ⟨hparentNodup, -⟩ := Value.namesDistinct_object.mp hparent
  obtain ⟨hchildNodup, hchildValues⟩ := Value.namesDistinct_object.mp hchild
  have hQ := hchildValues _ (Pairs.mem_of_get? hq.given)
  have hread : StyleMap.decode (.object (deepMerge [] Q)) = ok ((∅ : StyleMap).lay q) :=
    dict_deepMerge StyleMap.joins_readStyleValue StyleMap.readStyleValue_null rfl hreadQ rfl hQ
  have hmerged := hp.get?_rename_deepMerge hq hne hparentNodup hchildNodup
  rw [(styles_withOverride hmerged (namesDistinct_deepMerge [] rfl Q (Value.namesDistinct_object.mp hQ).2) hread
    h).1, StyleMap.empty_lay]

/-- The base styles that a merged override leaves, beside those that its two parts leave in turn. Where child
and parent call them by different names, those of the parent are not among them. -/
theorem inherited_styles (hparent : (Value.object parent).namesDistinct = true)
    (hchild : (Value.object child).namesDistinct = true) (hp : GivesStyles parent spelling P)
    (hq : GivesStyles child other Q) (hP : (Value.object P).nullFree = true)
    (hQ : (Value.object Q).nullFree = true) (h₁ : c.withOverride parent = .ok c₁)
    (h₂ : c₁.withOverride child = .ok c₂) (h₃ : c.withOverride (deepMerge parent child) = .ok c₃) :
    ∃ p q, StyleMap.decode (.object P) = ok p ∧ StyleMap.decode (.object Q) = ok q ∧
      (other = spelling →
        StyleMap.Inherits (c.baseStyles.getD ∅) p q (c₁.baseStyles.getD ∅) (c₂.baseStyles.getD ∅)
          (c₃.baseStyles.getD ∅) ∧
        (c₃.baseStyles = c₂.baseStyles ↔
          ∀ k, ¬ StyleMap.Reopened (c.baseStyles.getD ∅) p q k)) ∧
      (other ≠ spelling →
        StyleMap.Forgets (c.baseStyles.getD ∅) p q (c₂.baseStyles.getD ∅) (c₃.baseStyles.getD ∅)) := by
  obtain ⟨hparentNodup, hparentValues⟩ := Value.namesDistinct_object.mp hparent
  obtain ⟨hchildNodup, hchildValues⟩ := Value.namesDistinct_object.mp hchild
  have hP' := hparentValues _ (Pairs.mem_of_get? hp.given)
  have hQ' := hchildValues _ (Pairs.mem_of_get? hq.given)
  have hgivesP := hp.get?_rename hparentNodup
  have hgivesQ := hq.get?_rename hchildNodup
  obtain ⟨p, hreadP⟩ := exists_styles hgivesP hP' hP h₁
  obtain ⟨q, hreadQ⟩ := exists_styles hgivesQ hQ' hQ h₂
  obtain ⟨hs₁, hnone₁⟩ := styles_withOverride hgivesP hP' hreadP h₁
  obtain ⟨hs₂, hnone₂⟩ := styles_withOverride hgivesQ hQ' hreadQ h₂
  rw [hs₁] at hs₂
  refine ⟨p, q, hreadP, hreadQ, ?_, fun hne => ?_⟩
  · rintro rfl
    obtain ⟨hs₃, hnone₃⟩ := styles_deepMerge_of_eq hparent hchild hp hq hreadP hreadQ h₃
    have hinherits : StyleMap.Inherits (c.baseStyles.getD ∅) p q (c₁.baseStyles.getD ∅)
        (c₂.baseStyles.getD ∅) (c₃.baseStyles.getD ∅) := by
      rw [hs₁, hs₂, hs₃]
      exact StyleMap.inherits_lay (c.baseStyles.getD ∅) p q
    have hnone : c₃.baseStyles = none ↔ c₂.baseStyles = none := by
      rw [hnone₃, hnone₂, hnone₁, StyleMap.keys_lay, Pairs.joinKeys_eq_nil_iff, and_assoc]
    refine ⟨hinherits, ?_⟩
    rw [eq_iff_getD_eq ∅ hnone]
    constructor
    · intro he k
      exact (hinherits.same k).mp (congrArg (fun m => Dict.get? m k) he)
    · exact fun h => Dict.eq_of_get? hinherits.keys fun k => (hinherits.same k).mpr (h k)
  · rw [hs₂, styles_deepMerge_of_ne hparent hchild hp hq hne hreadQ h₃]
    exact StyleMap.forgets_lay (c.baseStyles.getD ∅) p q

end Component

/-- A style with a text for each width. -/
def widths (l : List (String × String)) : StyleValue := .branches (.ofList (l.map fun e => (e.1, .text e.2)))

/-- A card with this padding and one gap. -/
def cardWith (pad : StyleValue) : Component where
  name := "Card"
  description := none
  properties := ∅
  constraints := []
  mappings := ∅
  baseStyles := some (.ofList [("pad", pad), ("gap", .literal (.text "1"))])

def card : Component := cardWith (widths [("base", "1"), ("md", "2")])

/-- An override that gives a padding and nothing else. -/
def padding (pad : Value) : Fields := [(.text "baseStyles", .record [("pad", pad)])]

def widerPadding : Fields := padding (.record [("md", .text "4")])

def largePadding : Fields := padding (.record [("lg", .text "8")])

def evenPadding : Fields := padding (.text "4")

/-- The padding of `evenPadding`, given under the other name. -/
def plainPadding : Fields := [(.text "base_styles", .record [("pad", .text "4")])]

def wideGap : Fields := [(.text "baseStyles", .record [("gap", .text "8")])]

namespace Component

open Override

theorem givesStyles_singleton {spelling : String} (h : spelling ∈ spellings) (fs : Fields) :
    GivesStyles [(.text spelling, .object fs)] spelling fs where
  spelled := h
  given := if_pos rfl
  once _ _ hne := if_neg fun he => hne (Key.text.inj he).symm

theorem givesStyles_padding (pad : Value) : GivesStyles (padding pad) "baseStyles" [(.text "pad", pad)] :=
  givesStyles_singleton (by simp [spellings]) _

/-- The parent's padding is wider, the child has another one for large screens: merged or in turn, the card
gets both. -/
theorem inherited_styles_card :
    ∃ c₁ c₂ c₃, card.withOverride widerPadding = .ok c₁ ∧ c₁.withOverride largePadding = .ok c₂ ∧
      card.withOverride (deepMerge widerPadding largePadding) = .ok c₃ ∧
      c₃ = cardWith (widths [("base", "1"), ("md", "4"), ("lg", "8")]) ∧
      c₃.baseStyles = c₂.baseStyles := by
  have h₁ : card.withOverride widerPadding = .ok (cardWith (widths [("base", "1"), ("md", "4")])) := rfl
  have h₂ : (cardWith (widths [("base", "1"), ("md", "4")])).withOverride largePadding =
    .ok (cardWith (widths [("base", "1"), ("md", "4"), ("lg", "8")])) := rfl
  have h₃ : card.withOverride (deepMerge widerPadding largePadding) =
    .ok (cardWith (widths [("base", "1"), ("md", "4"), ("lg", "8")])) := rfl
  obtain ⟨p, q, hp, -, hone, -⟩ := inherited_styles rfl rfl (givesStyles_padding _)
    (givesStyles_padding _) rfl rfl h₁ h₂ h₃
  refine ⟨_, _, _, h₁, h₂, h₃, rfl, (hone rfl).2.mpr ?_⟩
  cases hp
  -- the parent gives branches only
  rintro k ⟨d, l, e, -, hl, -, -⟩
  have hl : (k, StyleValue.literal l) ∈ [("pad", widths [("md", "4")])] := Dict.get?_eq_some_iff.mp hl
  cases List.mem_singleton.mp hl

/-- Where the parent gives one padding for all widths, the merged override brings back the paddings that the
card had before. -/
theorem merged_styles_reopened :
    (Value.object evenPadding).namesDistinct = true ∧ (Value.object largePadding).namesDistinct = true ∧
      (Value.object evenPadding).nullFree = true ∧ (Value.object largePadding).nullFree = true ∧
      GivesStyles evenPadding "baseStyles" [(.text "pad", .text "4")] ∧
      GivesStyles largePadding "baseStyles" [(.text "pad", .record [("lg", .text "8")])] ∧
      card.withOverride evenPadding = .ok (cardWith (.literal (.text "4"))) ∧
      (cardWith (.literal (.text "4"))).withOverride largePadding = .ok (cardWith (widths [("lg", "8")])) ∧
      card.withOverride (deepMerge evenPadding largePadding) =
        .ok (cardWith (widths [("base", "1"), ("md", "2"), ("lg", "8")])) ∧
      (cardWith (widths [("base", "1"), ("md", "2"), ("lg", "8")])).baseStyles ≠
        (cardWith (widths [("lg", "8")])).baseStyles :=
  ⟨rfl, rfl, rfl, rfl, givesStyles_padding _, givesStyles_padding _, rfl, rfl, rfl, by decide⟩

/-- The parent's padding goes by the other name than the child's gap: the merged override has no trace of the
padding, which the card would get from the overrides in turn. -/
theorem merged_styles_forgotten :
    (Value.object plainPadding).namesDistinct = true ∧ (Value.object wideGap).namesDistinct = true ∧
      (Value.object plainPadding).nullFree = true ∧ (Value.object wideGap).nullFree = true ∧
      GivesStyles plainPadding "base_styles" [(.text "pad", .text "4")] ∧
      GivesStyles wideGap "baseStyles" [(.text "gap", .text "8")] ∧
      ∃ c₁ c₂ c₃, card.withOverride plainPadding = .ok c₁ ∧ c₁.withOverride wideGap = .ok c₂ ∧
        card.withOverride (deepMerge plainPadding wideGap) = .ok c₃ ∧
        c₂.baseStyles = some (.ofList [("pad", .literal (.text "4")), ("gap", .literal (.text "8"))]) ∧
        c₃.baseStyles =
          some (.ofList [("pad", widths [("base", "1"), ("md", "2")]), ("gap", .literal (.text "8"))]) ∧
        c₃.baseStyles ≠ c₂.baseStyles :=
  ⟨rfl, rfl, rfl, rfl, givesStyles_singleton (by simp [spellings]) _,
    givesStyles_singleton (by simp [spellings]) _, _, _, _, rfl, rfl, rfl, rfl, rfl, by decide⟩

end Component

end Stylebook
