import Stylebook.Proofs.Decoding.RoundTrip

/-!
Changes that are made twice. Once a change is laid over what was written, and the outcome is read, laying
it over the outcome as written again is read as the same.
-/

namespace Stylebook

open Decoded Decoding

mutual

/-- Does no object name a field twice, however deep it stands in others? -/
def Value.namesDistinct : Value → Bool
  | .object fs => decide (Pairs.keys fs).Nodup && fieldsDistinct fs
  | _ => true

def fieldsDistinct : List (Key × Value) → Bool
  | [] => true
  | (_, v) :: rest => v.namesDistinct && fieldsDistinct rest

end

theorem Value.namesDistinct_object {fs : Fields} : (Value.object fs).namesDistinct = true ↔
    (Pairs.keys fs).Nodup ∧ ∀ e ∈ fs, e.2.namesDistinct = true := by
  have hf (fs : Fields) : fieldsDistinct fs = true ↔ ∀ e ∈ fs, e.2.namesDistinct = true := by
    induction fs with
    | nil => simp [fieldsDistinct]
    | cons e fs ih =>
      obtain ⟨k, v⟩ := e
      rw [fieldsDistinct, Bool.and_eq_true, ih, List.forall_mem_cons]
  rw [namesDistinct, Bool.and_eq_true, decide_eq_true_iff, hf]

theorem Value.namesDistinct_fieldsOf {v : Value} (h : v.namesDistinct = true) :
    (Value.object v.fieldsOf).namesDistinct = true := by
  cases v with
  | object fs => exact h
  | _ => rfl

theorem namesDistinct_set {k : Key} {v : Value} {fs : Fields} (hv : v.namesDistinct = true)
    (h : (Value.object fs).namesDistinct = true) :
    (Value.object (Pairs.set k v fs)).namesDistinct = true := by
  obtain ⟨hn, hfs⟩ := Value.namesDistinct_object.mp h
  refine Value.namesDistinct_object.mpr ⟨Pairs.nodup_set hn, fun e he => ?_⟩
  rcases Pairs.mem_set he with rfl | he
  · exact hv
  · exact hfs e he

mutual

/-- A merge of objects that name no field twice is one of them. -/
theorem Value.namesDistinct_laidOver (base : Value) (hb : base.namesDistinct = true) :
    ∀ v : Value, v.namesDistinct = true → (base.laidOver v).namesDistinct = true
  | .object fs, h => by
    rw [Value.laidOver]
    exact namesDistinct_deepMerge _ (Value.namesDistinct_fieldsOf hb) fs
      (Value.namesDistinct_object.mp h).2
  | .null, h | .bool _, h | .number _, h | .text _, h | .moment _, h | .bytes _, h | .set _, h | .list _, h => h

theorem namesDistinct_deepMerge (base : Fields) (hb : (Value.object base).namesDistinct = true) :
    ∀ fs : Fields, (∀ e ∈ fs, e.2.namesDistinct = true) →
      (Value.object (deepMerge base fs)).namesDistinct = true
  | [], _ => by rwa [deepMerge_nil]
  | (k, v) :: fs, h => by
    rw [List.forall_mem_cons] at h
    by_cases hv : v = .null
    · subst hv
      rw [deepMerge]
      exact namesDistinct_deepMerge base hb fs h.2
    · have hold : ((Pairs.get? k base).getD .null).namesDistinct = true := by
        cases hk : Pairs.get? k base with
        | none => rfl
        | some w => exact (Value.namesDistinct_object.mp hb).2 _ (Pairs.mem_of_get? hk)
      rw [deepMerge_cons hv]
      exact namesDistinct_deepMerge _
        (namesDistinct_set (Value.namesDistinct_laidOver _ hold v h.1) hb) fs h.2

end

/-- What a deep merge leaves at a name, from what stands there on either side. -/
def mergedAt (base : Option Value) : Option Value → Option Value
  | none => base
  | some .null => base
  | some v => some ((base.getD .null).laidOver v)

section Merge

variable {k : Key} {v w : Value} {base fs : Fields}

theorem mergedAt_some {o : Option Value} (h : v ≠ .null) :
    mergedAt o (some v) = some ((o.getD .null).laidOver v) := by
  cases v <;> first | rfl | exact absurd rfl h

theorem get?_deepMerge (hn : (Pairs.keys fs).Nodup) :
    Pairs.get? k (deepMerge base fs) = mergedAt (Pairs.get? k base) (Pairs.get? k fs) := by
  induction fs generalizing base with
  | nil =>
    rw [deepMerge_nil]
    rfl
  | cons e fs ih =>
    obtain ⟨j, v⟩ := e
    rw [Pairs.keys_cons, List.nodup_cons] at hn
    have hrest (hj : j = k) : Pairs.get? k fs = none := Pairs.get?_eq_none_iff.mpr (hj ▸ hn.1)
    by_cases hv : v = .null
    · subst hv
      rw [deepMerge, ih hn.2, Pairs.get?]
      split
      · rename_i hj
        rw [hrest hj]
        rfl
      · rfl
    · rw [deepMerge_cons hv, ih hn.2, Pairs.get?, Pairs.get?_set]
      by_cases hj : j = k
      · rw [if_pos hj, if_pos hj, hrest hj, mergedAt_some hv, hj]
        rfl
      · rw [if_neg hj, if_neg hj]

theorem nodup_deepMerge (h : (Pairs.keys base).Nodup) : (Pairs.keys (deepMerge base fs)).Nodup := by
  induction fs generalizing base with
  | nil => rwa [deepMerge_nil]
  | cons e fs ih =>
    obtain ⟨j, v⟩ := e
    by_cases hv : v = .null
    · subst hv
      rw [deepMerge]
      exact ih h
    · rw [deepMerge_cons hv]
      exact ih (Pairs.nodup_set h)

end Merge

section Entries

variable {α : Type} {f : Value → Decoded α} {k : Key} {v w : Value} {base fs : Fields}

theorem fieldName_eq_ok_iff {n : String} : fieldName k = ok n ↔ k = .text n := by
  cases k <;> simp [fieldName]

theorem entries_cons_eq_ok_iff {l : List (String × α)} : entries f ((k, v) :: fs) = ok l ↔
    ∃ n a rest, k = .text n ∧ f v = ok a ∧ entries f fs = ok rest ∧ l = (n, a) :: rest := by
  constructor
  · intro h
    obtain ⟨_, rest, hhead, hrest, rfl⟩ := seq_eq_ok_iff.mp h
    obtain ⟨_, a, hname, ha, rfl⟩ := seq_eq_ok_iff.mp hhead
    obtain ⟨n, hn, rfl⟩ := map_eq_ok_iff.mp hname
    exact ⟨n, a, rest, fieldName_eq_ok_iff.mp hn, under_eq_ok_iff.mp ha, hrest, rfl⟩
  · rintro ⟨n, a, rest, rfl, ha, hrest, rfl⟩
    exact seq_ok (seq_ok (map_ok rfl) (under_ok ha)) hrest

/-- What is read does not change if nothing but a value changes, to one that is read as the same. -/
theorem entries_set (hk : Pairs.get? k base = some w) (hf : f v = f w) :
    entries f (Pairs.set k v base) = entries f base := by
  induction base with
  | nil => cases hk
  | cons e base ih =>
    obtain ⟨j, u⟩ := e
    rw [Pairs.get?] at hk
    rw [Pairs.set]
    split at hk
    · rename_i hj
      cases hk
      rw [if_pos hj, entries, entries, hf]
    · rename_i hj
      rw [if_neg hj, entries, entries, ih hk]

theorem entries_deepMerge (hn : (Pairs.keys fs).Nodup)
    (h : ∀ e ∈ fs, e.2 ≠ .null → ∃ w, Pairs.get? e.1 base = some w ∧ f (w.laidOver e.2) = f w) :
    entries f (deepMerge base fs) = entries f base := by
  induction fs generalizing base with
  | nil => rw [deepMerge_nil]
  | cons e fs ih =>
    obtain ⟨k, v⟩ := e
    rw [Pairs.keys_cons, List.nodup_cons] at hn
    rw [List.forall_mem_cons] at h
    by_cases hv : v = .null
    · subst hv
      rw [deepMerge]
      exact ih hn.2 h.2
    · obtain ⟨w, hw, hf⟩ := h.1 hv
      rw [deepMerge_cons hv, hw]
      refine (ih hn.2 fun e he hne => ?_).trans (entries_set hw hf)
      -- the names that are still to come are other names
      have hke : k ≠ e.1 := fun hk => hn.1 (List.mem_map.mpr ⟨e, he, hk.symm⟩)
      rw [Pairs.get?_set_of_ne hke]
      exact h.2 e he hne

theorem entries_setAll
    (h : ∀ e ∈ fs, ∃ w, Pairs.get? e.1 base = some w ∧ f e.2 = f w) :
    entries f (Pairs.setAll base fs) = entries f base := by
  induction fs generalizing base with
  | nil => rfl
  | cons e fs ih =>
    rw [List.forall_mem_cons] at h
    obtain ⟨w, hw, hf⟩ := h.1
    refine (ih fun d hd => ?_).trans (entries_set hw hf)
    obtain ⟨u, hu, hdu⟩ := h.2 d hd
    rw [Pairs.get?_set]
    split
    · rename_i hk
      rw [hk, hu] at hw
      cases hw
      exact ⟨e.2, rfl, hdu.trans hf.symm⟩
    · exact ⟨u, hu, hdu⟩

/-- What the entries have under a name is what the fields have there, as read. -/
theorem get?_entries {l : List (String × α)} (h : entries f fs = ok l) (name : String) :
    (Pairs.get? (.text name) fs).map f = (Pairs.get? name l).map ok := by
  induction fs generalizing l with
  | nil =>
    cases h
    rfl
  | cons e fs ih =>
    obtain ⟨k, v⟩ := e
    obtain ⟨n, a, rest, rfl, ha, hrest, rfl⟩ := entries_cons_eq_ok_iff.mp h
    rw [Pairs.get?, Pairs.get?]
    by_cases hn : n = name
    · rw [if_pos (congrArg Key.text hn), if_pos hn, Option.map_some, Option.map_some, ha]
    · rw [if_neg fun hk => hn (Key.text.inj hk), if_neg hn, ih hrest]

theorem get?_of_entries {l : List (String × α)} (h : entries f base = ok l)
    (hk : Pairs.get? k base = some w) :
    ∃ n a, k = .text n ∧ f w = ok a ∧ Pairs.get? n l = some a := by
  induction base generalizing l with
  | nil => cases hk
  | cons e base ih =>
    obtain ⟨j, u⟩ := e
    obtain ⟨name, a, rest, rfl, hu, hrest, rfl⟩ := entries_cons_eq_ok_iff.mp h
    rw [Pairs.get?] at hk
    split at hk
    · rename_i hj
      cases hk
      exact ⟨name, a, hj.symm, hu, if_pos rfl⟩
    · rename_i hj
      obtain ⟨n, b, rfl, hb, hn⟩ := ih hrest hk
      refine ⟨n, b, rfl, hb, ?_⟩
      rw [Pairs.get?, if_neg fun he => hj (congrArg Key.text he)]
      exact hn

theorem keys_of_entries {l : List (String × α)} (h : entries f base = ok l) :
    Pairs.keys base = (Pairs.keys l).map .text := by
  induction base generalizing l with
  | nil =>
    cases h
    rfl
  | cons e base ih =>
    obtain ⟨j, u⟩ := e
    obtain ⟨name, a, rest, rfl, -, hrest, rfl⟩ := entries_cons_eq_ok_iff.mp h
    rw [Pairs.keys_cons, ih hrest]
    rfl

/-- The entries of a map are read one by one from an object whose names are distinct. -/
theorem entries_of_dict {d : Dict α} (hn : (Pairs.keys base).Nodup) (h : dict f (.object base) = ok d) :
    entries f base = ok d.entries := by
  obtain ⟨l, hl, rfl⟩ := map_eq_ok_iff.mp h
  have hkeys : (Pairs.keys ([] ++ l)).Nodup := by
    rw [keys_of_entries hl] at hn
    exact List.Pairwise.of_map Key.text (fun _ _ hne he => hne (congrArg Key.text he)) hn
  rw [hl]
  exact congrArg ok (Pairs.setAll_of_nodup hkeys).symm

end Entries

theorem Pairs.keys_map_both {κ κ' α β : Type} (f : κ → κ') (g : α → β) (l : List (κ × α)) :
    keys (l.map fun e => (f e.1, g e.2)) = (keys l).map f := by
  rw [keys, keys, List.map_map, List.map_map]
  rfl

theorem keys_fields {α : Type} (g : α → Value) (d : Dict α) :
    Pairs.keys (Pairs.fields g d.entries) = d.keys.map Key.text :=
  Pairs.keys_map_both Key.text g d.entries

theorem nodup_fields {α : Type} (g : α → Value) (d : Dict α) :
    (Pairs.keys (Pairs.fields g d.entries)).Nodup := by
  rw [keys_fields]
  exact List.Pairwise.map Key.text (fun _ _ hne he => hne (Key.text.inj he)) d.nodup

section Settling

variable {α : Type} {f : Value → Decoded α} {g : α → Value}

/-- If a change laid over what was written is read at all, then it is read as the same when it is laid over
the outcome. -/
def Settles (f : Value → Decoded α) (g : α → Value) : Prop :=
  ∀ (e : Option α) (o : Value) (a : α), o.namesDistinct = true →
    f ((Value.ofOption g e).laidOver o) = ok a → f ((g a).laidOver o) = ok a

/-- What is no object takes the place of anything. -/
theorem settles_of_object
    (h : ∀ (e : Option α) (fs : Fields) (a : α), (Value.object fs).namesDistinct = true →
      f (.object (deepMerge (Value.ofOption g e).fieldsOf fs)) = ok a →
        f (.object (deepMerge (g a).fieldsOf fs)) = ok a) : Settles f g := by
  intro e o a ho hf
  cases o with
  | object fs =>
    rw [Value.laidOver] at hf ⊢
    exact h e fs a ho hf
  | _ => exact hf

theorem settles_literal : Settles literal Literal.toValue :=
  settles_of_object fun _ _ _ _ h => nomatch h

theorem settles_dict (hs : Settles f g) (hg : ∀ a, f (g a) = ok a) : Settles (dict f) (.ofDict g) := by
  refine settles_of_object fun e fs d ho h => ?_
  obtain ⟨hn, hvalues⟩ := Value.namesDistinct_object.mp ho
  -- what is laid over: the fields of a map, of which there may be none
  obtain ⟨old, hold⟩ : ∃ old : Dict α,
      (Value.ofOption (Value.ofDict g) e).fieldsOf = Pairs.fields g old.entries := by
    cases e with
    | none => exact ⟨∅, rfl⟩
    | some d => exact ⟨d, by rw [Value.ofOption, Value.ofDict_eq]; rfl⟩
  have hkeys := nodup_fields g old
  rw [hold] at h
  have hd := entries_of_dict (nodup_deepMerge hkeys) h
  have hagain : entries f (deepMerge (Pairs.fields g d.entries) fs) = ok d.entries := by
    rw [← entries_fields d.entries fun e _ => hg e.2]
    refine entries_deepMerge hn fun c hc hne => ?_
    have hget : Pairs.get? c.1 (deepMerge (Pairs.fields g old.entries) fs) =
        some (((Pairs.get? c.1 (Pairs.fields g old.entries)).getD .null).laidOver c.2) := by
      rw [get?_deepMerge hn, (Pairs.get?_eq_some_iff hn).mpr hc, mergedAt_some hne]
    obtain ⟨n, a, hk, ha, hn⟩ := get?_of_entries hd hget
    have hold : (Pairs.get? c.1 (Pairs.fields g old.entries)).getD .null =
        Value.ofOption g (Pairs.get? n old.entries) := by
      rw [hk, Pairs.get?_fields]
      cases Pairs.get? n old.entries <;> rfl
    rw [hold] at ha
    refine ⟨g a, by rw [hk, Pairs.get?_fields, hn]; rfl, ?_⟩
    rw [hs _ _ _ (hvalues c hc) ha, hg]
  rw [Value.ofDict_eq, Value.fieldsOf, dict, map_ok hagain, Dict.ofList_entries]

end Settling

namespace StyleMap

theorem exists_of_readStyleValue {fs : Fields} {v : StyleValue}
    (h : readStyleValue (.object fs) = ok v) : ∃ d, dict literal (.object fs) = ok d ∧ v = .branches d := by
  rw [readStyleValue] at h
  split at h
  · rename_i hl
    cases hl
  · rename_i d hd _
    exact ⟨d, hd, (ok.inj h).symm⟩
  · cases h

theorem readStyleValue_branches {fs : Fields} {d : Dict Literal}
    (h : dict literal (.object fs) = ok d) : readStyleValue (.object fs) = ok (.branches d) := by
  rw [readStyleValue, h]
  rfl

theorem settles_styleValue : Settles readStyleValue StyleValue.toValue := by
  refine settles_of_object fun e fs v ho h => ?_
  -- what is laid over: the branches of a style, if it has any
  obtain ⟨old, hold⟩ : ∃ old : Option (Dict Literal),
      (Value.ofOption StyleValue.toValue e).fieldsOf =
        (Value.ofOption (.ofDict Literal.toValue) old).fieldsOf := by
    cases e with
    | none => exact ⟨none, rfl⟩
    | some v =>
      cases v with
      | literal l => exact ⟨none, by cases l <;> rfl⟩
      | branches d => exact ⟨some d, rfl⟩
  obtain ⟨d, hd, rfl⟩ := exists_of_readStyleValue h
  rw [hold] at hd
  have hs := settles_dict settles_literal Literal.decode_toValue old (.object fs) d ho
  rw [Value.laidOver, Value.laidOver] at hs
  exact readStyleValue_branches (hs hd)

theorem settles : Settles decode toValue := settles_dict settles_styleValue readStyleValue_toValue

end StyleMap

section Flat

/-- No field holds an object with fields of its own. -/
def IsFlat (fs : Fields) : Prop := ∀ e ∈ fs, e.2.fieldsOf = []

theorem Value.laidOver_congr {e d o : Value} (h : e.fieldsOf = d.fieldsOf) : e.laidOver o = d.laidOver o := by
  cases o with
  | object fs => rw [laidOver, laidOver, h]
  | _ => rfl

theorem IsFlat.getD {fs : Fields} (h : IsFlat fs) (k : Key) :
    ((Pairs.get? k fs).getD .null).fieldsOf = [] := by
  cases hk : Pairs.get? k fs with
  | none => rfl
  | some v => exact h _ (Pairs.mem_of_get? hk)

variable {α : Type} {f : Value → Decoded α} {a : α} {base dump fs : Fields} {n : String} {w : Value}

theorem get?_deepMerge_flat (hb : IsFlat base) (hd : IsFlat dump) (hn : (Pairs.keys fs).Nodup)
    (n : String) : Fields.get? (deepMerge dump fs) n = Fields.get? (deepMerge base fs) n ∨
      Fields.get? (deepMerge dump fs) n = Fields.get? dump n := by
  rw [Fields.get?, Fields.get?, Fields.get?, get?_deepMerge hn, get?_deepMerge hn]
  cases hv : Pairs.get? (.text n) fs with
  | none => exact .inr rfl
  | some v =>
    by_cases hne : v = .null
    · subst hne
      exact .inr rfl
    · left
      rw [mergedAt_some hne, mergedAt_some hne,
        Value.laidOver_congr ((hd.getD _).trans (hb.getD _).symm)]

theorem optional_settles {default : α} (hb : IsFlat base) (hd : IsFlat dump)
    (hn : (Pairs.keys fs).Nodup) (hw : Fields.get? dump n = some w) (hf : f w = ok a)
    (h : optional (deepMerge base fs) [n] default f = ok a) :
    optional (deepMerge dump fs) [n] default f = ok a := by
  rcases get?_deepMerge_flat hb hd hn n with he | he
  · rw [Decoded.optional, field?_singleton, he, ← field?_singleton]
    exact h
  · exact optional_ok (by rw [field?_singleton, he, hw]; rfl) hf

end Flat

namespace Property

theorem isFlat_toValue (p : Property) : IsFlat p.toValue.fieldsOf := by
  have hrecord {l : List (String × Value)} (h : ∀ e ∈ l, e.2.fieldsOf = []) :
      IsFlat (Value.record l).fieldsOf := by
    intro d hd
    obtain ⟨e, he, rfl⟩ := List.mem_map.mp hd
    exact h e he
  have hoption {α : Type} {g : α → Value} (hg : ∀ a, (g a).fieldsOf = []) (o : Option α) :
      (Value.ofOption g o).fieldsOf = [] := by
    cases o with
    | none => rfl
    | some a => exact hg a
  have htext := hoption (g := .text) fun _ => rfl
  have hbool := hoption (g := .bool) fun _ => rfl
  have hnumber := hoption (g := .number) fun _ => rfl
  have htexts (l : List String) : (Value.texts l).fieldsOf = [] := rfl
  obtain ⟨domain, required, description⟩ := p
  cases domain <;> refine hrecord ?_ <;>
    simp only [List.forall_mem_cons, htext, hbool, hnumber, htexts, List.not_mem_nil, false_implies,
      implies_true, and_true, true_and] <;>
    exact ⟨rfl, rfl⟩

variable {base fs : Fields} {p : Property}

theorem readEnum_settles (hb : IsFlat base) (hn : (Pairs.keys fs).Nodup)
    (h : readEnum (deepMerge base fs) = ok p) :
    p.domain.kind = "enum" ∧ readEnum (deepMerge p.toValue.fieldsOf fs) = ok p := by
  have hf := p.isFlat_toValue
  obtain ⟨_, description, h₃, ht, rfl⟩ := seq_eq_ok_iff.mp h
  obtain ⟨_, d, h₂, hd, rfl⟩ := seq_eq_ok_iff.mp h₃
  obtain ⟨_, required, h₁, hr, rfl⟩ := seq_eq_ok_iff.mp h₂
  obtain ⟨vs, hv, rfl⟩ := map_eq_ok_iff.mp h₁
  have hv := optional_settles hb hf hn rfl (readValues_texts vs) hv
  have hr := optional_settles hb hf hn rfl (bool_bool required) hr
  have hd := optional_settles hb hf hn rfl (nullable_plain d) hd
  have ht := optional_settles hb hf hn rfl (nullable_text description) ht
  exact ⟨rfl, seq_ok (seq_ok (seq_ok (map_ok hv) hr) hd) ht⟩

theorem readBoolean_settles (hb : IsFlat base) (hn : (Pairs.keys fs).Nodup)
    (h : readBoolean (deepMerge base fs) = ok p) :
    p.domain.kind = "boolean" ∧ readBoolean (deepMerge p.toValue.fieldsOf fs) = ok p := by
  have hf := p.isFlat_toValue
  obtain ⟨_, description, h₂, ht, rfl⟩ := seq_eq_ok_iff.mp h
  obtain ⟨_, d, h₁, hd, rfl⟩ := seq_eq_ok_iff.mp h₂
  obtain ⟨required, hr, rfl⟩ := map_eq_ok_iff.mp h₁
  have hr := optional_settles hb hf hn rfl (bool_bool required) hr
  have hd := optional_settles hb hf hn rfl (nullable_bool d) hd
  have ht := optional_settles hb hf hn rfl (nullable_text description) ht
  exact ⟨rfl, seq_ok (seq_ok (map_ok hr) hd) ht⟩

theorem readNumber_settles (hb : IsFlat base) (hn : (Pairs.keys fs).Nodup)
    (h : readNumber (deepMerge base fs) = ok p) :
    p.domain.kind = "number" ∧ readNumber (deepMerge p.toValue.fieldsOf fs) = ok p := by
  have hf := p.isFlat_toValue
  obtain ⟨_, description, h₄, ht, rfl⟩ := seq_eq_ok_iff.mp h
  obtain ⟨_, hi, h₃, hhi, rfl⟩ := seq_eq_ok_iff.mp h₄
  obtain ⟨_, lo, h₂, hlo, rfl⟩ := seq_eq_ok_iff.mp h₃
  obtain ⟨_, d, h₁, hd, rfl⟩ := seq_eq_ok_iff.mp h₂
  obtain ⟨required, hr, rfl⟩ := map_eq_ok_iff.mp h₁
  have hr := optional_settles hb hf hn rfl (bool_bool required) hr
  have hd := optional_settles hb hf hn rfl (nullable_number d) hd
  have hlo := optional_settles hb hf hn rfl (nullable_number lo) hlo
  have hhi := optional_settles hb hf hn rfl (nullable_number hi) hhi
  have ht := optional_settles hb hf hn rfl (nullable_text description) ht
  exact ⟨rfl, seq_ok (seq_ok (seq_ok (seq_ok (map_ok hr) hd) hlo) hhi) ht⟩

theorem readString_settles (hb : IsFlat base) (hn : (Pairs.keys fs).Nodup)
    (h : readString (deepMerge base fs) = ok p) :
    p.domain.kind = "string" ∧ readString (deepMerge p.toValue.fieldsOf fs) = ok p := by
  have hf := p.isFlat_toValue
  obtain ⟨_, description, h₂, ht, rfl⟩ := seq_eq_ok_iff.mp h
  obtain ⟨_, d, h₁, hd, rfl⟩ := seq_eq_ok_iff.mp h₂
  obtain ⟨required, hr, rfl⟩ := map_eq_ok_iff.mp h₁
  have hr := optional_settles hb hf hn rfl (bool_bool required) hr
  have hd := optional_settles hb hf hn rfl (nullable_text d) hd
  have ht := optional_settles hb hf hn rfl (nullable_text description) ht
  exact ⟨rfl, seq_ok (seq_ok (map_ok hr) hd) ht⟩

theorem kind_settles {kind : String} {read : Fields → Decoded Property}
    (hk : readKind? kind = some read) (hb : IsFlat base) (hn : (Pairs.keys fs).Nodup)
    (h : read (deepMerge base fs) = ok p) :
    p.domain.kind = kind ∧ read (deepMerge p.toValue.fieldsOf fs) = ok p := by
  rw [readKind?] at hk
  split at hk
  · cases hk
    rename_i he
    exact he ▸ readEnum_settles hb hn h
  split at hk
  · cases hk
    rename_i he
    exact he ▸ readBoolean_settles hb hn h
  split at hk
  · cases hk
    rename_i he
    exact he ▸ readNumber_settles hb hn h
  split at hk
  · cases hk
    rename_i he
    exact he ▸ readString_settles hb hn h
  · cases hk

theorem settles : Settles decode toValue := by
  refine settles_of_object fun e fs p ho h => ?_
  obtain ⟨hn, -⟩ := Value.namesDistinct_object.mp ho
  have hb : IsFlat (Value.ofOption toValue e).fieldsOf := by
    cases e with
    | none => exact fun _ he => nomatch he
    | some p => exact p.isFlat_toValue
  obtain ⟨kind, read, hkind, hread, hp⟩ := exists_of_tagged h
  obtain ⟨hpk, hagain⟩ := kind_settles hread hb hn hp
  refine tagged_ok ?_ hread hagain
  -- the kind is the one laid over, or else that of the property
  rcases get?_deepMerge_flat hb p.isFlat_toValue hn "type" with ht | ht
  · exact ht.trans hkind
  · rw [ht, ← hpk]
    obtain ⟨domain, required, description⟩ := p
    cases domain <;> rfl

end Property

end Stylebook
