import Stylebook.Proofs.Theme.Settled

/-!
Reading what was merged. The map that is read from merged fields is the one that is read from the fields
below with the one from the fields above laid over it, name by name; and fields without nulls that can be
read once they are merged into others can be read by themselves.
-/

namespace Stylebook

open Decoded Decoding

mutual

/-- Is there no null, neither as the value nor in a field, however deep it stands? -/
def Value.nullFree : Value → Bool
  | .null => false
  | .object fs => fieldsNullFree fs
  | _ => true

def fieldsNullFree : List (Key × Value) → Bool
  | [] => true
  | (_, v) :: rest => v.nullFree && fieldsNullFree rest

end

theorem Value.nullFree_object {fs : Fields} :
    (Value.object fs).nullFree = true ↔ ∀ e ∈ fs, e.2.nullFree = true := by
  rw [nullFree]
  induction fs with
  | nil => simp [fieldsNullFree]
  | cons e fs ih =>
    obtain ⟨k, v⟩ := e
    rw [fieldsNullFree, Bool.and_eq_true, ih, List.forall_mem_cons]

theorem Value.ne_null_of_nullFree {v : Value} (h : v.nullFree = true) : v ≠ .null := by
  rintro rfl
  cases h

section Entries

variable {α : Type} {f : Value → Decoded α} {a : α} {name : String} {v : Value} {base fs : Fields}
  {l : List (String × α)}

/-- A field is written, and so is what is read from it. -/
theorem entries_set_ok (h : entries f fs = ok l) (ha : f v = ok a) :
    entries f (Pairs.set (.text name) v fs) = ok (Pairs.set name a l) := by
  induction fs generalizing l with
  | nil =>
    cases h
    exact entries_cons_eq_ok_iff.mpr ⟨name, a, [], rfl, ha, rfl, rfl⟩
  | cons e fs ih =>
    obtain ⟨k, w⟩ := e
    obtain ⟨n, b, rest, rfl, hb, hrest, rfl⟩ := entries_cons_eq_ok_iff.mp h
    rw [Pairs.set, Pairs.set]
    by_cases hn : n = name
    · rw [if_pos (congrArg Key.text hn), if_pos hn]
      exact entries_cons_eq_ok_iff.mpr ⟨n, a, rest, rfl, ha, hrest, rfl⟩
    · rw [if_neg fun hk => hn (Key.text.inj hk), if_neg hn]
      exact entries_cons_eq_ok_iff.mpr ⟨n, b, _, rfl, hb, ih hrest, rfl⟩

theorem exists_entries (h : ∀ e ∈ fs, ∃ n a, e.1 = .text n ∧ f e.2 = ok a) : ∃ l, entries f fs = ok l := by
  induction fs with
  | nil => exact ⟨[], rfl⟩
  | cons e fs ih =>
    rw [List.forall_mem_cons] at h
    obtain ⟨⟨n, a, hk, ha⟩, h⟩ := h
    obtain ⟨rest, hrest⟩ := ih h
    exact ⟨_, entries_cons_eq_ok_iff.mpr ⟨n, a, rest, hk, ha, hrest, rfl⟩⟩

end Entries

theorem Value.namesDistinct_getD {below : Option Value} (h : ∀ w ∈ below, w.namesDistinct = true) :
    (below.getD .null).namesDistinct = true := by
  cases below with
  | none => rfl
  | some w => exact h w rfl

theorem Value.namesDistinct_of_get? {k : Key} {fs : Fields} (h : (Value.object fs).namesDistinct = true) :
    ∀ w ∈ Pairs.get? k fs, w.namesDistinct = true := fun _ hw =>
  (Value.namesDistinct_object.mp h).2 _ (Pairs.mem_of_get? hw)

/-- What maps are written as names no field twice if none of the values do. -/
theorem Value.namesDistinct_fields {α : Type} {g : α → Value} (hg : ∀ a, (g a).namesDistinct = true)
    (d : Dict α) : (Value.object (Pairs.fields g d.entries)).namesDistinct = true := by
  refine Value.namesDistinct_object.mpr ⟨nodup_fields g d, fun e he => ?_⟩
  obtain ⟨c, -, rfl⟩ := List.mem_map.mp he
  exact hg c.2

section Joining

variable {α : Type} {f : Value → Decoded α} {join : α → Option α → α} {base fs : Fields} {d e : Dict α}

/-- What is read from a value laid over another one, or over nothing, is what is read from the value itself,
joined with what is read from the other one. -/
def Joins (f : Value → Decoded α) (join : α → Option α → α) : Prop :=
  ∀ (below : Option Value) (old : Option α) (v : Value) (a : α), below.map f = old.map ok →
    (∀ w ∈ below, w.namesDistinct = true) → v.namesDistinct = true → f v = ok a →
      f ((below.getD .null).laidOver v) = ok (join a old)

theorem entries_deepMerge_joined (hj : Joins f join) (hnull : ∀ a, f .null ≠ ok a)
    {l : List (String × α)} (hd : entries f base = ok d.entries) (hl : entries f fs = ok l)
    (hbase : (Value.object base).namesDistinct = true) (hfs : ∀ e ∈ fs, e.2.namesDistinct = true) :
    entries f (deepMerge base fs) =
      ok (l.foldl (fun d e => d.insert e.1 (join e.2 (d.get? e.1))) d).entries := by
  induction fs generalizing base d l with
  | nil =>
    cases hl
    rw [deepMerge_nil]
    exact hd
  | cons e fs ih =>
    obtain ⟨k, v⟩ := e
    obtain ⟨n, a, rest, rfl, ha, hrest, rfl⟩ := entries_cons_eq_ok_iff.mp hl
    rw [List.forall_mem_cons] at hfs
    have hv : v ≠ .null := fun hv => hnull a (hv ▸ ha)
    have hbelow := Value.namesDistinct_of_get? (k := .text n) hbase
    have hread := hj _ _ v a (get?_entries hd n) hbelow hfs.1 ha
    rw [deepMerge_cons hv]
    exact ih (d := d.insert n (join a (d.get? n))) (entries_set_ok hd hread) hrest
      (namesDistinct_set (Value.namesDistinct_laidOver _ (Value.namesDistinct_getD hbelow) v hfs.1) hbase) hfs.2

theorem dict_eq_ok_iff (hn : (Pairs.keys fs).Nodup) :
    dict f (.object fs) = ok d ↔ entries f fs = ok d.entries := by
  refine ⟨entries_of_dict hn, fun h => ?_⟩
  rw [dict, map_ok h, Dict.ofList_entries]

theorem dict_deepMerge (hj : Joins f join) (hnull : ∀ a, f .null ≠ ok a)
    (hd : dict f (.object base) = ok d) (he : dict f (.object fs) = ok e)
    (hbase : (Value.object base).namesDistinct = true) (hfs : (Value.object fs).namesDistinct = true) :
    dict f (.object (deepMerge base fs)) = ok (d.joinWith join e) := by
  obtain ⟨hb, -⟩ := Value.namesDistinct_object.mp hbase
  obtain ⟨hn, hvalues⟩ := Value.namesDistinct_object.mp hfs
  rw [dict_eq_ok_iff (nodup_deepMerge hb)]
  exact entries_deepMerge_joined hj hnull ((dict_eq_ok_iff hb).mp hd) ((dict_eq_ok_iff hn).mp he) hbase
    hvalues

/-- What can be read once it is laid over something can be read by itself. -/
def ReadsAlone (f : Value → Decoded α) : Prop :=
  ∀ (below v : Value) (a : α), below.namesDistinct = true → v.namesDistinct = true → v.nullFree = true →
    f (below.laidOver v) = ok a → ∃ b, f v = ok b

theorem exists_of_dict_deepMerge (hf : ReadsAlone f) (h : dict f (.object (deepMerge base fs)) = ok d)
    (hbase : (Value.object base).namesDistinct = true) (hfs : (Value.object fs).namesDistinct = true)
    (hnull : (Value.object fs).nullFree = true) : ∃ e, dict f (.object fs) = ok e := by
  obtain ⟨hb, -⟩ := Value.namesDistinct_object.mp hbase
  obtain ⟨hn, hvalues⟩ := Value.namesDistinct_object.mp hfs
  have hd := (dict_eq_ok_iff (nodup_deepMerge hb)).mp h
  obtain ⟨l, hl⟩ : ∃ l, entries f fs = ok l := by
    refine exists_entries fun c hc => ?_
    have hfree := Value.nullFree_object.mp hnull c hc
    have hv := Value.ne_null_of_nullFree hfree
    have hget : Pairs.get? c.1 (deepMerge base fs) =
        some (((Pairs.get? c.1 base).getD .null).laidOver c.2) := by
      rw [get?_deepMerge hn, (Pairs.get?_eq_some_iff hn).mpr hc, mergedAt_some hv]
    obtain ⟨n, a, hk, ha, -⟩ := get?_of_entries hd hget
    have hbelow := Value.namesDistinct_getD (Value.namesDistinct_of_get? (k := c.1) hbase)
    obtain ⟨b, hb⟩ := hf _ _ a hbelow (hvalues c hc) hfree ha
    exact ⟨n, b, hk, hb⟩
  exact ⟨_, map_ok hl⟩

end Joining

theorem joins_literal : Joins literal fun a _ => a := by
  intro below _ v a _ _ _ ha
  cases v with
  | object fs => cases ha
  | _ => exact ha

theorem readsAlone_literal : ReadsAlone literal := by
  intro below v a _ _ _ ha
  cases v with
  | object fs => cases ha
  | _ => exact ⟨a, ha⟩

/-- A map with nothing but replacements in it. -/
theorem Dict.joinWith_fst {α : Type} (base top : Dict α) :
    base.joinWith (fun a _ => a) top = base.update top := by
  refine eq_of_entries ?_
  rw [joinWith, update, insertAll]
  generalize top.entries = l
  induction l generalizing base with
  | nil => rfl
  | cons e l ih => exact ih (base.insert e.1 e.2)

end Stylebook
