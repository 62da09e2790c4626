import Stylebook.Proofs.Dict.Layers
import Stylebook.Proofs.Theme.Joined
import Mathlib.Data.Finset.Preimage
import Mathlib.Data.Fintype.EquivFin

/-!
Deep merging as an operation on objects. To merge the same fields a second time changes nothing, and
objects without nulls may be merged in any grouping as long as none of them has another value where the one
that is laid over it has an object. The order of names comes out the same as well, at every depth.
-/

namespace Stylebook

mutual

/-- Objects are known by their fields; a merge looks into nothing else. -/
theorem Value.byFields {P : Value → Prop} (leaf : ∀ v, (∀ fs, v ≠ .object fs) → P v)
    (object : ∀ fs, (∀ e ∈ fs, P e.2) → P (.object fs)) : ∀ v, P v
  | .object fs => object fs (fieldsByFields leaf object fs)
  | .null | .bool _ | .number _ | .text _ | .moment _ | .bytes _ | .set _ | .list _ => leaf _ fun _ h => nomatch h

theorem fieldsByFields {P : Value → Prop} (leaf : ∀ v, (∀ fs, v ≠ .object fs) → P v)
    (object : ∀ fs, (∀ e ∈ fs, P e.2) → P (.object fs)) : ∀ fs : Fields, ∀ e ∈ fs, P e.2
  | [], _, he => nomatch he
  | (_, v) :: fs, e, he => by
    rcases List.mem_cons.mp he with rfl | he
    · exact Value.byFields leaf object v
    · exact fieldsByFields leaf object fs e he

end

/-- The value at the end of a path of names. -/
def Value.follow? : List Key → Value → Option Value
  | [], v => some v
  | k :: path, v => (Pairs.get? k v.fieldsOf).bind (follow? path)

def Value.isObject : Value → Bool
  | .object _ => true
  | _ => false

theorem Value.exists_object_of_isObject {v : Value} (h : v.isObject = true) : ∃ fs, v = .object fs := by
  cases v with
  | object fs => exact ⟨fs, rfl⟩
  | _ => cases h

/-- Wherever a path leads in both values, it leads to two objects, or to none. -/
def Value.SameShape (w v : Value) : Prop :=
  ∀ path x y, w.follow? path = some x → v.follow? path = some y → x.isObject = y.isObject

/-- Wherever a path leads in both values, and to an object in the second one, it does so in the first one. -/
def Value.OpenTo (w v : Value) : Prop :=
  ∀ path x y, w.follow? path = some x → v.follow? path = some y → y.isObject = true → x.isObject = true

theorem Value.sameShape_iff {w v : Value} : w.SameShape v ↔ w.OpenTo v ∧ v.OpenTo w := by
  constructor
  · intro h
    exact ⟨fun path x y hx hy ho => (h path x y hx hy).trans ho,
      fun path y x hy hx ho => (h path x y hx hy).symm.trans ho⟩
  · intro ⟨h₁, h₂⟩ path x y hx hy
    exact Bool.eq_iff_iff.mpr ⟨h₂ path y x hy hx, h₁ path x y hx hy⟩

theorem Value.fieldsOf_of_leaf {v : Value} (h : ∀ fs, v ≠ .object fs) : v.fieldsOf = [] := by
  cases v with
  | object fs => exact absurd rfl (h fs)
  | _ => rfl

theorem Value.openTo_leaf {w v : Value} (h : ∀ fs, v ≠ .object fs) : w.OpenTo v := by
  intro path x y _ hy ho
  cases path with
  | nil =>
    obtain rfl : v = y := Option.some.inj hy
    obtain ⟨fs, hv⟩ := exists_object_of_isObject ho
    exact absurd hv (h fs)
  | cons k path =>
    rw [follow?, fieldsOf_of_leaf h] at hy
    cases hy

theorem Value.follow?_cons_eq_some_iff {fs : Fields} {k : Key} {path : List Key} {x : Value} :
    (object fs).follow? (k :: path) = some x ↔ ∃ v, Pairs.get? k fs = some v ∧ v.follow? path = some x := by
  rw [follow?, fieldsOf, Option.bind_eq_some_iff]

/-- Objects are compared name by name. -/
theorem Value.openTo_object_iff {b c : Fields} : (object b).OpenTo (object c) ↔
    ∀ k w v, Pairs.get? k b = some w → Pairs.get? k c = some v → w.OpenTo v := by
  constructor
  · intro h k w v hw hv path x y hx hy
    exact h (k :: path) x y (follow?_cons_eq_some_iff.mpr ⟨w, hw, hx⟩)
      (follow?_cons_eq_some_iff.mpr ⟨v, hv, hy⟩)
  · intro h path x y hx hy ho
    cases path with
    | nil =>
      cases hx
      rfl
    | cons k path =>
      obtain ⟨w, hw, hx⟩ := follow?_cons_eq_some_iff.mp hx
      obtain ⟨v, hv, hy⟩ := follow?_cons_eq_some_iff.mp hy
      exact h k w v hw hv path x y hx hy ho

/-- There is no null in it, and no object in it names a field twice. -/
structure Value.IsClean (v : Value) : Prop where
  namesDistinct : v.namesDistinct = true
  nullFree : v.nullFree = true

namespace Value.IsClean

variable {fs : Fields} {k : Key} {v : Value}

theorem ne_null (h : v.IsClean) : v ≠ .null := ne_null_of_nullFree h.nullFree

theorem nodup (h : (object fs).IsClean) : (Pairs.keys fs).Nodup := (namesDistinct_object.mp h.namesDistinct).1

theorem of_mem (h : (object fs).IsClean) : ∀ e ∈ fs, e.2.IsClean := fun e he =>
  ⟨(namesDistinct_object.mp h.namesDistinct).2 e he, nullFree_object.mp h.nullFree e he⟩

theorem of_get? (h : (object fs).IsClean) (hv : Pairs.get? k fs = some v) : v.IsClean :=
  h.of_mem _ (Pairs.mem_of_get? hv)

end Value.IsClean

section Merge

variable {base fs : Fields} {v w below : Value}

theorem Value.object_laidOver : (object base).laidOver (.object fs) = .object (deepMerge base fs) := by
  rw [laidOver, fieldsOf]

/-- Fields whose values are there already leave everything as it is. -/
theorem deepMerge_of_get?
    (h : ∀ e ∈ fs, e.2 ≠ .null → ∃ w, Pairs.get? e.1 base = some w ∧ w.laidOver e.2 = w) :
    deepMerge base fs = base := by
  induction fs with
  | nil => exact deepMerge_nil base
  | cons e fs ih =>
    obtain ⟨k, v⟩ := e
    rw [List.forall_mem_cons] at h
    by_cases hv : v = .null
    · rw [hv, deepMerge]
      exact ih h.2
    · obtain ⟨w, hw, hlaid⟩ := h.1 hv
      rw [deepMerge_cons hv, hw, Option.getD_some, hlaid, Pairs.set_of_get? hw]
      exact ih h.2

theorem deepMerge_deepMerge_of (hn : (Pairs.keys fs).Nodup)
    (h : ∀ e ∈ fs, ∀ w : Value, (w.laidOver e.2).laidOver e.2 = w.laidOver e.2) :
    deepMerge (deepMerge base fs) fs = deepMerge base fs := by
  refine deepMerge_of_get? fun e he hv => ⟨((Pairs.get? e.1 base).getD .null).laidOver e.2, ?_, h e he _⟩
  rw [get?_deepMerge hn, (Pairs.get?_eq_some_iff hn).mpr he, mergedAt_some hv]

theorem Value.laidOver_laidOver (h : v.namesDistinct = true) (w : Value) :
    (w.laidOver v).laidOver v = w.laidOver v := by
  induction v using Value.byFields generalizing w with
  | leaf v hv => rw [laidOver_scalar hv, laidOver_scalar hv]
  | object fs ih =>
    obtain ⟨hn, hfs⟩ := namesDistinct_object.mp h
    rw [laidOver, laidOver, fieldsOf]
    exact congrArg object (deepMerge_deepMerge_of hn fun e he w => ih e he (hfs e he) w)

theorem deepMerge_deepMerge (h : (Value.object fs).namesDistinct = true) :
    deepMerge (deepMerge base fs) fs = deepMerge base fs := by
  obtain ⟨hn, hfs⟩ := Value.namesDistinct_object.mp h
  exact deepMerge_deepMerge_of hn fun e he w => Value.laidOver_laidOver (hfs e he) w

theorem deepMerge_eq_foldl (h : ∀ e ∈ fs, e.2 ≠ .null) : deepMerge base fs =
    fs.foldl (fun d e => Pairs.set e.1 (((Pairs.get? e.1 d).getD .null).laidOver e.2) d) base := by
  induction fs generalizing base with
  | nil => exact deepMerge_nil base
  | cons e fs ih =>
    obtain ⟨k, v⟩ := e
    rw [List.forall_mem_cons] at h
    rw [deepMerge_cons h.1, List.foldl_cons, ih h.2]

theorem keys_deepMerge (hn : (Pairs.keys fs).Nodup) (h : ∀ e ∈ fs, e.2 ≠ .null) :
    Pairs.keys (deepMerge base fs) = Pairs.joinKeys (Pairs.keys base) (Pairs.keys fs) := by
  rw [deepMerge_eq_foldl h]
  exact Pairs.keys_foldl (fun _ _ => Pairs.keys_set) hn base

/-- Laid over nothing, fields without nulls are what they were. -/
theorem deepMerge_nil_of (hn : (Pairs.keys fs).Nodup) (hnull : ∀ e ∈ fs, e.2 ≠ .null)
    (h : ∀ e ∈ fs, Value.null.laidOver e.2 = e.2) : deepMerge [] fs = fs := by
  refine Pairs.eq_of_get? (nodup_deepMerge List.nodup_nil) ?_ fun k => ?_
  · rw [keys_deepMerge hn hnull]
    simp [Pairs.joinKeys]
  · rw [get?_deepMerge hn]
    cases hk : Pairs.get? k fs with
    | none => rfl
    | some v =>
      have hmem := Pairs.mem_of_get? hk
      rw [mergedAt_some (hnull _ hmem)]
      exact congrArg some (h _ hmem)

theorem Value.IsClean.null_laidOver (h : v.IsClean) : Value.null.laidOver v = v := by
  induction v using Value.byFields with
  | leaf v hv => exact laidOver_scalar hv
  | object fs ih =>
    have hlaid := deepMerge_nil_of h.nodup (fun e he => (h.of_mem e he).ne_null) fun e he =>
      ih e he (h.of_mem e he)
    rw [laidOver]
    exact congrArg object hlaid

theorem Value.laidOver_ne_null (h : v ≠ .null) : below.laidOver v ≠ .null := by
  cases v with
  | object fs =>
    rw [laidOver]
    exact fun h => nomatch h
  | _ => exact h

theorem deepMerge_ne_null (hbase : ∀ e ∈ base, e.2 ≠ .null) (h : ∀ e ∈ fs, e.2 ≠ .null) :
    ∀ e ∈ deepMerge base fs, e.2 ≠ .null := by
  induction fs generalizing base with
  | nil => rwa [deepMerge_nil]
  | cons e fs ih =>
    obtain ⟨k, v⟩ := e
    rw [List.forall_mem_cons] at h
    rw [deepMerge_cons h.1]
    refine ih (fun e he => ?_) h.2
    rcases Pairs.mem_set he with rfl | he
    · exact Value.laidOver_ne_null h.1
    · exact hbase e he

theorem mergedAt_left {o : Option Value} (hw : w ≠ .null) (hv : v ≠ .null) :
    mergedAt (mergedAt o (some w)) (some v) = some (((o.getD .null).laidOver w).laidOver v) := by
  rw [mergedAt_some hw, mergedAt_some hv, Option.getD_some]

theorem mergedAt_right {o : Option Value} (hv : v ≠ .null) :
    mergedAt o (mergedAt (some w) (some v)) = some ((o.getD .null).laidOver (w.laidOver v)) := by
  rw [mergedAt_some hv, Option.getD_some, mergedAt_some (Value.laidOver_ne_null hv)]

/-- Of three values at a name, where there are any, it makes no difference which are laid together first. -/
theorem mergedAt_assoc {a b c : Option Value} (hb : ∀ w ∈ b, w ≠ .null) (hc : ∀ v ∈ c, v ≠ .null)
    (hnil : ∀ v ∈ c, Value.null.laidOver v = v)
    (h : ∀ w ∈ b, ∀ v ∈ c, ((a.getD .null).laidOver w).laidOver v = (a.getD .null).laidOver (w.laidOver v)) :
    mergedAt (mergedAt a b) c = mergedAt a (mergedAt b c) := by
  cases c with
  | none => rfl
  | some v =>
    have hv := hc v rfl
    cases b with
    | none =>
      have hb : mergedAt none (some v) = some v := by
        rw [mergedAt_some hv]
        exact congrArg some (hnil v rfl)
      rw [hb]
      rfl
    | some w => rw [mergedAt_left (hb w rfl) hv, mergedAt_right hv, h w rfl v rfl]

theorem deepMerge_assoc_of {a b c : Fields} (ha : (Pairs.keys a).Nodup) (hb : (Value.object b).IsClean)
    (hc : (Value.object c).IsClean)
    (h : ∀ k, mergedAt (mergedAt (Pairs.get? k a) (Pairs.get? k b)) (Pairs.get? k c) =
      mergedAt (Pairs.get? k a) (mergedAt (Pairs.get? k b) (Pairs.get? k c))) :
    deepMerge (deepMerge a b) c = deepMerge a (deepMerge b c) := by
  have hbnull (e) (he : e ∈ b) := (hb.of_mem e he).ne_null
  have hcnull (e) (he : e ∈ c) := (hc.of_mem e he).ne_null
  have hbc : (Pairs.keys (deepMerge b c)).Nodup := nodup_deepMerge hb.nodup
  refine Pairs.eq_of_get? (nodup_deepMerge (nodup_deepMerge ha)) ?_ fun k => ?_
  · rw [keys_deepMerge hc.nodup hcnull, keys_deepMerge hb.nodup hbnull,
      keys_deepMerge hbc (deepMerge_ne_null hbnull hcnull), keys_deepMerge hc.nodup hcnull,
      Pairs.joinKeys_assoc]
  · rw [get?_deepMerge hc.nodup, get?_deepMerge hb.nodup, get?_deepMerge hbc, get?_deepMerge hc.nodup, h]

theorem Value.laidOver_assoc (hbelow : below.namesDistinct = true) (hw : w.IsClean) (hv : v.IsClean)
    (ho : w.OpenTo v) : (below.laidOver w).laidOver v = below.laidOver (w.laidOver v) := by
  induction v using Value.byFields generalizing w below with
  | leaf v hleaf => rw [laidOver_scalar hleaf, laidOver_scalar hleaf, laidOver_scalar hleaf]
  | object c ih =>
    obtain ⟨b, rfl⟩ := exists_object_of_isObject (ho [] w _ rfl rfl rfl)
    have hbelow := namesDistinct_fieldsOf hbelow
    rw [laidOver, laidOver, laidOver, laidOver]
    refine congrArg object (deepMerge_assoc_of (namesDistinct_object.mp hbelow).1 hw hv fun k => ?_)
    refine mergedAt_assoc (fun w hb => (hw.of_get? hb).ne_null) (fun v hc => (hv.of_get? hc).ne_null)
      (fun v hc => (hv.of_get? hc).null_laidOver) fun w hb v hc => ?_
    have hbelow := namesDistinct_getD (namesDistinct_of_get? (k := k) hbelow)
    exact ih _ (Pairs.mem_of_get? hc) hbelow (hw.of_get? hb) (hv.of_get? hc)
      (openTo_object_iff.mp ho k w v hb hc)

theorem exists_name_notMem (fs : Fields) : ∃ name, Key.text name ∉ Pairs.keys fs := by
  obtain ⟨name, h⟩ := Infinite.exists_notMem_finset
    ((Pairs.keys fs).toFinset.preimage Key.text fun _ _ _ _ => Key.text.inj)
  exact ⟨name, fun hk => h (Finset.mem_preimage.mpr (List.mem_toFinset.mpr hk))⟩

/-- Where a value that is no object stands between two objects, the grouping can be told: the lower object is
forgotten if the other value is laid over it first. -/
theorem Value.exists_laidOver_ne (hw : w.IsClean) (hv : v.IsClean) {path : List Key} {x y : Value}
    (hx : w.follow? path = some x) (hy : v.follow? path = some y) (hyo : y.isObject = true)
    (hxo : x.isObject ≠ true) : ∃ a, (Value.object a).namesDistinct = true ∧
      ((Value.object a).laidOver w).laidOver v ≠ (Value.object a).laidOver (w.laidOver v) := by
  induction path generalizing w v with
  | nil =>
    obtain rfl : w = x := Option.some.inj hx
    obtain rfl : v = y := Option.some.inj hy
    obtain ⟨c, rfl⟩ := exists_object_of_isObject hyo
    have hleaf (fs) : w ≠ .object fs := fun h => hxo (h ▸ rfl)
    obtain ⟨name, hname⟩ := exists_name_notMem c
    refine ⟨[(.text name, .bool true)], rfl, fun h => ?_⟩
    have hc : deepMerge [] c = c := object.inj hv.null_laidOver
    rw [laidOver_scalar hleaf, laidOver, laidOver, fieldsOf_of_leaf hleaf, hc] at h
    -- what the lower object has at the fresh name is there on one side only
    have hget := congrArg (Pairs.get? (.text name)) (object.inj h)
    rw [get?_deepMerge hv.nodup, Pairs.get?_eq_none_iff.mpr hname] at hget
    simp [fieldsOf, Pairs.get?, mergedAt] at hget
  | cons k path ih =>
    cases w with
    | object b =>
      cases v with
      | object c =>
        obtain ⟨w, hwk, hx⟩ := follow?_cons_eq_some_iff.mp hx
        obtain ⟨v, hvk, hy⟩ := follow?_cons_eq_some_iff.mp hy
        have hwnull := (hw.of_get? hwk).ne_null
        have hvnull := (hv.of_get? hvk).ne_null
        obtain ⟨a, ha, hne⟩ := ih (hw.of_get? hwk) (hv.of_get? hvk) hx hy
        refine ⟨[(k, .object a)], ?_, fun h => hne ?_⟩
        · exact namesDistinct_object.mpr ⟨List.nodup_singleton k, by simpa using ha⟩
        · simp only [object_laidOver] at h
          have hget := congrArg (Pairs.get? k) (object.inj h)
          have hbelow : Pairs.get? k [(k, object a)] = some (object a) := if_pos rfl
          rw [get?_deepMerge hv.nodup, get?_deepMerge hw.nodup, get?_deepMerge (nodup_deepMerge hw.nodup),
            get?_deepMerge hv.nodup, hwk, hvk, hbelow, mergedAt_left hwnull hvnull,
            mergedAt_right hvnull] at hget
          exact Option.some.inj hget
      | _ => cases hy
    | _ => cases hx

/-- Which merges may be grouped in either way, whatever object comes first. -/
theorem deepMerge_assoc_iff {b c : Fields} (hb : (Value.object b).IsClean) (hc : (Value.object c).IsClean) :
    (∀ a, (Value.object a).namesDistinct = true → deepMerge (deepMerge a b) c = deepMerge a (deepMerge b c)) ↔
      (Value.object b).OpenTo (.object c) := by
  constructor
  · intro h path x y hx hy hyo
    refine Decidable.not_not.mp fun hxo => ?_
    obtain ⟨a, ha, hne⟩ := Value.exists_laidOver_ne hb hc hx hy hyo hxo
    simp only [Value.object_laidOver] at hne
    exact hne (congrArg Value.object (h a ha))
  · intro ho a ha
    have hassoc := Value.laidOver_assoc ha hb hc ho
    simp only [Value.object_laidOver] at hassoc
    exact Value.object.inj hassoc

end Merge

/-- To merge the same object once more changes nothing, nor does it to merge an empty one; and objects without
nulls that agree on where there are objects may be merged in any grouping. Nothing is asked of the lowest one
but that it names no field twice. -/
theorem deepMerge_laws :
    (∀ a b : Fields, (Value.object b).namesDistinct = true → deepMerge (deepMerge a b) b = deepMerge a b) ∧
    (∀ a : Fields, deepMerge a [] = a) ∧
    ∀ a b c : Fields, (Value.object a).namesDistinct = true → (Value.object b).IsClean →
      (Value.object c).IsClean → (Value.object b).SameShape (.object c) →
        deepMerge (deepMerge a b) c = deepMerge a (deepMerge b c) := by
  refine ⟨fun a b hb => deepMerge_deepMerge hb, deepMerge_nil, fun a b c ha hb hc hs => ?_⟩
  exact (deepMerge_assoc_iff hb hc).mpr (Value.sameShape_iff.mp hs).1 a ha

/-- A null in the lowest object, and an object of the uppermost one in the place of a text there. -/
theorem deepMerge_laws_palette :
    let a : Fields := [(.text "color", .object [(.text "text", .null)]), (.text "space", .text "none")]
    let b : Fields := [(.text "color", .object [(.text "link", .text "#00f")]), (.text "font", .text "serif")]
    let c : Fields := [(.text "space", .object [(.text "m", .text "8px")]),
      (.text "color", .object [(.text "link", .text "#008")])]
    deepMerge (deepMerge a b) b = deepMerge a b ∧
      deepMerge (deepMerge a b) c = deepMerge a (deepMerge b c) := by
  intro a b c
  have hb : (Value.object b).IsClean := ⟨by decide, by decide⟩
  have hc : (Value.object c).IsClean := ⟨by decide, by decide⟩
  have hlink (s t : String) :
      (Value.object [(.text "link", .text s)]).OpenTo (.object [(.text "link", .text t)]) :=
    Value.openTo_object_iff.mpr fun k w v _ hv => Value.openTo_leaf fun fs hobject => by
      simp [Pairs.get?, hobject] at hv
  -- the two have one name in common, and objects there
  have hshared (k w v) (hw : Pairs.get? k b = some w) (hv : Pairs.get? k c = some v) :
      w = .object [(.text "link", .text "#00f")] ∧ v = .object [(.text "link", .text "#008")] := by
    obtain ⟨rfl, rfl⟩ | ⟨rfl, rfl⟩ : (k = .text "color" ∧ w = _) ∨ (k = .text "font" ∧ w = _) := by
      simpa [b] using Pairs.mem_of_get? hw
    · exact ⟨rfl, (Option.some.inj hv).symm⟩
    · cases hv
  have hs : (Value.object b).SameShape (.object c) := by
    refine Value.sameShape_iff.mpr ⟨Value.openTo_object_iff.mpr fun k w v hw hv => ?_,
      Value.openTo_object_iff.mpr fun k v w hv hw => ?_⟩ <;>
    · obtain ⟨rfl, rfl⟩ := hshared k w v hw hv
      exact hlink _ _
  exact ⟨deepMerge_laws.1 a b hb.namesDistinct, deepMerge_laws.2.2 a b c (by decide) hb hc hs⟩

/-- A null keeps the place of its name in an object that is merged into, but not in one that is merged. -/
example :
    let b : Fields := [(.text "link", .null), (.text "text", .text "#000")]
    let c : Fields := [(.text "link", .text "#00f")]
    Pairs.keys (deepMerge (deepMerge [] b) c) = [.text "text", .text "link"] ∧
      Pairs.keys (deepMerge [] (deepMerge b c)) = [.text "link", .text "text"] := by
  decide

end Stylebook
