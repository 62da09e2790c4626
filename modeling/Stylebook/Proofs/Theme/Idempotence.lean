import Stylebook.Proofs.Theme.Precedence
import Stylebook.Proofs.Theme.Settled
import Stylebook.Theme.Apply
import Mathlib.Data.List.Forall2

/-!
Laying a theme over a system for the second time changes nothing.
-/

namespace Stylebook

open Decoded Decoding

section Maps

variable {α : Type} {f : Value → Decoded α} {g : α → Value}

theorem get?_of_dict {fs : Fields} {d : Dict α} {k : Key} {v : Value} (hn : (Pairs.keys fs).Nodup)
    (h : dict f (.object fs) = ok d) (hk : Pairs.get? k fs = some v) :
    ∃ n a, k = .text n ∧ d.get? n = some a ∧ f v = ok a := by
  obtain ⟨n, a, hk, ha, hd⟩ := get?_of_entries (entries_of_dict hn h) hk
  exact ⟨n, a, hk, hd, ha⟩

/-- Values that are written over a map, and are read as what the map has there. -/
theorem dict_setAll (hg : ∀ a, f (g a) = ok a) {l : Fields} {d : Dict α}
    (hl : ∀ e ∈ l, ∃ n a, e.1 = .text n ∧ d.get? n = some a ∧ f e.2 = ok a) :
    dict f (.object (Pairs.setAll (Pairs.fields g d.entries) l)) = ok d := by
  have hagain : entries f (Pairs.setAll (Pairs.fields g d.entries) l) = ok d.entries := by
    rw [← entries_fields d.entries fun e _ => hg e.2]
    refine entries_setAll fun e he => ?_
    obtain ⟨n, a, hk, hd, ha⟩ := hl e he
    refine ⟨g a, ?_, by rw [ha, hg]⟩
    rw [hk, Pairs.get?_fields, ← Dict.get?, hd]
    rfl
  rw [dict, map_ok hagain, Dict.ofList_entries]

end Maps

namespace Mapping

/-- Reads a mapping as authors write it. -/
def read (v : Value) : Decoded Mapping := decode (normalize v)

theorem dict_normalizeAll (v : Value) : dict decode (normalizeAll v) = dict read v := by
  have he (fs : Fields) : entries decode (fs.map fun e => (e.1, normalize e.2)) = entries read fs := by
    induction fs with
    | nil => rfl
    | cons e fs ih => rw [List.map_cons, entries, entries, ih, read]
  cases v with
  | object fs => rw [normalizeAll, dict, dict, he]
  | _ => rfl

theorem read_toValue (m : Mapping) : read m.toValue = ok m := by
  rw [read, normalize_toValue, decode_toValue]

theorem normalize_normalize (v : Value) : normalize (normalize v) = normalize v := by
  cases v with
  | list l => rfl
  | object fs =>
    rw [normalize]
    split
    · rename_i h
      rw [normalize, if_pos h]
    · rfl
  | _ => rfl

theorem namesDistinct_normalize {v : Value} (h : v.namesDistinct = true) :
    (normalize v).namesDistinct = true := by
  cases v with
  | list l => rfl
  | object fs =>
    rw [normalize]
    split
    · exact h
    · have hk : [Key.text "kind", Key.text "styles"].Nodup := by decide
      exact Value.namesDistinct_object.mpr ⟨hk, by simpa [Value.namesDistinct] using h⟩
  | _ => exact h

theorem read_flat {styles : Value} {m : Mapping}
    (h : read (.record [("kind", .text "flat"), ("styles", styles)]) = ok m) :
    ∃ s, StyleMap.decode styles = ok s ∧ m = .flat s := by
  have h : ((Mapping.flat <$> (StyleMap.decode styles).named "styles").named "flat") = ok m := h
  obtain ⟨s, hs, rfl⟩ := map_eq_ok_iff.mp (under_eq_ok_iff.mp h)
  exact ⟨s, under_eq_ok_iff.mp hs, rfl⟩

theorem read_flat_of_styles {styles : Value} {s : StyleMap} (h : StyleMap.decode styles = ok s) :
    read (.record [("kind", .text "flat"), ("styles", styles)]) = ok (.flat s) := by
  change ((Mapping.flat <$> (StyleMap.decode styles).named "styles").named "flat") = ok (.flat s)
  exact under_ok (map_ok (under_ok h))

/-- An object that is read as a flat mapping says so, and its styles are an object if they are there. -/
theorem flat_of_decode {fs : Fields} {s : StyleMap} (h : decode (.object fs) = ok (.flat s)) :
    Fields.get? fs "kind" = some (.text "flat") ∧
      ∃ styles, (Fields.get? fs "styles").getD (.object []) = .object styles ∧
        StyleMap.decode (.object styles) = ok s := by
  obtain ⟨kind, read, hk, hr, h⟩ := exists_of_tagged h
  rw [readKind?] at hr
  split at hr
  · rename_i he
    cases hr
    obtain ⟨_, hs, he'⟩ := map_eq_ok_iff.mp h
    cases he'
    refine ⟨he ▸ hk, ?_⟩
    rcases exists_of_optional hs with ⟨hn, rfl⟩ | ⟨n, v, hv, hs⟩
    · rw [field?_singleton, Option.map_eq_none_iff] at hn
      exact ⟨[], by rw [hn]; rfl, rfl⟩
    · rw [field?_singleton] at hv
      obtain ⟨w, hw, he⟩ := Option.map_eq_some_iff.mp hv
      cases he
      cases v with
      | object styles => exact ⟨styles, by rw [hw]; rfl, hs⟩
      | _ => cases hs
  · split at hr
    · cases hr
      obtain ⟨_, -, he⟩ := map_eq_ok_iff.mp h
      cases he
    · cases hr

end Mapping

namespace Override

theorem flatStyles_eq_ok {existing : StyleMap} {fs : Fields} {v : Value}
    (h : flatStyles existing fs = .ok v) :
    ∃ styles, (Fields.get? fs "styles").getD (.object []) = .object styles ∧
      v = .record [("kind", .text "flat"),
        ("styles", .object (Pairs.setAll (Value.fieldsOf (StyleMap.toValue existing)) styles))] := by
  rw [flatStyles] at h
  split at h
  · rename_i styles hs
    exact ⟨styles, hs, (Except.ok.inj h).symm⟩
  · cases h

theorem flatStyles_ok {existing : StyleMap} {fs styles : Fields}
    (h : (Fields.get? fs "styles").getD (.object []) = .object styles) :
    flatStyles existing fs = .ok (.record [("kind", .text "flat"),
      ("styles", .object (Pairs.setAll (Value.fieldsOf (StyleMap.toValue existing)) styles))]) := by
  rw [flatStyles, h]

/-- Flat styles that are laid over what they were read as. -/
theorem flatStyles_again {fs styles base : Fields} {s : StyleMap}
    (hs : (Fields.get? fs "styles").getD (.object []) = .object styles)
    (hn : (Pairs.keys base).Nodup) (h : StyleMap.decode (.object base) = ok s)
    (hl : ∀ e ∈ styles, Pairs.get? e.1 base = some e.2) :
    ∃ v, flatStyles s fs = .ok v ∧ Mapping.read v = ok (.flat s) := by
  refine ⟨_, flatStyles_ok hs, Mapping.read_flat_of_styles ?_⟩
  rw [StyleMap.toValue, Value.ofDict_eq, Value.fieldsOf]
  exact dict_setAll StyleMap.readStyleValue_toValue fun e he => get?_of_dict hn h (hl e he)

theorem mappingValue_flat {raw : Value} {fs : Fields} (s : StyleMap)
    (hr : Mapping.normalize raw = .object fs) (hk : Fields.get? fs "kind" = some (.text "flat")) :
    mappingValue (some (.flat s)) raw = flatStyles s fs := by
  unfold mappingValue
  rw [hr]
  dsimp only
  rw [hk]
  rfl

theorem mappingValue_cases {existing : Option Mapping} {raw v : Value}
    (h : mappingValue existing raw = .ok v) :
    v = Mapping.normalize raw ∨ ∃ s fs, Mapping.normalize raw = .object fs ∧
      Fields.get? fs "kind" = some (.text "flat") ∧ flatStyles s fs = .ok v := by
  unfold mappingValue at h
  split at h
  · rename_i s fs hr
    split at h
    · rename_i hk
      exact .inr ⟨s, fs, hr, hk, h⟩
    · exact .inl (hr ▸ (Except.ok.inj h).symm)
  · exact .inl (Except.ok.inj h).symm

/-- What came in the place of a mapping, and is read as one, comes in its place again. -/
theorem mappingValue_again {existing : Option Mapping} {raw v : Value} {m : Mapping}
    (hd : raw.namesDistinct = true) (hv : mappingValue existing raw = .ok v)
    (hm : Mapping.read v = ok m) :
    ∃ v', mappingValue (some m) raw = .ok v' ∧ Mapping.read v' = ok m := by
  have hd := Mapping.namesDistinct_normalize hd
  have hstyles {fs styles : Fields} (hr : Mapping.normalize raw = .object fs)
      (hs : (Fields.get? fs "styles").getD (.object []) = .object styles) :
      (Pairs.keys styles).Nodup := by
    rw [hr] at hd
    cases hg : Fields.get? fs "styles" with
    | none =>
      rw [hg] at hs
      cases hs
      exact .nil
    | some w =>
      rw [hg] at hs
      obtain rfl : w = .object styles := hs
      exact (Value.namesDistinct_object.mp
        ((Value.namesDistinct_object.mp hd).2 _ (Pairs.mem_of_get? hg))).1
  rcases mappingValue_cases hv with rfl | ⟨old, fs, hr, hk, hf⟩
  -- what replaced a mapping may now be merged, as the mapping has become a flat one
  · cases m with
    | conditional entries => exact ⟨_, rfl, hm⟩
    | flat s =>
      rw [Mapping.read, Mapping.normalize_normalize] at hm
      cases hr : Mapping.normalize raw with
      | object fs =>
        rw [hr] at hm
        obtain ⟨hk, styles, hs, hread⟩ := Mapping.flat_of_decode hm
        have hn := hstyles hr hs
        rw [mappingValue_flat s hr hk]
        exact flatStyles_again hs hn hread fun e he => (Pairs.get?_eq_some_iff hn).mpr he
      | _ =>
        rw [hr] at hm
        cases hm
  · obtain ⟨styles, hs, rfl⟩ := flatStyles_eq_ok hf
    obtain ⟨s, hread, rfl⟩ := Mapping.read_flat hm
    have hn := hstyles hr hs
    have hold : (Pairs.keys (Value.fieldsOf (StyleMap.toValue old))).Nodup := by
      rw [StyleMap.toValue, Value.ofDict_eq]
      exact nodup_fields _ old
    rw [mappingValue_flat s hr hk]
    refine flatStyles_again hs (Pairs.nodup_setAll hold) hread fun e he => ?_
    rw [Pairs.get?_setAll hn, (Pairs.get?_eq_some_iff hn).mpr he]
    rfl

section Merge

variable {c : Component} {ms ds vs data data' : Fields}

/-- The mapping of a component at a key. -/
def mappingAt (c : Component) : Key → Option Mapping
  | .text k => c.mappings.get? k
  | _ => none

/-- What comes in the place of each mapping that is named. -/
def Replaces (c : Component) (ms vs : Fields) : Prop :=
  List.Forall₂ (fun e r => r.1 = e.1 ∧ mappingValue (mappingAt c e.1) e.2 = .ok r.2) ms vs

theorem mergeMappings_cons {k : Key} {raw : Value} : mergeMappings c data ((k, raw) :: ms) =
    (mappingValue (mappingAt c k) raw).bind fun v =>
      mergeMappings c (Fields.set data "mappings"
        (.object (Pairs.set k v (Fields.getD data "mappings").fieldsOf))) ms := rfl

theorem mergeMappings_eq_ok_iff (hd : Fields.get? data "mappings" = some (.object ds)) :
    mergeMappings c data ms = .ok data' ↔
      ∃ vs, Replaces c ms vs ∧ data' = Fields.set data "mappings" (.object (Pairs.setAll ds vs)) := by
  induction ms generalizing data ds with
  | nil =>
    have hset : Fields.set data "mappings" (.object ds) = data := Pairs.set_of_get? hd
    constructor
    · intro h
      exact ⟨[], .nil, by rw [← Except.ok.inj h]; exact hset.symm⟩
    · rintro ⟨vs, hvs, rfl⟩
      cases hvs
      exact congrArg Except.ok hset.symm
  | cons e ms ih =>
    obtain ⟨k, raw⟩ := e
    have hold : (Fields.getD data "mappings").fieldsOf = ds := by
      rw [Fields.getD, hd]
      rfl
    have hget (v : Value) : Fields.get? (Fields.set data "mappings" v) "mappings" = some v :=
      Pairs.get?_set_self
    have htwice (v w : Value) : Fields.set (Fields.set data "mappings" v) "mappings" w =
        Fields.set data "mappings" w := Pairs.set_set
    rw [mergeMappings_cons, hold]
    cases hv : mappingValue (mappingAt c k) raw with
    | error err =>
      constructor
      · intro h
        cases h
      · rintro ⟨vs, hvs, -⟩
        obtain ⟨r, rest, ⟨-, hr⟩, -, -⟩ := List.forall₂_cons_left_iff.mp hvs
        rw [hv] at hr
        cases hr
    | ok v =>
      rw [Except.bind, ih (hget _)]
      simp only [htwice]
      constructor
      · rintro ⟨vs, hvs, rfl⟩
        exact ⟨(k, v) :: vs, .cons ⟨rfl, hv⟩ hvs, rfl⟩
      · rintro ⟨vs, hvs, rfl⟩
        obtain ⟨⟨j, w⟩, rest, ⟨hj, hw⟩, hrest, rfl⟩ := List.forall₂_cons_left_iff.mp hvs
        obtain rfl : j = k := hj
        obtain rfl : v = w := Except.ok.inj (hv.symm.trans hw)
        exact ⟨rest, hrest, rfl⟩

/-- The description of a component with some of its fields replaced. -/
def described (c : Component) (description properties mappings baseStyles : Value) : Fields :=
  [(.text "name", .text c.name), (.text "description", description),
    (.text "properties", properties),
    (.text "constraints", .list (c.constraints.map Constraint.toValue)),
    (.text "mappings", mappings), (.text "base_styles", baseStyles)]

/-- What a field is merged with, if anything is given for it. -/
def changed (v : Value) : Option Fields → Value
  | none => v
  | some fs => v.laidOver (.object fs)

/-- The parts of an override, as far as it has them. -/
structure Parts (override : Fields) (description : Option Value)
    (baseStyles properties mappings : Option Fields) : Prop where
  description : Fields.get? (rename override) "description" = description
  baseStyles : fields? (rename override) "base_styles" = .ok baseStyles
  properties : fields? (rename override) "properties" = .ok properties
  mappings : fields? (rename override) "mappings" = .ok mappings

/-- What is merged for the properties stays an object. -/
theorem isNull_changed (d : Dict Property) (fs : Option Fields) :
    (changed (.ofDict Property.toValue d) fs).isNull = false := by
  cases fs with
  | none => rfl
  | some fs =>
    rw [changed, Value.laidOver]
    rfl

theorem mergeField_baseStyles (c : Component) (d p m b : Value) (fs : Option Fields) :
    mergeField (described c d p m b) "base_styles" fs = described c d p m (changed b fs) := by
  cases fs with
  | none => rfl
  | some fs =>
    rw [changed, Value.laidOver]
    rfl

theorem mergeField_properties (c : Component) (d p m b : Value) (fs : Option Fields) :
    mergeField (described c d p m b) "properties" fs = described c d (changed p fs) m b := by
  cases fs with
  | none => rfl
  | some fs =>
    rw [changed, Value.laidOver]
    rfl

/-- All that happens before the mappings are merged. -/
theorem mergeInto_of_parts {override : Fields} {d : Option Value} {bs ps ms : Option Fields}
    (h : Parts override d bs ps ms) (c : Component) :
    mergeInto c override = mergeMappings c (described c (d.getD (.ofOption .text c.description))
      (changed (.ofDict Property.toValue c.properties) ps) (.ofDict Mapping.toValue c.mappings)
      (changed (.ofOption StyleMap.toValue c.baseStyles) bs)) (ms.getD []) := by
  unfold mergeInto
  dsimp only
  rw [h.description, h.baseStyles, h.properties, h.mappings, ← mergeField_properties,
    ← mergeField_baseStyles]
  cases d <;> rfl

/-- The parts of an override that are merged field by field. -/
def mergedParts : List String := ["base_styles", "properties", "mappings"]

/-- Either all of an override can be merged, or the first part that cannot ends the merge. -/
theorem parts_or_error (c : Component) (override : Fields) :
    (∃ d bs ps ms, Parts override d bs ps ms) ∨
      ∃ part ∈ mergedParts, ∃ e, fields? (rename override) part = .error e ∧
        mergeInto c override = .error e := by
  unfold mergeInto
  dsimp only
  cases hb : fields? (rename override) "base_styles" with
  | error e => exact .inr ⟨_, by simp [mergedParts], e, hb, rfl⟩
  | ok bs =>
    cases hp : fields? (rename override) "properties" with
    | error e => exact .inr ⟨_, by simp [mergedParts], e, hp, rfl⟩
    | ok ps =>
      cases hm : fields? (rename override) "mappings" with
      | error e => exact .inr ⟨_, by simp [mergedParts], e, hm, rfl⟩
      | ok ms => exact .inl ⟨_, bs, ps, ms, rfl, hb, hp, hm⟩

theorem exists_parts {override : Fields} (h : mergeInto c override = .ok data) :
    ∃ d bs ps ms, Parts override d bs ps ms := by
  refine (parts_or_error c override).resolve_right ?_
  rintro ⟨part, -, e, -, he⟩
  cases he.symm.trans h

theorem mergeInto_eq_ok_iff {override : Fields} {d : Option Value} {bs ps ms : Option Fields}
    (h : Parts override d bs ps ms) : mergeInto c override = .ok data ↔
      ∃ vs, Replaces c (ms.getD []) vs ∧
        data = described c (d.getD (.ofOption .text c.description))
          (changed (.ofDict Property.toValue c.properties) ps)
          (.object (Pairs.setAll (Pairs.fields Mapping.toValue c.mappings.entries) vs))
          (changed (.ofOption StyleMap.toValue c.baseStyles) bs) := by
  rw [mergeInto_of_parts h]
  exact mergeMappings_eq_ok_iff (congrArg some (Value.ofDict_eq Mapping.toValue c.mappings))

/-- The name that a field counts under. -/
def partName (k : Key) : Key := if k = .text "baseStyles" then .text "base_styles" else k

theorem rename_eq (override : Fields) :
    rename override = Pairs.setAll [] (override.map fun e => (partName e.1, e.2)) := by
  rw [Pairs.setAll, List.foldl_map]
  rfl

theorem exists_of_mem_rename {override : Fields} {e : Key × Value} (h : e ∈ rename override) :
    ∃ d ∈ override, partName d.1 = e.1 ∧ d.2 = e.2 := by
  rw [rename_eq] at h
  rcases Pairs.mem_setAll h with h | h
  · cases h
  · obtain ⟨d, hd, rfl⟩ := List.mem_map.mp h
    exact ⟨d, hd, rfl, rfl⟩

/-- What is merged under a name stands in the override. -/
theorem exists_of_fields? {override fs : Fields} {name : String}
    (h : fields? (rename override) name = .ok (some fs)) :
    ∃ d ∈ override, partName d.1 = .text name ∧ d.2 = .object fs := by
  have hget : Fields.getD (rename override) name = .object fs := by
    rw [fields?] at h
    split at h
    · cases h
    · split at h
      · rename_i hv
        cases h
        exact hv
      · cases h
  rw [Fields.getD] at hget
  cases hg : Fields.get? (rename override) name with
  | none =>
    rw [hg] at hget
    cases hget
  | some v =>
    rw [hg] at hget
    obtain rfl : v = .object fs := hget
    exact exists_of_mem_rename (Pairs.mem_of_get? hg)

theorem namesDistinct_of_fields? {override fs : Fields} {name : String}
    (hd : (Value.object override).namesDistinct = true)
    (h : fields? (rename override) name = .ok (some fs)) : (Value.object fs).namesDistinct = true := by
  obtain ⟨d, hmem, -, hv⟩ := exists_of_fields? h
  have hd := (Value.namesDistinct_object.mp hd).2 d hmem
  rwa [hv] at hd

theorem keys_of_replaces (h : Replaces c ms vs) : Pairs.keys vs = Pairs.keys ms := by
  induction h with
  | nil => rfl
  | cons he _ ih => rw [Pairs.keys_cons, Pairs.keys_cons, ih, he.1]

/-- The value at a key is read as the mapping that the component has there. -/
def ReadsAs (c : Component) (e : Key × Value) : Prop :=
  ∃ n m, e.1 = .text n ∧ c.mappings.get? n = some m ∧ Mapping.read e.2 = ok m

theorem replaces_again {c' : Component} (hd : ∀ e ∈ ms, e.2.namesDistinct = true)
    (h : Replaces c ms vs) (hvs : ∀ e ∈ vs, ReadsAs c' e) :
    ∃ vs', Replaces c' ms vs' ∧ ∀ e ∈ vs', ReadsAs c' e := by
  induction h with
  | nil => exact ⟨[], .nil, by simp⟩
  | @cons e r ms vs he _ ih =>
    rw [List.forall_mem_cons] at hd hvs
    obtain ⟨vs', hrest, hread⟩ := ih hd.2 hvs.2
    obtain ⟨n, m, hk, hm, hr⟩ := hvs.1
    obtain ⟨v, hv, hread'⟩ := mappingValue_again hd.1 he.2 hr
    have hat : mappingAt c' e.1 = some m := by
      rw [← he.1, hk]
      exact hm
    rw [← hat] at hv
    exact ⟨(e.1, v) :: vs', .cons ⟨rfl, hv⟩ hrest,
      List.forall_mem_cons.mpr ⟨⟨n, m, he.1 ▸ hk, hm, hread'⟩, hread⟩⟩

/-- The mappings that took the place of others take it again. -/
theorem mappings_again {c' : Component} (hd : (Value.object ms).namesDistinct = true)
    (h : Replaces c ms vs)
    (hr : dict Mapping.read (.object (Pairs.setAll (Pairs.fields Mapping.toValue c.mappings.entries) vs)) =
      ok c'.mappings) :
    ∃ vs', Replaces c' ms vs' ∧
      dict Mapping.read
        (.object (Pairs.setAll (Pairs.fields Mapping.toValue c'.mappings.entries) vs')) =
      ok c'.mappings := by
  obtain ⟨hn, hvalues⟩ := Value.namesDistinct_object.mp hd
  rw [← keys_of_replaces h] at hn
  have hreads : ∀ e ∈ vs, ReadsAs c' e := by
    intro e he
    refine get?_of_dict (Pairs.nodup_setAll (nodup_fields Mapping.toValue c.mappings)) hr ?_
    rw [Pairs.get?_setAll hn, (Pairs.get?_eq_some_iff hn).mpr he]
    rfl
  obtain ⟨vs', hvs', hread⟩ := replaces_again hvalues h hreads
  exact ⟨vs', hvs', dict_setAll Mapping.read_toValue hread⟩

end Merge

section Changes

variable {α : Type} {f : Value → Decoded α} {g : α → Value}

/-- A change of what was written, made again to what was read. -/
theorem changed_again (hs : Settles f g) (hg : ∀ a, f (g a) = ok a) {fs : Option Fields}
    (hd : ∀ l ∈ fs, (Value.object l).namesDistinct = true) {e a : α}
    (h : f (changed (g e) fs) = ok a) : f (changed (g a) fs) = ok a := by
  cases fs with
  | none => exact hg a
  | some l => exact hs (some e) (.object l) a (hd l rfl) h

/-- The same where there may be nothing to change. -/
theorem changed_again_option (hs : Settles f g) (hg : ∀ a, f (g a) = ok a) (hn : ∀ a, g a ≠ .null)
    {fs : Option Fields} (hd : ∀ l ∈ fs, (Value.object l).namesDistinct = true) {e o : Option α}
    (h : nullable f (changed (.ofOption g e) fs) = ok o) :
    nullable f (changed (.ofOption g o) fs) = ok o := by
  cases fs with
  | none => exact nullable_ofOption hg hn o
  | some l =>
    rw [changed, Value.laidOver] at h ⊢
    obtain ⟨a, ha, rfl⟩ := map_eq_ok_iff.mp h
    have hagain := hs e (.object l) a (hd l rfl)
    rw [Value.laidOver, Value.laidOver] at hagain
    exact map_ok (hagain ha)

end Changes

end Override

namespace Component

open Override

variable {c c' : Component} {d p m b : Value}

theorem reads_described_iff : Reads (described c d p m b) c' ↔
    c'.name = c.name ∧ nullable text d = ok c'.description ∧ dict Property.decode p = ok c'.properties ∧
      c'.constraints = c.constraints ∧ dict Mapping.read m = ok c'.mappings ∧
      nullable StyleMap.decode b = ok c'.baseStyles := by
  have hc : list Constraint.decode (.list (c.constraints.map Constraint.toValue)) = ok c.constraints :=
    list_map fun c _ => c.decode_toValue
  rw [← Mapping.dict_normalizeAll]
  constructor
  · rintro ⟨hname, hdescription, hproperties, hconstraints, hmappings, hbase⟩
    have hconstraints := under_eq_ok_iff.mp hconstraints
    rw [hc] at hconstraints
    exact ⟨(ok.inj hname).symm, under_eq_ok_iff.mp hdescription, under_eq_ok_iff.mp hproperties,
      (ok.inj hconstraints).symm, under_eq_ok_iff.mp hmappings, under_eq_ok_iff.mp hbase⟩
  · rintro ⟨hname, hdescription, hproperties, hconstraints, hmappings, hbase⟩
    exact
      { name := hname ▸ rfl
        description := under_ok hdescription
        properties := under_ok hproperties
        constraints := hconstraints ▸ under_ok hc
        mappings := under_ok hmappings
        baseStyles := under_ok hbase }

theorem decode_described (hn : c.name ≠ "") (hp : p.isNull = false)
    (h : Reads (described c d p m b) c') : decode (.object (described c d p m b)) = ok c' := by
  have hr : refusal? (.object (described c d p m b)) = none := refusal?_eq_none rfl hn hp
  rw [decode_of_refusal? hr]
  exact readFields_eq_ok_iff.mpr h

theorem withOverride_eq_ok_iff {override : Fields} : c.withOverride override = .ok c' ↔
    ∃ data, mergeInto c override = .ok data ∧ decode (.object data) = ok c' := by
  rw [withOverride]
  cases mergeInto c override with
  | error e => exact ⟨nofun, fun ⟨_, h, _⟩ => nomatch h⟩
  | ok data =>
    rw [Except.bind]
    cases hd : decode (.object data) with
    | ok a =>
      constructor
      · intro h
        cases h
        exact ⟨data, rfl, hd⟩
      · rintro ⟨_, hdata, hc⟩
        cases hdata
        rw [hd] at hc
        cases hc
        rfl
    | _ =>
      constructor
      · intro h
        cases h
      · rintro ⟨_, hdata, hc⟩
        cases hdata
        rw [hd] at hc
        cases hc

/-- A change that a component has been given leaves it as it is. -/
theorem withOverride_again {override : Fields} (hd : (Value.object override).namesDistinct = true)
    (h : c.withOverride override = .ok c') : c'.withOverride override = .ok c' := by
  obtain ⟨data, hdata, hc⟩ := withOverride_eq_ok_iff.mp h
  obtain ⟨description, baseStyles, properties, mappings, hparts⟩ := exists_parts hdata
  obtain ⟨vs, hvs, rfl⟩ := (mergeInto_eq_ok_iff hparts).mp hdata
  have hname := name_ne_of_decode hc
  obtain ⟨_, hfs, -, hreads⟩ := reads_of_decode hc
  cases hfs
  obtain ⟨-, hdescription, hproperties, -, hmappings, hbase⟩ := reads_described_iff.mp hreads
  have hdescription : nullable text (description.getD (.ofOption .text c'.description)) =
      ok c'.description := by
    cases description with
    | none => exact nullable_text c'.description
    | some v => exact hdescription
  have hproperties := changed_again (settles_dict Property.settles Property.decode_toValue)
    (fun d => dict_ofDict fun e _ => e.2.decode_toValue)
    (fun l hl => namesDistinct_of_fields? hd (hl ▸ hparts.properties)) hproperties
  have hbase := changed_again_option StyleMap.settles StyleMap.decode_toValue (fun _ => nofun)
    (fun l hl => namesDistinct_of_fields? hd (hl ▸ hparts.baseStyles)) hbase
  have hnew : (Value.object (mappings.getD [])).namesDistinct = true := by
    cases mappings with
    | none => rfl
    | some l => exact namesDistinct_of_fields? hd hparts.mappings
  obtain ⟨vs', hvs', hmappings⟩ := mappings_again hnew hvs hmappings
  refine withOverride_eq_ok_iff.mpr ⟨_, (mergeInto_eq_ok_iff hparts).mpr ⟨vs', hvs', rfl⟩, ?_⟩
  exact decode_described hname (isNull_changed _ _)
    (reads_described_iff.mpr ⟨rfl, hdescription, hproperties, rfl, hmappings, hbase⟩)

end Component

/-- The overrides of a layer name no field twice, as is the rule for objects of raw data. -/
def Layer.NamesDistinct (l : Layer) : Prop := (Value.object l.overrides).namesDistinct = true

theorem Layer.NamesDistinct.merge {base top : Layer} (hb : base.NamesDistinct) (ht : top.NamesDistinct) :
    (base.merge top).NamesDistinct :=
  namesDistinct_deepMerge base.overrides hb top.overrides (Value.namesDistinct_object.mp ht).2

namespace Registry

variable {r : Registry}

theorem flattening_namesDistinct
    (hr : ∀ n t, r.get? n = some t → (Value.object t.overrides).namesDistinct = true) :
    r.Flattening fun _ l => l.NamesDistinct := by
  refine .of_kept rfl (fun _ _ => .merge) fun n t base ht hbase => ?_
  exact namesDistinct_deepMerge base.overrides hbase t.overrides (Value.namesDistinct_object.mp (hr n t ht)).2

/-- If no registered theme names a field twice in its overrides, then no resolved theme does. -/
theorem namesDistinct_of_resolve
    (hr : ∀ n t, r.get? n = some t → (Value.object t.overrides).namesDistinct = true) {n : String}
    {flat : FlatTheme} (h : r.resolve n = .ok flat) : flat.layer.NamesDistinct :=
  (flattening_namesDistinct hr).of_resolve h

end Registry

namespace DesignSystem

variable {components components' : Dict Component} {overrides : Fields}

/-- What one override does. -/
theorem overrideComponents_cons_iff {name : String} {v : Value} {rest : Fields} :
    overrideComponents components ((.text name, v) :: rest) = .ok components' ↔
      (components.get? name = none ∧ overrideComponents components rest = .ok components') ∨
      ∃ c c', components.get? name = some c ∧ c.withOverride v.fieldsOf = .ok c' ∧
        overrideComponents (components.insert name c') rest = .ok components' := by
  rw [overrideComponents]
  cases components.get? name with
  | none => simp
  | some c => cases hw : c.withOverride v.fieldsOf <;> simp [Except.bind, hw]

/-- Components that no override names stay as they are. -/
theorem get?_overrideComponents {name : String} (hn : .text name ∉ Pairs.keys overrides)
    (h : overrideComponents components overrides = .ok components') :
    components'.get? name = components.get? name := by
  induction overrides generalizing components with
  | nil =>
    cases h
    rfl
  | cons e overrides ih =>
    obtain ⟨k, v⟩ := e
    rw [Pairs.keys_cons, List.mem_cons, not_or] at hn
    cases k with
    | text s =>
      rcases overrideComponents_cons_iff.mp h with ⟨-, h⟩ | ⟨c, c', -, -, h⟩
      · exact ih hn.2 h
      · have hne : s ≠ name := fun he => hn.1 (congrArg Key.text he.symm)
        rw [ih hn.2 h, Dict.get?_insert, if_neg hne]
    | _ => exact ih hn.2 h

/-- After the overrides, a component that one of them names is what this override makes of some
component. -/
theorem exists_of_overrideComponents (hn : (Pairs.keys overrides).Nodup)
    (h : overrideComponents components overrides = .ok components') :
    ∀ name v, (.text name, v) ∈ overrides → ∀ c', components'.get? name = some c' →
      ∃ c, Component.withOverride c v.fieldsOf = .ok c' := by
  induction overrides generalizing components with
  | nil => simp
  | cons e overrides ih =>
    obtain ⟨k, v⟩ := e
    rw [Pairs.keys_cons, List.nodup_cons] at hn
    intro name w hm c' hc'
    cases k with
    | text s =>
      rcases List.mem_cons.mp hm with he | hm
      · cases he
        -- the overrides that follow are of other components
        rcases overrideComponents_cons_iff.mp h with ⟨hnone, h⟩ | ⟨c, c'', -, hw, h⟩
        · rw [get?_overrideComponents hn.1 h, hnone] at hc'
          cases hc'
        · rw [get?_overrideComponents hn.1 h, Dict.get?_insert, if_pos rfl] at hc'
          cases hc'
          exact ⟨c, hw⟩
      · rcases overrideComponents_cons_iff.mp h with ⟨-, h⟩ | ⟨_, _, -, -, h⟩
        · exact ih hn.2 h name w hm c' hc'
        · exact ih hn.2 h name w hm c' hc'
    | _ =>
      rcases List.mem_cons.mp hm with he | hm
      · cases he
      · exact ih hn.2 h name w hm c' hc'

/-- Overrides that change none of the components change nothing. -/
theorem overrideComponents_of_unchanged
    (h : ∀ name v, (.text name, v) ∈ overrides → ∀ c, components.get? name = some c →
      c.withOverride v.fieldsOf = .ok c) :
    overrideComponents components overrides = .ok components := by
  induction overrides with
  | nil => rfl
  | cons e overrides ih =>
    have ih := ih fun name v hm => h name v (List.mem_cons_of_mem e hm)
    obtain ⟨k, v⟩ := e
    cases k with
    | text s =>
      refine overrideComponents_cons_iff.mpr ?_
      cases hc : components.get? s with
      | none => exact .inl ⟨rfl, ih⟩
      | some c =>
        have hi : components.insert s c = components := Dict.eq_of_entries (Pairs.set_of_get? hc)
        exact .inr ⟨c, c, rfl, h s v List.mem_cons_self c hc, hi.symm ▸ ih⟩
    | _ => exact ih

theorem overrideComponents_again (hd : (Value.object overrides).namesDistinct = true)
    (h : overrideComponents components overrides = .ok components') :
    overrideComponents components' overrides = .ok components' := by
  obtain ⟨hn, hvalues⟩ := Value.namesDistinct_object.mp hd
  refine overrideComponents_of_unchanged fun name v hm c' hc' => ?_
  obtain ⟨c, hc⟩ := exists_of_overrideComponents hn h name v hm c' hc'
  exact Component.withOverride_again (Value.namesDistinct_fieldsOf (hvalues _ hm)) hc

theorem getD_someTokens (t : Tokens) : (someTokens t).getD ∅ = t := by
  rw [someTokens]
  split
  · rename_i h
    exact Dict.eq_of_entries (List.isEmpty_iff.mp h).symm
  · rfl

theorem withTheme_eq_ok_iff {s s' : DesignSystem} {t : FlatTheme} : s.withTheme t = .ok s' ↔
    overrideComponents s.components t.layer.overrides = .ok s'.components ∧
      s'.name = s.name ∧ s'.version = s.version ∧ s'.tokens = s.tokens.merge t.layer.tokens ∧
      s'.darkTokens = someTokens ((s.darkTokens.getD ∅).merge t.layer.darkTokens) ∧
      s'.settings = { s.settings with cssPrefix := t.layer.pre } := by
  rw [withTheme]
  cases overrideComponents s.components t.layer.overrides with
  | error e => exact ⟨nofun, nofun⟩
  | ok components =>
    constructor
    · intro h
      cases h
      exact ⟨rfl, rfl, rfl, rfl, rfl, rfl⟩
    · rintro ⟨hcomponents, hname, hversion, htokens, hdark, hsettings⟩
      obtain ⟨name, version, tokens, darkTokens, components', settings⟩ := s'
      subst hname hversion htokens hdark hsettings
      cases hcomponents
      rfl

/-- A theme that lies over a system already leaves it as it is, down to the order of tokens and components. -/
theorem withTheme_again {s s' : DesignSystem} {t : FlatTheme} (hd : t.layer.NamesDistinct)
    (h : s.withTheme t = .ok s') : s'.withTheme t = .ok s' := by
  obtain ⟨hcomponents, -, -, htokens, hdark, hsettings⟩ := withTheme_eq_ok_iff.mp h
  refine withTheme_eq_ok_iff.mpr
    ⟨overrideComponents_again hd hcomponents, rfl, rfl, ?_, ?_, by rw [hsettings]⟩
  · rw [htokens, Tokens.merge_eq_overlay, Tokens.merge_eq_overlay, Dict.overlay_again]
  · rw [hdark, getD_someTokens, Tokens.merge_eq_overlay, Tokens.merge_eq_overlay, Dict.overlay_again]

end DesignSystem

/-- A theme that gives labels a size of their own and styles for both tones. -/
def dusk : FlatTheme where
  name := "dusk"
  layer := {
    tokens := .ofList [("color", .ofList [("ink", .text "white")])]
    darkTokens := ∅
    pre := "dusk"
    overrides := [(.text "Label", .record [
      ("properties", .record [("size", .record [("default", .text "2")])]),
      ("baseStyles", .record [("gap", .int 1)]),
      ("mappings", .record [
        ("tone=calm", .record [("border", .text "none")]),
        ("tone=true", .record [("color", .text "red")])])])] }

/-- The first mapping is merged, the second one replaced. -/
def duskLabel : Component :=
  { label with
    properties := .ofList [
      ("tone", ⟨.enum ["calm", "true"] none, false, none⟩),
      ("size", ⟨.number (some (.int 2)) none (some (.int 3)), false, none⟩)]
    mappings := .ofList [
      ("tone=calm", .flat (.ofList [
        ("color", .branches (.ofList [("md", .text "gray")])), ("border", .literal (.text "none"))])),
      ("tone=true", .flat (.ofList [("color", .literal (.text "red"))]))]
    baseStyles := some (.ofList [("gap", .literal (.number (.int 1)))]) }

def duskLabels : DesignSystem :=
  { labels with
    tokens := .ofList [("color", .ofList [("ink", .text "white")])]
    components := .ofList [("Label", duskLabel)]
    settings := { labels.settings with cssPrefix := "dusk" } }

theorem DesignSystem.withTheme_again_dusk :
    dusk.layer.NamesDistinct ∧
      labels.withTheme dusk = .ok duskLabels ∧ duskLabels.withTheme dusk = .ok duskLabels := by
  have hd : dusk.layer.NamesDistinct := rfl
  have h : labels.withTheme dusk = .ok duskLabels := rfl
  exact ⟨hd, h, withTheme_again hd h⟩

end Stylebook
