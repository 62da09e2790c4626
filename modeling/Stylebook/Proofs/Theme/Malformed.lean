import Stylebook.Proofs.Decoding.Detailed
import Stylebook.Proofs.Theme.Idempotence

/-!
Changes of a shape that no component takes. A component with a change laid over it is read as a whole, and an
error says in details what is wrong with it. The parts of the change are merged before that, though, and a part
that cannot be merged ends the change with an error of its own.
-/

namespace Stylebook

open Decoded

namespace Override

/-- Something is given where fields are merged, and it is no object. -/
def Fieldless (v : Value) : Prop := v.isNothing = false ∧ ∀ fs, v ≠ .object fs

/-- A part of the override has no fields to merge. -/
def BreaksMerge (override : Fields) : Prop :=
  ∃ part ∈ mergedParts, Fieldless (Fields.getD (rename override) part)

/-- A mapping that calls itself flat, with styles that are no object. -/
def BareStyles (raw : Value) : Prop :=
  ∃ fs v, raw = .object fs ∧ Mapping.isTagged fs = true ∧ Fields.get? fs "kind" = some (.text "flat") ∧
    Fields.get? fs "styles" = some v ∧ ∀ styles, v ≠ .object styles

/-- A flat mapping of a component would have to take in styles that are no object. -/
def BreaksMapping (c : Component) (e : Key × Value) : Prop :=
  (∃ s, mappingAt c e.1 = some (.flat s)) ∧ BareStyles e.2

def BreaksStyles (c : Component) (override : Fields) : Prop :=
  ∃ ms, Fields.getD (rename override) "mappings" = .object ms ∧ ∃ e ∈ ms, BreaksMapping c e

variable {c : Component} {override fs ms data : Fields} {name : String} {e : OverrideError} {raw : Value}

theorem fields?_eq_error_iff :
    fields? override name = .error e ↔ e = .notFields ∧ Fieldless (Fields.getD override name) := by
  rw [fields?, Fieldless]
  cases hn : (Fields.getD override name).isNothing with
  | true => simp
  | false =>
    cases Fields.getD override name <;> simp [eq_comm]

theorem flatStyles_eq_error_iff {s : StyleMap} : flatStyles s fs = .error e ↔
    e = .notStyles ∧ ∃ v, Fields.get? fs "styles" = some v ∧ ∀ styles, v ≠ .object styles := by
  rw [flatStyles]
  cases Fields.get? fs "styles" with
  | none => simp
  | some v => cases v <;> simp [eq_comm]

/-- Only a mapping that is tagged already can be left with styles that are no object. -/
theorem bareStyles_of_normalize {v : Value} (hr : Mapping.normalize raw = .object fs)
    (hk : Fields.get? fs "kind" = some (.text "flat")) (hv : Fields.get? fs "styles" = some v)
    (hbare : ∀ styles, v ≠ .object styles) : BareStyles raw := by
  cases raw with
  | object fields =>
    rw [Mapping.normalize] at hr
    split at hr
    · rename_i ht
      cases hr
      exact ⟨fs, v, rfl, ht, hk, hv, hbare⟩
    · cases hr
      exact absurd (Option.some.inj hv).symm (hbare fields)
  | list l =>
    cases hr
    exact absurd (Value.text.inj (Option.some.inj hk)) (by decide)
  | _ => cases hr

theorem mappingValue_eq_error_iff {existing : Option Mapping} : mappingValue existing raw = .error e ↔
    e = .notStyles ∧ (∃ s, existing = some (.flat s)) ∧ BareStyles raw := by
  constructor
  · intro h
    unfold mappingValue at h
    split at h
    · rename_i s fs hr
      split at h
      · rename_i hk
        obtain ⟨he, v, hv, hbare⟩ := flatStyles_eq_error_iff.mp h
        exact ⟨he, ⟨s, rfl⟩, bareStyles_of_normalize hr hk hv hbare⟩
      · cases h
    · cases h
  · rintro ⟨rfl, ⟨s, rfl⟩, fs, v, rfl, ht, hk, hv, hbare⟩
    have hr : Mapping.normalize (.object fs) = .object fs := if_pos ht
    rw [mappingValue_flat s hr hk]
    exact flatStyles_eq_error_iff.mpr ⟨rfl, v, hv, hbare⟩

theorem mergeMappings_eq_error_iff : mergeMappings c data ms = .error e ↔
    e = .notStyles ∧ ∃ d ∈ ms, BreaksMapping c d := by
  -- what was merged before plays no part in it, so that `data` may be any
  induction ms generalizing data with
  | nil => simp [mergeMappings]
  | cons d ms ih =>
    obtain ⟨k, raw⟩ := d
    rw [mergeMappings_cons, List.exists_mem_cons_iff]
    cases hv : mappingValue (mappingAt c k) raw with
    | error err =>
      obtain ⟨rfl, hbreaks⟩ := mappingValue_eq_error_iff.mp hv
      constructor
      · intro h
        cases h
        exact ⟨rfl, .inl hbreaks⟩
      · rintro ⟨rfl, -⟩
        rfl
    | ok v =>
      have hkeeps : ¬ BreaksMapping c (k, raw) := by
        intro h
        cases hv.symm.trans (mappingValue_eq_error_iff.mpr ⟨rfl, h⟩)
      rw [Except.bind, ih, or_iff_right hkeeps]

theorem breaksMerge_iff : BreaksMerge override ↔
    ∃ part ∈ mergedParts, fields? (rename override) part = .error .notFields := by
  simp only [BreaksMerge, fields?_eq_error_iff, true_and]

theorem Parts.not_breaksMerge {d : Option Value} {bs ps ms : Option Fields} (h : Parts override d bs ps ms) :
    ¬ BreaksMerge override := by
  simp [breaksMerge_iff, mergedParts, h.baseStyles, h.properties, h.mappings]

theorem parts_or_breaksMerge (c : Component) (override : Fields) :
    (∃ d bs ps ms, Parts override d bs ps ms) ∨
      BreaksMerge override ∧ mergeInto c override = .error .notFields := by
  refine (parts_or_error c override).imp_right ?_
  rintro ⟨part, hpart, e, he, hm⟩
  obtain ⟨rfl, hf⟩ := fields?_eq_error_iff.mp he
  exact ⟨⟨part, hpart, hf⟩, hm⟩

theorem breaksStyles_iff {d : Option Value} {bs ps ms : Option Fields} (h : Parts override d bs ps ms) :
    BreaksStyles c override ↔ ∃ d ∈ ms.getD [], BreaksMapping c d := by
  have hm := h.mappings
  rw [fields?] at hm
  rw [BreaksStyles]
  cases hv : Fields.getD (rename override) "mappings" with
  | object fs =>
    rw [hv] at hm
    cases fs with
    | nil =>
      obtain rfl : none = ms := Except.ok.inj hm
      simp
    | cons e fs =>
      obtain rfl : some (e :: fs) = ms := Except.ok.inj hm
      simp only [Value.object.injEq, exists_eq_left', Option.getD_some]
  | _ =>
    rw [hv] at hm
    split at hm
    · obtain rfl : none = ms := Except.ok.inj hm
      simp
    · cases hm

theorem mergeInto_eq_error_iff : mergeInto c override = .error e ↔
    e = .notFields ∧ BreaksMerge override ∨
      e = .notStyles ∧ ¬ BreaksMerge override ∧ BreaksStyles c override := by
  rcases parts_or_breaksMerge c override with ⟨d, bs, ps, ms, hparts⟩ | ⟨hbreaks, h⟩
  · rw [mergeInto_of_parts hparts, mergeMappings_eq_error_iff, breaksStyles_iff hparts]
    simp [hparts.not_breaksMerge]
  · rw [h]
    simp [hbreaks, eq_comm]

theorem exists_mergeInto_iff :
    (∃ data, mergeInto c override = .ok data) ↔ ¬ BreaksMerge override ∧ ¬ BreaksStyles c override := by
  cases hm : mergeInto c override with
  | error e =>
    rcases mergeInto_eq_error_iff.mp hm with ⟨-, hb⟩ | ⟨-, -, hs⟩
    · simp [hb]
    · simp [hs]
  | ok data =>
    have hb : ¬ BreaksMerge override := by
      intro hb
      cases hm.symm.trans (mergeInto_eq_error_iff.mpr (.inl ⟨rfl, hb⟩))
    have hs : ¬ BreaksStyles c override := by
      intro hs
      cases hm.symm.trans (mergeInto_eq_error_iff.mpr (.inr ⟨rfl, hb, hs⟩))
    simp [hb, hs]

end Override

namespace Component

open Override

variable {c : Component} {override data : Fields} {d p m b : Value}

/-- A component with some of its fields replaced is refused only for its name. -/
theorem decode_described_refused (hp : p.isNull = false) {why : Refusal}
    (h : decode (.object (described c d p m b)) = refused why) : c.name = "" ∧ why = .noName := by
  by_cases hn : c.name = ""
  · have hname : (Fields.getD (described c d p m b) "name").isNothing = true := by
      change c.name.isEmpty = true
      rw [hn]
      rfl
    have hr : refusal? (.object (described c d p m b)) = some .noName := if_pos hname
    rw [decode, hr] at h
    exact ⟨hn, (Decoded.refused.inj h).symm⟩
  · have hr : refusal? (.object (described c d p m b)) = none := refusal?_eq_none rfl hn hp
    rw [decode_of_refusal? hr] at h
    exact absurd h (detailed_readFields _ why)

/-- What is said of a component that cannot be read with a change laid over it: details under its name, or that it
has no name. -/
def Rejects (c : Component) (e : DefinitionError) : Prop :=
  (∃ ds, e = .badOverride c.name ds) ∨ c.name = "" ∧ e = .refused .noName

/-- What was merged is read as a component or rejected. -/
theorem read_of_mergeInto (h : mergeInto c override = .ok data) :
    (∃ c', c.withOverride override = .ok c') ∨ ∃ e, c.Rejects e ∧ c.withOverride override = .error (.bad e) := by
  obtain ⟨description, baseStyles, properties, mappings, hparts⟩ := exists_parts h
  obtain ⟨vs, -, rfl⟩ := (mergeInto_eq_ok_iff hparts).mp h
  rw [withOverride, h, Except.bind]
  cases hd : decode (.object (described c (description.getD (.ofOption .text c.description))
      (changed (.ofDict Property.toValue c.properties) properties)
      (.object (Pairs.setAll (Pairs.fields Mapping.toValue c.mappings.entries) vs))
      (changed (.ofOption StyleMap.toValue c.baseStyles) baseStyles))) with
  | ok c' => exact .inl ⟨c', rfl⟩
  | bad ds => exact .inr ⟨_, .inl ⟨ds, rfl⟩, rfl⟩
  | refused why =>
    obtain ⟨hn, rfl⟩ := decode_described_refused (isNull_changed _ _) hd
    exact .inr ⟨_, .inr ⟨hn, rfl⟩, rfl⟩

/-- What comes of a change that is laid over a component. It ends as it should, in a component or in an error that
says what is wrong with one, exactly if no part breaks the merge; a part without fields breaks it before the
styles of any mapping do. -/
theorem withOverride_outcome (c : Component) (override : Fields) :
    (c.withOverride override = .error .notFields ↔ BreaksMerge override) ∧
    (c.withOverride override = .error .notStyles ↔ ¬ BreaksMerge override ∧ BreaksStyles c override) ∧
    ((∃ c', c.withOverride override = .ok c') ∨
        (∃ e, c.Rejects e ∧ c.withOverride override = .error (.bad e)) ↔
      ¬ BreaksMerge override ∧ ¬ BreaksStyles c override) := by
  cases hm : mergeInto c override with
  | error e =>
    have hw : c.withOverride override = .error e := by
      rw [withOverride, hm]
      rfl
    rw [hw]
    rcases mergeInto_eq_error_iff.mp hm with ⟨rfl, hb⟩ | ⟨rfl, hb, hs⟩
    · simp [hb]
    · simp [hb, hs]
  | ok data =>
    obtain ⟨hb, hs⟩ := exists_mergeInto_iff.mp ⟨data, hm⟩
    rcases read_of_mergeInto hm with ⟨c', hw⟩ | ⟨e, he, hw⟩
    · simp [hw, hb, hs]
    · simp [hw, hb, hs, he]

/-- Bold in the place of an object. -/
def boldly (part : String) : Fields := [(.text part, .text "bold")]

/-- A flat mapping of a label with something bold for its styles. -/
def boldMapping : Fields := [(.text "mappings", .record [("tone=calm", .object (boldly "styles"))])]

/-- The same with the mapping tagged as flat. -/
def boldTagged : Fields :=
  [(.text "mappings", .record [("tone=calm", .object ((.text "kind", .text "flat") :: boldly "styles"))])]

theorem not_breaksMerge_of_mappings (ms : Fields) : ¬ BreaksMerge [(.text "mappings", .object ms)] := by
  rintro ⟨part, hpart, hgiven, hfields⟩
  simp only [mergedParts, List.mem_cons, List.not_mem_nil, or_false] at hpart
  rcases hpart with rfl | rfl | rfl
  · cases hgiven
  · cases hgiven
  · exact hfields ms rfl

/-- The same word ends a change in three ways: in the place of base styles, as the styles of a mapping that is
tagged, and as a style of one that is not. -/
theorem withOverride_outcome_label :
    label.withOverride (boldly "baseStyles") = .error .notFields ∧
    label.withOverride boldTagged = .error .notStyles ∧
    ((∃ c', label.withOverride boldMapping = .ok c') ∨
      ∃ e, label.Rejects e ∧ label.withOverride boldMapping = .error (.bad e)) := by
  have hbold (fs : Fields) : Value.text "bold" ≠ .object fs := by
    intro h
    cases h
  refine ⟨(withOverride_outcome label _).1.mpr ?_, (withOverride_outcome label _).2.1.mpr ⟨?_, ?_⟩,
    (withOverride_outcome label _).2.2.mpr ⟨?_, ?_⟩⟩
  · exact ⟨"base_styles", by simp [mergedParts], rfl, hbold⟩
  · exact not_breaksMerge_of_mappings _
  · exact ⟨_, rfl, _, List.mem_singleton_self _, ⟨_, rfl⟩, _, _, rfl, rfl, rfl, rfl, hbold⟩
  · exact not_breaksMerge_of_mappings _
  · rintro ⟨ms, hms, e, he, -, fs, v, hraw, htag, -⟩
    cases hms
    obtain rfl := List.mem_singleton.mp he
    cases hraw
    exact absurd htag (by decide)

/-- Base styles that are a word are no error of a description, so that no command can tell what is wrong. -/
theorem withOverride_unexplained : ¬ ∀ (c : Component) (override : Fields), c.name ≠ "" →
    (∃ c', c.withOverride override = .ok c') ∨ ∃ e, c.withOverride override = .error (.bad e) := by
  intro hall
  have hw : label.withOverride (boldly "baseStyles") = .error .notFields := rfl
  rcases hall label (boldly "baseStyles") (by decide) with ⟨c', h⟩ | ⟨e, h⟩
  · cases hw.symm.trans h
  · cases hw.symm.trans h

end Component

namespace DesignSystem

open Override

variable {components : Dict Component} {overrides : Fields}

theorem overrideComponents_of_merges
    (h : ∀ e ∈ overrides, ∀ c, ¬ BreaksMerge e.2.fieldsOf ∧ ¬ BreaksStyles c e.2.fieldsOf) :
    (∃ components', overrideComponents components overrides = .ok components') ∨
      ∃ e, overrideComponents components overrides = .error (.bad e) := by
  induction overrides generalizing components with
  | nil => exact .inl ⟨components, rfl⟩
  | cons e rest ih =>
    obtain ⟨k, v⟩ := e
    rw [List.forall_mem_cons] at h
    cases k with
    | text name =>
      rw [overrideComponents]
      cases components.get? name with
      | none => exact ih h.2
      | some c =>
        obtain ⟨data, hm⟩ := exists_mergeInto_iff.mpr (h.1 c)
        rcases Component.read_of_mergeInto hm with ⟨c', hw⟩ | ⟨e, -, hw⟩
        · dsimp only
          rw [hw]
          exact ih h.2
        · dsimp only
          rw [hw]
          exact .inr ⟨e, rfl⟩
    | _ => exact ih h.2

/-- A theme whose changes break no merge, whatever components they meet, can be laid over any system, or the error
of a description says why it cannot. -/
theorem withTheme_of_merges (s : DesignSystem) (t : FlatTheme)
    (h : ∀ e ∈ t.layer.overrides, ∀ c, ¬ BreaksMerge e.2.fieldsOf ∧ ¬ BreaksStyles c e.2.fieldsOf) :
    (∃ s', s.withTheme t = .ok s') ∨ ∃ e, s.withTheme t = .error (.bad e) := by
  rw [withTheme]
  rcases overrideComponents_of_merges h with ⟨components, hc⟩ | ⟨e, hc⟩
  · rw [hc]
    exact .inl ⟨_, rfl⟩
  · rw [hc]
    exact .inr ⟨e, rfl⟩

end DesignSystem

end Stylebook
