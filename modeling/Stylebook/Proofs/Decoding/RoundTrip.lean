import Stylebook.DesignSystem
import Stylebook.Proofs.Decoding.Readback
import Stylebook.Usage

/-!
Components, systems and usages as raw data again. What was read once is read in the same way from the data
that it is written as.
-/

namespace Stylebook

open Decoded Decoding

theorem Literal.decode_toValue (l : Literal) : literal l.toValue = ok l := by
  cases l <;> rfl

theorem Scalar.decode_toValue (s : Scalar) : scalar s.toValue = ok s := by
  cases s <;> rfl

theorem bool_bool (b : Bool) : Decoding.bool (.bool b) = ok b := rfl

theorem nullable_bool (o : Option Bool) : nullable Decoding.bool (.ofOption .bool o) = ok o := by
  cases o <;> rfl

theorem nullable_number (o : Option Number) : nullable number (.ofOption .number o) = ok o := by
  cases o <;> rfl

theorem nullable_text (o : Option String) : nullable text (.ofOption .text o) = ok o := by
  cases o <;> rfl

/-- No bytes but none spell the empty text. -/
theorem eq_nil_of_decodeUtf8 {l : List UInt8} (h : Text.decodeUtf8 l = .ok "") : l = [] := by
  cases l with
  | nil => rfl
  | cons b rest =>
    rw [Text.decodeUtf8, Text.decodeFrom] at h
    split at h
    · cases h
    · split at h
      · cases h
      · rename_i ranges _ _ _ _
        cases hrest : Text.decodeFrom (0 + ranges.length + 1) ranges.length rest with
        | error e =>
          rw [hrest] at h
          cases h
        | ok cs =>
          rw [hrest] at h
          simp [Except.map] at h

/-- A text that is read where something is given is not empty. -/
theorem ne_of_text {v : Value} {s : String} (h : text v = ok s) (hv : v.isNothing = false) : s ≠ "" := by
  rintro rfl
  cases v with
  | text t =>
    cases h
    cases hv
  | bytes l =>
    cases hl : Text.decodeUtf8 l with
    | error e => simp [text, hl, fault] at h
    | ok t =>
      obtain rfl : t = "" := by simpa [text, hl] using h
      obtain rfl := eq_nil_of_decodeUtf8 hl
      cases hv
  | _ => cases h

theorem list_text (l : List String) : list text (.texts l) = ok l :=
  list_map fun _ _ => rfl

theorem list_scalar (l : List Scalar) : list scalar (.list (l.map Scalar.toValue)) = ok l :=
  list_map fun s _ => s.decode_toValue

namespace Property

theorem readValues_texts (vs : List String) : readValues (.texts vs) = ok vs := by
  have hw : Value.areWritable (vs.map .text) = true := by
    induction vs with
    | nil => rfl
    | cons v vs ih => exact ih
  have hp : (vs.map Value.text).map Value.plain = vs := by
    rw [List.map_map]
    exact List.map_id vs
  rw [Value.texts, readValues, if_pos hw, hp]

theorem nullable_plain (o : Option String) : nullable readPlain (.ofOption .text o) = ok o := by
  cases o <;> rfl

theorem decode_toValue (p : Property) : decode p.toValue = ok p := by
  obtain ⟨domain, required, description⟩ := p
  have hr := bool_bool required
  have ht := nullable_text description
  cases domain with
  | enum vs d =>
    exact under_ok (seq_ok (seq_ok (seq_ok (map_ok (optional_ok rfl (readValues_texts vs)))
      (optional_ok rfl hr)) (optional_ok rfl (nullable_plain d))) (optional_ok rfl ht))
  | boolean d =>
    exact under_ok (seq_ok (seq_ok (map_ok (optional_ok rfl hr))
      (optional_ok rfl (nullable_bool d))) (optional_ok rfl ht))
  | number d lo hi =>
    exact under_ok (seq_ok (seq_ok (seq_ok (seq_ok (map_ok (optional_ok rfl hr))
      (optional_ok rfl (nullable_number d))) (optional_ok rfl (nullable_number lo)))
      (optional_ok rfl (nullable_number hi))) (optional_ok rfl ht))
  | string d =>
    exact under_ok (seq_ok (seq_ok (map_ok (optional_ok rfl hr))
      (optional_ok rfl (nullable_text d))) (optional_ok rfl ht))

end Property

namespace Constraint

theorem readCondition_toValue (c : Condition) : readCondition c.toValue = ok c := by
  cases c with
  | equals s => cases s <;> rfl
  | oneOf l =>
    have hl : (Condition.oneOf <$> list scalar (.list (l.map Scalar.toValue))) = ok (.oneOf l) :=
      map_ok (list_scalar l)
    rw [Condition.toValue, readCondition, hl]
    rfl
  | compares op v =>
    have ho : member Operator.ofName? (.text op.name) = ok op := by
      rw [member, op.ofName?_name]
    have hc : record readComparison (Condition.compares op v).toValue = ok (.compares op v) :=
      seq_ok (map_ok (required_ok rfl ho)) (required_ok rfl rfl)
    rw [readCondition, hc]
    rfl

theorem decode_toValue (c : Constraint) : decode c.toValue = ok c := by
  obtain ⟨trigger, consequence, suggest, message⟩ := c
  have hw : dict readCondition (.ofDict Condition.toValue trigger) = ok trigger :=
    dict_ofDict fun e _ => readCondition_toValue e.2
  have hs : nullable (dict text) (.ofOption (.ofDict .text) suggest) = ok suggest :=
    nullable_ofOption (fun _ => dict_ofDict fun _ _ => rfl) (fun _ => nofun) suggest
  have hm := nullable_text message
  cases consequence with
  | forbid entries =>
    have hf : nullable (list text) (.texts entries) = ok (some entries) := map_ok (list_text entries)
    exact andThen_ok (seq_ok (seq_ok (seq_ok (seq_ok (map_ok (required_ok rfl hw)) (optional_ok rfl hf))
      (optional_ok rfl rfl)) (optional_ok rfl hs)) (optional_ok rfl hm)) rfl
  | require allowed =>
    have hr : nullable (dict (list scalar)) (.ofDict (fun l => .list (l.map Scalar.toValue)) allowed) =
        ok (some allowed) := map_ok (dict_ofDict fun e _ => list_scalar e.2)
    exact andThen_ok (seq_ok (seq_ok (seq_ok (seq_ok (map_ok (required_ok rfl hw)) (optional_ok rfl rfl))
      (optional_ok rfl hr)) (optional_ok rfl hs)) (optional_ok rfl hm)) rfl

end Constraint

theorem StyleMap.readStyleValue_toValue (v : StyleValue) : readStyleValue v.toValue = ok v := by
  cases v with
  | literal l => cases l <;> rfl
  | branches d =>
    have hd : dict literal (.ofDict Literal.toValue d) = ok d :=
      dict_ofDict fun e _ => e.2.decode_toValue
    rw [StyleValue.toValue, readStyleValue, hd]
    rfl

theorem StyleMap.decode_toValue (m : StyleMap) : decode m.toValue = ok m :=
  dict_ofDict fun e _ => readStyleValue_toValue e.2

namespace Mapping

theorem normalize_toValue (m : Mapping) : normalize m.toValue = m.toValue := by
  cases m <;> rfl

theorem normalizeAll_ofDict (d : Dict Mapping) :
    normalizeAll (.ofDict toValue d) = .ofDict toValue d := by
  rw [Value.ofDict_eq, normalizeAll, Pairs.fields, List.map_map]
  refine congrArg Value.object (List.map_congr_left fun e _ => ?_)
  rw [Function.comp_apply, normalize_toValue]

theorem readConditional_toValue (c : ConditionalStyles) : record readConditional c.toValue = ok c := by
  have hc : dict scalar (.ofDict Scalar.toValue c.condition) = ok c.condition :=
    dict_ofDict fun e _ => e.2.decode_toValue
  exact seq_ok (map_ok (optional_ok rfl hc)) (optional_ok rfl c.styles.decode_toValue)

theorem decode_toValue (m : Mapping) : decode m.toValue = ok m := by
  cases m with
  | flat styles => exact under_ok (map_ok (optional_ok rfl styles.decode_toValue))
  | conditional entries =>
    have he : list (record readConditional) (.list (entries.map ConditionalStyles.toValue)) = ok entries :=
      list_map fun c _ => readConditional_toValue c
    exact under_ok (map_ok (optional_ok rfl he))

end Mapping

namespace Component

theorem refusal?_eq_none {fs : Fields} {name : String} (hn : Fields.getD fs "name" = .text name)
    (h : name ≠ "") (hp : (Fields.getD fs "properties").isNull = false) :
    refusal? (.object fs) = none := by
  have hname : (Value.text name).isNothing = false := by
    rw [Value.isNothing, ← Bool.not_eq_true, String.isEmpty_iff]
    exact h
  rw [refusal?, hn, hname, hp]
  rfl

theorem decode_of_refusal? {v : Value} (h : refusal? v = none) : decode v = record readFields v := by
  rw [decode, h]

/-- Each field is read as what the component has. -/
structure Reads (fs : Fields) (c : Component) : Prop where
  name : required fs ["name"] text = ok c.name
  description : optional fs ["description"] none (nullable text) = ok c.description
  properties : required fs ["properties"] (dict Property.decode) = ok c.properties
  constraints : optional fs ["constraints"] [] (list Constraint.decode) = ok c.constraints
  mappings : optional fs ["mappings"] ∅ (fun v => dict Mapping.decode (Mapping.normalizeAll v)) =
    ok c.mappings
  baseStyles : optional fs ["baseStyles", "base_styles"] none (nullable StyleMap.decode) =
    ok c.baseStyles

theorem readFields_eq_ok_iff {fs : Fields} {c : Component} : readFields fs = ok c ↔ Reads fs c := by
  constructor
  · intro h
    obtain ⟨_, _, h₅, hb, rfl⟩ := seq_eq_ok_iff.mp h
    obtain ⟨_, _, h₄, hm, rfl⟩ := seq_eq_ok_iff.mp h₅
    obtain ⟨_, _, h₃, hr, rfl⟩ := seq_eq_ok_iff.mp h₄
    obtain ⟨_, _, h₂, hp, rfl⟩ := seq_eq_ok_iff.mp h₃
    obtain ⟨_, _, h₁, hd, rfl⟩ := seq_eq_ok_iff.mp h₂
    obtain ⟨_, hn, rfl⟩ := map_eq_ok_iff.mp h₁
    exact ⟨hn, hd, hp, hr, hm, hb⟩
  · rintro ⟨hn, hd, hp, hr, hm, hb⟩
    obtain ⟨name, description, properties, constraints, mappings, baseStyles⟩ := c
    exact seq_ok (seq_ok (seq_ok (seq_ok (seq_ok (map_ok hn) hd) hp) hr) hm) hb

/-- A component needs a name to be read again. -/
theorem decode_toValue {c : Component} (h : c.name ≠ "") : decode c.toValue = ok c := by
  have hp : dict Property.decode (.ofDict Property.toValue c.properties) = ok c.properties :=
    dict_ofDict fun e _ => e.2.decode_toValue
  have hc : list Constraint.decode (.list (c.constraints.map Constraint.toValue)) = ok c.constraints :=
    list_map fun c _ => c.decode_toValue
  have hm : dict Mapping.decode (Mapping.normalizeAll (.ofDict Mapping.toValue c.mappings)) =
      ok c.mappings := by
    rw [Mapping.normalizeAll_ofDict]
    exact dict_ofDict fun e _ => e.2.decode_toValue
  have hb : nullable StyleMap.decode (.ofOption StyleMap.toValue c.baseStyles) = ok c.baseStyles :=
    nullable_ofOption StyleMap.decode_toValue (fun _ => nofun) c.baseStyles
  have hr : refusal? c.toValue = none := refusal?_eq_none rfl h rfl
  rw [decode_of_refusal? hr]
  exact readFields_eq_ok_iff.mpr
    { name := required_ok rfl rfl
      description := optional_ok rfl (nullable_text c.description)
      properties := required_ok rfl hp
      constraints := optional_ok rfl hc
      mappings := optional_ok rfl hm
      baseStyles := optional_ok rfl hb }

/-- The fields of a component that was read, of which the name is not empty. -/
theorem reads_of_decode {v : Value} {c : Component} (h : decode v = ok c) :
    ∃ fs, v = .object fs ∧ refusal? v = none ∧ Reads fs c := by
  cases hr : refusal? v with
  | some r =>
    rw [decode, hr] at h
    cases r with
    | noName => cases h
    | noProperties name =>
      dsimp only at h
      split at h <;> cases h
  | none =>
    rw [decode_of_refusal? hr] at h
    cases v with
    | object fs => exact ⟨fs, rfl, rfl, readFields_eq_ok_iff.mp h⟩
    | _ => cases hr

/-- A name is read from the field for it, where something is given. -/
theorem name_ne_of_decode {v : Value} {c : Component} (h : decode v = ok c) : c.name ≠ "" := by
  obtain ⟨fs, rfl, hr, hc⟩ := reads_of_decode h
  have hread : text (Fields.getD fs "name") = ok c.name := by
    obtain ⟨n, w, hw, ht⟩ := exists_of_required hc.name
    cases hg : Fields.get? fs "name" with
    | none => simp [field?, hg] at hw
    | some u =>
      obtain ⟨-, rfl⟩ : "name" = n ∧ u = w := by simpa [field?, hg] using hw
      rwa [Fields.getD, hg]
  refine ne_of_text hread ?_
  cases hn : (Fields.getD fs "name").isNothing with
  | false => rfl
  | true =>
    rw [refusal?, hn] at hr
    cases hr

end Component

namespace Tokens

/-- Names that are texts stay as they are. -/
theorem textNames_fields {α : Type} (g : α → Value) (d : Dict α) :
    textNames (Pairs.fields g d.entries) = Pairs.fields g d.entries := by
  have hfold (base l : List (String × α)) :
      (Pairs.fields g l).foldl (fun done e => Pairs.set (.text e.1.shown) e.2 done)
        (Pairs.fields g base) = Pairs.fields g (Pairs.setAll base l) := by
    induction l generalizing base with
    | nil => rfl
    | cons e l ih =>
      have hs : Pairs.set (.text (Key.text e.1).shown) (g e.2) (Pairs.fields g base) =
          Pairs.fields g (Pairs.set e.1 e.2 base) := Pairs.set_fields g e.1 e.2 base
      rw [Pairs.fields_cons, List.foldl_cons, hs, ih]
      rfl
  have he : Pairs.setAll [] d.entries = d.entries := congrArg Dict.entries d.ofList_entries
  have h := hfold [] d.entries
  rwa [he] at h

theorem normalize_toValue (tokens : Tokens) : normalize tokens.toValue = tokens.toValue := by
  rw [toValue, Value.ofDict_eq, normalize]
  refine congrArg Value.object (Eq.trans (congrArg textNames ?_) (textNames_fields _ tokens))
  rw [Pairs.fields, List.map_map]
  refine List.map_congr_left fun e _ => ?_
  rw [Function.comp_apply, Value.ofDict_eq]
  exact congrArg (fun ts => (Key.text e.1, Value.object ts)) (textNames_fields Literal.toValue e.2)

theorem namesWritable_toValue (tokens : Tokens) : namesWritable tokens.toValue = true := by
  rw [namesWritable, toValue, Value.ofDict_eq, Value.fieldsOf, Pairs.fields, List.all_map,
    List.all_eq_true]
  intro e _
  rw [Function.comp_apply, Value.ofDict_eq, Value.fieldsOf, Pairs.fields, List.all_map, Bool.and_eq_true,
    List.all_eq_true]
  exact ⟨rfl, fun _ _ => rfl⟩

theorem decode_toValue (tokens : Tokens) : decode tokens.toValue = ok tokens := by
  rw [decode, if_pos tokens.namesWritable_toValue, normalize_toValue]
  exact dict_ofDict fun e _ => dict_ofDict fun t _ => t.2.decode_toValue

end Tokens

theorem DarkMode.decode_toValue (m : DarkMode) : decode m.toValue = ok m := by
  cases m <;> rfl

theorem Settings.decode_toValue (s : Settings) : decode s.toValue = ok s := by
  obtain ⟨pre, emits, strict, mode⟩ := s
  exact seq_ok (seq_ok (seq_ok (map_ok (optional_ok rfl rfl)) (optional_ok rfl rfl)) (optional_ok rfl rfl))
    (optional_ok rfl mode.decode_toValue)

namespace DesignSystem

theorem nameComponents_ofDict (d : Dict Component) :
    nameComponents (.ofDict Component.toValue d) = .ofDict Component.toValue d := by
  rw [Value.ofDict_eq, nameComponents, Pairs.fields, List.map_map]
  exact congrArg Value.object (List.map_congr_left fun e _ => rfl)

theorem decode_toValue {s : DesignSystem} (h : ∀ e ∈ s.components.entries, e.2.name ≠ "") :
    decode s.toValue = ok s := by
  obtain ⟨name, version, tokens, darkTokens, components, settings⟩ := s
  have hv : readVersion (.ofOption .text version) = ok version := by cases version <;> rfl
  have hd : nullable Tokens.decode (.ofOption Tokens.toValue darkTokens) = ok darkTokens :=
    nullable_ofOption Tokens.decode_toValue (fun _ => nofun) darkTokens
  have hc : dict Component.decode (nameComponents (.ofDict Component.toValue components)) =
      ok components := by
    rw [nameComponents_ofDict]
    exact dict_ofDict fun e he => Component.decode_toValue (h e he)
  exact seq_ok (seq_ok (seq_ok (seq_ok (seq_ok (map_ok (required_ok rfl rfl)) (optional_ok rfl hv))
    (optional_ok rfl tokens.decode_toValue)) (optional_ok rfl hd)) (optional_ok rfl hc))
    (optional_ok rfl settings.decode_toValue)

end DesignSystem

namespace PropValue

theorem normalize_toValue (p : PropValue) : normalize p.toValue = p.toValue := by
  cases p <;> rfl

theorem decode_toValue (p : PropValue) : decode p.toValue = ok p := by
  cases p with
  | literal v => rfl
  | dynamic p => rfl
  | nested fields =>
    have hf : dict ok (.ofDict id fields) = ok fields := dict_ofDict fun _ _ => rfl
    exact under_ok (map_ok (optional_ok rfl hf))

end PropValue

theorem Props.decode_ofDict (props : Props) : decode (.ofDict PropValue.toValue props) = ok props := by
  have hn : PropValue.normalizeAll (.ofDict PropValue.toValue props) =
      .ofDict PropValue.toValue props := by
    rw [Value.ofDict_eq, PropValue.normalizeAll, Pairs.fields, List.map_map]
    refine congrArg Value.object (List.map_congr_left fun e _ => ?_)
    rw [Function.comp_apply, PropValue.normalize_toValue]
  rw [decode, hn]
  exact dict_ofDict fun e _ => e.2.decode_toValue

theorem Usage.readLocation_toValue (l : Location) : record readLocation l.toValue = ok l := by
  obtain ⟨file, line, column⟩ := l
  exact seq_ok (seq_ok (map_ok (required_ok rfl rfl)) (optional_ok rfl rfl)) (optional_ok rfl rfl)

theorem Usage.decode_toValue (u : Usage) : decode u.toValue = ok u := by
  obtain ⟨component, props, location⟩ := u
  have hl : nullable (record readLocation) (.ofOption Location.toValue location) = ok location :=
    nullable_ofOption readLocation_toValue (fun _ => nofun) location
  exact seq_ok (seq_ok (map_ok (required_ok rfl rfl)) (optional_ok rfl (Props.decode_ofDict props)))
    (optional_ok rfl hl)

theorem DesignSystem.names_ne_of_decode {v : Value} {s : DesignSystem} (h : decode v = ok s) :
    ∀ e ∈ s.components.entries, e.2.name ≠ "" := by
  cases v with
  | object fs =>
    rw [decode, record] at h
    obtain ⟨_, _, h₅, -, rfl⟩ := seq_eq_ok_iff.mp h
    obtain ⟨_, components, h₄, hc, rfl⟩ := seq_eq_ok_iff.mp h₅
    obtain ⟨_, _, h₃, -, rfl⟩ := seq_eq_ok_iff.mp h₄
    obtain ⟨_, _, h₂, -, rfl⟩ := seq_eq_ok_iff.mp h₃
    obtain ⟨_, _, h₁, -, rfl⟩ := seq_eq_ok_iff.mp h₂
    obtain ⟨_, -, rfl⟩ := map_eq_ok_iff.mp h₁
    change ∀ e ∈ components.entries, e.2.name ≠ ""
    rcases exists_of_optional hc with ⟨-, rfl⟩ | ⟨n, w, -, hd⟩
    · exact fun e he => nomatch he
    · intro e he
      obtain ⟨u, hu⟩ := exists_of_dict hd e he
      exact Component.name_ne_of_decode hu
  | _ => cases h

/-- A component, a system or a usage that was read from any data is read as the same again from the data
that it is written as. -/
theorem decode_again :
    (∀ v c, Component.decode v = ok c → Component.decode c.toValue = ok c) ∧
    (∀ v s, DesignSystem.decode v = ok s → DesignSystem.decode s.toValue = ok s) ∧
    ∀ v u, Usage.decode v = ok u → Usage.decode u.toValue = ok u :=
  ⟨fun _ _ h => Component.decode_toValue (Component.name_ne_of_decode h),
    fun _ _ h => DesignSystem.decode_toValue (DesignSystem.names_ne_of_decode h),
    fun _ u _ => u.decode_toValue⟩

/-- A label whose tone is calm unless its size is 2, as authors write it. -/
def labelFields : List (String × Value) :=
  [("properties", .record [
      ("tone", .record [("type", .text "enum"), ("values", .list [.text "calm", .bool true])]),
      ("size", .record [("type", .text "number"), ("max", .text "3")])]),
    ("constraints", .list [.record [
      ("when", .record [("tone", .record [("op", .text "neq"), ("value", .null)]), ("size", .int 2)]),
      ("forbid", .texts ["tone=calm"])]]),
    ("mappings", .record [
      ("tone=calm", .record [("color", .record [("md", .text "gray")])]),
      ("tone=true", .list [.record [("condition", .record [("size", .int 2)])]])])]

def labelData : Value := .record (("name", .text "Label") :: labelFields)

def label : Component where
  name := "Label"
  description := none
  properties := .ofList [
    ("tone", ⟨.enum ["calm", "true"] none, false, none⟩),
    ("size", ⟨.number none none (some (.int 3)), false, none⟩)]
  constraints := [{
    trigger := .ofList [("tone", .compares .different .null), ("size", .equals (.number (.int 2)))]
    consequence := .forbid ["tone=calm"]
    suggest := none
    message := none }]
  mappings := .ofList [
    ("tone=calm", .flat (.ofList [("color", .branches (.ofList [("md", .text "gray")]))])),
    ("tone=true", .conditional [⟨.ofList [("size", .number (.int 2))], ∅⟩])]
  baseStyles := none

def labels : DesignSystem where
  name := "Labels"
  version := none
  tokens := ∅
  darkTokens := none
  components := .ofList [("Label", label)]
  settings := { Settings.default with darkMode := .off }

/-- The component takes its name from the place where it stands. -/
def labelsData : Value :=
  .record [
    ("name", .text "Labels"),
    ("components", .record [("Label", .record labelFields)]),
    ("settings", .record [("darkMode", .int 0)])]

def labelUse : Usage where
  component := "Label"
  props := .ofList [
    ("tone", .literal (.list [.null])), ("size", .dynamic "n"), ("more", .nested (.ofList [("a", .null)]))]
  location := none

def labelUseData : Value :=
  .record [
    ("component", .text "Label"),
    ("props", .record [
      ("tone", .list [.null]),
      ("size", .record [("__dynamic", .text "n")]),
      ("more", .record [("a", .null)])])]

theorem decode_again_label :
    Component.decode labelData = ok label ∧ Component.decode label.toValue = ok label ∧
    DesignSystem.decode labelsData = ok labels ∧ DesignSystem.decode labels.toValue = ok labels ∧
    Usage.decode labelUseData = ok labelUse ∧ Usage.decode labelUse.toValue = ok labelUse := by
  obtain ⟨hcomponent, hsystem, husage⟩ := decode_again
  exact ⟨rfl, hcomponent labelData label rfl, rfl, hsystem labelsData labels rfl,
    rfl, husage labelUseData labelUse rfl⟩

end Stylebook
