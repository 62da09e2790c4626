import Stylebook.Proofs.Theme.Idempotence

/-!
What laying a theme over a system leaves alone. A component that an override changes keeps its name and its
rules; of its properties, mappings and base styles it keeps all, in their places and with what is new after
them, and those that the override does not mention stay as they are.
-/

namespace Stylebook

open Decoded Decoding

namespace Pairs

variable {κ α : Type} [DecidableEq κ] {k : κ} {v : α} {base l : List (κ × α)}

theorem prefix_keys_set : keys l <+: keys (set k v l) := by
  rw [keys_set]
  split
  · exact List.prefix_refl _
  · exact List.prefix_append _ _

theorem prefix_keys_setAll : keys base <+: keys (setAll base l) := by
  induction l generalizing base with
  | nil => exact List.prefix_refl _
  | cons e l ih => exact prefix_keys_set.trans ih

theorem get?_setAll_of_not_mem (h : k ∉ keys l) : get? k (setAll base l) = get? k base := by
  induction l generalizing base with
  | nil => rfl
  | cons e l ih =>
    rw [keys_cons, List.mem_cons, not_or] at h
    exact (ih h.2).trans (get?_set_of_ne (Ne.symm h.1))

end Pairs

section Merge

variable {k : Key} {base fs : Fields}

theorem prefix_keys_deepMerge : Pairs.keys base <+: Pairs.keys (deepMerge base fs) := by
  induction fs generalizing base with
  | nil => simp
  | cons e fs ih =>
    obtain ⟨j, v⟩ := e
    by_cases hv : v = .null
    · subst hv
      rw [deepMerge]
      exact ih
    · rw [deepMerge_cons hv]
      exact Pairs.prefix_keys_set.trans ih

/-- New names stand after those that were there. -/
theorem exists_deepMerge_eq_append (base fs : Fields) :
    ∃ front back, deepMerge base fs = front ++ back ∧ Pairs.keys front = Pairs.keys base := by
  obtain ⟨rest, hrest⟩ : Pairs.keys base <+: Pairs.keys (deepMerge base fs) := prefix_keys_deepMerge
  obtain ⟨front, back, hsplit, hfront, -⟩ := List.map_eq_append_iff.mp hrest.symm
  exact ⟨front, back, hsplit, hfront⟩

/-- A name that is given nothing but null keeps what stands there. -/
theorem get?_deepMerge_of_null (h : ∀ v, (k, v) ∈ fs → v = .null) :
    Pairs.get? k (deepMerge base fs) = Pairs.get? k base := by
  induction fs generalizing base with
  | nil => rw [deepMerge_nil]
  | cons e fs ih =>
    obtain ⟨j, v⟩ := e
    have ih (base : Fields) : Pairs.get? k (deepMerge base fs) = Pairs.get? k base :=
      ih fun w hw => h w (List.mem_cons_of_mem _ hw)
    by_cases hv : v = .null
    · subst hv
      rw [deepMerge, ih]
    · have hj : j ≠ k := fun hj => hv (h v (hj ▸ List.mem_cons_self))
      rw [deepMerge_cons hv, ih, Pairs.get?_set_of_ne hj]

end Merge

/-- All names of `d` are there in `d'`, in their places and with new ones after them, and names that are not
`touched` stand for what they did. -/
structure Dict.KeepsBut {α : Type} (d d' : Dict α) (touched : String → Prop) : Prop where
  keys : d.keys <+: d'.keys
  rest : ∀ k, ¬ touched k → d'.get? k = d.get? k

namespace Dict.KeepsBut

variable {α : Type} {d d' d'' : Dict α} {touched more : String → Prop}

theorem refl (d : Dict α) (touched : String → Prop) : d.KeepsBut d touched :=
  ⟨List.prefix_refl _, fun _ _ => rfl⟩

theorem trans (h : d.KeepsBut d' touched) (h' : d'.KeepsBut d'' touched) : d.KeepsBut d'' touched :=
  ⟨h.keys.trans h'.keys, fun k hk => (h'.rest k hk).trans (h.rest k hk)⟩

theorem mono (h : d.KeepsBut d' touched) (hm : ∀ k, touched k → more k) : d.KeepsBut d' more :=
  ⟨h.keys, fun k hk => h.rest k fun ht => hk (hm k ht)⟩

end Dict.KeepsBut

section Reading

variable {α : Type} {f : Value → Decoded α} {g : α → Value} {fs : Fields} {d d' : Dict α}
  {touched : String → Prop}

theorem keys_of_dict (hn : (Pairs.keys fs).Nodup) (h : dict f (.object fs) = ok d) :
    Pairs.keys fs = d.keys.map Key.text :=
  keys_of_entries (entries_of_dict hn h)

/-- What a map has under a name is what the object has there, as read. -/
theorem get?_dict (hn : (Pairs.keys fs).Nodup) (h : dict f (.object fs) = ok d) (k : String) :
    (Pairs.get? (.text k) fs).map f = (d.get? k).map ok :=
  get?_entries (entries_of_dict hn h) k

/-- A map read from what another one was written as, with fields replaced and added. -/
theorem keepsBut_of_dict (hg : ∀ a, f (g a) = ok a) (hn : (Pairs.keys fs).Nodup)
    (h : dict f (.object fs) = ok d') (hkeys : Pairs.keys (Pairs.fields g d.entries) <+: Pairs.keys fs)
    (hrest : ∀ k, ¬ touched k →
      Pairs.get? (.text k) fs = Pairs.get? (.text k) (Pairs.fields g d.entries)) :
    d.KeepsBut d' touched where
  keys := by
    rw [keys_fields, keys_of_dict hn h] at hkeys
    obtain ⟨rest, hrest⟩ := hkeys
    obtain ⟨front, back, hd, hfront, -⟩ := List.map_eq_append_iff.mp hrest.symm
    obtain rfl := List.map_injective_iff.mpr (fun _ _ => Key.text.inj) hfront
    exact ⟨back, hd.symm⟩
  rest k hk := by
    have hread := get?_dict hn h k
    have hid : f ∘ g = ok := funext hg
    rw [hrest k hk, Pairs.get?_fields, Option.map_map, hid] at hread
    exact (Option.map_injective (fun _ _ => ok.inj) hread).symm

end Reading

namespace Override

/-- An override gives a value to an entry of a part, which may go by several names. -/
def Gives (override : Fields) (parts : List String) (k : String) (v : Value) : Prop :=
  ∃ part ∈ parts, ∃ fs, (.text part, .object fs) ∈ override ∧ (.text k, v) ∈ fs

variable {override fs : Fields} {parts : List String} {name k : String} {v : Value}

theorem eq_of_partName {key : Key} (h : partName key = .text name) :
    key = .text name ∨ key = .text "baseStyles" ∧ name = "base_styles" := by
  rw [partName] at h
  split at h
  · rename_i hk
    exact .inr ⟨hk, (Key.text.inj h).symm⟩
  · exact .inl h

theorem gives_of_fields? (h : fields? (rename override) name = .ok (some fs)) (hv : (.text k, v) ∈ fs)
    (hp : name ∈ parts) (hb : name = "base_styles" → "baseStyles" ∈ parts) :
    Gives override parts k v := by
  obtain ⟨⟨key, w⟩, hd, hkey, rfl⟩ := exists_of_fields? h
  rcases eq_of_partName hkey with rfl | ⟨rfl, rfl⟩
  · exact ⟨name, hp, fs, hd, hv⟩
  · exact ⟨"baseStyles", hb rfl, fs, hd, hv⟩

end Override

/-- What a component keeps under overrides. -/
structure Component.Frame (c c' : Component) (given : Fields → Prop) : Prop where
  name : c'.name = c.name
  description : (∀ o, given o → ∀ v, (.text "description", v) ∉ o) → c'.description = c.description
  constraints : c'.constraints = c.constraints
  properties : c.properties.KeepsBut c'.properties fun k =>
    ∃ o v, given o ∧ Override.Gives o ["properties"] k v ∧ v ≠ .null
  mappings : c.mappings.KeepsBut c'.mappings fun k =>
    ∃ o v, given o ∧ Override.Gives o ["mappings"] k v
  baseStyles : (c.baseStyles.getD ∅).KeepsBut (c'.baseStyles.getD ∅) fun k =>
    ∃ o v, given o ∧ Override.Gives o ["baseStyles", "base_styles"] k v ∧ v ≠ .null

namespace Component.Frame

variable {c c' c'' : Component} {given more : Fields → Prop}

theorem refl (c : Component) (given : Fields → Prop) : c.Frame c given :=
  ⟨rfl, fun _ => rfl, rfl, .refl _ _, .refl _ _, .refl _ _⟩

theorem trans (h : c.Frame c' given) (h' : c'.Frame c'' given) : c.Frame c'' given where
  name := h'.name.trans h.name
  description hd := (h'.description hd).trans (h.description hd)
  constraints := h'.constraints.trans h.constraints
  properties := h.properties.trans h'.properties
  mappings := h.mappings.trans h'.mappings
  baseStyles := h.baseStyles.trans h'.baseStyles

theorem mono (h : c.Frame c' given) (hm : ∀ o, given o → more o) : c.Frame c' more where
  name := h.name
  description hd := h.description fun o ho => hd o (hm o ho)
  constraints := h.constraints
  properties := h.properties.mono fun _ ⟨o, v, ho, hv⟩ => ⟨o, v, hm o ho, hv⟩
  mappings := h.mappings.mono fun _ ⟨o, v, ho, hv⟩ => ⟨o, v, hm o ho, hv⟩
  baseStyles := h.baseStyles.mono fun _ ⟨o, v, ho, hv⟩ => ⟨o, v, hm o ho, hv⟩

end Component.Frame

section Parts

open Override

variable {c c' : Component} {override : Fields} {α : Type} {f : Value → Decoded α} {g : α → Value}
  {d d' : Dict α} {fs : Option Fields} {touched : String → Prop}

/-- A map that is read after fields of an override were merged into it. -/
theorem keepsBut_of_changed (hg : ∀ a, f (g a) = ok a)
    (h : dict f (.object (deepMerge (Pairs.fields g d.entries) (fs.getD []))) = ok d')
    (ht : ∀ l ∈ fs, ∀ k v, (.text k, v) ∈ l → v ≠ .null → touched k) : d.KeepsBut d' touched := by
  refine keepsBut_of_dict hg (nodup_deepMerge (nodup_fields g d)) h prefix_keys_deepMerge fun k hk => ?_
  refine get?_deepMerge_of_null fun v hv => Classical.not_not.mp fun hne => hk ?_
  cases fs with
  | none => cases hv
  | some l => exact ht l rfl k v hv hne

theorem changed_object (base : Fields) (fs : Option Fields) :
    changed (.object base) fs = .object (deepMerge base (fs.getD [])) := by
  cases fs with
  | none => rw [changed, Option.getD_none, deepMerge_nil]
  | some l =>
    rw [changed, Value.laidOver]
    rfl

/-- Base styles as they are read after fields of an override were merged into them; with none before and
nothing to merge there are none. -/
theorem read_baseStyles {o o' : Option StyleMap}
    (h : nullable StyleMap.decode (changed (.ofOption StyleMap.toValue o) fs) = ok o') :
    dict StyleMap.readStyleValue (.object (deepMerge
      (Pairs.fields StyleValue.toValue (o.getD ∅).entries) (fs.getD []))) = ok (o'.getD ∅) := by
  cases o with
  | some m =>
    rw [Value.ofOption, StyleMap.toValue, Value.ofDict_eq, changed_object] at h
    obtain ⟨m', hm, rfl⟩ := map_eq_ok_iff.mp h
    exact hm
  | none =>
    cases fs with
    | none =>
      cases h
      rw [Option.getD_none, Option.getD_none, deepMerge_nil]
      rfl
    | some l =>
      rw [changed, Value.laidOver] at h
      obtain ⟨m', hm, rfl⟩ := map_eq_ok_iff.mp h
      exact hm

theorem description_eq_none {o : Option Value} (hd : ∀ v, (.text "description", v) ∉ override)
    (h : Fields.get? (rename override) "description" = o) : o = none := by
  cases o with
  | none => rfl
  | some v =>
    obtain ⟨⟨key, w⟩, hm, hkey, -⟩ := exists_of_mem_rename (Pairs.mem_of_get? h)
    rcases eq_of_partName hkey with rfl | ⟨-, he⟩
    · exact absurd hm (hd w)
    · exact absurd he (by decide)

/-- What one override leaves alone. -/
theorem Component.frame_withOverride (h : c.withOverride override = .ok c') :
    c.Frame c' (· = override) := by
  obtain ⟨data, hdata, hc⟩ := withOverride_eq_ok_iff.mp h
  obtain ⟨description, baseStyles, properties, mappings, hparts⟩ := exists_parts hdata
  obtain ⟨vs, hvs, rfl⟩ := (mergeInto_eq_ok_iff hparts).mp hdata
  obtain ⟨_, hfs, -, hreads⟩ := reads_of_decode hc
  cases hfs
  obtain ⟨hname, hdescription, hproperties, hconstraints, hmappings, hbase⟩ :=
    reads_described_iff.mp hreads
  refine ⟨hname, fun hd => ?_, hconstraints, ?_, ?_, ?_⟩
  · rw [description_eq_none (hd override rfl) hparts.description, Option.getD_none,
      nullable_text] at hdescription
    exact (ok.inj hdescription).symm
  · rw [Value.ofDict_eq, changed_object] at hproperties
    refine keepsBut_of_changed Property.decode_toValue hproperties fun l hl k v hv hne => ?_
    have hpart := hl ▸ hparts.properties
    exact ⟨override, v, rfl, gives_of_fields? hpart hv (by simp) (by simp), hne⟩
  · refine keepsBut_of_dict Mapping.read_toValue
      (Pairs.nodup_setAll (nodup_fields Mapping.toValue c.mappings)) hmappings Pairs.prefix_keys_setAll
      fun k hk => Pairs.get?_setAll_of_not_mem fun hm => hk ?_
    rw [keys_of_replaces hvs] at hm
    obtain ⟨⟨_, v⟩, hv, rfl⟩ := List.mem_map.mp hm
    cases mappings with
    | none => cases hv
    | some l => exact ⟨override, v, rfl, gives_of_fields? hparts.mappings hv (by simp) (by simp)⟩
  · refine keepsBut_of_changed StyleMap.readStyleValue_toValue (read_baseStyles hbase)
      fun l hl k v hv hne => ?_
    have hpart := hl ▸ hparts.baseStyles
    exact ⟨override, v, rfl, gives_of_fields? hpart hv (by simp) (by simp), hne⟩

end Parts

/-- A layer has this override for a component. -/
def Layer.HasOverride (l : Layer) (name : String) (override : Fields) : Prop :=
  ∃ v, (.text name, v) ∈ l.overrides ∧ v.fieldsOf = override

namespace DesignSystem

variable {components components' : Dict Component} {overrides : Fields}

theorem keys_overrideComponents (h : overrideComponents components overrides = .ok components') :
    components'.keys = components.keys := by
  induction overrides generalizing components with
  | nil =>
    cases h
    rfl
  | cons e overrides ih =>
    obtain ⟨k, v⟩ := e
    cases k with
    | text s =>
      rcases overrideComponents_cons_iff.mp h with ⟨-, h⟩ | ⟨c, c', hc, -, h⟩
      · exact ih h
      · rw [ih h, Dict.keys_insert, if_pos (Dict.mem_keys_of_get? hc)]
    | _ => exact ih h

/-- What a component is after all overrides, by what it is after the first one and what it is after the
others. -/
theorem frame_overrideComponents {name : String} {c : Component} (hc : components.get? name = some c)
    (h : overrideComponents components overrides = .ok components') :
    ∃ c', components'.get? name = some c' ∧
      c.Frame c' fun o => ∃ v, (Key.text name, v) ∈ overrides ∧ v.fieldsOf = o := by
  induction overrides generalizing components c with
  | nil =>
    cases h
    exact ⟨c, hc, .refl c _⟩
  | cons e overrides ih =>
    obtain ⟨k, v⟩ := e
    have hlater {c c' : Component}
        (hf : c.Frame c' fun o => ∃ v, (Key.text name, v) ∈ overrides ∧ v.fieldsOf = o) :
        c.Frame c' fun o => ∃ w, (Key.text name, w) ∈ (k, v) :: overrides ∧ w.fieldsOf = o :=
      hf.mono fun _ ⟨w, hw, ho⟩ => ⟨w, List.mem_cons_of_mem _ hw, ho⟩
    cases k with
    | text s =>
      rcases overrideComponents_cons_iff.mp h with ⟨-, h⟩ | ⟨b, b', hb, hw, h⟩
      · obtain ⟨c', hc', hf⟩ := ih hc h
        exact ⟨c', hc', hlater hf⟩
      · by_cases hs : s = name
        · subst hs
          obtain rfl : b = c := Option.some.inj (hb.symm.trans hc)
          obtain ⟨c', hc', hf⟩ := ih (Dict.get?_insert.trans (if_pos rfl)) h
          refine ⟨c', hc', .trans ?_ (hlater hf)⟩
          exact (Component.frame_withOverride hw).mono fun o ho => ⟨v, List.mem_cons_self, ho.symm⟩
        · obtain ⟨c', hc', hf⟩ := ih ((Dict.get?_insert.trans (if_neg hs)).trans hc) h
          exact ⟨c', hc', hlater hf⟩
    | _ =>
      obtain ⟨c', hc', hf⟩ := ih hc h
      exact ⟨c', hc', hlater hf⟩

/-- A theme changes a system's tokens, its prefix, and the components that it has overrides for. These keep
their names and rules, and all that the overrides do not mention. -/
theorem withTheme_frame {s s' : DesignSystem} {t : FlatTheme} (h : s.withTheme t = .ok s') :
    s'.name = s.name ∧ s'.version = s.version ∧
      s'.settings = { s.settings with cssPrefix := t.layer.pre } ∧
      s'.components.keys = s.components.keys ∧
      ∀ name c, s.components.get? name = some c → ∃ c', s'.components.get? name = some c' ∧
        (.text name ∉ Pairs.keys t.layer.overrides → c' = c) ∧ c.Frame c' (t.layer.HasOverride name) := by
  obtain ⟨hcomponents, hname, hversion, -, -, hsettings⟩ := withTheme_eq_ok_iff.mp h
  refine ⟨hname, hversion, hsettings, keys_overrideComponents hcomponents, fun name c hc => ?_⟩
  obtain ⟨c', hc', hframe⟩ := frame_overrideComponents hc hcomponents
  refine ⟨c', hc', fun hn => ?_, hframe⟩
  have hsame := get?_overrideComponents hn hcomponents
  rw [hc', hc] at hsame
  exact Option.some.inj hsame

/-- Laying `dusk` over the labels leaves the rules of the label alone, and the property that it does not
mention; the mapping that it mentions keeps its place. -/
theorem withTheme_frame_dusk : labels.withTheme dusk = .ok duskLabels ∧
    duskLabels.name = labels.name ∧ duskLabels.components.keys = ["Label"] ∧
    duskLabel.constraints = label.constraints ∧
    duskLabel.properties.get? "tone" = label.properties.get? "tone" ∧
    label.mappings.keys <+: duskLabel.mappings.keys := by
  have h : labels.withTheme dusk = .ok duskLabels := rfl
  obtain ⟨hname, -, -, hkeys, hcomponents⟩ := withTheme_frame h
  obtain ⟨c', hc', -, hframe⟩ := hcomponents "Label" label rfl
  obtain rfl : duskLabel = c' := Option.some.inj hc'
  refine ⟨h, hname, hkeys, hframe.constraints, hframe.properties.rest "tone" ?_, hframe.mappings.keys⟩
  rintro ⟨o, v, ⟨w, hw, rfl⟩, hgives, -⟩
  obtain ⟨-, rfl⟩ : Key.text "Label" = .text "Label" ∧ w = _ := by simpa [dusk] using hw
  simp [Override.Gives, Value.record, Value.fieldsOf] at hgives

end DesignSystem

end Stylebook
