import Mathlib.Algebra.GroupWithZero.Nat
import Mathlib.Data.List.Dedup
import Stylebook.Manifest.Basic
import Stylebook.Proofs.Stylesheet.CustomProperty

/-!
The descriptions of a manifest. Tokens, components, properties and values share one map; as long as no name
that has another one behind it in a key holds a colon, each of them has one entry there, and nothing else has
one.
-/

namespace Stylebook

open Text

/-- What is described in a manifest. -/
inductive Subject where
  | token (category name : String)
  | component (key : String)
  | property (component name : String)
  | value (component property text : String)
  deriving DecidableEq

namespace Subject

/-- The key of the description. -/
def key : Subject → String
  | token category name => "token:" ++ category ++ ":" ++ name
  | component k => "component:" ++ k
  | property k name => "prop:" ++ k ++ ":" ++ name
  | value k name text => "value:" ++ k ++ ":" ++ name ++ ":" ++ text

/-- Is there no colon in front of the last name of the key but those that stand between names? -/
def IsReadable : Subject → Prop
  | token category _ => ':' ∉ category.toList
  | component _ => True
  | property k _ => ':' ∉ k.toList
  | value k name _ => ':' ∉ k.toList ∧ ':' ∉ name.toList

/-- The kind of a subject, as keys begin. -/
def tag : Subject → String
  | token .. => "token"
  | component _ => "component"
  | property .. => "prop"
  | value .. => "value"

/-- What stands behind the kind in a key. -/
def names : Subject → String
  | token category name => category ++ ":" ++ name
  | component k => k
  | property k name => k ++ ":" ++ name
  | value k name text => k ++ ":" ++ (name ++ ":" ++ text)

theorem key_eq (x : Subject) : x.key = x.tag ++ ":" ++ x.names := by
  apply String.toList_inj.mp
  cases x <;> simp [key, tag, names]

theorem colon_notMem_tag (x : Subject) : ':' ∉ x.tag.toList := by cases x <;> simp [tag]

end Subject

/-- A text is cut in one way only at its first colon. -/
theorem eq_of_colon {s s' t t' : String} (hs : ':' ∉ s.toList) (hs' : ':' ∉ s'.toList)
    (h : s ++ ":" ++ t = s' ++ ":" ++ t') : s = s' ∧ t = t' := by
  have hlist : s.toList ++ ':' :: t.toList = s'.toList ++ ':' :: t'.toList := by
    simpa using congrArg String.toList h
  have hcut := congrArg (cutFirst ':') hlist
  rw [cutFirst_append hs, cutFirst_append hs', Prod.mk.injEq, Option.some.injEq] at hcut
  exact ⟨String.toList_inj.mp hcut.1, String.toList_inj.mp hcut.2⟩

namespace Subject

theorem eq_of_key {x y : Subject} (hx : x.IsReadable) (hy : y.IsReadable) (h : x.key = y.key) : x = y := by
  rw [key_eq, key_eq] at h
  obtain ⟨htag, hnames⟩ := eq_of_colon x.colon_notMem_tag y.colon_notMem_tag h
  cases x with
  | token category name =>
    cases y with
    | token category' name' =>
      obtain ⟨rfl, rfl⟩ := eq_of_colon hx hy hnames
      rfl
    | _ => simp [tag] at htag
  | component k =>
    cases y with
    | component k' => exact congrArg component hnames
    | _ => simp [tag] at htag
  | property k name =>
    cases y with
    | property k' name' =>
      obtain ⟨rfl, rfl⟩ := eq_of_colon hx hy hnames
      rfl
    | _ => simp [tag] at htag
  | value k name text =>
    cases y with
    | value k' name' text' =>
      obtain ⟨rfl, hrest⟩ := eq_of_colon hx.1 hy.1 hnames
      obtain ⟨rfl, rfl⟩ := eq_of_colon hx.2 hy.2 hrest
      rfl
    | _ => simp [tag] at htag

end Subject

namespace DesignSystem

variable {s : DesignSystem} {x y : Subject} {k text text' : String}

/-- What a system has to describe, each with its text. -/
inductive Explains (s : DesignSystem) : Subject → String → Prop
  | token {category name : String} {v : Literal} (h : s.token? category name = some v) :
    Explains s (.token category name) (category ++ " token with value " ++ v.shown)
  | component {k : String} {c : Component} (h : s.components.get? k = some c) :
    Explains s (.component k) (c.summary k)
  | property {k name : String} {c : Component} {p : Property} (hc : s.components.get? k = some c)
    (hp : c.properties.get? name = some p) :
    Explains s (.property k name) ((Glossary.property? k name).getD (name ++ " property"))
  | value {k name v : String} {c : Component} {p : Property} (hc : s.components.get? k = some c)
    (hp : c.properties.get? name = some p) (hv : v ∈ p.values?.getD []) :
    Explains s (.value k name v)
      ((Pairs.get? v ((Glossary.values? k name).getD [])).getD (v ++ " option"))

theorem Explains.text_eq (h : s.Explains x text) (h' : s.Explains x text') : text = text' := by
  cases h with
  | token h =>
    cases h' with
    | token h' => rw [Option.some.inj (h.symm.trans h')]
  | component h =>
    cases h' with
    | component h' => rw [Option.some.inj (h.symm.trans h')]
  | property =>
    cases h'
    rfl
  | value =>
    cases h'
    rfl

/-- No name that another one follows in a key holds a colon. -/
structure ColonFree (s : DesignSystem) : Prop where
  categories : ∀ category ∈ s.tokens.keys, ':' ∉ category.toList
  components : ∀ k ∈ s.components.keys, ':' ∉ k.toList
  properties : ∀ c ∈ s.components.values, ∀ name ∈ c.properties.keys, ':' ∉ name.toList

theorem Explains.isReadable (h : s.Explains x text) (hs : s.ColonFree) : x.IsReadable := by
  have hkey {k : String} {c : Component} (hc : s.components.get? k = some c) : ':' ∉ k.toList :=
    hs.components k (Dict.mem_keys_of_get? hc)
  cases h with
  | token h =>
    obtain ⟨c, hc, -⟩ := Option.bind_eq_some_iff.mp h
    exact hs.categories _ (Dict.mem_keys_of_get? hc)
  | component => trivial
  | property hc hp => exact hkey hc
  | value hc hp hv =>
    exact ⟨hkey hc, hs.properties _ (Dict.mem_values_of_get? hc) _ (Dict.mem_keys_of_get? hp)⟩

/-- The keys and texts that are written, one after the other, into the map. -/
def written (s : DesignSystem) : List (String × String) :=
  s.tokens.descriptions ++ s.components.entries.flatMap fun e => e.2.descriptions e.1

theorem exists_explains_of_mem (h : (k, text) ∈ s.written) : ∃ x, x.key = k ∧ s.Explains x text := by
  rcases List.mem_append.mp h with h | h
  · obtain ⟨⟨c, n, v⟩, ht, heq⟩ := List.mem_map.mp h
    cases heq
    exact ⟨.token c n, rfl, .token (Tokens.mem_all_iff.mp ht)⟩
  · obtain ⟨⟨name, c⟩, he, h⟩ := List.mem_flatMap.mp h
    have hc : s.components.get? name = some c := Dict.get?_eq_some_iff.mpr he
    rcases List.mem_cons.mp h with h | h
    · cases h
      exact ⟨.component name, rfl, .component hc⟩
    · obtain ⟨⟨property, p⟩, hp, h⟩ := List.mem_flatMap.mp h
      have hp : c.properties.get? property = some p := Dict.get?_eq_some_iff.mpr hp
      rcases List.mem_cons.mp h with h | h
      · cases h
        exact ⟨.property name property, rfl, .property hc hp⟩
      · obtain ⟨v, hv, heq⟩ := List.mem_map.mp h
        cases heq
        exact ⟨.value name property v, rfl, .value hc hp hv⟩

theorem Explains.mem (h : s.Explains x text) : (x.key, text) ∈ s.written := by
  have hcomponent {k : String} {c : Component} (hc : s.components.get? k = some c) {e : String × String}
      (he : e ∈ c.descriptions k) : e ∈ s.written :=
    List.mem_append_right _ (List.mem_flatMap.mpr ⟨_, Dict.get?_eq_some_iff.mp hc, he⟩)
  have hproperty {k name : String} {c : Component} {p : Property} (hp : c.properties.get? name = some p)
      {e : String × String} (he : e ∈ Component.propertyDescriptions k name p) : e ∈ c.descriptions k :=
    List.mem_cons_of_mem _ (List.mem_flatMap.mpr ⟨_, Dict.get?_eq_some_iff.mp hp, he⟩)
  cases h with
  | token h => exact List.mem_append_left _ (List.mem_map.mpr ⟨_, Tokens.mem_all_iff.mpr h, rfl⟩)
  | component h => exact hcomponent h List.mem_cons_self
  | property hc hp => exact hcomponent hc (hproperty hp List.mem_cons_self)
  | value hc hp hv =>
    exact hcomponent hc (hproperty hp (List.mem_cons_of_mem _ (List.mem_map.mpr ⟨_, hv, rfl⟩)))

/-- A key is of one subject only. -/
theorem Explains.eq_of_key (hs : s.ColonFree) (hx : s.Explains x text) (hy : s.Explains y text')
    (h : x.key = y.key) : x = y :=
  Subject.eq_of_key (hx.isReadable hs) (hy.isReadable hs) h

theorem Explains.get?_descriptions (hs : s.ColonFree) (h : s.Explains x text) :
    s.descriptions.get? x.key = some text := by
  refine Pairs.get?_setAll_of_forall (fun t ht => ?_) (.inl h.mem)
  obtain ⟨y, hkey, hy⟩ := exists_explains_of_mem ht
  obtain rfl := hy.eq_of_key hs h hkey
  exact hy.text_eq h

theorem exists_of_mem_keys (h : k ∈ s.descriptions.keys) : ∃ x text, x.key = k ∧ s.Explains x text := by
  obtain ⟨⟨k, text⟩, he, rfl⟩ := List.mem_map.mp h
  rcases Pairs.mem_setAll he with he | he
  · cases he
  · obtain ⟨x, hkey, hx⟩ := exists_explains_of_mem he
    exact ⟨x, text, hkey, hx⟩

def tokenSubjects (s : DesignSystem) : List Subject := s.tokens.all.map fun t => .token t.1 t.2.1

def componentSubjects (s : DesignSystem) : List Subject := s.components.keys.map .component

def propertySubjects (s : DesignSystem) : List Subject :=
  s.components.entries.flatMap fun e => e.2.properties.keys.map (.property e.1)

def valueSubjects (s : DesignSystem) : List Subject :=
  s.components.entries.flatMap fun e => e.2.properties.entries.flatMap fun p =>
    (p.2.values?.getD []).dedup.map (.value e.1 p.1)

/-- All that a system has to describe. -/
def subjects (s : DesignSystem) : List Subject :=
  s.tokenSubjects ++ (s.componentSubjects ++ (s.propertySubjects ++ s.valueSubjects))

theorem mem_subjects_iff : x ∈ s.subjects ↔ ∃ text, s.Explains x text := by
  constructor
  · intro h
    simp only [subjects, List.mem_append] at h
    rcases h with h | h | h | h
    · obtain ⟨⟨c, n, v⟩, ht, rfl⟩ := List.mem_map.mp h
      exact ⟨_, .token (Tokens.mem_all_iff.mp ht)⟩
    · obtain ⟨k, hk, rfl⟩ := List.mem_map.mp h
      obtain ⟨c, hc⟩ := Option.isSome_iff_exists.mp (Dict.contains_iff.mpr hk)
      exact ⟨_, .component hc⟩
    · obtain ⟨e, he, h⟩ := List.mem_flatMap.mp h
      obtain ⟨name, hname, rfl⟩ := List.mem_map.mp h
      obtain ⟨p, hp⟩ := Option.isSome_iff_exists.mp (Dict.contains_iff.mpr hname)
      exact ⟨_, .property (Dict.get?_eq_some_iff.mpr he) hp⟩
    · obtain ⟨e, he, h⟩ := List.mem_flatMap.mp h
      obtain ⟨p, hp, h⟩ := List.mem_flatMap.mp h
      obtain ⟨v, hv, rfl⟩ := List.mem_map.mp h
      exact ⟨_, .value (Dict.get?_eq_some_iff.mpr he) (Dict.get?_eq_some_iff.mpr hp) (List.mem_dedup.mp hv)⟩
  · rintro ⟨text, h⟩
    simp only [subjects, List.mem_append]
    cases h with
    | token h => exact .inl (List.mem_map.mpr ⟨_, Tokens.mem_all_iff.mpr h, rfl⟩)
    | component h => exact .inr (.inl (List.mem_map.mpr ⟨_, Dict.mem_keys_of_get? h, rfl⟩))
    | property hc hp =>
      refine .inr (.inr (.inl (List.mem_flatMap.mpr ⟨_, Dict.get?_eq_some_iff.mp hc, ?_⟩)))
      exact List.mem_map.mpr ⟨_, Dict.mem_keys_of_get? hp, rfl⟩
    | value hc hp hv =>
      refine .inr (.inr (.inr (List.mem_flatMap.mpr ⟨_, Dict.get?_eq_some_iff.mp hc, ?_⟩)))
      refine List.mem_flatMap.mpr ⟨_, Dict.get?_eq_some_iff.mp hp, ?_⟩
      exact List.mem_map.mpr ⟨_, List.mem_dedup.mpr hv, rfl⟩

theorem nodup_tokenSubjects (s : DesignSystem) : s.tokenSubjects.Nodup := by
  refine (List.nodup_map_iff_inj_on s.tokens.nodup_all).mpr ?_
  rintro ⟨c, n, v⟩ ht ⟨c', n', v'⟩ ht' heq
  obtain ⟨rfl, rfl⟩ := Subject.token.inj heq
  have hv := (Tokens.mem_all_iff.mp ht).symm.trans (Tokens.mem_all_iff.mp ht')
  rw [Option.some.inj hv]

theorem nodup_propertySubjects (s : DesignSystem) : s.propertySubjects.Nodup := by
  refine Dict.nodup_flatMap (fun e _ => e.2.properties.nodup.map fun _ _ h => (Subject.property.inj h).2) ?_
  intro d e x hd he
  obtain ⟨_, _, rfl⟩ := List.mem_map.mp hd
  obtain ⟨_, _, heq⟩ := List.mem_map.mp he
  exact (Subject.property.inj heq).1.symm

theorem nodup_valueSubjects (s : DesignSystem) : s.valueSubjects.Nodup := by
  refine Dict.nodup_flatMap (fun e _ => Dict.nodup_flatMap (fun p _ => ?_) ?_) ?_
  · exact (List.nodup_dedup _).map fun _ _ h => (Subject.value.inj h).2.2
  · intro p q x hp hq
    obtain ⟨_, _, rfl⟩ := List.mem_map.mp hp
    obtain ⟨_, _, heq⟩ := List.mem_map.mp hq
    exact (Subject.value.inj heq).2.1.symm
  · intro d e x hd he
    obtain ⟨_, _, hd⟩ := List.mem_flatMap.mp hd
    obtain ⟨_, _, he⟩ := List.mem_flatMap.mp he
    obtain ⟨_, _, rfl⟩ := List.mem_map.mp hd
    obtain ⟨_, _, heq⟩ := List.mem_map.mp he
    exact (Subject.value.inj heq).1.symm

theorem nodup_subjects (s : DesignSystem) : s.subjects.Nodup := by
  have hcomponents : s.componentSubjects.Nodup := s.components.nodup.map fun _ _ => Subject.component.inj
  have htoken : ∀ x ∈ s.tokenSubjects, x.tag = "token" := List.forall_mem_map.mpr fun _ _ => rfl
  have hcomponent : ∀ x ∈ s.componentSubjects, x.tag = "component" := List.forall_mem_map.mpr fun _ _ => rfl
  have hproperty : ∀ x ∈ s.propertySubjects, x.tag = "prop" := by
    intro x hx
    obtain ⟨_, _, hx⟩ := List.mem_flatMap.mp hx
    obtain ⟨_, _, rfl⟩ := List.mem_map.mp hx
    rfl
  have hvalue : ∀ x ∈ s.valueSubjects, x.tag = "value" := by
    intro x hx
    obtain ⟨_, _, hx⟩ := List.mem_flatMap.mp hx
    obtain ⟨_, _, hx⟩ := List.mem_flatMap.mp hx
    obtain ⟨_, _, rfl⟩ := List.mem_map.mp hx
    rfl
  have hne {l : List Subject} {t u : String} (h : ∀ x ∈ l, x.tag = t) (htu : t ≠ u) :
      ∀ x ∈ l, x.tag ≠ u := fun x hx => (h x hx).trans_ne htu
  have hdisjoint {l m : List Subject} {t : String} (hl : ∀ x ∈ l, x.tag = t) (hm : ∀ x ∈ m, x.tag ≠ t) :
      l.Disjoint m := fun x hx hxm => hm x hxm (hl x hx)
  refine s.nodup_tokenSubjects.append (hcomponents.append (s.nodup_propertySubjects.append
    s.nodup_valueSubjects ?_) ?_) ?_
  · exact hdisjoint hproperty (hne hvalue (by decide))
  · exact hdisjoint hcomponent (List.forall_mem_append.mpr ⟨hne hproperty (by decide), hne hvalue (by decide)⟩)
  · exact hdisjoint htoken (List.forall_mem_append.mpr ⟨hne hcomponent (by decide),
      List.forall_mem_append.mpr ⟨hne hproperty (by decide), hne hvalue (by decide)⟩⟩)

theorem length_subjects (s : DesignSystem) : s.subjects.length =
    s.tokens.all.length + s.components.size + (s.components.values.map fun c => c.properties.size).sum +
      (s.components.values.map fun c =>
        (c.properties.values.map fun p => (p.values?.getD []).dedup.length).sum).sum := by
  simp [subjects, tokenSubjects, componentSubjects, propertySubjects, valueSubjects, List.length_flatMap,
    Dict.values, Dict.keys, Dict.size, Pairs.keys, Function.comp_def, Nat.add_assoc]

theorem perm_keys_descriptions (hs : s.ColonFree) : (s.subjects.map Subject.key).Perm s.descriptions.keys := by
  have hnodup : (s.subjects.map Subject.key).Nodup := by
    refine (List.nodup_map_iff_inj_on s.nodup_subjects).mpr fun x hx y hy h => ?_
    obtain ⟨_, hx⟩ := mem_subjects_iff.mp hx
    obtain ⟨_, hy⟩ := mem_subjects_iff.mp hy
    exact hx.eq_of_key hs hy h
  refine (List.perm_ext_iff_of_nodup hnodup s.descriptions.nodup).mpr fun k => ?_
  constructor
  · intro h
    obtain ⟨x, hx, rfl⟩ := List.mem_map.mp h
    obtain ⟨_, hx⟩ := mem_subjects_iff.mp hx
    exact Dict.mem_keys_of_get? (hx.get?_descriptions hs)
  · intro h
    obtain ⟨x, text, rfl, hx⟩ := exists_of_mem_keys h
    exact List.mem_map_of_mem (mem_subjects_iff.mpr ⟨text, hx⟩)

/-- Each token, component, property and value of a property has an entry of its own with the text for it, and
there are no other entries, so that there are as many as all of these together. What stands last in a key may
hold a colon. Nothing but a token's value can be too long for its text. -/
theorem descriptions_exact (hs : s.ColonFree) :
    (∀ x text, s.Explains x text → s.descriptions.get? x.key = some text) ∧
    (∀ k ∈ s.descriptions.keys, ∃! x, x.key = k ∧ ∃ text, s.Explains x text) ∧
    s.descriptions.size =
      s.tokens.all.length + s.components.size + (s.components.values.map fun c => c.properties.size).sum +
        (s.components.values.map fun c =>
          (c.properties.values.map fun p => (p.values?.getD []).dedup.length).sum).sum ∧
    ∀ texts, s.described = .ok texts ↔
      (∀ c n v, s.tokens.at? c n = some v → v.isWritable = true) ∧ s.descriptions = texts := by
  refine ⟨fun x text h => h.get?_descriptions hs, fun k hk => ?_, ?_, fun texts => ?_⟩
  · obtain ⟨x, text, hkey, hx⟩ := exists_of_mem_keys hk
    refine ⟨x, ⟨hkey, text, hx⟩, fun y ⟨hykey, _, hy⟩ => ?_⟩
    exact hy.eq_of_key hs hx (hykey.trans hkey.symm)
  · have hlength := (perm_keys_descriptions hs).length_eq
    rw [List.length_map, length_subjects, Dict.keys, Pairs.keys, List.length_map] at hlength
    exact hlength.symm
  · rw [described, Unfit.guard_unlessShort_eq_ok_iff, Tokens.areWritable_iff]

/-- A system of one component with enumerations, and a colon in the name of a token. -/
def ofEnums (enums : List (String × List String)) : DesignSystem where
  name := "acme"
  version := none
  tokens := .ofList [("color", .ofList [("ink", .text "black"), ("ink:dark", .text "#111")])]
  darkTokens := none
  components := .ofList [("Chip",
    ⟨"Chip", none, .ofList (enums.map fun e => (e.1, ⟨.enum e.2 none, false, none⟩)), [], ∅, none⟩)]
  settings := .default

/-- A value that is listed twice counts once. -/
theorem descriptions_exact_chip :
    let s := ofEnums [("tone", ["calm", "loud", "calm"])]
    s.ColonFree ∧ s.descriptions.size = 6 ∧
      s.descriptions.get? "value:Chip:tone:calm" = some "calm option" := by
  intro s
  have hs : s.ColonFree := ⟨by decide, by decide, by decide⟩
  obtain ⟨hentry, -, hsize, -⟩ := descriptions_exact hs
  have hvalue : s.Explains (.value "Chip" "tone" "calm") "calm option" :=
    .value (c := s.components.values.head (by decide)) rfl rfl List.mem_cons_self
  exact ⟨hs, hsize, hentry _ _ hvalue⟩

/-- With a colon in the name of a property, two values may come to share a key. -/
example : (ofEnums [("tone", ["calm:blue"]), ("tone:calm", ["blue"])]).descriptions.size = 6 ∧
    (ofEnums [("tone", ["calm:blue"]), ("tone:calm", ["blue"])]).subjects.length = 7 := by decide

end DesignSystem

end Stylebook
