import Stylebook.Proofs.Combination.Search
import Stylebook.Proofs.Usage.Completion

/-!
Combinations as usages. Among the maps that give a text to every enumeration and to nothing else, the
enumeration lists those whose usages are acceptable, as long as nothing but enumerations is required.
-/

namespace Stylebook

namespace PropValue

theorem entries_texts (l : List (String × String)) :
    Decoded.entries decode (l.map fun e => (Key.text e.1, normalize (.text e.2))) =
      .ok (l.map fun e => (e.1, literal (.text e.2))) := by
  induction l with
  | nil => rfl
  | cons e l ih =>
    have hv : decode (normalize (.text e.2)) = .ok (literal (.text e.2)) := rfl
    rw [List.map_cons, Decoded.entries, hv, ih]
    rfl

end PropValue

/-- Texts as they are found in source files are read as the properties of a combination. -/
theorem Props.decode_texts (m : Dict String) :
    Props.decode (.ofDict .text m) = .ok (Combination.props m.entries) := by
  have hn : PropValue.normalizeAll (.ofDict .text m) =
      .object (m.entries.map fun e => (Key.text e.1, PropValue.normalize (.text e.2))) := by
    simp [Value.ofDict, Value.record, PropValue.normalizeAll]
  rw [decode, hn, Decoded.dict, PropValue.entries_texts]
  rfl

/-- A usage gives the texts of the map, as they are found in a source file, to its properties. -/
def Usage.Gives (u : Usage) (m : Dict String) : Prop :=
  Props.decode (.ofDict .text m) = .ok u.props

theorem Usage.Gives.areTexts {u : Usage} {m : Dict String} (h : u.Gives m) :
    Props.AreTexts u.props m.get? := by
  rw [Gives, Props.decode_texts] at h
  rw [← Decoded.ok.inj h]
  exact Combination.get?_props m.nodup

theorem Usage.Gives.mem_keys_iff {u : Usage} {m : Dict String} (h : u.Gives m) (name : String) :
    name ∈ u.props.keys ↔ m.contains name = true := by
  rw [← Dict.contains_iff, Dict.contains, h.areTexts, Option.isSome_map]
  rfl

/-- A combination has the same values as a map, in any order. -/
def Combination.Represents (x : Combination) (m : Dict String) : Prop :=
  ∀ name, Pairs.get? name x = m.get? name

theorem Combination.Represents.get?_props {x : Combination} {m : Dict String} {u : Usage}
    (h : x.Represents m) (hx : (Pairs.keys x).Nodup) (hu : u.Gives m) (name : String) :
    (x.usage u.component).props.get? name = u.props.get? name := by
  rw [hu.areTexts, ← h name]
  exact Combination.get?_props hx name

theorem Property.domain_of_values? {p : Property} {values : List String}
    (h : p.values? = some values) : ∃ d, p.domain = .enum values d := by
  rw [values?] at h
  cases hd : p.domain with
  | enum vs d =>
    rw [hd] at h
    cases h
    exact ⟨d, rfl⟩
  | _ => rw [hd] at h; cases h

namespace Component

variable {c : Component} {m : Dict String} {u : Usage} {x : Combination}

/-- The map has a text for every enumeration, and for nothing else. -/
def IsFull (c : Component) (m : Dict String) : Prop :=
  ∀ name, m.contains name = true ↔
    ∃ p values, c.properties.get? name = some p ∧ p.values? = some values

/-- Every enumeration is given one of its values. -/
def HasValues (c : Component) (m : Dict String) : Prop :=
  ∀ name p values s, c.properties.get? name = some p → p.values? = some values →
    m.get? name = some s → s ∈ values

/-- Nothing but enumerations is required. -/
def RequiresEnumsOnly (c : Component) : Prop :=
  ∀ name p, c.properties.get? name = some p → p.required = true → ∃ values, p.values? = some values

theorem get?_enums_eq_some_iff {name : String} {values : List String} :
    c.enums.get? name = some values ↔
      ∃ p, c.properties.get? name = some p ∧ p.values? = some values := by
  rw [enums, Dict.get?_filterMapValues, Option.bind_eq_some_iff]

theorem contains_enums_iff {name : String} : c.enums.contains name = true ↔
    ∃ p values, c.properties.get? name = some p ∧ p.values? = some values := by
  rw [Dict.contains, Option.isSome_iff_exists, exists_comm]
  exact exists_congr fun values => get?_enums_eq_some_iff

theorem isFull_iff : c.IsFull m ↔ ∀ name, m.contains name = true ↔ c.enums.contains name = true := by
  simp only [IsFull, contains_enums_iff]

theorem nodup_of_mem_assignments (h : x ∈ assignments c.enums.entries) : (Pairs.keys x).Nodup := by
  rw [keys_of_mem_assignments h]
  exact c.enums.nodup

theorem isFull_of_mem_assignments (h : x ∈ assignments c.enums.entries) :
    c.IsFull ⟨x, nodup_of_mem_assignments h⟩ := by
  rw [isFull_iff]
  intro name
  rw [Dict.contains_iff, Dict.contains_iff, Dict.keys, keys_of_mem_assignments h]
  rfl

/-- The assignment with the values of a map, names in the order of declaration. -/
theorem IsFull.exists_assignment (hm : c.IsFull m) (hv : c.HasValues m) :
    ∃ x ∈ assignments c.enums.entries, x.Represents m := by
  have hk (name : String) : (m.get? name).isSome = true ↔ name ∈ Pairs.keys c.enums.entries :=
    (isFull_iff.mp hm name).trans Dict.contains_iff
  refine ⟨c.enums.entries.map fun e => (e.1, (m.get? e.1).getD ""), ?_, fun name => ?_⟩
  · refine map_mem_assignments (f := fun name => (m.get? name).getD "") fun e he => ?_
    obtain ⟨p, hp, hvs⟩ := get?_enums_eq_some_iff.mp (Dict.get?_eq_some_iff.mpr he)
    obtain ⟨s, hs⟩ := Option.isSome_iff_exists.mp ((hk e.1).mpr (List.mem_map.mpr ⟨e, he, rfl⟩))
    rw [hs]
    exact hv e.1 p e.2 s hp hvs hs
  · rw [Pairs.get?_map_keys fun name => (m.get? name).getD ""]
    have hn := hk name
    cases hs : m.get? name <;> rw [hs] at hn <;> simp [← hn]

theorem hasValues_of_represents (hx : x ∈ assignments c.enums.entries) (h : x.Represents m) :
    c.HasValues m := by
  intro name p values s hp hvs hs
  rw [← h name] at hs
  exact mem_of_mem_assignments hx (get?_enums_eq_some_iff.mpr ⟨p, hp, hvs⟩) hs

/-- Can the rules be looked at for a combination? -/
def CanTry (c : Component) (x : Combination) : Prop := ∀ rule ∈ c.constraints, rule.CanJudge x.props

theorem canTry_iff : c.CanTry x ↔ c.combinationUnfit? x = none := by
  rw [combinationUnfit?_eq_none_iff]
  exact forall₂_congr fun rule _ =>
    (Constraint.ruleUnfit?_eq_none_iff_canJudge (u := x.usage c.name)).symm

theorem canTry_of_nodup (h : ∀ rule ∈ c.constraints, rule.hasWording = true)
    (hx : (Pairs.keys x).Nodup) : c.CanTry x := by
  refine canTry_iff.mpr (combinationUnfit?_eq_none_iff.mpr fun rule hr => ?_)
  exact rule.ruleUnfit?_of_texts (Combination.get?_props hx) (h rule hr)

theorem canTry_of_hasWording (h : ∀ rule ∈ c.constraints, rule.hasWording = true)
    (hx : x ∈ assignments c.enums.entries) : c.CanTry x :=
  canTry_of_nodup h (nodup_of_mem_assignments hx)

theorem exists_enumerate_iff :
    (∃ l, c.enumerate none = .ok l) ↔ ∀ x ∈ assignments c.enums.entries, c.CanTry x := by
  simp only [enumerate_eq_ok_iff, canTry_iff, exists_and_left, exists_eq', and_true]

theorem accepts_iff_of_represents (hx : (Pairs.keys x).Nodup) (h : x.Represents m) (hu : u.Gives m) :
    c.accepts x = true ↔ ∀ rule ∈ c.constraints, rule.Triggered u.props → rule.KeptBy u.props := by
  have hp := h.get?_props hx hu
  rw [accepts_iff]
  refine forall₂_congr fun rule _ => ?_
  rw [← Constraint.triggered_congr hp, ← Constraint.keptBy_congr hp]
  rfl

theorem combinationUnfit?_iff_of_represents (hx : (Pairs.keys x).Nodup) (h : x.Represents m)
    (hu : u.Gives m) :
    c.combinationUnfit? x = none ↔ ∀ rule ∈ c.constraints, ruleUnfit? u rule = none := by
  rw [combinationUnfit?_eq_none_iff]
  refine forall₂_congr fun rule _ => ?_
  rw [Constraint.ruleUnfit?_congr (w := u) (u := x.usage c.name) (h.get?_props hx hu)]

theorem admits_text_iff {p : Property} {values : List String} (hp : p.values? = some values)
    (s : String) : p.domain.Admits (.literal (.text s)) ↔ s ∈ values := by
  obtain ⟨d, hd⟩ := Property.domain_of_values? hp
  rw [hd]
  constructor
  · intro ha
    cases ha with
    | enum h => exact h
  · intro h
    exact .enum (v := .text s) h

theorem exists_valid_iff {strict : Bool} :
    (∃ verdict, c.checkUsage u strict = .ok verdict ∧ verdict.valid = true) ↔
      (∃ l, c.usageIssues u = .ok l) ∧ c.Accepts u := by
  constructor
  · rintro ⟨verdict, hc, hv⟩
    obtain ⟨l, hl, rfl⟩ := checkUsage_eq_ok_iff.mp hc
    exact ⟨⟨l, hl⟩, ((usageIssues_judges hl).valid_iff strict).mp hv⟩
  · rintro ⟨⟨l, hl⟩, ha⟩
    exact ⟨_, checkUsage_eq_ok_iff.mpr ⟨l, hl, rfl⟩,
      ((usageIssues_judges hl).valid_iff strict).mpr ha⟩

section Full

variable (hr : c.RequiresEnumsOnly) (hm : c.IsFull m) (hu : u.Gives m)
include hr hm hu

/-- A usage that gives a text to every enumeration can be checked to the end if its place can be written and
its rules be looked at. -/
theorem exists_usageIssues (hplaced : u.isPlaced = true)
    (hrules : ∀ rule ∈ c.constraints, ruleUnfit? u rule = none) : ∃ l, c.usageIssues u = .ok l := by
  refine exists_usageIssues_iff.mpr
    ⟨hplaced, fun name p hp hreq hn => ?_, fun name p v hp hv => ?_, fun rule h => ?_⟩
  · obtain ⟨values, hvs⟩ := hr name p hp hreq
    exact absurd ((hu.mem_keys_iff name).mpr ((hm name).mpr ⟨p, values, hp, hvs⟩)) hn
  · have hname : name ∈ u.props.keys := List.mem_map_of_mem (Dict.get?_eq_some_iff.mp hv)
    obtain ⟨q, values, hq, hvs⟩ := (hm name).mp ((hu.mem_keys_iff name).mp hname)
    obtain rfl : q = p := Option.some.inj (hq.symm.trans hp)
    obtain ⟨d, hd⟩ := Property.domain_of_values? hvs
    rw [hu.areTexts] at hv
    obtain ⟨s, -, hs⟩ := Option.map_eq_some_iff.mp hv
    cases hs
    rw [hd]
    exact rfl
  · exact Constraint.ruleUnfit?_eq_none_iff_canJudge.mp (hrules rule h)

theorem accepts_iff_hasValues : c.Accepts u ↔
    c.HasValues m ∧ ∀ rule ∈ c.constraints, rule.Triggered u.props → rule.KeptBy u.props := by
  constructor
  · intro ha
    refine ⟨fun name p values s hp hvs hs => ?_, ha.rules⟩
    have hget : u.props.get? name = some (.literal (.text s)) := by rw [hu.areTexts, hs]; rfl
    rcases ha.values name p _ hp hget with ⟨q, hq⟩ | hd
    · cases hq
    · exact (admits_text_iff hvs s).mp hd
  · rintro ⟨hv, hrules⟩
    refine ⟨fun name p hp hreq => ?_, fun name hn => ?_, fun name p v hp hg => ?_, hrules⟩
    · obtain ⟨values, hvs⟩ := hr name p hp hreq
      exact (hu.mem_keys_iff name).mpr ((hm name).mpr ⟨p, values, hp, hvs⟩)
    · obtain ⟨p, -, hp, -⟩ := (hm name).mp ((hu.mem_keys_iff name).mp hn)
      exact .inl (Dict.contains_iff.mp (Option.isSome_iff_exists.mpr ⟨p, hp⟩))
    · rw [hu.areTexts] at hg
      obtain ⟨s, hs, rfl⟩ := Option.map_eq_some_iff.mp hg
      obtain ⟨q, values, hq, hvs⟩ := (hm name).mp (Option.isSome_iff_exists.mpr ⟨s, hs⟩)
      rw [hp] at hq
      cases hq
      exact .inr ((admits_text_iff hvs s).mpr (hv name p values s hp hvs hs))

end Full

/-- The enumeration agrees with the check of usages. What it lists is full, and a full map is listed
exactly if the verdict on its usages is good, wherever they are found. The enumeration fails if the rules
cannot be looked at for some combination, and only then; where all rules can be put into words, neither it
nor the check fails. -/
theorem enumerate_agrees (hr : c.RequiresEnumsOnly) :
    ((∃ l, c.enumerate none = .ok l) ↔ ∀ x ∈ assignments c.enums.entries, c.CanTry x) ∧
    ((∀ rule ∈ c.constraints, rule.hasWording = true) →
      (∃ l, c.enumerate none = .ok l) ∧ ∀ m u strict, c.IsFull m → u.Gives m → u.isPlaced = true →
        ∃ verdict, c.checkUsage u strict = .ok verdict) ∧
    ∀ l, c.enumerate none = .ok l →
      (∀ x ∈ l, ∃ m : Dict String, m.entries = x ∧ c.IsFull m) ∧
      ∀ m u strict, c.IsFull m → u.Gives m → u.isPlaced = true →
        ((∃ x ∈ l, x.Represents m) ↔
          ∃ verdict, c.checkUsage u strict = .ok verdict ∧ verdict.valid = true) := by
  refine ⟨exists_enumerate_iff, fun hw => ⟨?_, fun m u strict hm hu hplaced => ?_⟩, fun l hl => ?_⟩
  · exact exists_enumerate_iff.mpr fun x hx => canTry_of_hasWording hw hx
  · obtain ⟨l, hl⟩ := exists_usageIssues hr hm hu hplaced fun rule hrule =>
      rule.ruleUnfit?_of_texts hu.areTexts (hw rule hrule)
    exact ⟨_, checkUsage_eq_ok_iff.mpr ⟨l, hl, rfl⟩⟩
  · obtain ⟨hfit, rfl⟩ := enumerate_eq_ok_iff.mp hl
    refine ⟨fun x hx => ?_, fun m u strict hm hu hplaced => ?_⟩
    · exact ⟨_, rfl, isFull_of_mem_assignments (List.mem_filter.mp hx).1⟩
    · rw [exists_valid_iff, accepts_iff_hasValues hr hm hu]
      constructor
      -- what is listed gives its texts to the same names, in another order perhaps
      · rintro ⟨x, hx, hxm⟩
        obtain ⟨hx, ha⟩ := List.mem_filter.mp hx
        have hn := nodup_of_mem_assignments hx
        have hrules := (combinationUnfit?_iff_of_represents hn hxm hu).mp (hfit x hx)
        exact ⟨exists_usageIssues hr hm hu hplaced hrules, hasValues_of_represents hx hxm,
          (accepts_iff_of_represents hn hxm hu).mp ha⟩
      -- the search comes to the map in the order of declaration
      · rintro ⟨-, hv, hrules⟩
        obtain ⟨x, hx, hxm⟩ := hm.exists_assignment hv
        have ha := (accepts_iff_of_represents (nodup_of_mem_assignments hx) hxm hu).mpr hrules
        exact ⟨x, List.mem_filter.mpr ⟨hx, ha⟩, hxm⟩

/-- A banner that must not be loud where it is small; it may be turned by some angle. -/
def banner : Component where
  name := "Banner"
  description := none
  properties := .ofList [("size", ⟨.enum ["small", "large"] none, true, none⟩),
    ("angle", ⟨.number none (some (.int 0)) none, false, none⟩),
    ("tone", ⟨.enum ["calm", "loud"] (some "calm"), false, none⟩)]
  constraints := [
    { trigger := .ofList [("size", .equals (.text "small")), ("angle", .compares .different .null)]
      consequence := .forbid ["tone = loud"]
      suggest := none
      message := none }]
  mappings := ∅
  baseStyles := none

def loudBanner (size : String) : Dict String := .ofList [("size", size), ("tone", "loud")]

def loudUsage (size : String) : Usage where
  component := "Banner"
  props := Combination.props (loudBanner size).entries
  location := none

theorem enumerate_agrees_banner : banner.RequiresEnumsOnly ∧
    ∃ l, banner.enumerate none = .ok l ∧ (∃ x ∈ l, x.Represents (loudBanner "large")) ∧
      ¬ ∃ x ∈ l, x.Represents (loudBanner "small") := by
  have hr : banner.RequiresEnumsOnly := by
    have he : ∀ e ∈ banner.properties.entries, e.2.required = true → e.2.values?.isSome = true := by
      decide
    intro name p hp hreq
    exact Option.isSome_iff_exists.mp (he (name, p) (Dict.get?_eq_some_iff.mp hp) hreq)
  have hm (size : String) : banner.IsFull (loudBanner size) := by
    rw [isFull_iff]
    intro name
    rw [Dict.contains_iff, Dict.contains_iff]
    rfl
  have hu (size : String) : (loudUsage size).Gives (loudBanner size) := Props.decode_texts _
  obtain ⟨-, hends, hagrees⟩ := enumerate_agrees hr
  obtain ⟨l, hl⟩ := (hends (by decide)).1
  obtain ⟨-, hl'⟩ := hagrees l hl
  refine ⟨hr, l, hl, (hl' _ _ false (hm _) (hu "large") rfl).mpr ?_, fun h => ?_⟩
  · exact exists_verdict (by decide +kernel)
  · obtain ⟨bad, hb, hvalid⟩ := (hl' _ _ false (hm _) (hu "small") rfl).mp h
    have hbad : (banner.checkUsage (loudUsage "small") false).toOption.map Verdict.valid =
        some false := by
      decide +kernel
    rw [hb] at hbad
    cases hvalid.symm.trans (Option.some.inj hbad)

/-- The banner with a rule about a day. -/
def datedBanner : Component := { banner with
  constraints := [
    { trigger := .ofList [("angle", .compares .different (.moment (.day ⟨2024, 2, 29⟩)))]
      consequence := .forbid ["tone = loud"]
      suggest := none
      message := none }] }

/-- An angle that is not given is no day, so the rule fires; and a day has no form in JSON. -/
example : datedBanner.enumerate none = .error .notJson ∧
    (datedBanner.checkUsage (loudUsage "large") false).toOption = none := by decide +kernel

end Component

end Stylebook
