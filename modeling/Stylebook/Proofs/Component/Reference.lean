import Stylebook.Check.Reference

/-!
The check of references is exact: it finds every name that rules and mappings use for a property that
is not declared, and nothing else, and it tells where the name is used.
-/

namespace Stylebook

/-- Where properties are named: in a rule, by its number, or in a mapping, by its key. -/
inductive Site where
  | rule (index : Nat)
  | mapping (key : String)
  deriving DecidableEq

/-- The path to a site from the path of the component. -/
def Site.path (path : String) : Site → String
  | rule index => path ++ ".constraints." ++ toString index
  | mapping key => path ++ ".mappings." ++ key

/-- A path leads to one site only. -/
theorem Site.path_injective (path : String) {s t : Site} (h : s.path path = t.path path) : s = t := by
  have hl := congrArg String.toList h
  cases s with
  | rule i =>
    cases t with
    | rule j =>
      simp only [Site.path, String.toList_append, List.append_assoc, List.append_cancel_left_eq,
        Nat.toString_eq_repr, Nat.toList_repr] at hl
      have hv := congrArg (fun ds => Nat.ofDigitChars 10 ds 0) hl
      simp only [Nat.ofDigitChars_ten_toDigits] at hv
      rw [hv]
    | mapping key => simp [Site.path, List.append_assoc] at hl
  | mapping key =>
    cases t with
    | rule j => simp [Site.path, List.append_assoc] at hl
    | mapping key' =>
      simp only [Site.path, String.toList_append, List.append_assoc, List.append_cancel_left_eq] at hl
      rw [String.toList_inj.mp hl]

/-- What a property is named for. -/
inductive Role where
  | condition
  | ban
  | demand
  | mapping
  deriving DecidableEq

/-- The issue that tells of an undeclared property. -/
def Role.issue (role : Role) (property path : String) : Issue :=
  match role with
  | condition =>
    Component.unknownIssue .unknownConstraintProperty "Constraint references" property path
  | ban => Component.unknownIssue .unknownForbiddenProperty "Constraint forbids" property path
  | demand => Component.unknownIssue .unknownRequiredProperty "Constraint requires" property path
  | mapping => Component.unknownIssue .unknownMappingProperty "Mapping references" property path

namespace Constraint

variable {rule : Constraint} {p : String}

/-- The properties that a rule names in a role. -/
def namesFor (rule : Constraint) : Role → List String
  | .condition => rule.trigger.keys
  | .ban => rule.consequence.bans.map Ban.property
  | .demand => rule.consequence.demanded.keys
  | .mapping => []

theorem mem_properties_iff : p ∈ rule.properties ↔ ∃ role, p ∈ rule.namesFor role := by
  rw [properties, List.mem_eraseDups, List.mem_append, List.mem_append]
  constructor
  · rintro ((h | h) | h)
    · exact ⟨.condition, h⟩
    · exact ⟨.ban, h⟩
    · exact ⟨.demand, h⟩
  · rintro ⟨role, h⟩
    cases role with
    | condition => exact .inl (.inl h)
    | ban => exact .inl (.inr h)
    | demand => exact .inr h
    | mapping => cases h

end Constraint

namespace Component

variable {c : Component} {path p : String} {role : Role} {i : Issue}

/-- The component names a property at a site in a role. -/
inductive Names (c : Component) : Site → Role → String → Prop
  | condition {index : Nat} {rule : Constraint} {p : String} (h : c.constraints[index]? = some rule)
      (hp : p ∈ rule.trigger.keys) : Names c (.rule index) .condition p
  | ban {index : Nat} {rule : Constraint} {b : Ban} (h : c.constraints[index]? = some rule)
      (hb : b ∈ rule.consequence.bans) : Names c (.rule index) .ban b.property
  | demand {index : Nat} {rule : Constraint} {p : String} (h : c.constraints[index]? = some rule)
      (hp : p ∈ rule.consequence.demanded.keys) : Names c (.rule index) .demand p
  | key {key : String} {m : Mapping} {e : String × String} (h : c.mappings.get? key = some m)
      (he : e ∈ mappingPairs key) : Names c (.mapping key) .mapping e.1
  | branch {key p : String} {entries : List ConditionalStyles} {e : ConditionalStyles}
      (h : c.mappings.get? key = some (.conditional entries)) (he : e ∈ entries)
      (hp : p ∈ e.condition.keys) : Names c (.mapping key) .mapping p

theorem names_rule_iff {index : Nat} : c.Names (.rule index) role p ↔
    ∃ rule, c.constraints[index]? = some rule ∧ p ∈ rule.namesFor role := by
  constructor
  · intro h
    cases h with
    | condition h hp => exact ⟨_, h, hp⟩
    | ban h hb => exact ⟨_, h, List.mem_map.mpr ⟨_, hb, rfl⟩⟩
    | demand h hp => exact ⟨_, h, hp⟩
  · rintro ⟨rule, h, hp⟩
    cases role with
    | condition => exact .condition h hp
    | ban =>
      obtain ⟨b, hb, rfl⟩ := List.mem_map.mp hp
      exact .ban h hb
    | demand => exact .demand h hp
    | mapping => cases hp

theorem mem_mappingReferences_iff {key : String} {m : Mapping} : p ∈ mappingReferences key m ↔
    (∃ e ∈ mappingPairs key, e.1 = p) ∨
      ∃ entries, m = .conditional entries ∧ ∃ e ∈ entries, p ∈ e.condition.keys := by
  cases m with
  | flat styles => simp [mappingReferences]
  | conditional entries => simp [mappingReferences]

theorem names_mapping_iff {key : String} : c.Names (.mapping key) role p ↔
    role = .mapping ∧ ∃ m, c.mappings.get? key = some m ∧ p ∈ mappingReferences key m := by
  simp only [mem_mappingReferences_iff]
  constructor
  · intro h
    cases h with
    | key h he => exact ⟨rfl, _, h, .inl ⟨_, he, rfl⟩⟩
    | branch h he hp => exact ⟨rfl, _, h, .inr ⟨_, rfl, _, he, hp⟩⟩
  · rintro ⟨rfl, m, h, ⟨e, he, rfl⟩ | ⟨entries, rfl, e, he, hp⟩⟩
    · exact .key h he
    · exact .branch h he hp

theorem mem_unknownIssues_iff {code : IssueCode} {wording : String} {names : List String} :
    i ∈ c.unknownIssues code wording path names ↔
      ∃ p ∈ names, c.properties.contains p = false ∧ i = unknownIssue code wording p path := by
  rw [unknownIssues, List.mem_map]
  refine exists_congr fun p => ?_
  rw [List.mem_filter, Bool.not_eq_true', and_assoc, eq_comm (a := i)]

theorem mem_constraintReferences_iff {rule : Constraint} : i ∈ c.constraintReferences rule path ↔
    ∃ role, ∃ p ∈ rule.namesFor role, c.properties.contains p = false ∧ i = role.issue p path := by
  rw [constraintReferences, List.mem_append, List.mem_append, mem_unknownIssues_iff,
    mem_unknownIssues_iff, mem_unknownIssues_iff]
  constructor
  · rintro ((h | h) | h)
    · exact ⟨.condition, h⟩
    · exact ⟨.ban, h⟩
    · exact ⟨.demand, h⟩
  · rintro ⟨role, p, hp, h⟩
    cases role with
    | condition => exact .inl (.inl ⟨p, hp, h⟩)
    | ban => exact .inl (.inr ⟨p, hp, h⟩)
    | demand => exact .inr ⟨p, hp, h⟩
    | mapping => cases hp

theorem mem_mappingIssues_iff {key : String} {m : Mapping} : i ∈ c.mappingIssues key m path ↔
    ∃ p ∈ mappingReferences key m, c.properties.contains p = false ∧ i = Role.mapping.issue p path := by
  rw [mappingIssues, mem_unknownIssues_iff]
  simp only [List.mem_eraseDups]
  rfl

/-- The issues are those of the names that are not declared, each at its site. -/
theorem mem_referenceIssues_iff : i ∈ c.referenceIssues path ↔ ∃ site role p,
    c.Names site role p ∧ c.properties.contains p = false ∧ i = role.issue p (site.path path) := by
  rw [referenceIssues, List.mem_append, List.mem_flatMap, List.mem_flatMap]
  constructor
  · rintro (⟨⟨rule, index⟩, hr, hi⟩ | ⟨⟨key, m⟩, hm, hi⟩)
    · obtain ⟨role, p, hp, hd, rfl⟩ := mem_constraintReferences_iff.mp hi
      rw [List.mem_zipIdx_iff_getElem?] at hr
      exact ⟨.rule index, role, p, names_rule_iff.mpr ⟨rule, hr, hp⟩, hd, rfl⟩
    · obtain ⟨p, hp, hd, rfl⟩ := mem_mappingIssues_iff.mp hi
      rw [← Dict.get?_eq_some_iff] at hm
      exact ⟨.mapping key, .mapping, p, names_mapping_iff.mpr ⟨rfl, m, hm, hp⟩, hd, rfl⟩
  · rintro ⟨site, role, p, hn, hd, rfl⟩
    cases site with
    | rule index =>
      obtain ⟨rule, hr, hp⟩ := names_rule_iff.mp hn
      exact .inl ⟨(rule, index), List.mem_zipIdx_iff_getElem?.mpr hr,
        mem_constraintReferences_iff.mpr ⟨role, p, hp, hd, rfl⟩⟩
    | mapping key =>
      obtain ⟨rfl, m, hm, hp⟩ := names_mapping_iff.mp hn
      exact .inr ⟨(key, m), Dict.get?_eq_some_iff.mp hm, mem_mappingIssues_iff.mpr ⟨p, hp, hd, rfl⟩⟩

theorem referenceIssues_eq_nil_iff : c.referenceIssues path = [] ↔
    ∀ site role p, c.Names site role p → c.properties.contains p = true := by
  rw [List.eq_nil_iff_forall_not_mem]
  constructor
  · intro h site role p hn
    cases hd : c.properties.contains p with
    | true => rfl
    | false => exact absurd (mem_referenceIssues_iff.mpr ⟨site, role, p, hn, hd, rfl⟩) (h _)
  · rintro h i hi
    obtain ⟨site, role, p, hn, hd, rfl⟩ := mem_referenceIssues_iff.mp hi
    rw [h site role p hn] at hd
    cases hd

/-- The check is silent exactly if all properties that the rules mention, that the keys of the mappings
name and that their conditional entries look at are declared. Otherwise every undeclared one has an issue
at each site where it is named, there are no other issues, and the path of an issue tells the site. -/
theorem referenceIssues_exact (c : Component) (path : String) :
    (c.referenceIssues path = [] ↔
      (∀ rule ∈ c.constraints, ∀ p ∈ rule.properties, c.properties.contains p = true) ∧
      ∀ key m, c.mappings.get? key = some m →
        (∀ e ∈ mappingPairs key, c.properties.contains e.1 = true) ∧
        ∀ entries, m = .conditional entries →
          ∀ e ∈ entries, ∀ p ∈ e.condition.keys, c.properties.contains p = true) ∧
    (∀ i, i ∈ c.referenceIssues path ↔ ∃ site role p, c.Names site role p ∧
      c.properties.contains p = false ∧ i = role.issue p (site.path path)) ∧
    ∀ s t : Site, s.path path = t.path path → s = t := by
  refine ⟨?_, fun i => mem_referenceIssues_iff, fun s t h => Site.path_injective path h⟩
  rw [referenceIssues_eq_nil_iff]
  constructor
  · intro h
    refine ⟨fun rule hr p hp => ?_, fun key m hm => ⟨fun e he => ?_, ?_⟩⟩
    · obtain ⟨index, hi⟩ := List.mem_iff_getElem?.mp hr
      obtain ⟨role, hp⟩ := Constraint.mem_properties_iff.mp hp
      exact h _ role p (names_rule_iff.mpr ⟨rule, hi, hp⟩)
    · exact h _ _ _ (.key hm he)
    · rintro entries rfl e he p hp
      exact h _ _ _ (.branch hm he hp)
  · rintro ⟨hrules, hmappings⟩ site role p hn
    cases site with
    | rule index =>
      obtain ⟨rule, hr, hp⟩ := names_rule_iff.mp hn
      exact hrules rule (List.mem_of_getElem? hr) p (Constraint.mem_properties_iff.mpr ⟨role, hp⟩)
    | mapping key =>
      cases hn with
      | key h he => exact (hmappings key _ h).1 _ he
      | branch h he hp => exact (hmappings key _ h).2 _ rfl _ he p hp

/-- A tile that is styled by a tone, which it does not have, where it is small. -/
def tile : Component where
  name := "Tile"
  description := none
  properties := .ofList [("size", ⟨.enum ["small", "large"] none, true, none⟩)]
  constraints := []
  mappings := .ofList [("size = small", .conditional [⟨.ofList [("tone", .text "calm")], ∅⟩])]
  baseStyles := none

theorem referenceIssues_exact_tile :
    Role.mapping.issue "tone" "components.Tile.mappings.size = small" ∈
      tile.referenceIssues "components.Tile" := by
  refine ((referenceIssues_exact tile "components.Tile").2.1 _).mpr
    ⟨.mapping "size = small", .mapping, "tone", ?_, rfl, rfl⟩
  exact .branch rfl (List.mem_singleton.mpr rfl) (List.mem_singleton.mpr rfl)

end Component

end Stylebook
