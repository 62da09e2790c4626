import Stylebook.Proofs.Manifest.Example

/-!
Examples that are shown as invalid. Each is made from a rule that forbids: the values that its conditions
list, and over them what it forbids. So it breaks the rule, unless what is forbidden has taken the place of
a value that the rule fires for.
-/

namespace Stylebook

namespace Condition

variable {cond : Condition} {s : String}

/-- The value listed for a condition meets it. -/
theorem metBy_sample (h : cond.sample? = some s) : cond.MetBy (some (.text s)) := by
  cases cond with
  | equals t =>
    cases h
    exact ⟨_, rfl, rfl⟩
  | oneOf l =>
    obtain ⟨t, ht, rfl⟩ := Option.map_eq_some_iff.mp h
    exact ⟨_, rfl, t, List.mem_of_mem_head? ht, rfl⟩
  | compares op operand => cases h

theorem met_text_iff : cond.Met (some (.literal (.text s))) ↔ cond.MetBy (some (.text s)) := by
  simp [Met, PropValue.known?]

end Condition

/-- The attributes are the names of the conditions with the values listed for them. -/
def AreSamples (entries : List (String × Condition)) (x : Attributes) : Prop :=
  List.Forall₂ (fun e a => (e.2.sample?.map fun v => (e.1, v)) = some a) entries x

namespace AreSamples

variable {entries : List (String × Condition)} {x : Attributes}

theorem exists_sample (h : AreSamples entries x) : ∀ e ∈ entries, ∃ s, e.2.sample? = some s := by
  intro e he
  obtain ⟨a, ha⟩ := exists_forall₂_iff.mp ⟨x, h⟩ e he
  obtain ⟨s, hs, -⟩ := Option.map_eq_some_iff.mp ha
  exact ⟨s, hs⟩

theorem keys_eq (h : AreSamples entries x) : Pairs.keys x = Pairs.keys entries := by
  induction h with
  | nil => rfl
  | cons ha _ ih =>
    obtain ⟨s, -, rfl⟩ := Option.map_eq_some_iff.mp ha
    rw [Pairs.keys_cons, Pairs.keys_cons, ih]

theorem get?_eq (h : AreSamples entries x) (name : String) :
    Pairs.get? name x = (Pairs.get? name entries).bind Condition.sample? := by
  induction h with
  | nil => rfl
  | cons ha _ ih =>
    obtain ⟨s, hs, rfl⟩ := Option.map_eq_some_iff.mp ha
    rw [Pairs.get?, Pairs.get?]
    split
    · exact hs.symm
    · exact ih

end AreSamples

namespace Constraint

variable {rule : Constraint} {b : Ban} {value : String} {m : Dict String} {x : Attributes}

/-- Does the trigger leave this value to the property, with no condition on it or one that is met? -/
def Leaves (rule : Constraint) (property value : String) : Prop :=
  ∀ cond, rule.trigger.get? property = some cond → cond.MetBy (some (.text value))

/-- With a value put over the ones that its conditions list, a rule fires exactly if its trigger leaves
that value to the property. -/
theorem triggered_iff_leaves (hx : AreSamples rule.trigger.entries x)
    (hm : m.entries = Pairs.set b.property value x) :
    rule.Triggered (Combination.props m.entries) ↔ rule.Leaves b.property value := by
  have hget (name : String) : (Combination.props m.entries).get? name =
      (if b.property = name then some value else (rule.trigger.get? name).bind Condition.sample?).map
        fun s => .literal (.text s) := by
    rw [Combination.get?_props m.nodup, hm, Pairs.get?_set, hx.get?_eq]
    rfl
  constructor
  · intro h cond hc
    have hmet := h (b.property, cond) (Dict.get?_eq_some_iff.mp hc)
    rw [hget, if_pos rfl] at hmet
    exact Condition.met_text_iff.mp hmet
  · rintro h ⟨name, cond⟩ he
    have hc := Dict.get?_eq_some_iff.mpr he
    rw [hget]
    by_cases hb : b.property = name
    · rw [if_pos hb]
      exact Condition.met_text_iff.mpr (h cond (hb ▸ hc))
    · obtain ⟨s, hs⟩ := hx.exists_sample _ he
      rw [if_neg hb, hc, Option.bind_some, hs]
      exact Condition.met_text_iff.mpr (Condition.metBy_sample hs)

/-- The value shown for a ban is what the ban is about. -/
theorem exists_banIssue {c : Component} {props : Props} (h : c.bannedValue? b = some value)
    (hp : props.get? b.property = some (.literal (.text value))) (path : String) :
    ∃ i, rule.banIssue? props path b = some i ∧ i.code = .forbiddenProp ∧
      ∃ other, i.message = rule.messageOr other := by
  rw [banIssue?, hp]
  cases hv : b.value with
  | none => exact ⟨_, rfl, rfl, _, rfl⟩
  | some v =>
    rw [Component.bannedValue?, hv] at h
    cases h
    exact ⟨_, if_pos rfl, rfl, _, rfl⟩

end Constraint

namespace Component

variable {c : Component} {rule : Constraint} {x : Attributes} {s : String}

theorem exists_of_violation? (h : c.violation? rule = some x) : ∃ ban ∈ rule.consequence.bans,
    ∃ samples value, AreSamples rule.trigger.entries samples ∧ c.bannedValue? ban = some value ∧
      x = Pairs.set ban.property value samples := by
  obtain ⟨ban, hb, h⟩ := Option.bind_eq_some_iff.mp h
  obtain ⟨samples, hs, h⟩ := Option.bind_eq_some_iff.mp h
  obtain ⟨value, hv, h⟩ := Option.bind_eq_some_iff.mp h
  cases h
  exact ⟨ban, List.mem_of_mem_head? hb, samples, value, mapM_eq_some_iff.mp hs, hv, rfl⟩

theorem exists_of_mem_invalidExamples {name : String} (h : s ∈ c.invalidExamples name) :
    ∃ rule ∈ c.constraints, ∃ x, c.violation? rule = some x ∧
      s = rebuke (markup name x "Invalid") (rule.messageOr "Constraint violation") := by
  obtain ⟨rule, hr, h⟩ := List.mem_filterMap.mp h
  obtain ⟨x, hx, rfl⟩ := Option.map_eq_some_iff.mp h
  exact ⟨rule, List.mem_of_mem_take hr, x, hx, rfl⟩

/-- An example that is shown as invalid, other than the last one, is the markup of texts for properties
with the message of a rule; the texts have a value that the rule forbids. The check of the rule on them
reports that, with the same message, if the trigger leaves the forbidden value to its property. Otherwise
the rule does not fire, and the check reports nothing. There are examples where all rules can be put into
words. -/
theorem invalidExamples_violating (c : Component) (name path : String) :
    ((∀ rule ∈ c.constraints, rule.hasWording = true) → ∃ shown, c.examples name = .ok shown) ∧
    ∀ shown, c.examples name = .ok shown →
      shown.invalid.getLast? = some (utilityExample name) ∧
      ∀ s ∈ shown.invalid.dropLast, ∃ rule ∈ c.constraints,
        ∃ ban ∈ rule.consequence.bans, ∃ (m : Dict String) (value : String),
          s = rebuke (markup name m.entries "Invalid") (rule.messageOr "Constraint violation") ∧
          m.get? ban.property = some value ∧
          (rule.hasWording = true → ∀ u, u.Gives m → ruleUnfit? u rule = none) ∧
          (rule.Leaves ban.property value →
            ∃ i ∈ Stylebook.constraintIssues [rule] (Combination.props m.entries) path,
              i.code = .forbiddenProp ∧ ∃ other, i.message = rule.messageOr other) ∧
          (¬ rule.Leaves ban.property value →
            Stylebook.constraintIssues [rule] (Combination.props m.entries) path = []) := by
  refine ⟨fun h => exists_examples h name, fun shown hshown => ?_⟩
  obtain ⟨valid, -, -, rfl⟩ := examples_eq_ok_iff.mp hshown
  refine ⟨List.getLast?_concat, fun s hs => ?_⟩
  rw [List.dropLast_concat] at hs
  obtain ⟨rule, hr, x, hx, rfl⟩ := exists_of_mem_invalidExamples hs
  obtain ⟨ban, hban, samples, value, hsamples, hvalue, rfl⟩ := exists_of_violation? hx
  have hnodup : (Pairs.keys (Pairs.set ban.property value samples)).Nodup :=
    Pairs.nodup_set (hsamples.keys_eq ▸ rule.trigger.nodup)
  let m : Dict String := ⟨_, hnodup⟩
  have hget : m.get? ban.property = some value := Pairs.get?_set_self
  have hfires : rule.Triggered (Combination.props m.entries) ↔ rule.Leaves ban.property value :=
    Constraint.triggered_iff_leaves hsamples rfl
  refine ⟨rule, hr, ban, hban, m, value, rfl, hget,
    fun hw u hu => rule.ruleUnfit?_of_texts hu.areTexts hw, fun h => ?_, fun h => ?_⟩
  · have hp : (Combination.props m.entries).get? ban.property = some (.literal (.text value)) := by
      rw [Combination.get?_props m.nodup]
      exact congrArg (Option.map _) hget
    obtain ⟨i, hi, hcode, hmessage⟩ := rule.exists_banIssue hvalue hp path
    refine ⟨i, List.mem_flatMap.mpr ⟨rule, List.mem_singleton.mpr rfl, ?_⟩, hcode, hmessage⟩
    rw [Constraint.issues, if_pos (Constraint.fires_iff.mpr (hfires.mpr h))]
    exact List.mem_append_left _ (List.mem_filterMap.mpr ⟨ban, hban, hi⟩)
  · refine constraintIssues_eq_nil_iff.mpr fun r hr ht => ?_
    obtain rfl := List.mem_singleton.mp hr
    exact absurd (hfires.mp ht) h

theorem invalidExamples_violating_chip : ∃ shown, chip.examples "Chip" = .ok shown ∧
    "<Chip size=\"small\" tone=\"loud\">Invalid</Chip>  <!-- Error: Constraint violation -->" ∈
      shown.invalid.dropLast ∧
    ∃ rule ∈ chip.constraints, ∃ m : Dict String,
      "<Chip size=\"small\" tone=\"loud\">Invalid</Chip>  <!-- Error: Constraint violation -->" =
        rebuke (markup "Chip" m.entries "Invalid") (rule.messageOr "Constraint violation") ∧
      ∃ i ∈ Stylebook.constraintIssues [rule] (Combination.props m.entries) "Chip",
        i.code = .forbiddenProp := by
  obtain ⟨hends, hviolating⟩ := invalidExamples_violating chip "Chip" "Chip"
  obtain ⟨shown, hshown⟩ := hends (by decide)
  have hs : "<Chip size=\"small\" tone=\"loud\">Invalid</Chip>  <!-- Error: Constraint violation -->" ∈
      shown.invalid.dropLast := by
    have hin : ((chip.examples "Chip").toOption.map fun shown => shown.invalid.dropLast.contains
        "<Chip size=\"small\" tone=\"loud\">Invalid</Chip>  <!-- Error: Constraint violation -->") =
          some true := by decide
    rw [hshown] at hin
    exact List.contains_iff_mem.mp (Option.some.inj hin)
  obtain ⟨rule, hr, ban, hban, m, value, he, -, -, hissue, -⟩ := (hviolating shown hshown).2 _ hs
  have hfree : ∀ rule ∈ chip.constraints, ∀ ban ∈ rule.consequence.bans,
      rule.trigger.contains ban.property = false := by decide
  have hleaves : rule.Leaves ban.property value := by
    intro cond hc
    have hn := hfree rule hr ban hban
    rw [Dict.contains, hc] at hn
    cases hn
  obtain ⟨i, hi, hcode, -⟩ := hissue hleaves
  exact ⟨shown, hshown, hs, rule, hr, m, he, i, hi, hcode⟩

/-- A notice that, where it is calm, must not be loud. -/
def notice : Component where
  name := "Notice"
  description := none
  properties := .ofList [("tone", ⟨.enum ["calm", "loud"] none, false, none⟩)]
  constraints := [
    { trigger := .ofList [("tone", .equals (.text "calm"))]
      consequence := .forbid ["tone = loud"]
      suggest := none
      message := none }]
  mappings := ∅
  baseStyles := none

/-- No usage is both calm and loud. -/
theorem constraintIssues_notice (props : Props) (path : String) :
    Stylebook.constraintIssues notice.constraints props path = [] := by
  have hban : Ban.ofText "tone = loud" = ⟨"tone", some "loud"⟩ := by decide
  refine constraintIssues_eq_nil_iff.mpr fun rule hr ht => ?_
  obtain rfl := List.mem_singleton.mp hr
  obtain ⟨-, v, hv, hcalm⟩ := ht ("tone", .equals (.text "calm")) (List.mem_singleton.mpr rfl)
  refine ⟨fun b hb hn => ?_, fun b hb t hb' w hw hloud => ?_, fun e he => nomatch he⟩
  · obtain rfl := (List.mem_singleton.mp hb).trans hban
    cases hn
  · obtain rfl := (List.mem_singleton.mp hb).trans hban
    cases hb'
    rw [hw] at hv
    cases hv
    exact absurd (hcalm.symm.trans hloud) (by decide)

/-- What is shown as invalid need not break a rule. -/
theorem invalidExamples_harmless : ¬ ∀ (c : Component) (name : String) (shown : Examples),
    c.examples name = .ok shown → ∀ s ∈ shown.invalid.dropLast, ∃ rule ∈ c.constraints, ∃ m : Dict String,
      s = rebuke (markup name m.entries "Invalid") (rule.messageOr "Constraint violation") ∧
      ∃ i ∈ Stylebook.constraintIssues [rule] (Combination.props m.entries) name,
        i.code = .forbiddenProp := by
  intro h
  obtain ⟨shown, hshown⟩ := exists_examples (c := notice) (by decide) "Notice"
  have hs : "<Notice tone=\"loud\">Invalid</Notice>  <!-- Error: Constraint violation -->" ∈
      shown.invalid.dropLast := by
    obtain ⟨valid, -, -, rfl⟩ := examples_eq_ok_iff.mp hshown
    dsimp only
    decide
  obtain ⟨rule, hr, m, -, i, hi, -⟩ := h notice "Notice" shown hshown _ hs
  obtain rfl := List.mem_singleton.mp hr
  have hnone := constraintIssues_notice (Combination.props m.entries) "Notice"
  rw [notice] at hnone
  rw [hnone] at hi
  cases hi

end Component

end Stylebook
