import Stylebook.Proofs.Constraint.Meaning
import Stylebook.Proofs.Property.Membership
import Stylebook.Proofs.Usage.Issues

/-!
Which usages are acceptable, said without looking for issues: what is required is given, what is given
is known and lies in its domain, and the rules that fire are kept to. The verdict on a usage is good
exactly if it is acceptable.
-/

namespace Stylebook

/-- The names that a framework takes care of. -/
def IsFrameworkName (name : String) : Prop :=
  name ∈ ["children", "key", "ref"] ∨ "on".toList <+: name.toList ∨ "data-".toList <+: name.toList

/-- What a component asks of a usage. -/
structure Component.Accepts (c : Component) (u : Usage) : Prop where
  required : ∀ name p, c.properties.get? name = some p → p.required = true → name ∈ u.props.keys
  known : ∀ name ∈ u.props.keys, name ∈ c.properties.keys ∨ IsFrameworkName name
  values : ∀ name p v, c.properties.get? name = some p → u.props.get? name = some v →
    (∃ s, v = .dynamic s) ∨ p.domain.Admits v
  rules : ∀ rule ∈ c.constraints, rule.Triggered u.props → rule.KeptBy u.props

theorem isPassthrough_iff {name : String} : isPassthrough name = true ↔ IsFrameworkName name := by
  simp [isPassthrough, IsFrameworkName, or_assoc]

namespace Component

variable {c : Component} {u : Usage}

theorem missingIssues_judges (c : Component) (u : Usage) : Judges (c.missingIssues u)
    (∀ name p, c.properties.get? name = some p → p.required = true → name ∈ u.props.keys) := by
  refine .ofMap (fun _ => rfl) ?_
  rw [List.eq_nil_iff_forall_not_mem]
  constructor
  · intro h name p hp hr
    exact Decidable.byContradiction fun hn => h (name, p) (mem_missing_iff.mpr ⟨hp, hr, hn⟩)
  · rintro h e he
    obtain ⟨hp, hr, hn⟩ := mem_missing_iff.mp he
    exact hn (h e.1 e.2 hp hr)

theorem unknownPropIssues_judges (c : Component) (u : Usage) : Judges (c.unknownPropIssues u)
    (∀ name ∈ u.props.keys, name ∈ c.properties.keys ∨ IsFrameworkName name) := by
  refine .ofMap (fun _ => rfl) ?_
  rw [List.filter_eq_nil_iff]
  refine forall₂_congr fun name _ => ?_
  rw [← Dict.contains_iff, ← isPassthrough_iff, isKnownProp]
  cases isPassthrough name <;> cases c.properties.contains name <;> simp

theorem propIssues_judges {name : String} {v : PropValue} {l : List Issue}
    (h : c.propIssues u name v = .ok l) :
    Judges l (∀ p, c.properties.get? name = some p → (∃ s, v = .dynamic s) ∨ p.domain.Admits v) := by
  rw [propIssues] at h
  cases hp : c.properties.get? name with
  | none =>
    rw [hp] at h
    cases h
    exact .nil (by simp)
  | some p =>
    rw [hp] at h
    exact (Domain.valueIssues_judges h).congr (by simp)

theorem valueIssues_judges {entries : List (String × PropValue)} {l : List Issue}
    (h : c.valueIssues u entries = .ok l) :
    Judges l (∀ e ∈ entries, ∀ p, c.properties.get? e.1 = some p →
      (∃ s, e.2 = .dynamic s) ∨ p.domain.Admits e.2) := by
  induction entries generalizing l with
  | nil =>
    cases h
    exact .nil (by simp)
  | cons e rest ih =>
    obtain ⟨name, v⟩ := e
    obtain ⟨first, others, hf, ho, rfl⟩ := valueIssues_cons_eq_ok_iff.mp h
    exact ((propIssues_judges hf).append (ih ho)).congr (by simp)

theorem ruleIssues_judges {l : List Issue} (h : c.ruleIssues u = .ok l) :
    Judges l (∀ rule ∈ c.constraints, rule.Triggered u.props → rule.KeptBy u.props) := by
  obtain ⟨-, -, rfl⟩ := ruleIssues_eq_ok_iff.mp h
  exact .ofErrors (fun _ => severity_of_mem_constraintIssues) constraintIssues_eq_nil_iff

theorem usageIssues_judges {l : List Issue} (h : c.usageIssues u = .ok l) :
    Judges l (c.Accepts u) := by
  obtain ⟨-, -, values, rules, hv, hr, rfl⟩ := usageIssues_eq_ok_iff.mp h
  have hj := (((c.missingIssues_judges u).append (c.unknownPropIssues_judges u)).append
    (valueIssues_judges hv)).append (ruleIssues_judges hr)
  refine hj.congr ⟨?_, ?_⟩
  · rintro ⟨⟨⟨hm, hk⟩, hv⟩, hr⟩
    exact ⟨hm, hk, fun name p v hp hu => hv (name, v) (Dict.get?_eq_some_iff.mp hu) p hp, hr⟩
  · intro ha
    refine ⟨⟨⟨ha.required, ha.known⟩, ?_⟩, ha.rules⟩
    intro e he p hp
    exact ha.values e.1 p e.2 hp (Dict.get?_eq_some_iff.mpr he)

/-- The verdict on a usage, strict or not, is good exactly if the component accepts it. -/
theorem checkUsage_valid_iff {strict : Bool} {verdict : Verdict}
    (h : c.checkUsage u strict = .ok verdict) : verdict.valid = true ↔ c.Accepts u := by
  rw [checkUsage] at h
  cases hi : c.usageIssues u with
  | error e =>
    rw [hi] at h
    cases h
  | ok l =>
    rw [hi] at h
    cases h
    exact (usageIssues_judges hi).valid_iff strict

/-- A slider that shows no more than ten marks, and where it shows more than five needs a round grip. -/
def slider : Component where
  name := "Slider"
  description := none
  properties := .ofList [("marks", ⟨.number none (some (.int 0)) (some (.int 10)), true, none⟩),
    ("grip", ⟨.enum ["round", "flat"] none, false, none⟩),
    ("locked", ⟨.boolean none, false, none⟩)]
  constraints := [
    { trigger := .ofList [("marks", .compares .greater (.number (.int 5)))]
      consequence := .require (.ofList [("grip", [.text "round"])])
      suggest := none
      message := none },
    { trigger := .ofList [("locked", .equals (.bool true))]
      consequence := .forbid ["label", "grip = flat"]
      suggest := none
      message := none }]
  mappings := ∅
  baseStyles := none

def sliderUsage (grip : String) : Usage where
  component := "Slider"
  props := .ofList [("marks", .literal (.number (.int 7))), ("grip", .literal (.text grip)),
    ("locked", .dynamic "busy"), ("onSlide", .dynamic "move")]
  location := none

theorem exists_verdict {r : Except Unfit Verdict} {valid : Bool}
    (h : r.toOption.map Verdict.valid = some valid) :
    ∃ verdict, r = .ok verdict ∧ verdict.valid = valid := by
  cases r with
  | error e => cases h
  | ok verdict => exact ⟨verdict, rfl, Option.some.inj h⟩

theorem checkUsage_valid_iff_slider :
    (∃ verdict, slider.checkUsage (sliderUsage "round") false = .ok verdict ∧
      verdict.valid = true ∧ slider.Accepts (sliderUsage "round")) ∧
    ∃ verdict, slider.checkUsage (sliderUsage "flat") false = .ok verdict ∧
      verdict.valid = false ∧ ¬ slider.Accepts (sliderUsage "flat") := by
  obtain ⟨good, hg, hgood⟩ : ∃ verdict,
      slider.checkUsage (sliderUsage "round") false = .ok verdict ∧ verdict.valid = true :=
    exists_verdict (by decide +kernel)
  obtain ⟨bad, hb, hbad⟩ : ∃ verdict,
      slider.checkUsage (sliderUsage "flat") false = .ok verdict ∧ verdict.valid = false :=
    exists_verdict (by decide +kernel)
  refine ⟨⟨good, hg, hgood, (checkUsage_valid_iff hg).mp hgood⟩, bad, hb, hbad, fun ha => ?_⟩
  rw [(checkUsage_valid_iff hb).mpr ha] at hbad
  cases hbad

end Component

end Stylebook
