import Stylebook.Check.Usage

/-!
When the passes over a usage come to an end, and what they give then.
-/

namespace Stylebook.Component

variable {c : Component} {u : Usage}

theorem mem_missing_iff {e : String × Property} : e ∈ c.missing u ↔
    c.properties.get? e.1 = some e.2 ∧ e.2.required = true ∧ e.1 ∉ u.props.keys := by
  rw [missing, List.mem_filter, Dict.get?_eq_some_iff, Bool.and_eq_true, Bool.not_eq_true',
    ← Dict.contains_iff, Bool.not_eq_true]

theorem valueIssues_cons_eq_ok_iff {name : String} {v : PropValue} {rest : List (String × PropValue)}
    {l : List Issue} :
    c.valueIssues u ((name, v) :: rest) = .ok l ↔
      ∃ first others, c.propIssues u name v = .ok first ∧ c.valueIssues u rest = .ok others ∧
        first ++ others = l := by
  rw [valueIssues]
  cases hf : c.propIssues u name v with
  | error e => simp [bind, Except.bind]
  | ok first =>
    cases ho : c.valueIssues u rest with
    | error e => simp [bind, Except.bind]
    | ok others => simp [bind, Except.bind, pure, Except.pure]

/-- A rule can be looked at if it can be told whether it fires and, where it does, its issues can be
put into words. -/
theorem ruleUnfit?_eq_none_iff {rule : Constraint} :
    ruleUnfit? u rule = none ↔ isDecided u.props rule.trigger.entries = true ∧
      (rule.fires u.props = true → rule.hasWording = true ∧ rule.isSettled u.props = true) := by
  have hworded : rule.fault? = none ↔ rule.hasWording = true := by
    rw [Constraint.hasWording, Option.isNone_iff_eq_none]
  rw [ruleUnfit?]
  cases isDecided u.props rule.trigger.entries <;> cases rule.fires u.props <;> simp [hworded]

theorem ruleIssues_eq_ok_iff {l : List Issue} :
    c.ruleIssues u = .ok l ↔ u.isPlaced = true ∧
      (∀ rule ∈ c.constraints, ruleUnfit? u rule = none) ∧ c.constraintIssues u = l := by
  rw [ruleIssues, Unfit.guard_eq_ok_iff, Option.or_eq_none_iff, Unfit.unlessShort_eq_none_iff,
    List.findSome?_eq_none_iff, and_assoc]

theorem usageIssues_eq_ok_iff {l : List Issue} :
    c.usageIssues u = .ok l ↔ u.isPlaced = true ∧ (∀ e ∈ c.missing u, e.2.domain.isProposable = true) ∧
      ∃ values rules, c.valueIssues u u.props.entries = .ok values ∧ c.ruleIssues u = .ok rules ∧
        c.missingIssues u ++ c.unknownPropIssues u ++ values ++ rules = l := by
  have hany : (!u.isPlaced || (c.missing u).any fun e => !e.2.domain.isProposable) = false ↔
      u.isPlaced = true ∧ ∀ e ∈ c.missing u, e.2.domain.isProposable = true := by simp
  rw [← and_assoc, ← hany, usageIssues]
  cases !u.isPlaced || (c.missing u).any fun e => !e.2.domain.isProposable with
  | true => simp [bind, Except.bind, throw, throwThe, MonadExceptOf.throw]
  | false =>
    cases c.valueIssues u u.props.entries with
    | error e => simp [bind, Except.bind]
    | ok values =>
      cases c.ruleIssues u with
      | error e => simp [bind, Except.bind]
      | ok rules => simp [bind, Except.bind, pure, Except.pure]

theorem checkUsage_eq_ok_iff {strict : Bool} {verdict : Verdict} :
    c.checkUsage u strict = .ok verdict ↔
      ∃ l, c.usageIssues u = .ok l ∧ Verdict.ofIssues l strict = verdict := by
  rw [checkUsage]
  cases c.usageIssues u <;> simp [Except.map]

end Stylebook.Component
