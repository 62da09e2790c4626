import Stylebook.Build
import Stylebook.Proofs.Manifest.Example

/-!
When a manifest comes to an end, and with it a build. The examples of a component never keep a manifest from
it: the rules are put into words before, and where that can be done the rules can be looked at for every
example.
-/

namespace Stylebook

theorem Unfit.guard_eq_error_iff {α : Type} {fault : Option Unfit} {a : α} {e : Unfit} :
    guard fault a = .error e ↔ fault = some e := by
  cases fault <;> simp [guard]

namespace Component

variable {c : Component} {e : Unfit}

/-- What keeps the rules of a component from being put into words: the fault of the first that has one. -/
def wordingFault? (c : Component) : Option Unfit := c.constraints.findSome? Constraint.fault?

theorem wordingFault?_eq_none_iff :
    c.wordingFault? = none ↔ ∀ rule ∈ c.constraints, rule.hasWording = true := by
  rw [wordingFault?, List.findSome?_eq_none_iff]
  simp only [Constraint.hasWording, Option.isNone_iff_eq_none]

theorem manifestEntry_eq_error_iff (c : Component) (name : String) (e : Unfit) :
    c.manifestEntry name = .error e ↔ c.wordingFault? = some e := by
  have hwords (e : Unfit) : c.constraints.mapM Constraint.described = .error e ↔ c.wordingFault? = some e :=
    mapM_eq_error_iff (fun _ _ => Unfit.guard_eq_error_iff) e
  rw [manifestEntry]
  cases hw : c.constraints.mapM Constraint.described with
  | error d =>
    rw [(hwords d).mp hw]
    simp [bind, Except.bind]
  | ok words =>
    have hnone := (exists_ok_iff hwords).mp ⟨words, hw⟩
    obtain ⟨shown, hs⟩ := exists_examples (wordingFault?_eq_none_iff.mp hnone) name
    rw [hnone, hs]
    simp [bind, Except.bind, pure, Except.pure]

end Component

namespace DesignSystem

variable {s : DesignSystem} {o : BuildOptions}

/-- What keeps a system from being described: the first rule that cannot be put into words, of the first
component that has one, or else a token that is too long. -/
def descriptionFault? (s : DesignSystem) : Option Unfit :=
  (s.components.values.findSome? Component.wordingFault?).or (Unfit.unlessShort s.tokens.areWritable)

theorem manifest_eq_error_iff (s : DesignSystem) (e : Unfit) :
    s.manifest = .error e ↔ s.descriptionFault? = some e := by
  have hentries (e : Unfit) : (s.components.entries.mapM fun e => e.2.manifestEntry e.1) = .error e ↔
      s.components.values.findSome? Component.wordingFault? = some e := by
    rw [Dict.values, List.findSome?_map]
    exact mapM_eq_error_iff (fun a _ => a.2.manifestEntry_eq_error_iff a.1 _) e
  rw [manifest, descriptionFault?]
  cases hc : s.components.entries.mapM fun e => e.2.manifestEntry e.1 with
  | error d =>
    rw [(hentries d).mp hc]
    simp [bind, Except.bind]
  | ok components =>
    rw [(exists_ok_iff hentries).mp ⟨components, hc⟩, Option.none_or, described]
    cases Unfit.unlessShort s.tokens.areWritable <;> simp [bind, Except.bind, Unfit.guard, pure, Except.pure]

/-- All tokens can be written, and all rules be put into words. -/
structure CanDescribe (s : DesignSystem) : Prop where
  tokens : s.tokens.areWritable = true
  rules : ∀ c ∈ s.components.values, ∀ rule ∈ c.constraints, rule.hasWording = true

theorem exists_manifest_iff : (∃ m, s.manifest = .ok m) ↔ s.CanDescribe := by
  rw [exists_ok_iff s.manifest_eq_error_iff, descriptionFault?, Option.or_eq_none_iff,
    List.findSome?_eq_none_iff, Unfit.unlessShort_eq_none_iff]
  simp only [Component.wordingFault?_eq_none_iff]
  exact ⟨fun ⟨hr, ht⟩ => ⟨ht, hr⟩, fun h => ⟨h.rules, h.tokens⟩⟩

theorem manifest_withPrefix? (p : Option String) : (s.withPrefix? p).manifest = s.manifest := by
  cases p with
  | none => rfl
  | some p =>
    rw [withPrefix?]
    split <;> rfl

theorem sheetWritable_withPrefix? (p : Option String) :
    (s.withPrefix? p).sheetWritable = s.sheetWritable := by
  cases p with
  | none => rfl
  | some p =>
    rw [withPrefix?]
    split <;> rfl

/-- A strict build of a system with a bad verdict. -/
def Withheld (s : DesignSystem) (o : BuildOptions) : Prop :=
  o.strict.getD s.settings.strict = true ∧ (s.check (some (o.strict.getD s.settings.strict))).valid = false

/-- What a build writes can be written: issues and manifest, and the stylesheet unless it is held back. -/
structure CanBuild (s : DesignSystem) (o : BuildOptions) : Prop where
  issues : s.isReportable = true
  manifest : s.CanDescribe
  sheet : ¬ s.Withheld o → s.sheetWritable = true

/-- A build that comes to an end holds the stylesheet back, or has it as it is written. -/
theorem build_eq_ok_iff {b : Build} : s.build o = .ok b ↔ s.isReportable = true ∧
    ∃ m, s.manifest = .ok m ∧
      let verdict := s.check (some (o.strict.getD s.settings.strict))
      let errors := verdict.errors.map Issue.line
      let warnings := verdict.warnings.map Issue.line
      (s.Withheld o ∧ ⟨false, "", m, errors, warnings⟩ = b ∨
        ¬ s.Withheld o ∧ s.sheetWritable = true ∧
          ⟨errors.isEmpty, (s.withPrefix? o.cssPrefix).css o.short, m, errors, warnings⟩ = b) := by
  have hwithheld : s.Withheld o ↔ (o.strict.getD s.settings.strict &&
      !(s.check (some (o.strict.getD s.settings.strict))).valid) = true := by
    rw [Withheld, Bool.and_eq_true, Bool.not_eq_true']
  rw [build, checked, hwithheld]
  cases s.isReportable with
  | false => simp [Unfit.unlessShort, Unfit.guard, bind, Except.bind]
  | true =>
    simp only [Unfit.unlessShort, Unfit.guard, bind, Except.bind, if_true, manifest_withPrefix?, stylesheet,
      sheetWritable_withPrefix?]
    cases o.strict.getD s.settings.strict &&
      !(s.check (some (o.strict.getD s.settings.strict))).valid with
    | true => cases s.manifest <;> simp [pure, Except.pure]
    | false => cases s.sheetWritable <;> cases s.manifest <;> simp [pure, Except.pure]

theorem exists_build_iff : (∃ b, s.build o = .ok b) ↔ s.CanBuild o := by
  simp only [build_eq_ok_iff]
  constructor
  · rintro ⟨b, hr, m, hm, h⟩
    refine ⟨hr, exists_manifest_iff.mp ⟨m, hm⟩, fun hn => ?_⟩
    obtain ⟨hw, -⟩ | ⟨-, hsheet, -⟩ := h
    · exact absurd hw hn
    · exact hsheet
  · intro h
    obtain ⟨m, hm⟩ := exists_manifest_iff.mpr h.manifest
    by_cases hw : s.Withheld o
    · exact ⟨_, h.issues, m, hm, .inl ⟨hw, rfl⟩⟩
    · exact ⟨_, h.issues, m, hm, .inr ⟨hw, h.sheet hw, rfl⟩⟩

end DesignSystem

end Stylebook
