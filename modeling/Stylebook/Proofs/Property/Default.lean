import Stylebook.Check.Schema
import Stylebook.Proofs.Number.Exact
import Stylebook.Proofs.Property.Membership

/-!
Defaults are judged twice: by the check of a system, and where a usage writes them out. The former compares
a number as it is and the latter its nearest binary64 number, so large integers may be judged differently.
-/

namespace Stylebook

open Binary64

/-- A number is not below the least value that is allowed, if there is one, nor above the greatest. -/
def Number.IsWithin (lo hi : Option Number) (n : Number) : Prop :=
  (∀ l, lo = some l → n.lt l = false) ∧ ∀ h, hi = some h → h.lt n = false

theorem Number.isWithin_congr {m n : Number} {lo hi : Option Number}
    (h : ∀ z, compare? m z = compare? n z ∧ compare? z m = compare? z n) :
    m.IsWithin lo hi ↔ n.IsWithin lo hi := by
  have hlt (z : Number) : m.lt z = n.lt z ∧ z.lt m = z.lt n := by simp only [lt, h z, and_self]
  simp only [IsWithin, hlt]

namespace Domain

variable {name path : String} {d : Domain} {lo hi : Option Number} {v : Value}

theorem rangeIssues_eq_nil_iff {x : Binary64} :
    rangeIssues name path lo hi x = .ok [] ↔ (Number.float x).IsWithin lo hi := by
  constructor
  · intro h
    exact (rangeIssues_judges h).clear_iff.mp (by simp)
  · rintro ⟨hl, hh⟩
    have hlo : lo.filter (fun l => (Number.float x).lt l) = none := by
      rw [Option.filter_eq_none_iff]
      intro l h
      simp [hl l h]
    have hhi : hi.filter (fun h => h.lt (.float x)) = none := by
      rw [Option.filter_eq_none_iff]
      intro l h
      simp [hh l h]
    rw [rangeIssues, hlo, hhi]
    rfl

theorem numberIssues_eq_nil_iff : numberIssues name path lo hi v = .ok [] ↔
    ∃ x, v.Denotes x ∧ (Number.float x).IsWithin lo hi := by
  constructor
  · intro h
    exact (numberIssues_judges h).clear_iff.mp (by simp)
  · rintro ⟨x, hx, hr⟩
    rw [numberIssues, asNumber_eq_some_iff.mpr hx]
    exact rangeIssues_eq_nil_iff.mpr hr

theorem enumIssues_text_eq_nil_iff {values : List String} {s : String} :
    enumIssues name path values (.text s) = .ok [] ↔ values.contains s = true := by
  have hw : (Value.text s).isWritable = true := rfl
  rw [enumIssues, hw, Value.plain]
  cases values.contains s <;> simp

theorem admitsDefault_number_iff {n : Number} :
    (number (some n) lo hi).admitsDefault = true ↔ n.IsWithin lo hi := by
  cases lo <;> cases hi <;> simp [admitsDefault, Number.IsWithin]

/-- An integer default that has no binary64 number near it, or one on the other side of a bound. -/
inductive Displaces : Domain → Prop
  | tooLarge {i : Int} {lo hi : Option Number} (h : overflowBound ≤ i.natAbs)
      (hr : (Number.int i).IsWithin lo hi) :
      Displaces (.number (some (.int i)) lo hi)
  | rounded {i : Int} {x : Binary64} {lo hi : Option Number} (hx : ofInt? i = some x)
      (hr : ¬ ((Number.int i).IsWithin lo hi ↔ (Number.float x).IsWithin lo hi)) :
      Displaces (.number (some (.int i)) lo hi)

theorem exists_denotes_int_iff {i : Int} {P : Binary64 → Prop} :
    (∃ x, (Value.number (.int i)).Denotes x ∧ P x) ↔ ∃ x, ofInt? i = some x ∧ P x := by
  constructor
  · rintro ⟨x, hx, hp⟩
    cases hx with
    | int hx => exact ⟨x, hx, hp⟩
  · rintro ⟨x, hx, hp⟩
    exact ⟨x, .int hx, hp⟩

theorem displaces_int_iff {i : Int} : (number (some (.int i)) lo hi).Displaces ↔
    ¬ ((Number.int i).IsWithin lo hi ↔ ∃ x, ofInt? i = some x ∧ (Number.float x).IsWithin lo hi) := by
  cases hx : ofInt? i with
  | none =>
    have hlarge : overflowBound ≤ i.natAbs := ofInt?_eq_none_iff.mp hx
    constructor
    · intro h
      cases h with
      | tooLarge _ hr => simp [hr]
      | rounded hx' => exact absurd (hx.symm.trans hx') nofun
    · intro h
      exact .tooLarge hlarge (by simpa using h)
  | some x =>
    constructor
    · intro h
      cases h with
      | tooLarge hlarge => exact absurd (hx.symm.trans (ofInt?_eq_none_iff.mpr hlarge)) nofun
      | rounded hx' hr =>
        cases hx.symm.trans hx'
        simpa using hr
    · intro h
      exact .rounded hx (by simpa using h)

/-- A default and the value that writes it out are judged alike unless it is displaced. -/
theorem admitsDefault_iff_of_default (hv : d.default? = some v) :
    (d.admitsDefault = true ↔ d.valueIssues name path (.literal v) = .ok []) ↔ ¬ d.Displaces := by
  cases d with
  | enum values default =>
    obtain ⟨s, rfl, rfl⟩ := Option.map_eq_some_iff.mp hv
    refine iff_of_true enumIssues_text_eq_nil_iff.symm fun h => ?_
    cases h
  | boolean default =>
    obtain ⟨b, rfl, rfl⟩ := Option.map_eq_some_iff.mp hv
    refine iff_of_true ?_ fun h => by cases h
    simp [admitsDefault, valueIssues, literalIssues, booleanIssues]
  | number default lo hi =>
    obtain ⟨n, rfl, rfl⟩ := Option.map_eq_some_iff.mp hv
    have hissues : (number (some n) lo hi).valueIssues name path (.literal (.number n)) = .ok [] ↔
        ∃ x, (Value.number n).Denotes x ∧ (Number.float x).IsWithin lo hi := numberIssues_eq_nil_iff
    rw [admitsDefault_number_iff, hissues]
    cases n with
    | int i => rw [exists_denotes_int_iff, displaces_int_iff, Classical.not_not]
    | float x =>
      refine iff_of_true ⟨fun h => ⟨x, .float x, h⟩, ?_⟩ fun h => by cases h
      rintro ⟨y, hy, h⟩
      cases hy
      exact h
  | string default =>
    obtain ⟨s, rfl, rfl⟩ := Option.map_eq_some_iff.mp hv
    refine iff_of_true ?_ fun h => by cases h
    simp [admitsDefault, valueIssues, literalIssues]

theorem Displaces.exists_default (h : d.Displaces) :
    ∃ i, d.default? = some (.int i) ∧ twoPow 53 < i.natAbs := by
  obtain ⟨i, lo, hi, rfl⟩ : ∃ i lo hi, d = .number (some (.int i)) lo hi := by
    cases h <;> exact ⟨_, _, _, rfl⟩
  refine ⟨i, rfl, Nat.lt_of_not_le fun hle => ?_⟩
  obtain ⟨x, hx, hsame⟩ := exists_ofInt?_eq hle
  refine displaces_int_iff.mp h ?_
  simp [hx, Number.isWithin_congr hsame]

end Domain

section Codes

variable {c : Component} {d : Domain} {i j : Issue} {name path key : String} {P : Prop} [Decidable P]

theorem eq_of_mem_unless (h : i ∈ if P then [] else [j]) : i = j := by
  split at h
  · cases h
  · exact List.mem_singleton.mp h

theorem eq_of_mem_when (h : i ∈ if P then [j] else []) : i = j := by
  split at h
  · exact List.mem_singleton.mp h
  · cases h

theorem code_of_mem_tokens {tokens : Tokens} (h : i ∈ tokens.issues) : i.code ≠ .invalidDefault := by
  obtain ⟨t, -, hi⟩ := List.mem_flatMap.mp h
  rw [tokenIssues, List.mem_append] at hi
  rcases hi with hi | hi
  · rw [eq_of_mem_unless hi]
    nofun
  · rw [eq_of_mem_when hi]
    nofun

theorem code_of_mem_unknownIssues {code : IssueCode} {wording : String} {names : List String}
    (h : i ∈ c.unknownIssues code wording path names) : i.code = code := by
  obtain ⟨p, -, rfl⟩ := List.mem_map.mp h
  rfl

theorem code_of_mem_referenceIssues (h : i ∈ c.referenceIssues path) : i.code ≠ .invalidDefault := by
  rw [Component.referenceIssues, List.mem_append, List.mem_flatMap, List.mem_flatMap] at h
  rcases h with ⟨r, -, h⟩ | ⟨e, -, h⟩
  · rw [Component.constraintReferences, List.mem_append, List.mem_append] at h
    rcases h with (h | h) | h <;> simp [code_of_mem_unknownIssues h]
  · simp [code_of_mem_unknownIssues h]

theorem code_of_mem_rangeIssues {lo hi : Option Number} (h : i ∈ Property.rangeIssues path lo hi) :
    i.code = .invalidRange := by
  cases lo with
  | none => cases h
  | some l =>
    cases hi with
    | none => cases h
    | some u => rw [eq_of_mem_when h]

theorem code_of_mem_domainIssues (h : i ∈ Property.domainIssues name path d) :
    i.code ∈ [.emptyEnum, .invalidEnumValue, .invalidRange] := by
  cases d with
  | enum values default =>
    rw [Property.domainIssues, Property.enumIssues, List.mem_append, List.mem_map] at h
    rcases h with h | ⟨v, -, rfl⟩
    · simp [eq_of_mem_when h]
    · simp
  | number default lo hi => simp [code_of_mem_rangeIssues h]
  | boolean | string => cases h

/-- Nothing but a default outside of its domain makes the check of a property say so. -/
theorem Property.forall_issues_iff {p : Property} :
    (∀ i ∈ p.issues name path, i.code ≠ .invalidDefault) ↔ p.domain.admitsDefault = true := by
  have hname : ∀ i ∈ Property.nameIssues name path, i.code ≠ .invalidDefault := by
    intro i hi
    rw [eq_of_mem_unless hi]
    nofun
  have hdefault : (∀ i ∈ Property.defaultIssues name path p.domain, i.code ≠ .invalidDefault) ↔
      p.domain.admitsDefault = true := by
    rw [Property.defaultIssues]
    cases p.domain.admitsDefault <;> simp
  rw [Property.issues, List.forall_mem_append, List.forall_mem_append, hdefault]
  have hdomain : ∀ i ∈ Property.domainIssues name path p.domain, i.code ≠ .invalidDefault := by
    intro i hi hcode
    have hmem := code_of_mem_domainIssues hi
    rw [hcode] at hmem
    exact absurd hmem (by decide)
  exact ⟨fun h => h.2, fun h => ⟨⟨hname, hdomain⟩, h⟩⟩

theorem Component.forall_issues_iff : (∀ i ∈ c.issues key, i.code ≠ .invalidDefault) ↔
    ∀ e ∈ c.properties.entries, e.2.domain.admitsDefault = true := by
  simp only [Component.issues, List.forall_mem_append, List.forall_mem_flatMap, Property.forall_issues_iff]
  refine ⟨fun h => h.1.2, fun h => ⟨⟨fun i hi => ?_, h⟩, fun i => code_of_mem_referenceIssues⟩⟩
  rw [eq_of_mem_unless hi]
  nofun

theorem DesignSystem.forall_issues_iff {s : DesignSystem} :
    (∀ i ∈ s.issues, i.code ≠ .invalidDefault) ↔
      ∀ c ∈ s.components.entries, ∀ e ∈ c.2.properties.entries, e.2.domain.admitsDefault = true := by
  simp only [DesignSystem.issues, List.forall_mem_append, List.forall_mem_flatMap,
    Component.forall_issues_iff]
  exact ⟨fun h => h.2, fun h => ⟨fun i => code_of_mem_tokens, h⟩⟩

end Codes

theorem Domain.admitsDefault_of_none {d : Domain} (h : d.default? = none) : d.admitsDefault = true := by
  cases d with
  | enum | number =>
    obtain rfl := Option.map_eq_none_iff.mp h
    rfl
  | boolean | string => rfl

/-- A default that is written out is judged as the check of systems judges the default itself, unless it is
an integer that is displaced on the way, which no integer up to `2 ^ 53` is. So the check of a system without
such integers finds fault with no default exactly if every default may be written out. -/
theorem default_judged_alike {d : Domain} {v : Value} (hv : d.default? = some v) (name path : String) :
    ((d.admitsDefault = true ↔ d.valueIssues name path (.literal v) = .ok []) ↔ ¬ d.Displaces) ∧
    (d.Displaces → ∃ i, v = .int i ∧ twoPow 53 < i.natAbs) ∧
    ∀ s : DesignSystem,
      (∀ c ∈ s.components.entries, ∀ e ∈ c.2.properties.entries, ¬ e.2.domain.Displaces) →
      ((∀ i ∈ s.issues, i.code ≠ .invalidDefault) ↔
        ∀ c ∈ s.components.entries, ∀ e ∈ c.2.properties.entries, ∀ v,
          e.2.domain.default? = some v → ∀ path, e.2.domain.valueIssues e.1 path (.literal v) = .ok []) := by
  refine ⟨Domain.admitsDefault_iff_of_default hv, fun h => ?_, fun s hs => ?_⟩
  · obtain ⟨i, hi, hlt⟩ := h.exists_default
    exact ⟨i, Option.some.inj (hv.symm.trans hi), hlt⟩
  · rw [DesignSystem.forall_issues_iff]
    refine forall₂_congr fun c hc => forall₂_congr fun e he => ?_
    have hkept := hs c hc e he
    constructor
    · intro h v hv path
      exact ((Domain.admitsDefault_iff_of_default hv).mpr hkept).mp h
    · intro h
      cases hv : e.2.domain.default? with
      | none => exact Domain.admitsDefault_of_none hv
      | some v => exact ((Domain.admitsDefault_iff_of_default hv).mpr hkept).mpr (h v hv "")

/-- Its successor is the first integer that no binary64 number equals. -/
def lastExact : Int := .ofNat (twoPow 53)

/-- A scale that has its greatest value by itself. -/
def scaleDomain (greatest : Int) : Domain := .number (some (.int lastExact)) none (some (.int greatest))

def scales (greatest : Int) : DesignSystem :=
  ⟨"acme", none, ∅, none, .ofList [("Scale", {
    name := "Scale"
    description := none
    properties := .ofList [("size", ⟨scaleDomain greatest, false, none⟩)]
    constraints := []
    mappings := ∅
    baseStyles := none })], .default⟩

theorem default_judged_alike_scales :
    (scaleDomain lastExact).default? = some (.int lastExact) ∧ ¬ (scaleDomain lastExact).Displaces ∧
      (scaleDomain lastExact).valueIssues "size" "Scale" (.literal (.int lastExact)) = .ok [] ∧
      (∀ i ∈ (scales lastExact).issues, i.code ≠ .invalidDefault) ∧
      ¬ (scaleDomain (lastExact - 1)).Displaces ∧
      (scaleDomain (lastExact - 1)).valueIssues "size" "Scale" (.literal (.int lastExact)) ≠ .ok [] := by
  have halike (greatest : Int) (path : String) :=
    default_judged_alike (show (scaleDomain greatest).default? = some (.int lastExact) from rfl) "size" path
  have hkept (greatest : Int) : ¬ (scaleDomain greatest).Displaces := by
    intro h
    obtain ⟨i, hi, hlt⟩ := (halike greatest "").2.1 h
    obtain rfl : lastExact = i := by simpa [Value.int] using hi
    exact absurd hlt (by decide +kernel)
  have hissues (greatest : Int) (path : String) : (scaleDomain greatest).admitsDefault = true ↔
      (scaleDomain greatest).valueIssues "size" path (.literal (.int lastExact)) = .ok [] :=
    (halike greatest path).1.mpr (hkept greatest)
  have hsound : ∀ c ∈ (scales lastExact).components.entries, ∀ e ∈ c.2.properties.entries,
      ¬ e.2.domain.Displaces := by
    rintro c (_ | ⟨_, ⟨⟩⟩) e (_ | ⟨_, ⟨⟩⟩)
    exact hkept _
  have hwritten : ∀ c ∈ (scales lastExact).components.entries, ∀ e ∈ c.2.properties.entries, ∀ v,
      e.2.domain.default? = some v → ∀ path, e.2.domain.valueIssues e.1 path (.literal v) = .ok [] := by
    rintro c (_ | ⟨_, ⟨⟩⟩) e (_ | ⟨_, ⟨⟩⟩) v ⟨⟩ path
    exact (hissues lastExact path).mp (by decide +kernel)
  have hnone := ((halike lastExact "").2.2 (scales lastExact) hsound).mpr hwritten
  refine ⟨rfl, hkept _, (hissues _ _).mp (by decide +kernel), hnone, hkept _, ?_⟩
  exact fun h => absurd ((hissues _ _).mpr h) (by decide +kernel)

/-- A default that is the least value itself is reported where it is written out, one beyond the greatest
value is not, and at one that is too large the check stops. -/
theorem default_judged_apart :
    (Domain.number (some (.int (lastExact + 1))) (some (.int (lastExact + 1))) none).admitsDefault = true ∧
    (∀ name path, (Domain.number (some (.int (lastExact + 1))) (some (.int (lastExact + 1))) none).valueIssues
      name path (.literal (.int (lastExact + 1))) ≠ .ok []) ∧
    (Domain.number (some (.int (lastExact + 1))) none (some (.int lastExact))).admitsDefault = false ∧
    (∀ name path, (Domain.number (some (.int (lastExact + 1))) none (some (.int lastExact))).valueIssues
      name path (.literal (.int (lastExact + 1))) = .ok []) ∧
    (Domain.number (some (.int (.ofNat (tenPow 309)))) none none).admitsDefault = true ∧
    ∀ name path, (Domain.number (some (.int (.ofNat (tenPow 309)))) none none).valueIssues
      name path (.literal (.int (.ofNat (tenPow 309)))) = .error (.tooLarge (.ofNat (tenPow 309))) := by
  have hnear : ofInt? (lastExact + 1) = some (.finite false 4503599627370496 1) := by decide +kernel
  have hlarge : ofInt? (.ofNat (tenPow 309)) = none := by decide +kernel
  refine ⟨by decide +kernel, fun name path h => ?_, by decide +kernel, fun name path => ?_, rfl,
    fun name path => ?_⟩
  · obtain ⟨x, hx, hlo, -⟩ := Domain.exists_denotes_int_iff.mp (Domain.numberIssues_eq_nil_iff.mp h)
    cases hnear.symm.trans hx
    exact absurd (hlo _ rfl) (by decide +kernel)
  · refine Domain.numberIssues_eq_nil_iff.mpr ⟨_, .int hnear, nofun, ?_⟩
    rintro h ⟨⟩
    decide +kernel
  · have hnumber : asNumber (.int (.ofNat (tenPow 309))) = .error (.tooLarge (.ofNat (tenPow 309))) := by
      rw [Value.int, asNumber, hlarge]
    rw [Domain.valueIssues, Domain.literalIssues, Domain.numberIssues, hnumber]
    rfl

end Stylebook
