import Stylebook.Proofs.Constraint.Decision
import Stylebook.Proofs.Number.Overflow
import Stylebook.Proofs.Traversal
import Stylebook.Proofs.Usage.Acceptance

/-!
When the checks of usages come to an end: nothing but integers that are too large, and rules that compare with
what JSON has no form for, can keep them from it.
-/

namespace Stylebook

/-- Can a domain be asked about a known value? -/
def Domain.CanJudge (d : Domain) (v : Value) : Prop :=
  match d with
  | .enum _ _ => v.isWritable = true
  | .number _ lo hi => (∀ i, v = .number (.int i) → i.natAbs < Binary64.overflowBound) ∧
      ∀ x, v.Denotes x → (∀ l, lo = some l → (Number.float x).lt l = true → l.isWritable = true) ∧
        ∀ h, hi = some h → h.lt (.float x) = true → h.isWritable = true
  | _ => True

/-- Can a rule be looked at? Its conditions are looked at up to the first that is not met. -/
structure Constraint.CanJudge (rule : Constraint) (props : Props) : Prop where
  compared : ∀ front name c back, rule.trigger.entries = front ++ (name, c) :: back →
    (∀ e ∈ front, e.2.Met (props.get? e.1)) →
      ∀ v, (props.get? name).bind PropValue.known? = some v → c.isComparable v = true
  worded : rule.Triggered props → rule.hasWording = true
  banned : rule.Triggered props → ∀ b ∈ rule.consequence.bans, b.value ≠ none →
    ∀ v, props.get? b.property = some (.literal v) → v.isWritable = true
  demanded : rule.Triggered props → ∀ name ∈ rule.consequence.demanded.keys,
    ∀ v, props.get? name = some (.literal v) → v.isWritable = true

structure Component.CanJudge (c : Component) (props : Props) : Prop where
  defaults : ∀ name p, c.properties.get? name = some p → p.required = true → name ∉ props.keys →
    p.domain.isProposable = true
  values : ∀ name p v, c.properties.get? name = some p → props.get? name = some (.literal v) →
    p.domain.CanJudge v
  rules : ∀ rule ∈ c.constraints, rule.CanJudge props

theorem exists_mapM_filter_iff {α β : Type} {p : α → Bool} {f : α → Except Unfit β}
    {o : Option α} :
    (∃ l, (o.filter p).mapM f = .ok l) ↔ ∀ a, o = some a → p a = true → ∃ b, f a = .ok b := by
  cases o with
  | none => exact ⟨fun _ _ h => (nomatch h), fun _ => ⟨none, rfl⟩⟩
  | some a =>
    cases hp : p a with
    | false => simp [Option.filter, hp, pure, Except.pure]
    | true =>
      cases hf : f a with
      | error e => simp [Option.filter, hp, hf]
      | ok b => simp [Option.filter, hp, hf]

namespace Domain

variable {name path : String} {d : Domain} {v : Value}

theorem exists_rangeIssue_iff {relation : String} {bound : Number} {x : Binary64} :
    (∃ i, rangeIssue name path relation bound x = .ok i) ↔ bound.isWritable = true := by
  rw [rangeIssue]
  cases bound.isWritable <;> simp

theorem exists_rangeIssues_iff {lo hi : Option Number} {x : Binary64} :
    (∃ l, rangeIssues name path lo hi x = .ok l) ↔
      (∀ l, lo = some l → (Number.float x).lt l = true → l.isWritable = true) ∧
        ∀ h, hi = some h → h.lt (.float x) = true → h.isWritable = true := by
  have hlo := exists_mapM_filter_iff (p := fun l => (Number.float x).lt l)
    (f := fun l => rangeIssue name path ">=" l x) (o := lo)
  have hhi := exists_mapM_filter_iff (p := fun h => h.lt (.float x))
    (f := fun h => rangeIssue name path "<=" h x) (o := hi)
  simp only [exists_rangeIssue_iff] at hlo hhi
  rw [← hlo, ← hhi, rangeIssues]
  cases (lo.filter fun l => (Number.float x).lt l).mapM fun l => rangeIssue name path ">=" l x with
  | error e => simp [bind, Except.bind]
  | ok below =>
    cases (hi.filter fun h => h.lt (.float x)).mapM fun h => rangeIssue name path "<=" h x with
    | error e => simp [bind, Except.bind]
    | ok above => simp [bind, Except.bind, pure, Except.pure]

theorem exists_asNumber_iff : (∃ o, asNumber v = .ok o) ↔
    ∀ i, v = .number (.int i) → i.natAbs < Binary64.overflowBound := by
  cases v with
  | number n =>
    cases n with
    | int i =>
      have hi := Binary64.ofInt?_eq_none_iff (i := i)
      rw [asNumber]
      cases ho : Binary64.ofInt? i with
      | none => simpa using hi.mp ho
      | some x =>
        rw [ho] at hi
        simpa using hi
    | float x => simp [asNumber]
  | _ => simp [asNumber]

theorem exists_numberIssues_iff {lo hi : Option Number} :
    (∃ l, numberIssues name path lo hi v = .ok l) ↔ (∃ o, asNumber v = .ok o) ∧
      ∀ x, v.Denotes x → ∃ l, rangeIssues name path lo hi x = .ok l := by
  simp only [← asNumber_eq_some_iff]
  rw [numberIssues]
  cases asNumber v with
  | error e => simp [bind, Except.bind]
  | ok o => cases o <;> simp [bind, Except.bind, pure, Except.pure]

theorem exists_literalIssues_iff : (∃ l, d.literalIssues name path v = .ok l) ↔ d.CanJudge v := by
  cases d with
  | enum values default =>
    rw [literalIssues, enumIssues, CanJudge]
    cases v.isWritable <;> cases values.contains v.plain <;> simp
  | boolean default => simp [literalIssues, CanJudge]
  | number default lo hi =>
    rw [literalIssues, exists_numberIssues_iff, exists_asNumber_iff, CanJudge]
    simp only [exists_rangeIssues_iff]
  | string default => simp [literalIssues, CanJudge]

theorem exists_valueIssues_iff {w : PropValue} :
    (∃ l, d.valueIssues name path w = .ok l) ↔ ∀ v, w = .literal v → d.CanJudge v := by
  cases w with
  | literal v => simp [valueIssues, exists_literalIssues_iff]
  | dynamic s => simp [valueIssues]
  | nested fields => cases d <;> simp [valueIssues]

end Domain

theorem Condition.isDecided_iff {c : Condition} {prop : Option PropValue} : c.isDecided prop = true ↔
    ∀ v, prop.bind PropValue.known? = some v → c.isComparable v = true := by
  rw [isDecided]
  cases prop.bind PropValue.known? <;> simp

namespace Constraint

variable {rule : Constraint} {props : Props}

/-- It is told whether conditions hold if each that is looked at can be compared. -/
theorem isDecided_iff {l : List (String × Condition)} : isDecided props l = true ↔
    ∀ front name c back, l = front ++ (name, c) :: back → (∀ e ∈ front, e.2.Met (props.get? e.1)) →
      ∀ v, (props.get? name).bind PropValue.known? = some v → c.isComparable v = true := by
  induction l with
  | nil => simp [isDecided]
  | cons e l ih =>
    obtain ⟨n, d⟩ := e
    rw [isDecided, Bool.and_eq_true, Bool.or_eq_true, ih, Condition.isDecided_iff]
    constructor
    · rintro ⟨hd, hrest⟩ front name c back hl hfront
      cases front with
      | nil =>
        cases hl
        exact hd
      | cons e front =>
        obtain ⟨rfl, rfl⟩ := List.cons.inj hl
        rw [List.forall_mem_cons] at hfront
        rcases hrest with hn | hrest
        · rw [Condition.holds_iff.mpr hfront.1] at hn
          cases hn
        · exact hrest front name c back rfl hfront.2
    · intro h
      refine ⟨h [] n d l rfl (by simp), ?_⟩
      cases hd : d.holds (props.get? n) with
      | false => exact .inl rfl
      | true =>
        refine .inr fun front name c back hl hfront => ?_
        rw [hl] at h
        exact h ((n, d) :: front) name c back rfl
          (List.forall_mem_cons.mpr ⟨Condition.holds_iff.mp hd, hfront⟩)

theorem isSettled_iff : rule.isSettled props = true ↔
    (∀ b ∈ rule.consequence.bans, b.value ≠ none →
      ∀ v, props.get? b.property = some (.literal v) → v.isWritable = true) ∧
    ∀ name ∈ rule.consequence.demanded.keys,
      ∀ v, props.get? name = some (.literal v) → v.isWritable = true := by
  simp only [isSettled, Bool.and_eq_true, List.all_eq_true, Bool.or_eq_true, Option.isNone_iff_eq_none,
    Decidable.or_iff_not_imp_left]
  refine and_congr (forall₂_congr fun b _ => imp_congr_right fun _ => ?_) (forall₂_congr fun name _ => ?_)
  all_goals
    split
    · rename_i hv
      simp [hv]
    · rename_i hn
      exact ⟨fun _ v hv => absurd hv (hn v), fun _ => rfl⟩

theorem ruleUnfit?_eq_none_iff_canJudge {u : Usage} :
    Component.ruleUnfit? u rule = none ↔ rule.CanJudge u.props := by
  rw [Component.ruleUnfit?_eq_none_iff, isDecided_iff, isSettled_iff, fires_iff]
  constructor
  · rintro ⟨hd, hrest⟩
    exact ⟨hd, fun ht => (hrest ht).1, fun ht => (hrest ht).2.1, fun ht => (hrest ht).2.2⟩
  · intro h
    exact ⟨h.compared, fun ht => ⟨h.worded ht, h.banned ht, h.demanded ht⟩⟩

end Constraint

namespace Component

variable {c : Component} {u : Usage} {strict : Bool}

theorem exists_propIssues_iff {name : String} {w : PropValue} : (∃ l, c.propIssues u name w = .ok l) ↔
    ∀ p v, c.properties.get? name = some p → w = .literal v → p.domain.CanJudge v := by
  rw [propIssues]
  cases c.properties.get? name with
  | none => simp
  | some p =>
    rw [Domain.exists_valueIssues_iff]
    exact ⟨fun h _ v hp hw => Option.some.inj hp ▸ h v hw, fun h v hw => h p v rfl hw⟩

/-- The pass over the values ends if each can be judged. -/
theorem exists_valueIssues_iff {l : List (String × PropValue)} : (∃ issues, c.valueIssues u l = .ok issues) ↔
    ∀ e ∈ l, ∃ issues, c.propIssues u e.1 e.2 = .ok issues := by
  induction l with
  | nil => simp [valueIssues]
  | cons e l ih =>
    obtain ⟨name, v⟩ := e
    rw [List.forall_mem_cons, ← ih]
    constructor
    · rintro ⟨issues, h⟩
      obtain ⟨first, others, hf, ho, -⟩ := valueIssues_cons_eq_ok_iff.mp h
      exact ⟨⟨first, hf⟩, others, ho⟩
    · rintro ⟨⟨first, hf⟩, others, ho⟩
      exact ⟨_, valueIssues_cons_eq_ok_iff.mpr ⟨first, others, hf, ho, rfl⟩⟩

theorem forall_missing_iff {P : Property → Prop} : (∀ e ∈ c.missing u, P e.2) ↔
    ∀ name p, c.properties.get? name = some p → p.required = true → name ∉ u.props.keys → P p :=
  ⟨fun h name p hp hr hn => h (name, p) (mem_missing_iff.mpr ⟨hp, hr, hn⟩), fun h e he =>
    have ⟨hp, hr, hn⟩ := mem_missing_iff.mp he
    h e.1 e.2 hp hr hn⟩

theorem exists_usageIssues_iff :
    (∃ l, c.usageIssues u = .ok l) ↔ u.isPlaced = true ∧ c.CanJudge u.props := by
  have hvalues : (∃ l, c.valueIssues u u.props.entries = .ok l) ↔
      ∀ name p v, c.properties.get? name = some p → u.props.get? name = some (.literal v) →
        p.domain.CanJudge v := by
    simp only [exists_valueIssues_iff, exists_propIssues_iff]
    constructor
    · intro h name p v hp hv
      exact h (name, .literal v) (Dict.get?_eq_some_iff.mp hv) p v hp rfl
    · rintro h ⟨name, w⟩ he p v hp rfl
      exact h name p v hp (Dict.get?_eq_some_iff.mpr he)
  have hrules : (∃ l, c.ruleIssues u = .ok l) ↔
      u.isPlaced = true ∧ ∀ rule ∈ c.constraints, rule.CanJudge u.props := by
    simp only [ruleIssues_eq_ok_iff, Constraint.ruleUnfit?_eq_none_iff_canJudge]
    exact ⟨fun ⟨_, hp, h, _⟩ => ⟨hp, h⟩, fun ⟨hp, h⟩ => ⟨_, hp, h, rfl⟩⟩
  simp only [usageIssues_eq_ok_iff, forall_missing_iff (P := fun p => p.domain.isProposable = true)]
  constructor
  · rintro ⟨-, hp, hd, values, rules, hv, hr, -⟩
    exact ⟨hp, hd, hvalues.mp ⟨values, hv⟩, (hrules.mp ⟨rules, hr⟩).2⟩
  · rintro ⟨hp, h⟩
    obtain ⟨values, hv⟩ := hvalues.mpr h.values
    obtain ⟨rules, hr⟩ := hrules.mpr ⟨hp, h.rules⟩
    exact ⟨_, hp, h.defaults, values, rules, hv, hr, rfl⟩

theorem exists_checkUsage_iff :
    (∃ verdict, c.checkUsage u strict = .ok verdict) ↔ u.isPlaced = true ∧ c.CanJudge u.props := by
  rw [← exists_usageIssues_iff]
  simp only [checkUsage_eq_ok_iff]
  exact ⟨fun ⟨_, l, h, _⟩ => ⟨l, h⟩, fun ⟨l, h⟩ => ⟨_, l, h, rfl⟩⟩

end Component

theorem Usage.props_locatedIn (u : Usage) (file : String) : (u.locatedIn file).props = u.props := by
  rw [locatedIn]
  cases u.location <;> rfl

/-- A file with no line in it can always be written. -/
theorem Usage.isPlaced_locatedIn (u : Usage) (file : String) : (u.locatedIn file).isPlaced = u.isPlaced := by
  rw [locatedIn]
  cases hl : u.location with
  | none => simp [isPlaced, hl, Location.isWritable]
  | some l => rfl

namespace DesignSystem

variable {s : DesignSystem}

/-- The usages of all batches, each with its file. -/
def filed (batches : List Batch) : List (String × Usage) :=
  batches.flatMap fun b => b.usages.map fun u => (b.file, u)

/-- What is said of one usage, which holds an error unless the usage is acceptable to its component. -/
structure Reported (s : DesignSystem) (e : String × Usage) (issues : List Issue) : Prop where
  own : s.batchUsageIssues e.1 e.2 = .ok issues
  clear_iff : (∀ i ∈ issues, i.severity ≠ .error) ↔
    ∃ c, s.components.get? e.2.component = some c ∧ c.Accepts e.2

theorem accepts_locatedIn {c : Component} {u : Usage} {file : String} :
    c.Accepts (u.locatedIn file) ↔ c.Accepts u := by
  have h := u.props_locatedIn file
  exact ⟨fun ⟨hr, hk, hv, ha⟩ => ⟨h ▸ hr, h ▸ hk, h ▸ hv, h ▸ ha⟩,
    fun ⟨hr, hk, hv, ha⟩ => ⟨h.symm ▸ hr, h.symm ▸ hk, h.symm ▸ hv, h.symm ▸ ha⟩⟩

theorem reported_iff {e : String × Usage} {issues : List Issue} :
    s.Reported e issues ↔ s.batchUsageIssues e.1 e.2 = .ok issues := by
  refine ⟨Reported.own, fun h => ⟨h, ?_⟩⟩
  rw [batchUsageIssues] at h
  cases hc : s.components.get? e.2.component with
  | none =>
    rw [hc] at h
    cases h
    simp
  | some c =>
    rw [hc] at h
    rw [(Component.usageIssues_judges h).clear_iff, accepts_locatedIn]
    simp

theorem exists_reported_iff {e : String × Usage} : (∃ issues, s.Reported e issues) ↔
    ∀ c, s.components.get? e.2.component = some c → e.2.isPlaced = true ∧ c.CanJudge e.2.props := by
  simp only [reported_iff]
  rw [batchUsageIssues]
  cases s.components.get? e.2.component with
  | none => simp
  | some c => simp [Component.exists_usageIssues_iff, Usage.props_locatedIn, Usage.isPlaced_locatedIn]

/-- The issues of all usages are those of each, one usage after the other. -/
theorem batchIssues_eq_ok_iff {l : List (String × Usage)} {issues : List Issue} :
    s.batchIssues l = .ok issues ↔ ∃ parts, List.Forall₂ s.Reported l parts ∧ parts.flatten = issues := by
  induction l generalizing issues with
  | nil => simp [batchIssues, eq_comm]
  | cons e l ih =>
    have hcons : s.batchIssues (e :: l) = .ok issues ↔ ∃ first others,
        s.batchUsageIssues e.1 e.2 = .ok first ∧ s.batchIssues l = .ok others ∧ first ++ others = issues := by
      rw [batchIssues]
      cases s.batchUsageIssues e.1 e.2 with
      | error e => simp [bind, Except.bind]
      | ok first =>
        cases s.batchIssues l with
        | error e => simp [bind, Except.bind]
        | ok others => simp [bind, Except.bind, pure, Except.pure]
    rw [hcons]
    constructor
    · rintro ⟨first, others, hf, ho, rfl⟩
      obtain ⟨parts, hparts, rfl⟩ := ih.mp ho
      exact ⟨first :: parts, .cons (reported_iff.mpr hf) hparts, rfl⟩
    · rintro ⟨parts, hparts, rfl⟩
      cases hparts with
      | @cons _ first _ parts hf hparts =>
        exact ⟨first, parts.flatten, hf.own, ih.mpr ⟨parts, hparts, rfl⟩, rfl⟩

theorem checkUsages_eq_ok_iff {batches : List Batch} {strict : Option Bool} {verdict : Verdict} :
    s.checkUsages batches strict = .ok verdict ↔ ∃ parts, List.Forall₂ s.Reported (filed batches) parts ∧
      verdict = .ofIssues parts.flatten (strict.getD s.settings.strict) := by
  have hall : (∃ issues, s.batchIssues (filed batches) = .ok issues ∧
      verdict = .ofIssues issues (strict.getD s.settings.strict)) ↔
      s.checkUsages batches strict = .ok verdict := by
    rw [checkUsages]
    change _ ↔ (s.batchIssues (filed batches)).map _ = _
    cases s.batchIssues (filed batches) <;> simp [Except.map, eq_comm]
  rw [← hall]
  simp only [batchIssues_eq_ok_iff]
  constructor
  · rintro ⟨_, ⟨parts, h, rfl⟩, hv⟩
    exact ⟨parts, h, hv⟩
  · rintro ⟨parts, h, hv⟩
    exact ⟨_, ⟨parts, h, rfl⟩, hv⟩

end DesignSystem

/-- Known values that are short enough to be written, and integers that are finite numbers. -/
def Props.Measured (props : Props) : Prop := ∀ name w v, props.get? name = some w → w.known? = some v →
  v.isWritable = true ∧ ∀ i, v = .number (.int i) → i.natAbs < Binary64.overflowBound

/-- Numbers that are short enough to be written, and rules that can be put into words. -/
structure Component.Measured (c : Component) : Prop where
  numbers : ∀ name p, c.properties.get? name = some p → ∀ default lo hi,
    p.domain = .number default lo hi → ∀ n, default = some n ∨ lo = some n ∨ hi = some n → n.isWritable = true
  rules : ∀ rule ∈ c.constraints, rule.hasWording = true

theorem Constraint.canJudge_of_hasWording {rule : Constraint} {props : Props} (hp : props.Measured)
    (h : rule.hasWording = true) : rule.CanJudge props := by
  have hwritable (name : String) (v : Value) (hv : props.get? name = some (.literal v)) :
      v.isWritable = true := (hp name _ v hv rfl).1
  refine ⟨fun front name c back hl _ v hv => ?_, fun _ => h, fun _ b _ _ v hv => hwritable _ v hv,
    fun _ name _ v hv => hwritable _ v hv⟩
  obtain ⟨w, hw, hv⟩ := Option.bind_eq_some_iff.mp hv
  exact Condition.isComparable_of_hasWording ((rule.hasWording_iff.mp h).1 (name, c) (by simp [hl]))
    (hp name w v hw hv).1

theorem Component.Measured.canJudge {c : Component} {props : Props} (hc : c.Measured)
    (hp : props.Measured) : c.CanJudge props where
  defaults name p hget _ _ := by
    cases hd : p.domain with
    | number default lo hi =>
      cases default with
      | none => rfl
      | some n => exact hc.numbers name p hget _ _ _ hd n (.inl rfl)
    | _ => rfl
  values name p v hget hv := by
    obtain ⟨hw, hi⟩ := hp name _ v hv rfl
    cases hd : p.domain with
    | enum values default => exact hw
    | number default lo hi' =>
      have hn := hc.numbers name p hget _ _ _ hd
      exact ⟨hi, fun x _ => ⟨fun l hl _ => hn l (.inr (.inl hl)), fun h hh _ => hn h (.inr (.inr hh))⟩⟩
    | _ => trivial
  rules rule hr := Constraint.canJudge_of_hasWording hp (hc.rules rule hr)

namespace DesignSystem

/-- The checks come to an end exactly where each place can be written and each value be judged, and then the
issues are those of all usages. Values are always judged if their integers, and those of the schema, are
measured. -/
theorem checkUsages_completes (s : DesignSystem) (batches : List Batch) (strict : Option Bool) :
    ((∃ verdict, s.checkUsages batches strict = .ok verdict) ↔ ∀ b ∈ batches, ∀ u ∈ b.usages,
      ∀ c, s.components.get? u.component = some c → u.isPlaced = true ∧ c.CanJudge u.props) ∧
    (∀ verdict, s.checkUsages batches strict = .ok verdict ↔
      ∃ parts, List.Forall₂ s.Reported (filed batches) parts ∧
        verdict = .ofIssues parts.flatten (strict.getD s.settings.strict)) ∧
    (∀ (c : Component) (u : Usage) (strict : Bool),
      (∃ verdict, c.checkUsage u strict = .ok verdict) ↔ u.isPlaced = true ∧ c.CanJudge u.props) ∧
    ∀ (c : Component) (props : Props), c.Measured → props.Measured → c.CanJudge props := by
  refine ⟨?_, fun _ => checkUsages_eq_ok_iff, fun _ _ _ => Component.exists_checkUsage_iff,
    fun _ _ hc hp => hc.canJudge hp⟩
  have hparts : (∃ verdict, s.checkUsages batches strict = .ok verdict) ↔
      ∃ parts, List.Forall₂ s.Reported (filed batches) parts := by
    simp only [checkUsages_eq_ok_iff]
    exact ⟨fun ⟨_, parts, h, _⟩ => ⟨parts, h⟩, fun ⟨parts, h⟩ => ⟨_, parts, h, rfl⟩⟩
  rw [hparts, exists_forall₂_iff, filed]
  simp only [exists_reported_iff, List.forall_mem_flatMap, List.forall_mem_map]

/-- A gauge that shows up to a hundred. -/
def gauge : Component where
  name := "Gauge"
  description := none
  properties := .ofList [("level", ⟨.number none none (some (.int 100)), false, none⟩)]
  constraints := []
  mappings := ∅
  baseStyles := none

def gauges : DesignSystem := ⟨"acme", none, ∅, none, .ofList [("Gauge", gauge)], .default⟩

def gaugeUsage (level : Value) : Usage := ⟨"Gauge", .ofList [("level", .literal level)], none⟩

def gaugeBatch (level : Value) : Batch := ⟨"Board.tsx", [gaugeUsage level, gaugeUsage (.text "high")]⟩

theorem eq_of_get?_singleton {α : Type} {k n : String} {v w : α}
    (h : (Dict.ofList [(k, v)]).get? n = some w) : n = k ∧ w = v := by
  have he : (n, w) ∈ [(k, v)] := Dict.get?_eq_some_iff.mp h
  simpa using he

theorem gauge_measured : gauge.Measured where
  numbers name p h := by
    obtain ⟨rfl, rfl⟩ := eq_of_get?_singleton h
    rintro default lo hi ⟨⟩ n hn
    obtain rfl : n = .int 100 := by simpa [eq_comm] using hn
    decide +kernel
  rules rule h := nomatch h

theorem gaugeUsage_measured {v : Value} (hw : v.isWritable = true)
    (hi : ∀ i, v = .number (.int i) → i.natAbs < Binary64.overflowBound) :
    (gaugeUsage v).props.Measured := by
  intro name w u h hu
  obtain ⟨rfl, rfl⟩ := eq_of_get?_singleton h
  cases hu
  exact ⟨hw, hi⟩

theorem not_exists_verdict {r : Except Unfit Verdict} (h : r.toOption.isNone = true) :
    ¬ ∃ verdict, r = .ok verdict := by
  rintro ⟨verdict, rfl⟩
  cases h

/-- With a level of `10 ^ 308` both usages are judged; `10 ^ 309` is too large. -/
theorem checkUsages_completes_gauges :
    (∃ verdict, gauges.checkUsages [gaugeBatch (.number (.int (.ofNat (tenPow 308))))] none = .ok verdict) ∧
    ¬ gauge.CanJudge (gaugeUsage (.number (.int (.ofNat (tenPow 309))))).props := by
  obtain ⟨hiff, -, husage, hmeasured⟩ :=
    checkUsages_completes gauges [gaugeBatch (.number (.int (.ofNat (tenPow 308))))] none
  constructor
  · refine hiff.mpr ?_
    simp only [List.forall_mem_singleton, gaugeBatch, List.forall_mem_cons]
    refine ⟨fun c hc => ?_, fun c hc => ?_⟩
    · rw [(eq_of_get?_singleton hc).2]
      refine ⟨rfl, hmeasured _ _ gauge_measured (gaugeUsage_measured (by decide +kernel) ?_)⟩
      rintro i ⟨⟩
      decide +kernel
    · rw [(eq_of_get?_singleton hc).2]
      exact ⟨rfl, hmeasured _ _ gauge_measured (gaugeUsage_measured rfl (by rintro i ⟨⟩))⟩
  · intro h
    refine not_exists_verdict ?_ ((husage gauge _ false).mpr ⟨rfl, h⟩)
    decide +kernel

/-- The second usage has a level that is no number, and is never looked at. -/
theorem checkUsages_unfinished :
    (¬ ∀ (c : Component) (u : Usage) (strict : Bool), ∃ verdict, c.checkUsage u strict = .ok verdict) ∧
    ¬ ∀ (s : DesignSystem) (batches : List Batch) (strict : Option Bool),
      ∃ verdict, s.checkUsages batches strict = .ok verdict := by
  constructor
  · intro h
    refine not_exists_verdict ?_ (h gauge (gaugeUsage (.number (.int (.ofNat (tenPow 309))))) false)
    decide +kernel
  · intro h
    refine not_exists_verdict ?_ (h gauges [gaugeBatch (.number (.int (.ofNat (tenPow 309))))] none)
    decide +kernel

end DesignSystem

end Stylebook
