import Stylebook.Check.Constraint

/-!
What rules say, apart from how they are checked: when a condition is met, and when a usage keeps to a
rule that has fired. The issues of a rule are none exactly if it is kept to wherever it fires.
-/

namespace Stylebook

/-- How a value that may be absent has to stand to the operand. -/
def Operator.Relates (op : Operator) (actual : Option Value) (operand : Value) : Prop :=
  match op with
  | equal => ∃ v, actual = some v ∧ v.equals operand = true
  | different => ∀ v, actual = some v → v.equals operand = false
  | among => ∃ l, operand = .list l ∧ ∃ v, actual = some v ∧ ∃ w ∈ l, w.plain = v.plain
  | notAmong => ∃ l, operand = .list l ∧ ∀ v, actual = some v → ∀ w ∈ l, w.plain ≠ v.plain
  | greater => ∃ x y, actual = some (.number x) ∧ operand = .number y ∧ y.lt x = true
  | less => ∃ x y, actual = some (.number x) ∧ operand = .number y ∧ x.lt y = true
  | atLeast => ∃ x y, actual = some (.number x) ∧ operand = .number y ∧ y.le x = true
  | atMost => ∃ x y, actual = some (.number x) ∧ operand = .number y ∧ x.le y = true

/-- What a condition asks of a value that may be absent. -/
def Condition.MetBy (c : Condition) (actual : Option Value) : Prop :=
  match c with
  | equals s => ∃ v, actual = some v ∧ v.plain = s.plain
  | oneOf l => ∃ v, actual = some v ∧ ∃ s ∈ l, s.plain = v.plain
  | compares op operand => op.Relates actual operand

/-- A condition on a value computed at run time is never met. -/
def Condition.Met (c : Condition) (prop : Option PropValue) : Prop :=
  (∀ p, prop ≠ some (.dynamic p)) ∧ c.MetBy (prop.bind PropValue.known?)

def Constraint.Triggered (rule : Constraint) (props : Props) : Prop :=
  ∀ e ∈ rule.trigger.entries, e.2.Met (props.get? e.1)

/-- What a rule asks for once it has fired. -/
structure Constraint.KeptBy (rule : Constraint) (props : Props) : Prop where
  bare : ∀ b ∈ rule.consequence.bans, b.value = none → props.get? b.property = none
  valued : ∀ b ∈ rule.consequence.bans, ∀ t, b.value = some t →
    ∀ v, props.get? b.property = some (.literal v) → v.plain ≠ t
  demanded : ∀ e ∈ rule.consequence.demanded.entries,
    (∃ p, props.get? e.1 = some (.dynamic p)) ∨
      ∃ v, props.get? e.1 = some (.literal v) ∧ ∃ s ∈ e.2, s.plain = v.plain

namespace Operator

theorem onNumbers_iff {test : Number → Number → Bool} {actual : Option Value} {operand : Value} :
    onNumbers test actual operand = true ↔
      ∃ x y, actual = some (.number x) ∧ operand = .number y ∧ test x y = true := by
  constructor
  · intro h
    rw [onNumbers.eq_def] at h
    split at h
    · exact ⟨_, _, rfl, rfl, h⟩
    · cases h
  · rintro ⟨x, y, rfl, rfl, h⟩
    exact h

theorem plainAmong_iff {v : Value} {l : List Value} :
    plainAmong v l = true ↔ ∃ w ∈ l, w.plain = v.plain := by
  simp [plainAmong]

theorem holds_iff {op : Operator} {actual : Option Value} {operand : Value} :
    op.holds actual operand = true ↔ op.Relates actual operand := by
  cases op with
  | equal | different => cases actual <;> simp [holds, Relates]
  | among =>
    cases operand with
    | list l => cases actual <;> simp [holds, Relates, plainAmong_iff]
    | _ => simp [holds, Relates]
  | notAmong =>
    cases operand with
    | list l => cases actual <;> simp [holds, Relates, plainAmong]
    | _ => simp [holds, Relates]
  | greater | less | atLeast | atMost => exact onNumbers_iff

end Operator

namespace Condition

variable {c : Condition}

theorem admits_iff {actual : Option Value} : c.admits actual = true ↔ c.MetBy actual := by
  cases c with
  | compares op operand => exact Operator.holds_iff
  | oneOf l => cases actual <;> simp [admits, MetBy]
  | equals s => cases actual <;> simp [admits, MetBy]

theorem holds_iff {prop : Option PropValue} : c.holds prop = true ↔ c.Met prop := by
  rw [Met, ← admits_iff]
  cases prop with
  | none => simp [holds]
  | some v => cases v <;> simp [holds]

end Condition

namespace Constraint

variable {rule : Constraint} {props : Props} {path : String}

theorem fires_iff : rule.fires props = true ↔ rule.Triggered props := by
  rw [fires, triggered, List.all_eq_true]
  exact forall₂_congr fun e _ => Condition.holds_iff

theorem banIssue?_eq_none_iff {b : Ban} :
    rule.banIssue? props path b = none ↔
      (b.value = none → props.get? b.property = none) ∧
      ∀ t, b.value = some t → ∀ v, props.get? b.property = some (.literal v) → v.plain ≠ t := by
  rw [banIssue?]
  cases props.get? b.property with
  | none => simp
  | some v =>
    cases v <;> cases b.value <;> simp

theorem demandIssue?_eq_none_iff {name : String} {allowed : List String} :
    rule.demandIssue? props path name allowed = none ↔
      (∃ p, props.get? name = some (.dynamic p)) ∨
        ∃ v, props.get? name = some (.literal v) ∧ v.plain ∈ allowed := by
  rw [demandIssue?]
  cases props.get? name with
  | none => simp
  | some v =>
    cases v <;> simp

theorem firedIssues_eq_nil_iff (path : String) :
    rule.firedIssues props path = [] ↔ rule.KeptBy props := by
  rw [firedIssues, List.append_eq_nil_iff, List.filterMap_eq_nil_iff, List.filterMap_eq_nil_iff]
  simp only [banIssue?_eq_none_iff, demandIssue?_eq_none_iff, List.mem_map]
  constructor
  · rintro ⟨hb, hd⟩
    exact ⟨fun b h => (hb b h).1, fun b h => (hb b h).2, hd⟩
  · intro h
    exact ⟨fun b hb => ⟨h.bare b hb, h.valued b hb⟩, h.demanded⟩

theorem issues_eq_nil_iff : rule.issues props path = [] ↔
    (rule.Triggered props → rule.KeptBy props) := by
  rw [issues, ← fires_iff, ← firedIssues_eq_nil_iff path]
  cases rule.fires props <;> simp

theorem banIssue?_severity {b : Ban} {i : Issue} (h : rule.banIssue? props path b = some i) :
    i.severity = .error := by
  rw [banIssue?] at h
  split at h
  · cases h
  · cases h; rfl
  · split at h
    · cases h; rfl
    · cases h
  · cases h

theorem demandIssue?_severity {name : String} {allowed : List String} {i : Issue}
    (h : rule.demandIssue? props path name allowed = some i) : i.severity = .error := by
  rw [demandIssue?] at h
  split at h
  · cases h; rfl
  · cases h
  · split at h
    · cases h
    · cases h; rfl
  · cases h; rfl

theorem severity_of_mem_issues {i : Issue} (h : i ∈ rule.issues props path) :
    i.severity = .error := by
  rw [issues] at h
  split at h
  · rcases List.mem_append.mp h with h | h
    · obtain ⟨b, -, hb⟩ := List.mem_filterMap.mp h
      exact banIssue?_severity hb
    · obtain ⟨e, -, he⟩ := List.mem_filterMap.mp h
      exact demandIssue?_severity he
  · cases h

end Constraint

variable {rules : List Constraint} {props : Props} {path : String}

theorem constraintIssues_eq_nil_iff : constraintIssues rules props path = [] ↔
    ∀ rule ∈ rules, rule.Triggered props → rule.KeptBy props := by
  rw [constraintIssues, List.flatMap_eq_nil_iff]
  exact forall₂_congr fun rule _ => Constraint.issues_eq_nil_iff

theorem severity_of_mem_constraintIssues {i : Issue} (h : i ∈ constraintIssues rules props path) :
    i.severity = .error := by
  obtain ⟨rule, -, hi⟩ := List.mem_flatMap.mp h
  exact Constraint.severity_of_mem_issues hi

end Stylebook
