import Mathlib.Data.List.Flatten
import Mathlib.Data.List.Forall2
import Stylebook.Proofs.Usage.Issues

/-!
Values that are left open. Whatever a value computed at run time turns out to be, every error that
was found without knowing it is found as well when it is known.
-/

namespace Stylebook

/-- The second value is the first one, or is known where the first is computed at run time. -/
inductive PropValue.Concretises : PropValue → PropValue → Prop
  | keep (v : PropValue) : Concretises v v
  | literal (p : String) (v : Value) : Concretises (.dynamic p) (.literal v)
  | nested (p : String) (fields : Dict Value) : Concretises (.dynamic p) (.nested fields)

/-- The same names in the same order, with some of the open values known. -/
def Props.Concretises (ps qs : Props) : Prop :=
  List.Forall₂ (fun a b => a.1 = b.1 ∧ a.2.Concretises b.2) ps.entries qs.entries

/-- The same usage at the same place, with some of the open values known. -/
structure Usage.Concretises (u w : Usage) : Prop where
  component : u.component = w.component
  location : u.location = w.location
  props : Props.Concretises u.props w.props

def errors (l : List Issue) : List Issue := l.filter fun i => i.severity == .error

theorem errors_append (l m : List Issue) : errors (l ++ m) = errors l ++ errors m :=
  List.filter_append ..

theorem filterMap_sublist {α β : Type} {f g : α → Option β} (l : List α)
    (h : ∀ a b, f a = some b → g a = some b) : (l.filterMap f).Sublist (l.filterMap g) := by
  induction l with
  | nil => exact .slnil
  | cons a l ih =>
    cases hf : f a with
    | none =>
      rw [List.filterMap_cons_none hf, List.filterMap_cons]
      cases g a with
      | none => exact ih
      | some b => exact ih.cons b
    | some b =>
      rw [List.filterMap_cons_some hf, List.filterMap_cons_some (h a b hf)]
      exact ih.cons_cons b

namespace Props.Concretises

variable {ps qs : Props} {l m : List (String × PropValue)}

theorem keys_eq_of_entries (h : List.Forall₂ (fun a b => a.1 = b.1 ∧ a.2.Concretises b.2) l m) :
    Pairs.keys l = Pairs.keys m := by
  induction h with
  | nil => rfl
  | cons hab _ ih => rw [Pairs.keys_cons, Pairs.keys_cons, hab.1, ih]

theorem get?_cases_of_entries
    (h : List.Forall₂ (fun a b => a.1 = b.1 ∧ a.2.Concretises b.2) l m) (k : String) :
    Pairs.get? k m = Pairs.get? k l ∨
      ∃ p v, Pairs.get? k l = some (.dynamic p) ∧ Pairs.get? k m = some v := by
  induction h with
  | nil => exact .inl rfl
  | @cons a b _ _ hab _ ih =>
    obtain ⟨j, v⟩ := a
    obtain ⟨i, w⟩ := b
    obtain ⟨rfl, hvw⟩ := hab
    by_cases hj : j = k
    · cases hvw with
      | keep v => exact .inl (by simp [Pairs.get?, hj])
      | literal p v => exact .inr ⟨p, .literal v, by simp [Pairs.get?, hj]⟩
      | nested p fields => exact .inr ⟨p, .nested fields, by simp [Pairs.get?, hj]⟩
    · simpa [Pairs.get?, hj] using ih

theorem keys_eq (h : ps.Concretises qs) : ps.keys = qs.keys := keys_eq_of_entries h

theorem contains_eq (h : ps.Concretises qs) (k : String) : ps.contains k = qs.contains k := by
  rw [Bool.eq_iff_iff, Dict.contains_iff, Dict.contains_iff, h.keys_eq]

/-- At each name stands the same, or an open value and one that may be known. -/
theorem get?_cases (h : ps.Concretises qs) (k : String) :
    qs.get? k = ps.get? k ∨ ∃ p v, ps.get? k = some (.dynamic p) ∧ qs.get? k = some v :=
  get?_cases_of_entries h k

/-- A condition holds of known values alone, and these stay as they are. -/
theorem get?_eq_of_holds (h : ps.Concretises qs) {k : String} {c : Condition}
    (hc : c.holds (ps.get? k) = true) : qs.get? k = ps.get? k := by
  rcases h.get?_cases k with he | ⟨p, v, hp, -⟩
  · exact he
  · rw [hp] at hc
    cases hc

theorem isDecided_condition (h : ps.Concretises qs) {k : String} {c : Condition}
    (hc : c.isDecided (qs.get? k) = true) : c.isDecided (ps.get? k) = true := by
  rcases h.get?_cases k with he | ⟨p, v, hp, -⟩
  · rwa [← he]
  · rw [hp]
    rfl

/-- The conditions are looked at up to the first that does not hold, so with open values no more of
them than with known ones. -/
theorem isDecided (h : ps.Concretises qs) {l : List (String × Condition)}
    (hl : Stylebook.isDecided qs l = true) : Stylebook.isDecided ps l = true := by
  induction l with
  | nil => rfl
  | cons e rest ih =>
    obtain ⟨k, c⟩ := e
    rw [Stylebook.isDecided, Bool.and_eq_true] at hl ⊢
    refine ⟨h.isDecided_condition hl.1, ?_⟩
    cases hc : c.holds (ps.get? k) with
    | false => rfl
    | true =>
      have hrest : Stylebook.isDecided qs rest = true := by
        simpa [h.get?_eq_of_holds hc, hc] using hl.2
      simp [ih hrest]

end Props.Concretises

namespace Constraint

variable {ps qs : Props} (rule : Constraint)

theorem fires_of_concretises (h : ps.Concretises qs) (hf : rule.fires ps = true) :
    rule.fires qs = true := by
  rw [fires, triggered, List.all_eq_true] at hf ⊢
  intro e he
  have hc := hf e he
  rwa [h.get?_eq_of_holds hc]

theorem banIssue?_of_concretises (h : ps.Concretises qs) (path : String) (b : Ban) (i : Issue)
    (hi : rule.banIssue? ps path b = some i) : rule.banIssue? qs path b = some i := by
  rw [banIssue?] at hi ⊢
  rcases h.get?_cases b.property with he | ⟨p, v, hp, hq⟩
  · rwa [he]
  · rw [hp] at hi
    rw [hq]
    cases hb : b.value <;> simp_all

theorem demandIssue?_of_concretises (h : ps.Concretises qs) (path name : String)
    (allowed : List String) (i : Issue) (hi : rule.demandIssue? ps path name allowed = some i) :
    rule.demandIssue? qs path name allowed = some i := by
  rw [demandIssue?] at hi ⊢
  rcases h.get?_cases name with he | ⟨p, v, hp, -⟩
  · rwa [he]
  · rw [hp] at hi
    cases hi

theorem issues_sublist (h : ps.Concretises qs) (path : String) :
    (rule.issues ps path).Sublist (rule.issues qs path) := by
  rw [issues, issues]
  cases hf : rule.fires ps with
  | false => exact List.nil_sublist _
  | true =>
    rw [rule.fires_of_concretises h hf]
    exact (filterMap_sublist _ (rule.banIssue?_of_concretises h path)).append
      (filterMap_sublist _ fun e => rule.demandIssue?_of_concretises h path e.1 _)

theorem isSettled_of_concretises (h : ps.Concretises qs) (hs : rule.isSettled qs = true) :
    rule.isSettled ps = true := by
  simp only [isSettled, Bool.and_eq_true, List.all_eq_true, Bool.or_eq_true] at hs ⊢
  constructor
  · intro b hb
    rcases h.get?_cases b.property with he | ⟨p, v, hp, -⟩
    · rw [← he]
      exact hs.1 b hb
    · rw [hp]
      exact .inr rfl
  · intro k hk
    rcases h.get?_cases k with he | ⟨p, v, hp, -⟩
    · rw [← he]
      exact hs.2 k hk
    · rw [hp]

theorem ruleUnfit?_of_concretises {u w : Usage} (h : u.props.Concretises w.props)
    (hw : Component.ruleUnfit? w rule = none) : Component.ruleUnfit? u rule = none := by
  rw [Component.ruleUnfit?_eq_none_iff] at hw ⊢
  refine ⟨h.isDecided hw.1, fun hf => ?_⟩
  obtain ⟨hwording, hs⟩ := hw.2 (rule.fires_of_concretises h hf)
  exact ⟨hwording, rule.isSettled_of_concretises h hs⟩

end Constraint

theorem constraintIssues_sublist {ps qs : Props} (h : ps.Concretises qs) (rules : List Constraint)
    (path : String) : (constraintIssues rules ps path).Sublist (constraintIssues rules qs path) :=
  List.Sublist.flatMap_right rules fun rule _ => rule.issues_sublist h path

namespace Usage.Concretises

variable {u w : Usage}

theorem path_eq (h : u.Concretises w) : u.path = w.path := by
  rw [path, path, h.location, h.component]

theorem propPath_eq (h : u.Concretises w) (k : String) : u.propPath k = w.propPath k := by
  rw [propPath, propPath, h.location, h.component]

theorem isPlaced_eq (h : u.Concretises w) : u.isPlaced = w.isPlaced := by
  rw [isPlaced, isPlaced, h.location]

end Usage.Concretises

namespace Component

variable {u w : Usage} (c : Component)

theorem missing_eq (h : u.Concretises w) : c.missing u = c.missing w := by
  have hc : ∀ k, u.props.contains k = w.props.contains k := h.props.contains_eq
  simp only [missing, hc]

theorem missingIssues_eq (h : u.Concretises w) : c.missingIssues u = c.missingIssues w := by
  rw [missingIssues, missingIssues, c.missing_eq h, h.path_eq]

theorem unknownPropIssues_eq (h : u.Concretises w) :
    c.unknownPropIssues u = c.unknownPropIssues w := by
  have hk : u.props.keys = w.props.keys := h.props.keys_eq
  rw [unknownPropIssues, unknownPropIssues, hk, h.path_eq]

/-- Nothing is wrong with an open value, and a known one is looked at in the same way. -/
theorem propIssues_of_concretises (h : u.Concretises w) {k : String} {v v' : PropValue}
    (hv : v.Concretises v') {found : List Issue} (hw : c.propIssues w k v' = .ok found) :
    ∃ known, c.propIssues u k v = .ok known ∧ (errors known).Sublist (errors found) := by
  have hopen : ∀ p, ∃ known, c.propIssues u k (.dynamic p) = .ok known ∧ errors known = [] := by
    intro p
    rw [propIssues]
    cases c.properties.get? k with
    | none => exact ⟨[], rfl, rfl⟩
    | some d => exact ⟨_, rfl, rfl⟩
  cases hv with
  | keep v =>
    rw [propIssues, ← h.propPath_eq k] at hw
    exact ⟨found, hw, List.Sublist.refl _⟩
  | literal p v =>
    obtain ⟨known, hk, he⟩ := hopen p
    exact ⟨known, hk, he ▸ List.nil_sublist _⟩
  | nested p fields =>
    obtain ⟨known, hk, he⟩ := hopen p
    exact ⟨known, hk, he ▸ List.nil_sublist _⟩

theorem valueIssues_of_concretises (h : u.Concretises w) {l m : List (String × PropValue)}
    (hlm : List.Forall₂ (fun a b => a.1 = b.1 ∧ a.2.Concretises b.2) l m) {found : List Issue}
    (hw : c.valueIssues w m = .ok found) :
    ∃ known, c.valueIssues u l = .ok known ∧ (errors known).Sublist (errors found) := by
  induction hlm generalizing found with
  | nil =>
    cases hw
    exact ⟨[], rfl, List.Sublist.refl _⟩
  | @cons a b _ _ hab _ ih =>
    obtain ⟨k, v⟩ := a
    obtain ⟨i, v'⟩ := b
    obtain ⟨rfl, hv⟩ := hab
    obtain ⟨first, others, hf, ho, rfl⟩ := valueIssues_cons_eq_ok_iff.mp hw
    obtain ⟨first', hf', hfs⟩ := c.propIssues_of_concretises h hv hf
    obtain ⟨others', ho', hos⟩ := ih ho
    refine ⟨first' ++ others', valueIssues_cons_eq_ok_iff.mpr ⟨_, _, hf', ho', rfl⟩, ?_⟩
    rw [errors_append, errors_append]
    exact hfs.append hos

theorem ruleIssues_of_concretises (h : u.Concretises w) {found : List Issue}
    (hw : c.ruleIssues w = .ok found) :
    ∃ known, c.ruleIssues u = .ok known ∧ known.Sublist found := by
  obtain ⟨hplaced, hall, rfl⟩ := ruleIssues_eq_ok_iff.mp hw
  refine ⟨c.constraintIssues u, ruleIssues_eq_ok_iff.mpr ⟨h.isPlaced_eq ▸ hplaced, ?_, rfl⟩, ?_⟩
  · exact fun rule hr => rule.ruleUnfit?_of_concretises h.props (hall rule hr)
  · rw [constraintIssues, constraintIssues, h.path_eq]
    exact constraintIssues_sublist h.props c.constraints w.path

/-- Every error that a check finds with open values it finds again, in the same order, once some of
them are known; of the rules this holds for all issues. The check with open values comes to an end
whenever the other does. -/
theorem errors_sublist_of_concretises (h : u.Concretises w) :
    (∀ found, c.usageIssues w = .ok found →
      ∃ known, c.usageIssues u = .ok known ∧ (errors known).Sublist (errors found)) ∧
    (∀ found, c.ruleIssues w = .ok found →
      ∃ known, c.ruleIssues u = .ok known ∧ known.Sublist found) ∧
    ∀ rules path, (Stylebook.constraintIssues rules u.props path).Sublist
      (Stylebook.constraintIssues rules w.props path) := by
  refine ⟨?_, fun found hw => c.ruleIssues_of_concretises h hw, constraintIssues_sublist h.props⟩
  intro found hw
  obtain ⟨hplaced, hp, values, rules, hv, hr, rfl⟩ := usageIssues_eq_ok_iff.mp hw
  obtain ⟨values', hv', hvs⟩ := c.valueIssues_of_concretises h h.props hv
  obtain ⟨rules', hr', hrs⟩ := c.ruleIssues_of_concretises h hr
  refine ⟨_, usageIssues_eq_ok_iff.mpr
    ⟨h.isPlaced_eq ▸ hplaced, c.missing_eq h ▸ hp, values', rules', hv', hr', rfl⟩, ?_⟩
  rw [c.missingIssues_eq h, c.unknownPropIssues_eq h]
  simp only [errors_append]
  exact ((List.Sublist.refl _).append hvs).append (hrs.filter _)

/-- An alarm that may show no icon unless it is calm. -/
def alarm : Component where
  name := "Alarm"
  description := none
  properties := .ofList [("tone", ⟨.enum ["calm", "loud"] none, true, none⟩),
    ("icon", ⟨.string none, false, none⟩)]
  constraints := [{
    trigger := .ofList [("tone", .compares .different (.text "calm"))]
    consequence := .forbid ["icon"]
    suggest := none
    message := none }]
  mappings := ∅
  baseStyles := none

def alarmUsage (tone : PropValue) : Usage :=
  ⟨"Alarm", .ofList [("tone", tone), ("icon", .literal (.text "bell")), ("size", .dynamic "s")], none⟩

theorem errors_sublist_of_concretises_alarm :
    (alarmUsage (.dynamic "t")).Concretises (alarmUsage (.literal (.text "loud"))) ∧
    ∃ found known, alarm.usageIssues (alarmUsage (.literal (.text "loud"))) = .ok found ∧
      (errors found).map Issue.code = [.unknownProperty, .forbiddenProp] ∧
      alarm.usageIssues (alarmUsage (.dynamic "t")) = .ok known ∧
      (errors known).Sublist (errors found) := by
  have h : (alarmUsage (.dynamic "t")).Concretises (alarmUsage (.literal (.text "loud"))) :=
    ⟨rfl, rfl, .cons ⟨rfl, .literal _ _⟩ (.cons ⟨rfl, .keep _⟩ (.cons ⟨rfl, .keep _⟩ .nil))⟩
  obtain ⟨found, hf, hcodes⟩ : ∃ found,
      alarm.usageIssues (alarmUsage (.literal (.text "loud"))) = .ok found ∧
        (errors found).map Issue.code = [.unknownProperty, .forbiddenProp] := ⟨_, rfl, rfl⟩
  obtain ⟨known, hk, hs⟩ := (alarm.errors_sublist_of_concretises h).1 found hf
  exact ⟨h, found, known, hf, hcodes, hk, hs⟩

end Component

end Stylebook
