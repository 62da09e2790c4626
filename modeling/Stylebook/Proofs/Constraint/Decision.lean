import Stylebook.Proofs.Constraint.Meaning
import Stylebook.Proofs.Usage.Issues

/-!
What rules look at. Of the properties they look at nothing but the values at their names; and rules
that can be put into words can be looked at for all values that are texts.
-/

namespace Stylebook

mutual

theorem Value.isWritable_of_json : ∀ {v : Value}, Json.fault? v = none → v.isWritable = true
  | .null, _ | .bool _, _ | .text _, _ => rfl
  | .number _, h => Unfit.unlessShort_eq_none_iff.mp h
  | .moment _, h => nomatch h
  | .list _, h => Value.areWritable_of_json h
  | .object _, h => Value.fieldsWritable_of_json h

theorem Value.areWritable_of_json :
    ∀ {l : List Value}, Json.itemFault? l = none → Value.areWritable l = true
  | [], _ => rfl
  | v :: rest, h => by
    rw [Json.itemFault?, Option.or_eq_none_iff] at h
    rw [Value.areWritable, Bool.and_eq_true]
    exact ⟨Value.isWritable_of_json h.1, Value.areWritable_of_json h.2⟩

theorem Value.fieldsWritable_of_json :
    ∀ {l : Fields}, Json.fieldFault? l = none → Value.fieldsWritable l = true
  | [], _ => rfl
  | (k, v) :: rest, h => by
    rw [Json.fieldFault?, Option.or_eq_none_iff, Option.or_eq_none_iff] at h
    rw [Value.fieldsWritable, Bool.and_eq_true, Bool.and_eq_true]
    have hk : k.isWritable = true := by
      cases k with
      | moment m => rfl
      | _ => exact Unfit.unlessShort_eq_none_iff.mp h.1
    exact ⟨⟨hk, Value.isWritable_of_json h.2.1⟩, Value.fieldsWritable_of_json h.2.2⟩

end

/-- The properties that are given are given these texts. -/
def Props.AreTexts (ps : Props) (given : String → Option String) : Prop :=
  ∀ name, ps.get? name = (given name).map fun s => .literal (.text s)

namespace Condition

variable {c : Condition}

theorem isComparable_of_hasWording (h : c.hasWording = true) {v : Value} (hv : v.isWritable = true) :
    c.isComparable v = true := by
  rw [hasWording, Option.isNone_iff_eq_none] at h
  cases c with
  | equals t =>
    rw [isComparable, hv]
    exact Unfit.unlessShort_eq_none_iff.mp h
  | oneOf l =>
    rw [isComparable, hv]
    exact Unfit.unlessShort_eq_none_iff.mp h
  | compares op operand =>
    have hw : operand.isWritable = true := Value.isWritable_of_json h
    cases op with
    | among | notAmong =>
      cases operand with
      | list l =>
        rw [isComparable, hv]
        exact hw
      | _ => rfl
    | _ => rfl

end Condition

namespace Constraint

variable {rule : Constraint} {ps qs : Props} {given : String → Option String}

theorem isDecided_of_texts (hp : ps.AreTexts given) {l : List (String × Condition)}
    (hl : ∀ e ∈ l, e.2.hasWording = true) : isDecided ps l = true := by
  -- every condition can be compared, so it does not matter which of them are looked at
  induction l with
  | nil => rfl
  | cons e l ih =>
    obtain ⟨name, c⟩ := e
    rw [List.forall_mem_cons] at hl
    have hc : c.isDecided (ps.get? name) = true := by
      rw [hp name]
      cases given name with
      | none => rfl
      | some s => exact Condition.isComparable_of_hasWording hl.1 rfl
    simp [isDecided, hc, ih hl.2]

theorem isSettled_of_texts (rule : Constraint) (hp : ps.AreTexts given) :
    rule.isSettled ps = true := by
  simp only [isSettled, Bool.and_eq_true, List.all_eq_true, Bool.or_eq_true]
  constructor
  · intro b _
    rw [hp b.property]
    cases given b.property <;> exact .inr rfl
  · intro name _
    rw [hp name]
    cases given name <;> rfl

theorem ruleUnfit?_of_texts {u : Usage} (hp : Props.AreTexts u.props given)
    (h : rule.hasWording = true) : Component.ruleUnfit? u rule = none := by
  rw [Component.ruleUnfit?_eq_none_iff]
  exact ⟨isDecided_of_texts hp (rule.hasWording_iff.mp h).1, fun _ => ⟨h, rule.isSettled_of_texts hp⟩⟩

theorem isDecided_congr (h : ∀ name, ps.get? name = qs.get? name) (l : List (String × Condition)) :
    isDecided ps l = isDecided qs l := by
  induction l with
  | nil => rfl
  | cons e l ih =>
    obtain ⟨name, c⟩ := e
    rw [isDecided, isDecided, h name, ih]

theorem fires_congr (h : ∀ name, ps.get? name = qs.get? name) : rule.fires ps = rule.fires qs := by
  simp only [fires, triggered, h]

theorem isSettled_congr (h : ∀ name, ps.get? name = qs.get? name) :
    rule.isSettled ps = rule.isSettled qs := by
  simp only [isSettled, h]

theorem ruleUnfit?_congr {u w : Usage} (h : ∀ name, u.props.get? name = w.props.get? name) :
    Component.ruleUnfit? u rule = Component.ruleUnfit? w rule := by
  rw [Component.ruleUnfit?, Component.ruleUnfit?, isDecided_congr h, fires_congr h, isSettled_congr h]

theorem triggered_congr (h : ∀ name, ps.get? name = qs.get? name) :
    rule.Triggered ps ↔ rule.Triggered qs := by
  rw [← fires_iff, ← fires_iff, fires_congr h]

theorem firedIssues_congr (h : ∀ name, ps.get? name = qs.get? name) (path : String) :
    rule.firedIssues ps path = rule.firedIssues qs path := by
  have hb : rule.banIssue? ps path = rule.banIssue? qs path := by
    funext b
    rw [banIssue?, banIssue?, h]
  have hd : rule.demandIssue? ps path = rule.demandIssue? qs path := by
    funext name allowed
    rw [demandIssue?, demandIssue?, h]
  rw [firedIssues, firedIssues, hb, hd]

theorem keptBy_congr (h : ∀ name, ps.get? name = qs.get? name) :
    rule.KeptBy ps ↔ rule.KeptBy qs := by
  rw [← firedIssues_eq_nil_iff "", ← firedIssues_eq_nil_iff "", firedIssues_congr h]

end Constraint

end Stylebook
