import Stylebook.Definition
import Stylebook.Proofs.Decoding.Readback

/-!
Components described step by step. A description comes to the last value of each field and all rules in their
order; a plain object that says the same defines the same component, or fails for the same reason.
-/

namespace Stylebook

namespace Fields

/-- The last value that is written into the field `n`. -/
def lastWritten? (writes : List (String × Value)) (n : String) : Option Value :=
  Pairs.get? n writes.reverse

variable {writes : List (String × Value)} {n : String}

theorem get?_set (fields : Fields) (m : String) (v : Value) :
    get? (set fields m v) n = if m = n then some v else get? fields n := by
  rw [set, get?, Pairs.get?_set, get?]
  by_cases h : m = n <;> simp [h]

theorem lastWritten?_append (writes later : List (String × Value)) (n : String) :
    lastWritten? (writes ++ later) n = (lastWritten? later n).or (lastWritten? writes n) := by
  rw [lastWritten?, List.reverse_append, Pairs.get?_append]
  rfl

theorem lastWritten?_eq_none (h : n ∉ Pairs.keys writes) : lastWritten? writes n = none := by
  rw [lastWritten?, Pairs.get?_eq_none_iff, Pairs.keys, List.map_reverse, List.mem_reverse]
  exact h

end Fields

open Fields

namespace Component

/-- The field that a step replaces, and its new value. -/
def Step.replaces? : Step → Option (String × Value)
  | name v => some ("name", v)
  | description v => some ("description", v)
  | properties fields => some ("properties", .object fields)
  | constrain _ => none
  | map fields => some ("mappings", .object fields)
  | base styles => some ("base_styles", .object styles)

def Step.added : Step → List Value
  | constrain rules => rules
  | _ => []

/-- The fields that steps replace. -/
def replacedFields : List String := ["name", "description", "properties", "mappings", "base_styles"]

def lastGiven? (steps : List Step) (n : String) : Option Value :=
  lastWritten? (steps.filterMap Step.replaces?) n

def allAdded (steps : List Step) : List Value := steps.flatMap Step.added

/-- A plain object says what the steps come to. Where no rule was added, it need not list any. -/
structure Summarizes (fields : Fields) (steps : List Step) : Prop where
  distinct : (Pairs.keys fields).Nodup
  replaced : ∀ n ∈ replacedFields, get? fields n = lastGiven? steps n
  added : (get? fields "constraints").getD (.list []) = .list (allAdded steps)
  otherName : get? fields "baseStyles" = none

section Steps

variable {fields : Fields} {n : String}

theorem lastGiven?_eq_none (steps : List Step) (hn : n ∉ replacedFields) :
    lastGiven? steps n = none := by
  refine lastWritten?_eq_none fun h => hn ?_
  obtain ⟨e, he, rfl⟩ := List.mem_map.mp h
  obtain ⟨step, -, hs⟩ := List.mem_filterMap.mp he
  cases step with
  | constrain rules => cases hs
  | _ =>
    cases hs
    simp [replacedFields]

theorem get?_apply (step : Step) (hn : n ≠ "constraints") :
    get? (step.apply fields) n = (lastWritten? step.replaces?.toList n).or (get? fields n) := by
  cases step with
  | constrain rules => exact (get?_set ..).trans (if_neg hn.symm)
  | _ =>
    refine (get?_set ..).trans ?_
    split <;> simp [Step.replaces?, lastWritten?, Pairs.get?, *]

/-- Of the steps for one field the last one decides. -/
theorem get?_foldl_apply (steps : List Step) (hn : n ≠ "constraints") :
    get? (steps.foldl Step.apply fields) n = (lastGiven? steps n).or (get? fields n) := by
  induction steps generalizing fields with
  | nil => rfl
  | cons step steps ih =>
    rw [List.foldl_cons, ih, get?_apply step hn, lastGiven?, lastGiven?]
    cases h : step.replaces? with
    | none => rw [List.filterMap_cons_none h]; rfl
    | some e =>
      rw [List.filterMap_cons_some h, ← List.singleton_append, lastWritten?_append, Option.or_assoc]
      rfl

theorem rules_apply (step : Step) {rules : List Value}
    (h : get? fields "constraints" = some (.list rules)) :
    get? (step.apply fields) "constraints" = some (.list (rules ++ step.added)) := by
  cases step with
  | constrain more =>
    have hitems : items (getD fields "constraints") = rules := by
      rw [getD, h]
      rfl
    rw [Step.apply, get?_set, if_pos rfl, hitems]
    rfl
  | _ =>
    refine (get?_set ..).trans ?_
    rw [if_neg (by decide), h]
    simp [Step.added]

/-- The rules of all steps are put one after the other. -/
theorem rules_foldl_apply (steps : List Step) {rules : List Value}
    (h : get? fields "constraints" = some (.list rules)) :
    get? (steps.foldl Step.apply fields) "constraints" =
      some (.list (rules ++ allAdded steps)) := by
  induction steps generalizing fields rules with
  | nil => simpa [allAdded] using h
  | cons step steps ih =>
    rw [List.foldl_cons, ih (rules_apply step h), allAdded, allAdded, List.flatMap_cons,
      List.append_assoc]

end Steps

section Objects

variable {f g : Fields}

/-- Of an object nothing but the fields of a component is looked at. -/
theorem ofFields_congr
    (h : ∀ n ∈ ["name", "description", "properties", "baseStyles", "base_styles"], get? f n = get? g n)
    (hrules : Decoded.optional f ["constraints"] [] (Decoded.list Constraint.decode) =
      Decoded.optional g ["constraints"] [] (Decoded.list Constraint.decode))
    (hmappings : Decoded.optional f ["mappings"] ∅
        (fun v => Decoded.dict Mapping.decode (Mapping.normalizeAll v)) =
      Decoded.optional g ["mappings"] ∅
        (fun v => Decoded.dict Mapping.decode (Mapping.normalizeAll v))) :
    ofFields f = ofFields g := by
  have hread : readFields f = readFields g := by
    rw [readFields, readFields, hrules, hmappings,
      Decoded.required_congr fun n hn => h n (by simp_all),
      Decoded.optional_congr fun n hn => h n (by simp_all),
      Decoded.required_congr fun n hn => h n (by simp_all),
      Decoded.optional_congr fun n hn => h n (by simp_all)]
  have hname : getD f "name" = getD g "name" := by
    rw [getD, h "name" (by simp), getD]
  have hproperties : getD f "properties" = getD g "properties" := by
    rw [getD, h "properties" (by simp), getD]
  have hrefusal : refusal? (.object f) = refusal? (.object g) := by
    rw [refusal?, refusal?, hname, hproperties]
  rw [ofFields, ofFields, decode, decode, hrefusal, Value.fieldsOf, Value.fieldsOf, Decoded.record,
    Decoded.record, hname, hread]

variable {fields : Fields}

theorem get?_setAll_blank (hd : (Pairs.keys fields).Nodup) (n : String) :
    get? (Pairs.setAll blank fields) n = (get? fields n).or (get? blank n) :=
  Pairs.get?_setAll hd

theorem ofFields_eq_ok_iff {c : Component} : ofFields fields = .ok c ↔ decode (.object fields) = .ok c := by
  rw [ofFields]
  cases decode (.object fields) <;> simp [Decoded.orElse]

/-- A name that can be written is no obstacle to saying what is wrong. -/
theorem ofFields_ne_unwritable (h : (getD fields "name").isWritable = true) :
    ofFields fields ≠ .error .unwritable := by
  rw [ofFields]
  cases decode (.object fields) <;> simp [Decoded.orElse, DefinitionError.showing, h]

/-- A blank description says no more than none. -/
theorem define_eq_ofFields (hd : (Pairs.keys fields).Nodup) : define fields = ofFields fields := by
  refine ofFields_congr (fun n hn => ?_) ?_ ?_
  · have hblank : get? blank n = none := by
      simp only [List.mem_cons, List.not_mem_nil, or_false] at hn
      rcases hn with rfl | rfl | rfl | rfl | rfl <;> rfl
    rw [get?_setAll_blank hd, hblank, Option.or_none]
  all_goals
    rw [Decoded.optional, Decoded.optional, Decoded.field?_singleton, Decoded.field?_singleton,
      get?_setAll_blank hd]
    cases h : get? fields _ <;> rfl

theorem define_eq_ok_iff (hd : (Pairs.keys fields).Nodup) {c : Component} :
    define fields = .ok c ↔ decode (.object fields) = .ok c := by
  rw [define_eq_ofFields hd, ofFields_eq_ok_iff]

end Objects

section Summary

/-- The object of the names that have a value. -/
def given (f : String → Option Value) (names : List String) : Fields :=
  names.filterMap fun n => (f n).map fun v => (.text n, v)

/-- The shortest plain object for some steps. -/
def plainSummary (steps : List Step) : Fields :=
  (.text "constraints", .list (allAdded steps)) :: given (lastGiven? steps) replacedFields

variable {f : String → Option Value} {names : List String} {n : String}

theorem get?_given : get? (given f names) n = if n ∈ names then f n else none := by
  induction names with
  | nil => rfl
  | cons m names ih =>
    have hcons : get? (given f (m :: names)) n =
        (if m = n then f m else none).or (get? (given f names) n) := by
      rw [given, List.filterMap_cons]
      cases f m with
      | none => simp [given]
      | some v => by_cases h : m = n <;> simp [Fields.get?, Pairs.get?, h, given]
    rw [hcons, ih]
    by_cases h : m = n
    · subst h
      cases f m <;> simp
    · simp [h, Ne.symm h]

theorem keys_given : (Pairs.keys (given f names)).Sublist (names.map .text) := by
  induction names with
  | nil => exact .slnil
  | cons n names ih =>
    rw [given, List.filterMap_cons]
    cases f n with
    | none => exact ih.cons _
    | some v => exact ih.cons_cons _

theorem plainSummary_summarizes (steps : List Step) : Summarizes (plainSummary steps) steps := by
  have hrest (n : String) (hn : n ≠ "constraints") : get? (plainSummary steps) n =
      if n ∈ replacedFields then lastGiven? steps n else none := by
    rw [← get?_given, plainSummary, Fields.get?, Pairs.get?, if_neg (by simpa using hn.symm)]
    rfl
  have hkeys : (Pairs.keys (plainSummary steps)).Sublist (("constraints" :: replacedFields).map .text) :=
    List.Sublist.cons_cons (Key.text "constraints") keys_given
  exact {
    distinct := hkeys.nodup (by decide)
    replaced := fun n hn => (hrest n (by rintro rfl; exact absurd hn (by decide))).trans (if_pos hn)
    added := rfl
    otherName := (hrest _ (by decide)).trans (if_neg (by decide)) }

end Summary

/-- Steps in any order and number define what a plain object defines that has the last value of each field and
all rules in their order; where they fail, they fail with the same error. -/
theorem ofSteps_eq_define (steps : List Step) : Summarizes (plainSummary steps) steps ∧
    ∀ fields, Summarizes fields steps → ofSteps steps = define fields := by
  refine ⟨plainSummary_summarizes steps, fun fields h => ?_⟩
  have hreplaced (n : String) (hn : n ∈ replacedFields) (hc : n ≠ "constraints") :
      get? (steps.foldl Step.apply blank) n = get? (Pairs.setAll blank fields) n := by
    rw [get?_foldl_apply steps hc, get?_setAll_blank h.distinct, h.replaced n hn]
  have hother : get? (steps.foldl Step.apply blank) "baseStyles" =
      get? (Pairs.setAll blank fields) "baseStyles" := by
    rw [get?_foldl_apply steps (by decide), get?_setAll_blank h.distinct, h.otherName,
      lastGiven?_eq_none steps (by decide)]
  have hrules : get? (steps.foldl Step.apply blank) "constraints" =
      get? (Pairs.setAll blank fields) "constraints" := by
    rw [rules_foldl_apply steps rfl, get?_setAll_blank h.distinct, List.nil_append, ← h.added]
    cases get? fields "constraints" <;> rfl
  refine ofFields_congr (fun n hn => ?_) (Decoded.optional_congr ?_) (Decoded.optional_congr ?_)
  · simp only [List.mem_cons, List.not_mem_nil, or_false] at hn
    rcases hn with rfl | rfl | rfl | rfl | rfl
    · exact hreplaced _ (by decide) (by decide)
    · exact hreplaced _ (by decide) (by decide)
    · exact hreplaced _ (by decide) (by decide)
    · exact hother
    · exact hreplaced _ (by decide) (by decide)
  · simpa using hrules
  · simpa using hreplaced "mappings" (by decide) (by decide)

/-- A tag that is named and coloured twice, and has two rules. -/
def tagSteps (rule : Value) : List Step := [
  .name (.text "Label"),
  .constrain [.record [("when", .record [("tone", .text "calm")]), ("forbid", .texts ["icon"])]],
  .properties [(.text "tone", .record [("type", .text "enum"), ("values", .texts ["calm", "loud"])])],
  .base [(.text "color", .text "gray")],
  .name (.text "Tag"),
  .constrain [rule],
  .base [(.text "color", .text "black")]]

def tagFields (rule : Value) : Fields := [
  (.text "base_styles", .record [("color", .text "black")]),
  (.text "constraints", .list [
    .record [("when", .record [("tone", .text "calm")]), ("forbid", .texts ["icon"])], rule]),
  (.text "name", .text "Tag"),
  (.text "properties", .record [
    ("tone", .record [("type", .text "enum"), ("values", .texts ["calm", "loud"])])])]

theorem tagFields_summarizes (rule : Value) : Summarizes (tagFields rule) (tagSteps rule) where
  distinct := by
    change [Key.text "base_styles", .text "constraints", .text "name", .text "properties"].Nodup
    decide
  replaced := by
    simp only [replacedFields, List.forall_mem_cons, List.not_mem_nil, false_imp_iff, implies_true, and_true]
    exact ⟨rfl, rfl, rfl, rfl, rfl⟩
  added := rfl
  otherName := rfl

/-- The second rule may require what is there, or be no rule at all. -/
theorem ofSteps_eq_define_tag :
    (∃ c, ofSteps (tagSteps (.record [("when", .record []), ("require", .record [])])) = .ok c ∧
      define (tagFields (.record [("when", .record []), ("require", .record [])])) = .ok c ∧
      c.name = "Tag" ∧ c.constraints.length = 2) ∧
    ofSteps (tagSteps .null) =
      .error (.badComponent "Tag" [⟨[.name "constraints", .index 1], .notRecord⟩]) ∧
    define (tagFields .null) =
      .error (.badComponent "Tag" [⟨[.name "constraints", .index 1], .notRecord⟩]) := by
  have hsteps (rule : Value) : ofSteps (tagSteps rule) = define (tagFields rule) :=
    (ofSteps_eq_define (tagSteps rule)).2 _ (tagFields_summarizes rule)
  rw [hsteps, hsteps]
  exact ⟨⟨_, rfl, rfl, rfl, rfl⟩, rfl, rfl⟩

end Component

end Stylebook
