import Stylebook.Check.Usage

/-!
Which values lie in the domain of a property. The check of a value reports an error exactly if the
value is known and lies outside.
-/

namespace Stylebook

/-- `x` is the number that a value stands for. Truth values stand for none, nor do texts that write
no number. -/
inductive Value.Denotes : Value → Binary64 → Prop
  | int {i : Int} {x : Binary64} (h : Binary64.ofInt? i = some x) : Denotes (.number (.int i)) x
  | float (x : Binary64) : Denotes (.number (.float x)) x
  | text {s : String} {x : Binary64} (h : readNumeral? s = some x) (hx : x ≠ .nan) :
      Denotes (.text s) x

/-- A number is not below the least value that is allowed, if there is one, nor above the greatest. -/
def InRange (lo hi : Option Number) (x : Binary64) : Prop :=
  (∀ l, lo = some l → (Number.float x).lt l = false) ∧
    ∀ h, hi = some h → h.lt (.float x) = false

/-- The values that a domain admits, other than those computed at run time. -/
inductive Domain.Admits : Domain → PropValue → Prop
  | string (default : Option String) (v : PropValue) : Admits (.string default) v
  | enum {values : List String} {default : Option String} {v : Value} (h : v.plain ∈ values) :
      Admits (.enum values default) (.literal v)
  | boolean (default : Option Bool) (b : Bool) : Admits (.boolean default) (.literal (.bool b))
  | number {default lo hi : Option Number} {v : Value} {x : Binary64} (hx : v.Denotes x)
      (hr : InRange lo hi x) : Admits (.number default lo hi) (.literal v)

/-- A list of issues without warnings that holds an error exactly if `P` fails. -/
structure Judges (l : List Issue) (P : Prop) : Prop where
  unwarned : ∀ i ∈ l, i.severity ≠ .warning
  clear_iff : (∀ i ∈ l, i.severity ≠ .error) ↔ P

namespace Judges

variable {l m : List Issue} {P Q : Prop}

theorem nil (h : P) : Judges [] P := ⟨by simp, by simp [h]⟩

theorem ofErrors (hl : ∀ i ∈ l, i.severity = .error) (h : l = [] ↔ P) : Judges l P where
  unwarned i hi := by simp [hl i hi]
  clear_iff := by
    rw [← h]
    constructor
    · intro hc
      exact List.eq_nil_iff_forall_not_mem.mpr fun i hi => hc i hi (hl i hi)
    · rintro rfl
      simp

theorem ofMap {α : Type} {as : List α} {f : α → Issue} (hf : ∀ a, (f a).severity = .error)
    (h : as = [] ↔ P) : Judges (as.map f) P := by
  refine .ofErrors (fun i hi => ?_) (List.map_eq_nil_iff.trans h)
  obtain ⟨a, -, rfl⟩ := List.mem_map.mp hi
  exact hf a

theorem append (hl : Judges l P) (hm : Judges m Q) : Judges (l ++ m) (P ∧ Q) where
  unwarned i hi := (List.mem_append.mp hi).elim (hl.unwarned i) (hm.unwarned i)
  clear_iff := by
    rw [← hl.clear_iff, ← hm.clear_iff]
    simp only [List.mem_append, or_imp, forall_and]

theorem congr (hl : Judges l P) (h : P ↔ Q) : Judges l Q := ⟨hl.unwarned, hl.clear_iff.trans h⟩

/-- Without warnings, strict verdicts are no different. -/
theorem valid_iff (hl : Judges l P) (strict : Bool) :
    (Verdict.ofIssues l strict).valid = true ↔ P := by
  have hf : (∀ i ∈ l, Verdict.fails strict i.severity = false) ↔ ∀ i ∈ l, i.severity ≠ .error := by
    refine forall₂_congr fun i hi => ?_
    have hw := hl.unwarned i hi
    cases hs : i.severity <;> simp_all [Verdict.fails]
  rw [← hl.clear_iff, ← hf]
  simp [Verdict.ofIssues]

end Judges

theorem numberOfText?_eq_some_iff {s : String} {x : Binary64} :
    numberOfText? s = some x ↔ readNumeral? s = some x ∧ x ≠ .nan := by
  rw [numberOfText?]
  cases readNumeral? s with
  | none => simp
  | some y =>
    cases y with
    | nan =>
      constructor
      · intro h
        cases h
      · rintro ⟨h, hx⟩
        exact absurd (Option.some.inj h).symm hx
    | infinite n | finite n m e =>
      constructor
      · intro h
        cases h
        exact ⟨rfl, nofun⟩
      · exact And.left

theorem asNumber_eq_some_iff {v : Value} {x : Binary64} :
    asNumber v = .ok (some x) ↔ v.Denotes x := by
  constructor
  · intro h
    rw [asNumber.eq_def] at h
    split at h
    · split at h
      · rename_i hi
        cases h
        exact .int hi
      · cases h
    · cases h
      exact .float _
    · obtain ⟨hr, hx⟩ := numberOfText?_eq_some_iff.mp (Except.ok.inj h)
      exact .text hr hx
    · cases h
  · intro h
    cases h with
    | int h => simp [asNumber, h]
    | float x => rfl
    | text h hx => rw [asNumber, numberOfText?_eq_some_iff.mpr ⟨h, hx⟩]

namespace Domain

variable {name path : String}

theorem enumIssues_judges {values : List String} {v : Value} {l : List Issue}
    (h : enumIssues name path values v = .ok l) : Judges l (v.plain ∈ values) := by
  rw [enumIssues] at h
  split at h
  · cases h
  · split at h
    · rename_i hc
      cases h
      exact .nil (List.contains_iff_mem.mp hc)
    · rename_i hc
      cases h
      exact .ofErrors (by simp) (by simpa using hc)

theorem booleanIssues_judges (v : Value) :
    Judges (booleanIssues name path v) (∃ b, v = .bool b) := by
  cases v with
  | bool b => exact .nil ⟨b, rfl⟩
  | _ => exact .ofErrors (by simp [booleanIssues, mismatch]) (by simp [booleanIssues])

theorem rangeIssue_severity {relation : String} {bound : Number} {x : Binary64} {i : Issue}
    (h : rangeIssue name path relation bound x = .ok i) : i.severity = .error := by
  rw [rangeIssue] at h
  split at h
  · cases h
  · cases h
    rfl

/-- One end of a range is passed, or the check of it gives an error. -/
theorem boundIssue_judges {relation : String} {bound : Option Number} {test : Number → Bool}
    {x : Binary64} {found : Option Issue}
    (h : (bound.filter test).mapM (fun b => rangeIssue name path relation b x) = .ok found) :
    Judges found.toList (∀ b, bound = some b → test b = false) := by
  cases hb : bound.filter test with
  | none =>
    rw [hb] at h
    cases h
    refine .nil fun b he => ?_
    simpa [he, Option.filter_eq_none_iff] using hb
  | some b =>
    obtain ⟨he, ht⟩ := Option.filter_eq_some_iff.mp hb
    rw [hb, Option.mapM_some] at h
    cases hi : rangeIssue name path relation b x with
    | error e =>
      rw [hi] at h
      cases h
    | ok i =>
      rw [hi] at h
      cases h
      refine .ofErrors (by simp [rangeIssue_severity hi]) ?_
      simp [he, ht]

theorem rangeIssues_judges {lo hi : Option Number} {x : Binary64} {l : List Issue}
    (h : rangeIssues name path lo hi x = .ok l) : Judges l (InRange lo hi x) := by
  rw [rangeIssues] at h
  cases hb : (lo.filter fun b => (Number.float x).lt b).mapM
      (fun b => rangeIssue name path ">=" b x) with
  | error e =>
    rw [hb] at h
    cases h
  | ok below =>
    cases ha : (hi.filter fun b => b.lt (.float x)).mapM
        (fun b => rangeIssue name path "<=" b x) with
    | error e =>
      rw [hb, ha] at h
      cases h
    | ok above =>
      rw [hb, ha] at h
      cases h
      exact (boundIssue_judges hb).append (boundIssue_judges ha)

theorem numberIssues_judges {lo hi : Option Number} {v : Value} {l : List Issue}
    (h : numberIssues name path lo hi v = .ok l) :
    Judges l (∃ x, v.Denotes x ∧ InRange lo hi x) := by
  rw [numberIssues] at h
  cases hn : asNumber v with
  | error e =>
    rw [hn] at h
    cases h
  | ok found =>
    rw [hn] at h
    cases found with
    | none =>
      cases h
      refine .ofErrors (by simp [mismatch]) ?_
      have hnone : ∀ x, ¬ v.Denotes x := by
        intro x hx
        rw [asNumber_eq_some_iff.mpr hx] at hn
        cases hn
      simp [hnone]
    | some x =>
      have hx : v.Denotes x := asNumber_eq_some_iff.mp hn
      refine (rangeIssues_judges h).congr ⟨fun hr => ⟨x, hx, hr⟩, ?_⟩
      rintro ⟨y, hy, hr⟩
      have hxy := hn.symm.trans (asNumber_eq_some_iff.mpr hy)
      cases hxy
      exact hr

theorem literalIssues_judges {d : Domain} {v : Value} {l : List Issue}
    (h : d.literalIssues name path v = .ok l) : Judges l (d.Admits (.literal v)) := by
  cases d with
  | enum values default =>
    refine (enumIssues_judges h).congr ⟨.enum, ?_⟩
    intro ha
    cases ha with
    | enum h => exact h
  | boolean default =>
    cases h
    refine (booleanIssues_judges v).congr ⟨?_, ?_⟩
    · rintro ⟨b, rfl⟩
      exact .boolean default b
    · intro ha
      cases ha with
      | boolean _ b => exact ⟨b, rfl⟩
  | number default lo hi =>
    refine (numberIssues_judges h).congr ⟨?_, ?_⟩
    · rintro ⟨x, hx, hr⟩
      exact .number hx hr
    · intro ha
      cases ha with
      | number hx hr => exact ⟨_, hx, hr⟩
  | string default =>
    cases h
    exact .nil (.string default _)

theorem valueIssues_judges {d : Domain} {v : PropValue} {l : List Issue}
    (h : d.valueIssues name path v = .ok l) : Judges l ((∃ p, v = .dynamic p) ∨ d.Admits v) := by
  cases v with
  | dynamic p =>
    cases h
    exact ⟨by simp, by simp⟩
  | literal v =>
    refine (literalIssues_judges h).congr ?_
    simp
  | nested fields =>
    cases d with
    | string default =>
      cases h
      exact .nil (.inr (.string default _))
    | _ =>
      cases h
      refine .ofErrors (by simp [mismatch]) ⟨by simp, ?_⟩
      rintro (⟨p, hp⟩ | ha)
      · cases hp
      · cases ha

end Domain

end Stylebook
