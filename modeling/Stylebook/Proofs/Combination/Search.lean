import Stylebook.Combination
import Stylebook.Proofs.Constraint.Meaning
import Stylebook.Proofs.Dict.Overlay

/-!
What the search for combinations finds. Without a limit it goes through all assignments of values to
names and keeps those that are accepted.
-/

namespace Stylebook

theorem takeEach_none {α β : Type} (f : Option Nat → α → List β) (l : List α) :
    takeEach f none l = l.flatMap (f none) := by
  induction l with
  | nil => rfl
  | cons a l ih => simp [takeEach, ih]

theorem search_none (accepts : Combination → Bool) (entries : List (String × List String))
    (chosen : Combination) :
    search accepts entries none chosen =
      ((assignments entries).map fun x => chosen ++ x).filter accepts := by
  -- on the names that are left, whatever is chosen for those before
  induction entries generalizing chosen with
  | nil => cases h : accepts chosen <;> simp [search, assignments, h]
  | cons e rest ih =>
    obtain ⟨name, values⟩ := e
    rw [search, takeEach_none, assignments, List.map_flatMap, List.filter_flatMap]
    refine congrArg (values.flatMap ·) (funext fun v => ?_)
    rw [ih, List.map_map]
    simp [Function.comp_def]

/-- An assignment gives to every name, in their order, one of its values. -/
theorem cons_mem_assignments {name : String} {values : List String} {q : String × String}
    {rest : List (String × List String)} {x : Combination} :
    q :: x ∈ assignments ((name, values) :: rest) ↔
      q.1 = name ∧ q.2 ∈ values ∧ x ∈ assignments rest := by
  obtain ⟨k, v⟩ := q
  simp only [assignments, List.mem_flatMap, List.mem_map, List.cons.injEq, Prod.mk.injEq]
  constructor
  · rintro ⟨w, hw, y, hy, ⟨rfl, rfl⟩, rfl⟩
    exact ⟨rfl, hw, hy⟩
  · rintro ⟨rfl, hv, hx⟩
    exact ⟨v, hv, x, hx, ⟨rfl, rfl⟩, rfl⟩

theorem keys_of_mem_assignments {entries : List (String × List String)} {x : Combination}
    (h : x ∈ assignments entries) : Pairs.keys x = Pairs.keys entries := by
  induction entries generalizing x with
  | nil => rw [List.mem_singleton.mp h]; rfl
  | cons e rest ih =>
    cases x with
    | nil => simp [assignments] at h
    | cons q x =>
      obtain ⟨hk, -, hx⟩ := cons_mem_assignments.mp h
      rw [Pairs.keys_cons, Pairs.keys_cons, hk, ih hx]

theorem mem_of_mem_assignments {entries : List (String × List String)} {x : Combination}
    (h : x ∈ assignments entries) {name v : String} {values : List String}
    (hn : Pairs.get? name entries = some values) (hv : Pairs.get? name x = some v) : v ∈ values := by
  induction entries generalizing x with
  | nil => cases hn
  | cons e rest ih =>
    cases x with
    | nil => cases hv
    | cons q x =>
      obtain ⟨hk, hq, hx⟩ := cons_mem_assignments.mp h
      rw [Pairs.get?] at hn hv
      rw [hk] at hv
      split at hn
      · rename_i he
        rw [if_pos he] at hv
        cases hn
        cases hv
        exact hq
      · rename_i he
        rw [if_neg he] at hv
        exact ih hx hn hv

theorem map_mem_assignments {entries : List (String × List String)} {f : String → String}
    (h : ∀ e ∈ entries, f e.1 ∈ e.2) : (entries.map fun e => (e.1, f e.1)) ∈ assignments entries := by
  induction entries with
  | nil => exact List.mem_singleton.mpr rfl
  | cons e rest ih =>
    rw [List.forall_mem_cons] at h
    exact cons_mem_assignments.mpr ⟨rfl, h.1, ih h.2⟩

theorem Pairs.get?_map_keys {α β : Type} (f : String → β) (name : String) (l : List (String × α)) :
    get? name (l.map fun e => (e.1, f e.1)) = if name ∈ keys l then some (f name) else none := by
  induction l with
  | nil => rfl
  | cons e l ih =>
    obtain ⟨j, a⟩ := e
    by_cases h : j = name
    · simp [get?, h]
    · simpa [get?, h, Ne.symm h] using ih

namespace Combination

/-- The properties of a combination are texts, each the value that the combination has for its name. -/
theorem get?_props {x : Combination} (hx : (Pairs.keys x).Nodup) (name : String) :
    x.props.get? name = (Pairs.get? name x).map fun s => .literal (.text s) := by
  have hk : (Pairs.keys (x.map fun e => (e.1, PropValue.literal (.text e.2)))).Nodup := by
    rw [Dict.keys_mapValues fun _ s => PropValue.literal (.text s)]
    exact hx
  rw [props, Dict.get?_ofList hk, Pairs.get?_map fun s => PropValue.literal (.text s)]

end Combination

namespace Component

variable {c : Component}

theorem accepts_iff {x : Combination} :
    c.accepts x = true ↔ ∀ rule ∈ c.constraints, rule.Triggered x.props → rule.KeptBy x.props := by
  rw [accepts, List.isEmpty_iff, constraintIssues_eq_nil_iff]

theorem combinationUnfit?_eq_none_iff {x : Combination} :
    c.combinationUnfit? x = none ↔ ∀ rule ∈ c.constraints, ruleUnfit? (x.usage c.name) rule = none := by
  rw [combinationUnfit?, List.findSome?_eq_none_iff]

theorem stopsAt_of_unfit {x : Combination} {e : Unfit} (h : c.combinationUnfit? x = some e) :
    c.stopsAt x = true := by
  rw [stopsAt, h]
  rfl

theorem stopsAt_of_fit {x : Combination} (h : c.combinationUnfit? x = none) :
    c.stopsAt x = c.accepts x := by
  rw [stopsAt, h]
  rfl

/-- The search fails exactly if the rules cannot be looked at for some assignment, for it stops at
every such one. -/
theorem findSome?_unfit_eq_none_iff {l : List Combination} :
    (l.filter c.stopsAt).findSome? c.combinationUnfit? = none ↔
      ∀ x ∈ l, c.combinationUnfit? x = none := by
  rw [List.findSome?_eq_none_iff]
  constructor
  · intro h x hx
    cases hu : c.combinationUnfit? x with
    | none => rfl
    | some e => rw [← hu, h x (List.mem_filter.mpr ⟨hx, stopsAt_of_unfit hu⟩)]
  · intro h x hx
    exact h x (List.mem_filter.mp hx).1

/-- The enumeration comes to an end if the rules can be looked at for every assignment; then it lists
the assignments that are accepted. -/
theorem enumerate_eq_ok_iff {l : List Combination} :
    c.enumerate none = .ok l ↔
      (∀ x ∈ assignments c.enums.entries, c.combinationUnfit? x = none) ∧
        (assignments c.enums.entries).filter c.accepts = l := by
  have hs : search c.stopsAt c.enums.entries none [] =
      (assignments c.enums.entries).filter c.stopsAt := by
    simp [search_none]
  rw [enumerate, if_neg (by simp), hs, ← findSome?_unfit_eq_none_iff]
  cases hf : ((assignments c.enums.entries).filter c.stopsAt).findSome? c.combinationUnfit? with
  | some e => simp
  | none =>
    have hfit := findSome?_unfit_eq_none_iff.mp hf
    have ha : (assignments c.enums.entries).filter c.stopsAt =
        (assignments c.enums.entries).filter c.accepts :=
      List.filter_congr fun x hx => stopsAt_of_fit (hfit x hx)
    simp [ha]

end Component

end Stylebook
