import Stylebook.Proofs.Theme.Walk

/-!
How far a walk goes down. One that may go down only so many levels gives the same as the unbounded
one as soon as it may pass every name that is not on its way.
-/

namespace Stylebook.Registry

variable {r : Registry}

/-- Looks at all names with `f`, and lays what it gives over `base` one after the other. -/
def allWithin (f : Memo → String → Option (Except ThemeError (Layer × Memo))) (memo : Memo)
    (base : Layer) : List String → Option (Except ThemeError (Layer × Memo))
  | [] => some (.ok (base, memo))
  | name :: rest =>
    match f memo name with
    | none => none
    | some (.error e) => some (.error e)
    | some (.ok (layer, memo)) => allWithin f memo (base.merge layer) rest

/-- The walk with a bound on the levels it goes down; none if they do not suffice. -/
def walkWithin (r : Registry) : Nat → List String → Memo → String →
    Option (Except ThemeError (Layer × Memo))
  | 0, _, _, _ => none
  | levels + 1, way, memo, name =>
    match Pairs.get? name memo with
    | some layer => some (.ok (layer, memo))
    | none =>
      if name ∈ way then some (.error (.circular (way ++ [name])))
      else match r.get? name with
        | none => some (.error (.notFound name))
        | some t =>
          (allWithin (r.walkWithin levels (way ++ [name])) memo .empty t.parents).map fun x =>
            x.map fun x => (x.1.withTheme t, Pairs.set name (x.1.withTheme t) x.2)

/-- A step down takes one name off those that are not on the way, and one level. -/
theorem walkWithin_parents {way : List String} {memo : Memo} {n : String} {t : Theme}
    (hk : Pairs.get? n memo = none) (hw : n ∉ way) (ht : r.get? n = some t)
    (hall : ∀ levels, (r.offWay (way ++ [n])).length < levels →
      allWithin (r.walkWithin levels (way ++ [n])) memo .empty t.parents =
        some (r.walkAll (way ++ [n]) memo .empty t.parents))
    (levels : Nat) (hl : (r.offWay way).length < levels) :
    r.walkWithin levels way memo n = some (r.walk way memo n) := by
  obtain ⟨levels, rfl⟩ : ∃ k, levels = k + 1 := ⟨levels - 1, by omega⟩
  have hlt := offWay_lt (mem_keys_of_get? ht) hw
  have ha := hall levels (by omega)
  simp only [walkWithin, hk, hw, if_false, ht, ha, Option.map_some, walk_parents hk hw ht]

theorem walkWithin_eq :
    (∀ way memo n levels, (r.offWay way).length < levels →
      r.walkWithin levels way memo n = some (r.walk way memo n)) ∧
    (∀ way memo base names levels, (r.offWay way).length < levels →
      allWithin (r.walkWithin levels way) memo base names = some (r.walkAll way memo base names)) := by
  apply walk.mutual_induct r
  case case1 =>
    intro way memo n l hk levels hl
    obtain ⟨levels, rfl⟩ : ∃ k, levels = k + 1 := ⟨levels - 1, by omega⟩
    simp only [walkWithin, hk, walk_known hk]
  case case2 =>
    intro way memo n hk hw levels hl
    obtain ⟨levels, rfl⟩ : ∃ k, levels = k + 1 := ⟨levels - 1, by omega⟩
    simp only [walkWithin, hk, hw, if_true, walk_onWay hk hw]
  case case3 =>
    intro way memo n hk hw ht levels hl
    obtain ⟨levels, rfl⟩ : ∃ k, levels = k + 1 := ⟨levels - 1, by omega⟩
    simp only [walkWithin, hk, hw, if_false, ht, walk_missing hk hw ht]
  case case4 =>
    intro way memo n hk hw t ht e _ ih
    exact walkWithin_parents hk hw ht ih
  case case5 =>
    intro way memo n hk hw t ht base memo₁ _ ih
    exact walkWithin_parents hk hw ht ih
  case case6 =>
    intro way memo base levels _
    rw [allWithin, walkAll]
  case case7 =>
    intro way memo base n rest e he ih levels hl
    rw [allWithin, walkAll, ih levels hl, he]
  case case8 =>
    intro way memo base n rest l memo₁ he ih ihs levels hl
    rw [allWithin, walkAll, ih levels hl, he]
    exact ihs levels hl

/-- Flattening with a bound on the levels of inheritance. -/
def resolveWithin (r : Registry) (levels : Nat) (n : String) : Option (Except ThemeError FlatTheme) :=
  (r.walkWithin levels [] [] n).map fun x => x.map fun x => ⟨n, x.1⟩

theorem offWay_nil_le (r : Registry) : (r.offWay []).length ≤ r.size := by
  have hf : (r.offWay []).length ≤ r.keys.length := List.length_filter_le _ _
  simpa only [Dict.size, Dict.keys, Pairs.keys, List.length_map] using hf

theorem resolveWithin_eq {levels : Nat} (h : r.size < levels) (n : String) :
    r.resolveWithin levels n = some (r.resolve n) := by
  have hw := walkWithin_eq.1 [] [] n levels (Nat.lt_of_le_of_lt r.offWay_nil_le h)
  rw [resolveWithin, hw, resolve]
  rfl

theorem resolve_of_resolveWithin {levels : Nat} {n : String} {x : Except ThemeError FlatTheme}
    (h : r.size < levels) (hw : r.resolveWithin levels n = some x) : r.resolve n = x :=
  Option.some.inj ((resolveWithin_eq h n).symm.trans hw)

end Stylebook.Registry
