import Stylebook.Value.Basic

/-!
Deep merging: a field of the override that is null is passed over, an object is merged into the
object at its place, and anything else replaces what stands there.
-/

namespace Stylebook

mutual

/-- What stands at a place once the second value is laid over the first. -/
def Value.laidOver (existing : Value) : Value → Value
  | .object fields => .object (deepMerge existing.fieldsOf fields)
  | v => v

/-- `base` with the fields of the second list laid over it. -/
def deepMerge (base : List (Key × Value)) : List (Key × Value) → List (Key × Value)
  | [] => base
  | (_, .null) :: rest => deepMerge base rest
  | (k, v) :: rest =>
    deepMerge (Pairs.set k (Value.laidOver ((Pairs.get? k base).getD .null) v) base) rest

end

@[simp] theorem deepMerge_nil (base : Fields) : deepMerge base [] = base := by rw [deepMerge]

end Stylebook
