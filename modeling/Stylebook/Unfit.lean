import Stylebook.Number.Limit

/-!
What cannot be written, or judged as a number: whatever would show it comes to no end.
-/

namespace Stylebook

/-- Why there is no end: an integer is too large for any binary64 number where a number is asked for,
or too long to be written, or a value is to stand in JSON that has no form there. -/
inductive Unfit where
  | tooLarge (i : Int)
  | tooLong
  | notJson
  deriving DecidableEq, Repr

namespace Unfit

def message : Unfit → String
  | tooLarge _ => "int too large to convert to float"
  | tooLong => tooManyDigitsMessage none
  | notJson => "A rule compares with a value that JSON cannot hold"

/-- The fault of what is too long, none of what is short. -/
def unlessShort (short : Bool) : Option Unfit := if short then none else some .tooLong

@[simp] theorem unlessShort_eq_none_iff {short : Bool} : unlessShort short = none ↔ short = true := by
  cases short <;> simp [unlessShort]

/-- A result, unless a fault keeps it from being given. -/
def guard {α : Type} (fault : Option Unfit) (a : α) : Except Unfit α :=
  match fault with
  | some e => .error e
  | none => .ok a

theorem guard_eq_ok_iff {α : Type} {fault : Option Unfit} {a b : α} :
    guard fault a = .ok b ↔ fault = none ∧ a = b := by
  cases fault <;> simp [guard]

theorem guard_unlessShort_eq_ok_iff {α : Type} {short : Bool} {a b : α} :
    guard (unlessShort short) a = .ok b ↔ short = true ∧ a = b := by
  rw [guard_eq_ok_iff, unlessShort_eq_none_iff]

end Unfit

end Stylebook
