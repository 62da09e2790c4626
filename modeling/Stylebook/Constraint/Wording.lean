import Stylebook.Constraint
import Stylebook.Json.Writer

/-!
Rules and their triggers in words.
-/

namespace Stylebook

open Text

/-- The property, the operator and the operand in JSON. -/
def comparisonText (property : String) (op : Operator) (operand : Value) : String :=
  property ++ " " ++ op.name ++ " " ++ Json.compact operand

namespace Condition

/-- A condition as issues name it. -/
def wording (property : String) : Condition → String
  | compares op operand => comparisonText property op operand
  | oneOf l => property ++ " is [" ++ joinWith ", " (l.map Scalar.plain) ++ "]"
  | equals s => property ++ "=\"" ++ s.plain ++ "\""

/-- A condition as descriptions name it. -/
def brief (property : String) : Condition → String
  | compares op operand => comparisonText property op operand
  | oneOf l => property ++ "=" ++ Json.compact (.list (l.map Scalar.toValue))
  | equals s => property ++ "=" ++ Json.compact s.toValue

end Condition

/-- What keeps a condition from being put into words. Operands are written in JSON. -/
def Condition.fault? : Condition → Option Unfit
  | compares _ operand => Json.fault? operand
  | oneOf l => Unfit.unlessShort (l.all Scalar.isWritable)
  | equals s => Unfit.unlessShort s.isWritable

/-- Can a condition be put into words? -/
def Condition.hasWording (c : Condition) : Bool := c.fault?.isNone

namespace Constraint

variable (c : Constraint)

/-- What keeps a rule from being put into words. The trigger is written before what it leads to. -/
def fault? : Option Unfit :=
  (c.trigger.values.findSome? Condition.fault?).or
    (Unfit.unlessShort (c.consequence.demanded.values.all fun allowed => allowed.all Scalar.isWritable))

/-- Can a rule be put into words? -/
def hasWording : Bool := c.fault?.isNone

theorem hasWording_iff : c.hasWording = true ↔ (∀ e ∈ c.trigger.entries, e.2.hasWording = true) ∧
    ∀ e ∈ c.consequence.demanded.entries, ∀ s ∈ e.2, s.isWritable = true := by
  have htrigger : c.trigger.values.findSome? Condition.fault? = none ↔
      ∀ e ∈ c.trigger.entries, e.2.hasWording = true := by
    rw [List.findSome?_eq_none_iff, Dict.values, List.forall_mem_map]
    simp only [Condition.hasWording, Option.isNone_iff_eq_none]
  rw [hasWording, Option.isNone_iff_eq_none, fault?, Option.or_eq_none_iff, htrigger,
    Unfit.unlessShort_eq_none_iff, Dict.values, List.all_map]
  simp only [List.all_eq_true, Function.comp_apply]

end Constraint

/-- The conditions of a trigger in words. -/
def triggerText (trigger : Dict Condition) : String :=
  joinWith " and " (trigger.entries.map fun e => e.2.wording e.1)

/-- A demand on one property in words. -/
def demandText (property : String) (allowed : List Scalar) : String :=
  property ++ " in [" ++ joinWith ", " (allowed.map Scalar.plain) ++ "]"

/-- A rule in one line. -/
def Constraint.wording (c : Constraint) : String :=
  let trigger := "When " ++ joinWith ", " (c.trigger.entries.map fun e => e.2.brief e.1)
  match c.consequence with
  | .forbid (e :: es) => trigger ++ ": cannot use " ++ joinWith ", " (e :: es)
  | .require allowed =>
    if allowed.isEmpty then trigger ++ ": constraint applies"
    else trigger ++ ": requires " ++
      joinWith ", " (allowed.entries.map fun e => demandText e.1 e.2)
  | .forbid [] => trigger ++ ": constraint applies"

/-- A rule in one line, if it can be put into words. -/
def Constraint.described (c : Constraint) : Except Unfit String := Unfit.guard c.fault? c.wording

end Stylebook
