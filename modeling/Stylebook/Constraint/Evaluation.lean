import Stylebook.Constraint
import Stylebook.Usage
import Stylebook.Value.Equal

/-!
When a rule fires. A condition on a value that is computed at run time never holds, so no rule
fires because of one.
-/

namespace Stylebook

/-- The value at hand, unless it is computed at run time. -/
def PropValue.known? : PropValue → Option Value
  | literal v => some v
  | dynamic _ => none
  | nested fields => some (.ofDict id fields)

/-- Is the plain text of `v` among those of the list? -/
def plainAmong (v : Value) (l : List Value) : Bool := (l.map Value.plain).contains v.plain

namespace Operator

/-- A test of two numbers; other values, truth values included, fail it. -/
def onNumbers (test : Number → Number → Bool) : Option Value → Value → Bool
  | some (.number x), .number y => test x y
  | _, _ => false

/-- Compares the value of a property, absent if it is not given, with an operand. -/
def holds (op : Operator) (actual : Option Value) (operand : Value) : Bool :=
  match op with
  | equal => (actual.map fun v => v.equals operand).getD false
  | different => !(actual.map fun v => v.equals operand).getD false
  | among => match operand with
    | .list l => (actual.map fun v => plainAmong v l).getD false
    | _ => false
  | notAmong => match operand with
    | .list l => !(actual.map fun v => plainAmong v l).getD false
    | _ => false
  | greater => onNumbers (fun x y => y.lt x) actual operand
  | less => onNumbers (fun x y => x.lt y) actual operand
  | atLeast => onNumbers (fun x y => y.le x) actual operand
  | atMost => onNumbers (fun x y => x.le y) actual operand

end Operator

namespace Condition

/-- Does a condition hold of the value that is known, or absent? -/
def admits (c : Condition) (actual : Option Value) : Bool :=
  match c with
  | compares op operand => op.holds actual operand
  | oneOf l => (actual.map fun v => (l.map Scalar.plain).contains v.plain).getD false
  | equals s => (actual.map fun v => v.plain == s.plain).getD false

def holds (c : Condition) : Option PropValue → Bool
  | some (.dynamic _) => false
  | prop => c.admits (prop.bind PropValue.known?)

end Condition

namespace Condition

/-- Can a value be told to be among those of the condition? Texts are compared, and both sides need
one. -/
def isComparable (c : Condition) (actual : Value) : Bool :=
  match c with
  | compares .among (.list l) | compares .notAmong (.list l) =>
    actual.isWritable && Value.areWritable l
  | compares _ _ => true
  | oneOf l => actual.isWritable && l.all Scalar.isWritable
  | equals s => actual.isWritable && s.isWritable

/-- Can it be told whether a condition holds? -/
def isDecided (c : Condition) (prop : Option PropValue) : Bool :=
  ((prop.bind PropValue.known?).map c.isComparable).getD true

end Condition

/-- Can it be told whether all conditions hold? Those after one that does not hold are not looked at. -/
def isDecided (props : Props) : List (String × Condition) → Bool
  | [] => true
  | (name, c) :: rest =>
    c.isDecided (props.get? name) && (!c.holds (props.get? name) || isDecided props rest)

/-- Do all conditions hold? -/
def triggered (trigger : Dict Condition) (props : Props) : Bool :=
  trigger.entries.all fun e => e.2.holds (props.get? e.1)

def Constraint.fires (c : Constraint) (props : Props) : Bool := triggered c.trigger props

end Stylebook
