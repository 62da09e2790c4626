import Stylebook.Decoding.Scalar
import Stylebook.Text.Cut
import Stylebook.Text.Blank

/-!
Rules between the properties of a component. A rule fires when all conditions of its trigger hold;
then it forbids properties, or values of them, or it requires properties with certain values.
-/

namespace Stylebook

inductive Operator where
  | equal
  | different
  | among
  | notAmong
  | greater
  | less
  | atLeast
  | atMost
  deriving DecidableEq, Repr

namespace Operator

def name : Operator → String
  | equal => "eq"
  | different => "neq"
  | among => "in"
  | notAmong => "nin"
  | greater => "gt"
  | less => "lt"
  | atLeast => "gte"
  | atMost => "lte"

def all : List Operator :=
  [equal, different, among, notAmong, greater, less, atLeast, atMost]

def ofName? (s : String) : Option Operator := all.find? fun o => o.name == s

theorem ofName?_name (o : Operator) : ofName? o.name = some o := by
  cases o <;> decide

end Operator

/-- A condition on one property: it equals a scalar, or one of several, or it compares with an
operand. -/
inductive Condition where
  | equals (s : Scalar)
  | oneOf (l : List Scalar)
  | compares (op : Operator) (operand : Value)
  deriving Repr

inductive Consequence where
  | forbid (entries : List String)
  | require (allowed : Dict (List Scalar))

structure Constraint where
  trigger : Dict Condition
  consequence : Consequence
  suggest : Option (Dict String)
  message : Option String

namespace Condition

def toValue : Condition → Value
  | equals s => s.toValue
  | oneOf l => .list (l.map Scalar.toValue)
  | compares op v => .record [("op", .text op.name), ("value", v)]

end Condition

/-- A property that must not be given, or must not have a certain value: `p` or `p=v`. -/
structure Ban where
  property : String
  value : Option String
  deriving DecidableEq, Repr

/-- An entry of a forbidding rule; blanks around the property and the value do not count. -/
def Ban.ofText (entry : String) : Ban :=
  let (p, v) := Text.cutFirst '=' entry.toList
  ⟨.ofList (Text.trimmed p), v.map fun v => .ofList (Text.trimmed v)⟩

namespace Consequence

def banned : Consequence → List String
  | forbid entries => entries
  | require _ => []

def bans (c : Consequence) : List Ban := c.banned.map Ban.ofText

def demanded : Consequence → Dict (List Scalar)
  | forbid _ => ∅
  | require allowed => allowed

end Consequence

namespace Constraint

def toValue (c : Constraint) : Value :=
  let (forbid, require) := match c.consequence with
    | .forbid entries => (Value.texts entries, Value.null)
    | .require allowed =>
      (.null, .ofDict (fun l => .list (l.map Scalar.toValue)) allowed)
  .record [
    ("when", .ofDict Condition.toValue c.trigger),
    ("forbid", forbid),
    ("require", require),
    ("suggest", .ofOption (.ofDict .text) c.suggest),
    ("message", .ofOption .text c.message)]

/-- Every property that a rule mentions, in the order of first mention. -/
def properties (c : Constraint) : List String :=
  (c.trigger.keys ++ c.consequence.bans.map Ban.property ++ c.consequence.demanded.keys).eraseDups

open Decoded Decoding

def readComparison (fs : Fields) : Decoded Condition :=
  .compares <$> required fs ["op"] (member Operator.ofName?) <*> required fs ["value"] ok

/-- All alternatives of a condition have failed, each for reasons of its own. -/
def noCondition (comparison list : Decoded Condition) (one : Decoded Scalar) : Decoded Condition :=
  bad ((comparison.named "OperatorCondition").details ++
    (list.named "list[union[str,bool,int,float]]").details ++ one.details)

def readCondition (v : Value) : Decoded Condition :=
  match scalar v with
  | ok s => ok (.equals s)
  | one =>
    match record readComparison v, Condition.oneOf <$> list scalar v with
    | ok c, _ => ok c
    | _, ok c => ok c
    | comparison, several => noCondition comparison several one

/-- A rule has either bans or demands. -/
def consequence? : Option (List String) → Option (Dict (List Scalar)) → Option Consequence
  | some entries, none => some (.forbid entries)
  | none, some allowed => some (.require allowed)
  | _, _ => none

def ofParts (trigger : Dict Condition) (forbid : Option (List String))
    (require : Option (Dict (List Scalar))) (suggest : Option (Dict String))
    (message : Option String) : Decoded Constraint :=
  match consequence? forbid require with
  | some c => ok ⟨trigger, c, suggest, message⟩
  | none => fault (.rule "Constraint must define exactly one of 'forbid' or 'require'")

def readFields (fs : Fields) : Decoded Constraint :=
  let parts := (fun trigger forbid require suggest message =>
      (trigger, forbid, require, suggest, message))
    <$> required fs ["when"] (dict readCondition)
    <*> optional fs ["forbid"] none (nullable (list text))
    <*> optional fs ["require"] none (nullable (dict (list scalar)))
    <*> optional fs ["suggest"] none (nullable (dict text))
    <*> optional fs ["message"] none (nullable text)
  parts.andThen fun (trigger, forbid, require, suggest, message) =>
    ofParts trigger forbid require suggest message

def decode : Value → Decoded Constraint := record readFields

end Constraint

end Stylebook
