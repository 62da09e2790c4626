import Stylebook.Decoding.Scalar
import Stylebook.Text.Blank
import Stylebook.Text.Cut

/-!
Visual mappings: the styles that a component takes when its properties have certain values. A
style value may depend on the values at hand; then it lists branches.
-/

namespace Stylebook

inductive StyleValue where
  | literal (l : Literal)
  | branches (d : Dict Literal)
  deriving DecidableEq

abbrev StyleMap := Dict StyleValue

/-- Styles that hold under further conditions. -/
structure ConditionalStyles where
  condition : Dict Scalar
  styles : StyleMap

inductive Mapping where
  | flat (styles : StyleMap)
  | conditional (entries : List ConditionalStyles)

/-- A mapping key `p=v`, or several with commas between, as pairs; blanks around the parts do not
count. -/
def mappingPairs (key : String) : List (String × String) :=
  (Text.pieces ',' key.toList).map fun part =>
    let (p, v) := Text.cutFirst '=' part
    (.ofList (Text.trimmed p), .ofList (Text.trimmed (v.getD [])))

theorem mappingPairs_ne_nil (key : String) : mappingPairs key ≠ [] := by
  simp [mappingPairs, Text.pieces_ne_nil]

/-- The property that a mapping key names first. -/
def mappingProperty (key : String) : String := ((mappingPairs key).head (mappingPairs_ne_nil key)).1

def StyleValue.toValue : StyleValue → Value
  | literal l => l.toValue
  | branches d => .ofDict Literal.toValue d

def StyleMap.toValue (m : StyleMap) : Value := .ofDict StyleValue.toValue m

def ConditionalStyles.toValue (c : ConditionalStyles) : Value :=
  .record [
    ("condition", .ofDict Scalar.toValue c.condition),
    ("styles", StyleMap.toValue c.styles)]

namespace Mapping

def toValue : Mapping → Value
  | flat styles => .record [("kind", .text "flat"), ("styles", StyleMap.toValue styles)]
  | conditional entries =>
    .record [("kind", .text "conditional"), ("entries", .list (entries.map ConditionalStyles.toValue))]

/-- Does an object say itself which kind of mapping it is? -/
def isTagged (fs : Fields) : Bool :=
  (match Fields.get? fs "kind" with
    | some (.text k) => k == "flat" || k == "conditional"
    | _ => false) &&
  fs.all fun e => e.1 == .text "kind" || e.1 == .text "styles" || e.1 == .text "entries"

/-- The tagged form of a mapping as authors write it: a list is conditional, an object that is not
tagged holds the styles themselves. -/
def normalize : Value → Value
  | .list l => .record [("kind", .text "conditional"), ("entries", .list l)]
  | .object fs => if isTagged fs then .object fs
      else .record [("kind", .text "flat"), ("styles", .object fs)]
  | v => v

/-- The tagged forms of all mappings. -/
def normalizeAll : Value → Value
  | .object fs => .object (fs.map fun e => (e.1, normalize e.2))
  | v => v

end Mapping

namespace StyleMap

open Decoded Decoding

def readStyleValue (v : Value) : Decoded StyleValue :=
  match literal v, dict literal v with
  | ok l, _ => ok (.literal l)
  | _, ok d => ok (.branches d)
  | l, r => bad (l.details ++ (r.named "dict[str,union[str,int,float]]").details)

def decode : Value → Decoded StyleMap := dict readStyleValue

end StyleMap

namespace Mapping

open Decoded Decoding

def readConditional (fs : Fields) : Decoded ConditionalStyles :=
  .mk <$> optional fs ["condition"] ∅ (dict scalar) <*> optional fs ["styles"] ∅ StyleMap.decode

def readKind? (kind : String) : Option (Fields → Decoded Mapping) :=
  if kind = "flat" then some fun fs => .flat <$> optional fs ["styles"] ∅ StyleMap.decode
  else if kind = "conditional" then
    some fun fs => .conditional <$> optional fs ["entries"] [] (list (record readConditional))
  else none

def decode : Value → Decoded Mapping := tagged "kind" readKind?

end Mapping

end Stylebook
