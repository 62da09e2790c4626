import Stylebook.Constraint
import Stylebook.Mapping
import Stylebook.Property

/-!
Components: named sets of properties with rules between them and styles for their values.
-/

namespace Stylebook

structure Component where
  name : String
  description : Option String
  properties : Dict Property
  constraints : List Constraint
  mappings : Dict Mapping
  baseStyles : Option StyleMap

namespace Component

def property? (c : Component) (name : String) : Option Property := c.properties.get? name

/-- The enumerations of a component, in the order of declaration. -/
def enums (c : Component) : Dict (List String) := c.properties.filterMapValues Property.values?

def toValue (c : Component) : Value :=
  .record [
    ("name", .text c.name),
    ("description", .ofOption .text c.description),
    ("properties", .ofDict Property.toValue c.properties),
    ("constraints", .list (c.constraints.map Constraint.toValue)),
    ("mappings", .ofDict Mapping.toValue c.mappings),
    ("base_styles", .ofOption StyleMap.toValue c.baseStyles)]

open Decoded Decoding

/-- A component needs a name and properties; without them nothing else is looked at. -/
def refusal? : Value → Option Refusal
  | .object fs =>
    let name := Fields.getD fs "name"
    if name.isNothing then some .noName
    else if (Fields.getD fs "properties").isNull then some (.noProperties name.shown)
    else none
  | _ => some .noName

def readFields (fs : Fields) : Decoded Component :=
  .mk <$> required fs ["name"] text
    <*> optional fs ["description"] none (nullable text)
    <*> required fs ["properties"] (dict Property.decode)
    <*> optional fs ["constraints"] [] (list Constraint.decode)
    <*> optional fs ["mappings"] ∅ (fun v => dict Mapping.decode (Mapping.normalizeAll v))
    <*> optional fs ["baseStyles", "base_styles"] none (nullable StyleMap.decode)

def decode (v : Value) : Decoded Component :=
  match refusal? v with
  | some (.noProperties name) =>
    if (Fields.getD v.fieldsOf "name").isWritable then refused (.noProperties name)
    else fault .unwritable
  | some .noName => refused .noName
  | none => record readFields v

end Component

end Stylebook
