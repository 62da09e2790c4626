import Stylebook.Manifest.Example
import Stylebook.Manifest.Glossary
import Stylebook.DesignSystem

/-!
The manifest of a system: what an assistant needs to know to use it, as data. Its JSON text leaves
out what is absent.
-/

namespace Stylebook

structure ManifestProperty where
  name : String
  kind : String
  values : Option (List String)
  required : Bool
  default : Option Value
  description : Option String
  valueDescriptions : Option (List (String × String))

structure ManifestComponent where
  name : String
  description : String
  properties : List ManifestProperty
  constraints : List String
  examples : Examples

structure Manifest where
  version : String
  system : String
  tokens : Tokens
  components : List ManifestComponent
  descriptions : Dict String

namespace Component

variable (c : Component) (name : String)

def manifestProperty (property : String) (p : Property) : ManifestProperty where
  name := property
  kind := p.domain.kind
  values := p.values?
  required := p.required
  default := p.domain.default?
  description := firstText p.description (Glossary.property? name property)
  valueDescriptions := Glossary.values? name property

/-- The entry of a component that is listed under `name`. -/
def manifestEntry : Except Unfit ManifestComponent := do
  return {
    name := name
    description := c.summary name
    properties := c.properties.entries.map fun e => manifestProperty name e.1 e.2
    constraints := ← c.constraints.mapM Constraint.described
    examples := ← c.examples name }

/-- Keys and texts for a property and for the values of its enumeration. -/
def propertyDescriptions (property : String) (p : Property) : List (String × String) :=
  let known := (Glossary.values? name property).getD []
  ("prop:" ++ name ++ ":" ++ property,
      (Glossary.property? name property).getD (property ++ " property")) ::
    (p.values?.getD []).map fun v =>
      ("value:" ++ name ++ ":" ++ property ++ ":" ++ v, (Pairs.get? v known).getD (v ++ " option"))

def descriptions : List (String × String) :=
  ("component:" ++ name, c.summary name) ::
    c.properties.entries.flatMap fun e => propertyDescriptions name e.1 e.2

end Component

/-- Keys and texts for all tokens. -/
def Tokens.descriptions (tokens : Tokens) : List (String × String) :=
  tokens.all.map fun t =>
    ("token:" ++ t.1 ++ ":" ++ t.2.1, t.1 ++ " token with value " ++ t.2.2.shown)

namespace DesignSystem

variable (s : DesignSystem)

/-- What every token, component, property and value means, under keys that tell the four apart. -/
def descriptions : Dict String :=
  Dict.ofList (s.tokens.descriptions ++ s.components.entries.flatMap fun e => e.2.descriptions e.1)

/-- The descriptions, if the values of the tokens can be written. -/
def described : Except Unfit (Dict String) :=
  Unfit.guard (Unfit.unlessShort s.tokens.areWritable) s.descriptions

/-- The manifest, if the rules of each component can be put into words and the tokens written. -/
def manifest : Except Unfit Manifest := do
  let components ← s.components.entries.mapM fun e => e.2.manifestEntry e.1
  return {
    version := s.shownVersion
    system := s.name
    tokens := s.tokens
    components
    descriptions := ← s.described }

end DesignSystem

/-- An object with the fields that are there. -/
def Value.present (fields : List (String × Option Value)) : Value :=
  .record (fields.filterMap fun e => e.2.map fun v => (e.1, v))

def textFields (l : List (String × String)) : Value := .record (l.map fun e => (e.1, .text e.2))

def Examples.toValue (e : Examples) : Value :=
  .record [("valid", .texts e.valid), ("invalid", .texts e.invalid)]

namespace ManifestProperty

def fields (descriptionsName : String) (p : ManifestProperty) : List (String × Option Value) :=
  [("name", some (.text p.name)),
    ("type", some (.text p.kind)),
    ("values", p.values.map .texts),
    ("required", some (.bool p.required)),
    ("default", p.default),
    ("description", p.description.map .text),
    (descriptionsName, p.valueDescriptions.map textFields)]

end ManifestProperty

namespace ManifestComponent

def withProperties (c : ManifestComponent) (f : ManifestProperty → Value) : Value :=
  .record [
    ("name", .text c.name),
    ("description", .text c.description),
    ("properties", .list (c.properties.map f)),
    ("constraints", .texts c.constraints),
    ("examples", c.examples.toValue)]

/-- The entry with everything that is absent as null. -/
def toValue (c : ManifestComponent) : Value :=
  c.withProperties fun p =>
    .record ((p.fields "value_descriptions").map fun e => (e.1, e.2.getD .null))

/-- The entry without what is absent. -/
def published (c : ManifestComponent) : Value :=
  c.withProperties fun p => .present (p.fields "valueDescriptions")

end ManifestComponent

namespace Manifest

variable (m : Manifest)

def component? (name : String) : Option ManifestComponent := m.components.find? fun c => c.name == name

def published : Value :=
  .record [
    ("version", .text m.version),
    ("designSystem", .text m.system),
    ("tokens", m.tokens.toValue),
    ("components", .list (m.components.map ManifestComponent.published)),
    ("semanticDescriptions", .ofDict .text m.descriptions)]

def json : String := Json.pretty m.published

/-- Has the manifest a JSON text? -/
def hasJson : Bool := Json.isWritable m.published

end Manifest

end Stylebook
