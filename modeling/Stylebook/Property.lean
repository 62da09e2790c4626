import Stylebook.Decoding.Scalar

/-!
Properties of components. A property's domain says which values a usage may give it and which one
it takes by itself.
-/

namespace Stylebook

inductive Domain where
  | enum (values : List String) (default : Option String)
  | boolean (default : Option Bool)
  | number (default min max : Option Number)
  | string (default : Option String)
  deriving DecidableEq, Repr

structure Property where
  domain : Domain
  required : Bool
  description : Option String
  deriving DecidableEq, Repr

namespace Domain

def kind : Domain → String
  | enum _ _ => "enum"
  | boolean _ => "boolean"
  | number _ _ _ => "number"
  | string _ => "string"

def default? : Domain → Option Value
  | enum _ d => d.map .text
  | boolean d => d.map .bool
  | number d _ _ => d.map .number
  | string d => d.map .text

/-- The values of an enumeration. -/
def values? : Domain → Option (List String)
  | enum vs _ => some vs
  | _ => none

/-- Does the default lie in the domain? A property without one has nothing to violate. -/
def admitsDefault : Domain → Bool
  | enum vs (some d) => vs.contains d
  | number (some d) lo hi =>
    !(lo.map d.lt).getD false && !(hi.map fun h => h.lt d).getD false
  | _ => true

end Domain

namespace Property

/-- The values of an enumeration. -/
def values? (p : Property) : Option (List String) := p.domain.values?

def toValue (p : Property) : Value :=
  let kind := ("type", Value.text p.domain.kind)
  let required := ("required", Value.bool p.required)
  let description := ("description", Value.ofOption .text p.description)
  .record <| match p.domain with
    | .enum vs d =>
      [kind, ("values", .texts vs), required, ("default", .ofOption .text d), description]
    | .boolean d => [kind, required, ("default", .ofOption .bool d), description]
    | .number d lo hi =>
      [kind, required, ("default", .ofOption .number d), ("min", .ofOption .number lo),
        ("max", .ofOption .number hi), description]
    | .string d => [kind, required, ("default", .ofOption .text d), description]

open Decoded Decoding

/-- A value that counts by its plain text. -/
def readPlain (v : Value) : Decoded String := if v.isWritable then ok v.plain else fault .unwritable

/-- The values of an enumeration may be any values in a list; their plain texts count. -/
def readValues : Value → Decoded (List String)
  | .list l => if Value.areWritable l then ok (l.map Value.plain) else fault .unwritable
  | v => list text v

def readEnum (fs : Fields) : Decoded Property :=
  (fun vs required d description => ⟨.enum vs d, required, description⟩)
    <$> optional fs ["values"] [] readValues
    <*> optional fs ["required"] false bool
    <*> optional fs ["default"] none (nullable readPlain)
    <*> optional fs ["description"] none (nullable text)

def readBoolean (fs : Fields) : Decoded Property :=
  (fun required d description => ⟨.boolean d, required, description⟩)
    <$> optional fs ["required"] false bool
    <*> optional fs ["default"] none (nullable bool)
    <*> optional fs ["description"] none (nullable text)

def readNumber (fs : Fields) : Decoded Property :=
  (fun required d lo hi description => ⟨.number d lo hi, required, description⟩)
    <$> optional fs ["required"] false bool
    <*> optional fs ["default"] none (nullable number)
    <*> optional fs ["min"] none (nullable number)
    <*> optional fs ["max"] none (nullable number)
    <*> optional fs ["description"] none (nullable text)

def readString (fs : Fields) : Decoded Property :=
  (fun required d description => ⟨.string d, required, description⟩)
    <$> optional fs ["required"] false bool
    <*> optional fs ["default"] none (nullable text)
    <*> optional fs ["description"] none (nullable text)

/-- The reader for a kind of property. -/
def readKind? (kind : String) : Option (Fields → Decoded Property) :=
  if kind = "enum" then some readEnum
  else if kind = "boolean" then some readBoolean
  else if kind = "number" then some readNumber
  else if kind = "string" then some readString
  else none

def decode : Value → Decoded Property := tagged "type" readKind?

end Property

end Stylebook
