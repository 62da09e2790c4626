import Stylebook.Decoding.Scalar

/-!
Usages of components as they were found in source files: which component, where, and with which
values for its properties.
-/

namespace Stylebook

/-- The value a usage gives to a property: known, computed when the program runs, or an object. -/
inductive PropValue where
  | literal (v : Value)
  | dynamic (placeholder : String)
  | nested (fields : Dict Value)

abbrev Props := Dict PropValue

structure Location where
  file : String
  line : Int
  column : Int
  deriving DecidableEq, Repr

structure Usage where
  component : String
  props : Props
  location : Option Location

/-- The usages found in one file. -/
structure Batch where
  file : String
  usages : List Usage

/-- The file, and line and column if the line is known. -/
def Location.shown (l : Location) : String :=
  if l.line = 0 then l.file else l.file ++ ":" ++ toString l.line ++ ":" ++ toString l.column

/-- Is a place short enough to be written? -/
def Location.isWritable (l : Location) : Bool :=
  l.line = 0 || (Number.int l.line).isWritable && (Number.int l.column).isWritable

def Location.toValue (l : Location) : Value :=
  .record [("file", .text l.file), ("line", .int l.line), ("column", .int l.column)]

namespace PropValue

def toValue : PropValue → Value
  | literal v => .record [("kind", .text "literal"), ("value", v)]
  | dynamic p => .record [("kind", .text "dynamic"), ("placeholder", .text p)]
  | nested fields => .record [("kind", .text "nested"), ("value", .ofDict id fields)]

def literal? : PropValue → Option Value
  | literal v => some v
  | _ => none

/-- The field that marks a value computed at run time. -/
def dynamicMark : String := "__dynamic"

/-- Does an object say itself which kind of value it is? -/
def isTagged (fs : Fields) : Bool :=
  (match Fields.get? fs "kind" with
    | some (.text k) => k == "literal" || k == "dynamic" || k == "nested"
    | _ => false) &&
  fs.all fun e => e.1 == .text "kind" || e.1 == .text "value" || e.1 == .text "placeholder"

def tag (kind field : String) (v : Value) : Value := .record [("kind", .text kind), (field, v)]

/-- The tagged form of a value as it was found: a marked object is dynamic, an object that is not
tagged is nested, and anything else is literal. -/
def normalize : Value → Value
  | .object fs =>
    match Fields.get? fs dynamicMark with
    | some (.text p) => tag "dynamic" "placeholder" (.text p)
    | some _ => tag "dynamic" "placeholder" (.text "")
    | none => if isTagged fs then .object fs else tag "nested" "value" (.object fs)
  | v => tag "literal" "value" v

def normalizeAll : Value → Value
  | .object fs => .object (fs.map fun e => (e.1, normalize e.2))
  | v => v

open Decoded Decoding

def readKind? (kind : String) : Option (Fields → Decoded PropValue) :=
  if kind = "literal" then some fun fs => .literal <$> required fs ["value"] ok
  else if kind = "dynamic" then some fun fs => .dynamic <$> optional fs ["placeholder"] "" text
  else if kind = "nested" then some fun fs => .nested <$> optional fs ["value"] ∅ (dict ok)
  else none

def decode : Value → Decoded PropValue := tagged "kind" readKind?

end PropValue

namespace Props

open Decoded

def decode (v : Value) : Decoded Props := dict PropValue.decode (PropValue.normalizeAll v)

end Props

namespace Usage

/-- The values that are known. -/
def literalProps (u : Usage) : Dict Value := u.props.filterMapValues PropValue.literal?

/-- Can the place of a usage be written, if it has one? -/
def isPlaced (u : Usage) : Bool := (u.location.map Location.isWritable).getD true

/-- Where an issue about the usage belongs. -/
def path (u : Usage) : String :=
  match u.location with
  | some l => l.shown
  | none => u.component

/-- Where an issue about one property of the usage belongs. -/
def propPath (u : Usage) (prop : String) : String :=
  match u.location with
  | some l => l.shown
  | none => if prop.isEmpty then u.component else u.component ++ "." ++ prop

def toValue (u : Usage) : Value :=
  .record [
    ("component", .text u.component),
    ("props", .ofDict PropValue.toValue u.props),
    ("location", .ofOption Location.toValue u.location)]

open Decoded Decoding

def readLocation (fs : Fields) : Decoded Location :=
  .mk <$> required fs ["file"] text
    <*> optional fs ["line"] 0 integer
    <*> optional fs ["column"] 0 integer

def decode : Value → Decoded Usage :=
  record fun fs =>
    .mk <$> required fs ["component"] text
      <*> optional fs ["props"] ∅ Props.decode
      <*> optional fs ["location"] none (nullable (record readLocation))

end Usage

namespace Batch

def toValue (b : Batch) : Value :=
  .record [("file", .text b.file), ("usages", .list (b.usages.map Usage.toValue))]

open Decoded Decoding

def decode : Value → Decoded Batch :=
  record fun fs =>
    .mk <$> required fs ["file"] text <*> optional fs ["usages"] [] (list Usage.decode)

end Batch

end Stylebook
