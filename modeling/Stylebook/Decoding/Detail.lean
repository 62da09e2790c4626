import Stylebook.Value.Text

/-!
What is wrong with raw data, and where. A detail names one defect and the path to it: names of
fields, indexes of items, and the labels of the alternatives that were tried.
-/

namespace Stylebook

/-- One step of a path. -/
inductive Step where
  | name (s : String)
  | index (i : Int)
  deriving DecidableEq, Repr

/-- The power `2 ^ 63`, the first integer beyond those of machine size. -/
def wordBound : Int := 9223372036854775808

/-- Is an integer of machine size? -/
def fitsWord (i : Int) : Bool := -wordBound ≤ i && i < wordBound

/-- The step into a field: its name, or the small integer that names it. -/
def Key.step : Key → Step
  | .text s => .name s
  | .number (.int i) =>
    if fitsWord i then .index i
    else .name (if (Number.int i).isWritable then toString i else "<unprintable int object>")
  | .bool b => .index (if b then 1 else 0)
  | k => .name k.written

inductive Defect where
  | missing
  | notText
  | notUnicode
  | notBool
  | unreadBool
  | notInteger
  | unreadInteger
  | oversizedInteger
  | fractional
  | notFinite
  | notNumber
  | unreadNumber
  | notList
  | notObject
  | notRecord
  | notTagged
  | tagMissing
  | tagUnknown
  | notMember
  | notLiteral
  | rule (message : String)
  deriving DecidableEq, Repr

/-- An integer that is to be written is too long. -/
def Defect.unwritable : Defect := .rule (tooManyDigitsMessage none)

/-- The short name of a defect. -/
def Defect.label : Defect → String
  | missing => "missing"
  | notText => "string_type"
  | notUnicode => "string_unicode"
  | notBool => "bool_type"
  | unreadBool => "bool_parsing"
  | notInteger => "int_type"
  | unreadInteger => "int_parsing"
  | oversizedInteger => "int_parsing_size"
  | fractional => "int_from_float"
  | notFinite => "finite_number"
  | notNumber => "float_type"
  | unreadNumber => "float_parsing"
  | notList => "list_type"
  | notObject => "dict_type"
  | notRecord => "model_type"
  | notTagged => "model_attributes_type"
  | tagMissing => "union_tag_not_found"
  | tagUnknown => "union_tag_invalid"
  | notMember => "enum"
  | notLiteral => "literal_error"
  | rule _ => "value_error"

structure Detail where
  path : List Step
  defect : Defect
  deriving DecidableEq, Repr

/-- Why a component cannot be described at all. -/
inductive Refusal where
  | noName
  | noProperties (name : String)
  deriving DecidableEq, Repr

def Refusal.message : Refusal → String
  | noName => "Component must have a name"
  | noProperties name => "Component \"" ++ name ++ "\" must define properties"

end Stylebook
