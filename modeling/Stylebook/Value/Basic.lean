import Stylebook.Moment
import Stylebook.Number.Shortest
import Stylebook.Pairs

/-!
Raw data as files and callers give it: scalars, lists, and objects that keep the order of their
fields. The names of an object's fields are texts in most sources, but any scalar may name a field,
a day or a time as well. Some notations have bytes besides texts, and sets, whose members are such names.
-/

namespace Stylebook

/-- The name of a field. -/
inductive Key where
  | null
  | bool (b : Bool)
  | number (n : Number)
  | text (s : String)
  | moment (m : Moment)
  deriving DecidableEq, Repr

inductive Value where
  | null
  | bool (b : Bool)
  | number (n : Number)
  | text (s : String)
  | moment (m : Moment)
  | bytes (l : List UInt8)
  | set (members : List Key)
  | list (items : List Value)
  | object (fields : List (Key × Value))
  deriving Repr, Inhabited

abbrev Fields := List (Key × Value)

namespace Key

def toValue : Key → Value
  | .null => .null
  | .bool b => .bool b
  | .number n => .number n
  | .text s => .text s
  | .moment m => .moment m

end Key

namespace Value

/-- The scalar that may name a field. -/
def toKey? : Value → Option Key
  | .null => some .null
  | .bool b => some (.bool b)
  | .number n => some (.number n)
  | .text s => some (.text s)
  | .moment m => some (.moment m)
  | .bytes _ | .set _ | .list _ | .object _ => none

def int (i : Int) : Value := .number (.int i)

/-- An object whose fields have texts for names. -/
def record (fields : List (String × Value)) : Value := .object (fields.map fun e => (.text e.1, e.2))

def texts (l : List String) : Value := .list (l.map .text)

/-- A value that may be absent. -/
def ofOption {α : Type} (f : α → Value) : Option α → Value
  | none => .null
  | some a => f a

/-- The fields of an object; another value has none. -/
def fieldsOf : Value → Fields
  | .object fields => fields
  | _ => []

def isNull : Value → Bool
  | .null => true
  | _ => false

/-- Null, false, zero and whatever is empty count as nothing given. -/
def isNothing : Value → Bool
  | .null => true
  | .bool b => !b
  | .number n => n.isZero
  | .text s => s.isEmpty
  | .moment _ => false
  | .bytes l => l.isEmpty
  | .set members => members.isEmpty
  | .list items => items.isEmpty
  | .object fields => fields.isEmpty

end Value

namespace Fields

def get? (fields : Fields) (name : String) : Option Value := Pairs.get? (.text name) fields

def has (fields : Fields) (name : String) : Bool := (fields.get? name).isSome

/-- The value of a field, null if there is none. -/
def getD (fields : Fields) (name : String) : Value := (fields.get? name).getD .null

def set (fields : Fields) (name : String) (v : Value) : Fields := Pairs.set (.text name) v fields

end Fields

end Stylebook
