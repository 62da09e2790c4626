import Stylebook.Number.Limit
import Stylebook.Text.Cut
import Stylebook.Text.Quoted
import Stylebook.Value.Basic

/-!
Three ways to write a value as text. The written form quotes texts and bytes and shows lists, sets and
objects in brackets; the shown form is the written one except that a text stands for itself, and a day or a
time for its usual text; the plain form also writes truth values in lower case, whole numbers
without a fraction, and null as such. Integers that are too long have no form at all.
-/

namespace Stylebook

def boolText (b : Bool) : String := if b then "True" else "False"

def Key.written : Key → String
  | .null => "None"
  | .bool b => boolText b
  | .number n => n.text
  | .text s => Text.quoted s
  | .moment m => m.written

/-- Has a field name a written form? -/
def Key.isWritable : Key → Bool
  | .number n => n.isWritable
  | _ => true

/-- A field name as a text of its own. -/
def Key.shown : Key → String
  | .text s => s
  | .moment m => m.text
  | k => k.written

namespace Value

mutual

def written : Value → String
  | .null => "None"
  | .bool b => boolText b
  | .number n => n.text
  | .text s => Text.quoted s
  | .moment m => m.written
  | .bytes l => Text.quotedBytes l
  | .set [] => "set()"
  | .set members => "\x7b" ++ Text.joinWith ", " (members.map Key.written) ++ "\x7d"
  | .list items => "[" ++ Text.joinWith ", " (writtenItems items) ++ "]"
  | .object fields => "\x7b" ++ Text.joinWith ", " (writtenFields fields) ++ "\x7d"

def writtenItems : List Value → List String
  | [] => []
  | v :: rest => v.written :: writtenItems rest

def writtenFields : List (Key × Value) → List String
  | [] => []
  | (k, v) :: rest => (k.written ++ ": " ++ v.written) :: writtenFields rest

end

mutual

/-- Has a value a written form? -/
def isWritable : Value → Bool
  | .number n => n.isWritable
  | .set members => members.all Key.isWritable
  | .list items => areWritable items
  | .object fields => fieldsWritable fields
  | _ => true

def areWritable : List Value → Bool
  | [] => true
  | v :: rest => v.isWritable && areWritable rest

def fieldsWritable : List (Key × Value) → Bool
  | [] => true
  | (k, v) :: rest => k.isWritable && v.isWritable && fieldsWritable rest

end

def shown : Value → String
  | .text s => s
  | .moment m => m.text
  | v => v.written

def plain : Value → String
  | .bool b => if b then "true" else "false"
  | .number n => n.plainText
  | .null => "null"
  | .text s => s
  | .moment m => m.text
  | v => v.written

/-- What kind of thing a value is, as messages name it. -/
def kindName : Value → String
  | .null => "NoneType"
  | .bool _ => "bool"
  | .number (.int _) => "int"
  | .number (.float _) => "float"
  | .text _ => "str"
  | .moment m => m.kindName
  | .bytes _ => "bytes"
  | .set _ => "set"
  | .list _ => "list"
  | .object _ => "dict"

end Value

end Stylebook
