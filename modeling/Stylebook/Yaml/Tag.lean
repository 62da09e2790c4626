import Stylebook.Number.Reading
import Stylebook.Text.Cut
import Stylebook.Yaml.Problem
import Stylebook.Yaml.Timestamp

/-!
The tags of nodes, and the tag that a plain scalar gets from its text.
-/

namespace Stylebook.Yaml

open Text (isDigitAscii)

inductive Tag where
  | null
  | bool
  | int
  | float
  | text
  | timestamp
  | binary
  | sequence
  | mapping
  | pairs
  | orderedMap
  | set
  | merge
  | default
  | other (uri : String)
  deriving DecidableEq, Repr

namespace Tag

/-- The handle that `!!` stands for. -/
def core : String := "tag:yaml.org,2002:"

/-- The tags that have a meaning of their own. -/
def known : List (String × Tag) :=
  [("null", null), ("bool", bool), ("int", int), ("float", float), ("str", text),
    ("timestamp", timestamp), ("binary", binary), ("seq", sequence), ("map", mapping), ("pairs", pairs),
    ("omap", orderedMap), ("set", set), ("merge", merge), ("value", default)]

def ofUri (uri : String) : Tag := ((known.find? (core ++ ·.1 == uri)).map (·.2)).getD (other uri)

def uri : Tag → String
  | other u => u
  | t => core ++ ((known.find? (·.2 == t)).map (·.1)).getD ""

/-- The tags of collections. -/
def isCollection : Tag → Bool
  | sequence | mapping | pairs | orderedMap | set => true
  | _ => false

end Tag

/-- The words for truth values. -/
def truths : List String :=
  ["yes", "Yes", "YES", "true", "True", "TRUE", "on", "On", "ON"]

def falsehoods : List String :=
  ["no", "No", "NO", "false", "False", "FALSE", "off", "Off", "OFF"]

/-- The words for null; one of them is empty. -/
def nulls : List String := ["", "~", "null", "Null", "NULL"]

def isDigitOrLow (c : Char) : Bool := isDigitAscii c || c == '_'

def isHexOrLow (c : Char) : Bool :=
  isDigitOrLow c || ('a' ≤ c && c ≤ 'f') || ('A' ≤ c && c ≤ 'F')

/-- A minute or a second: one digit, or two of which the first is below 6. -/
def isSixtieth : List Char → Bool
  | [c] => isDigitAscii c
  | [c, d] => '0' ≤ c && c ≤ '5' && isDigitAscii d
  | _ => false

def isNonempty (p : Char → Bool) (s : List Char) : Bool := !s.isEmpty && s.all p

/-- A digit, then digits and underscores. -/
def isWhole : List Char → Bool
  | [] => false
  | c :: rest => isDigitAscii c && rest.all isDigitOrLow

/-- An integer without its sign: binary after `0b`, hexadecimal after `0x`, octal after `0`, or
decimal; or hours, minutes and seconds with colons between them. -/
def isInt : List Char → Bool
  | ['0'] => true
  | '0' :: 'b' :: rest => isNonempty (fun c => c == '0' || c == '1' || c == '_') rest
  | '0' :: 'x' :: rest => isNonempty isHexOrLow rest
  | '0' :: rest => rest.all fun c => ('0' ≤ c && c ≤ '7') || c == '_'
  | s => match Text.pieces ':' s with
    | [] => false
    | first :: parts => isWhole first && parts.all isSixtieth

/-- An exponent with its letter, if there is one; the sign has to be there. -/
def isExponent : List Char → Bool
  | [] => true
  | [_] | [_, _] => false
  | e :: sign :: ds => (e == 'e' || e == 'E') && (sign == '-' || sign == '+') && ds.all isDigitAscii

/-- A float without its sign: a decimal with a point, infinity, or hours, minutes and seconds with
a point at the end. Without digits before the point no sign may stand there. -/
def isFloat (signed : Bool) (s : List Char) : Bool :=
  match Text.cutFirst '.' s with
  | (_, none) => false
  | ([], some rest) =>
    ["inf", "Inf", "INF"].contains (String.ofList rest) ||
      !signed && (["nan", "NaN", "NAN"].contains (String.ofList rest) ||
        isWhole (rest.takeWhile isDigitOrLow) && isExponent (rest.dropWhile isDigitOrLow))
  | (whole, some rest) =>
    match Text.pieces ':' whole with
    | [] => false
    | first :: parts =>
      isWhole first && parts.all isSixtieth &&
        (if parts.isEmpty then isExponent (rest.dropWhile isDigitOrLow)
        else rest.all isDigitOrLow)

/-- The tag of a plain scalar. -/
def Tag.resolve (s : String) : Tag :=
  let signed := s.toList.head? == some '-' || s.toList.head? == some '+'
  let unsigned := if signed then s.toList.drop 1 else s.toList
  if truths.contains s || falsehoods.contains s then .bool
  else if nulls.contains s then .null
  else if isFloat signed unsigned then .float
  else if isInt unsigned then .int
  else if Timestamp.isPlain s.toList then .timestamp
  else if s == "<<" then .merge
  else if s == "=" then .default
  else .text

end Stylebook.Yaml
