import Stylebook.Text.Cut
import Stylebook.Text.Quoted
import Stylebook.Unfit
import Stylebook.Value.Text

/-!
JSON text in ASCII: on one line with a blank after each comma and colon, or on lines indented by
two blanks a level. Days, times, bytes and sets have no form in JSON; where one is written nonetheless
it stands as its text.
-/

namespace Stylebook.Json

/-- `\u` and four hexadecimal digits. -/
def unitEscape (n : Nat) : List Char := '\\' :: 'u' :: Text.hexDigits 4 n

def escapeChar (c : Char) : List Char :=
  if c == '"' || c == '\\' then ['\\', c]
  else if c == '\n' then ['\\', 'n']
  else if c == '\r' then ['\\', 'r']
  else if c == '\t' then ['\\', 't']
  else if c.toNat == 0x08 then ['\\', 'b']
  else if c.toNat == 0x0c then ['\\', 'f']
  else if 0x20 ≤ c.toNat && c.toNat ≤ 0x7e then [c]
  else if c.toNat ≤ 0xffff then unitEscape c.toNat
  else
    let n := c.toNat - 0x10000
    unitEscape (0xd800 + n / 0x400) ++ unitEscape (0xdc00 + n % 0x400)

def escaped (s : String) : String := String.ofList ('"' :: s.toList.flatMap escapeChar ++ ['"'])

def numberText : Number → String
  | .float .nan => "NaN"
  | .float (.infinite s) => if s then "-Infinity" else "Infinity"
  | n => n.text

def boolText (b : Bool) : String := if b then "true" else "false"

/-- The text that names a field. -/
def keyText : Key → String
  | .null => "null"
  | .bool b => boolText b
  | .number n => numberText n
  | .text s => s
  | .moment m => m.text

/-- What keeps a name from standing before a field. -/
def keyFault? : Key → Option Unfit
  | .moment _ => some .notJson
  | k => Unfit.unlessShort k.isWritable

mutual

/-- What keeps a value from having a form in JSON: of all such things the one that comes first. -/
def fault? : Value → Option Unfit
  | .number n => Unfit.unlessShort n.isWritable
  | .moment _ | .bytes _ | .set _ => some .notJson
  | .list items => itemFault? items
  | .object fields => fieldFault? fields
  | _ => none

def itemFault? : List Value → Option Unfit
  | [] => none
  | v :: rest => (fault? v).or (itemFault? rest)

def fieldFault? : List (Key × Value) → Option Unfit
  | [] => none
  | (k, v) :: rest => (keyFault? k).or ((fault? v).or (fieldFault? rest))

end

/-- Has a value a form in JSON? -/
def isWritable (v : Value) : Bool := (fault? v).isNone

mutual

def compact : Value → String
  | .null => "null"
  | .bool b => boolText b
  | .number n => numberText n
  | .text s => escaped s
  | .moment m => escaped m.text
  | .bytes l => escaped (Value.bytes l).written
  | .set members => escaped (Value.set members).written
  | .list items => "[" ++ Text.joinWith ", " (compactItems items) ++ "]"
  | .object fields => "\x7b" ++ Text.joinWith ", " (compactFields fields) ++ "\x7d"

def compactItems : List Value → List String
  | [] => []
  | v :: rest => compact v :: compactItems rest

def compactFields : List (Key × Value) → List String
  | [] => []
  | (k, v) :: rest => (escaped (keyText k) ++ ": " ++ compact v) :: compactFields rest

end

/-- Parts on lines of their own between two brackets, or the bare brackets if there are none. -/
def bracketed (level : Nat) (left right : String) (parts : List String) : String :=
  let indent (n : Nat) := "\n" ++ String.ofList (List.replicate (2 * n) ' ')
  if parts.isEmpty then left ++ right
  else left ++ indent (level + 1) ++ Text.joinWith ("," ++ indent (level + 1)) parts ++
    indent level ++ right

mutual

def prettyAt (level : Nat) : Value → String
  | .null => "null"
  | .bool b => boolText b
  | .number n => numberText n
  | .text s => escaped s
  | .moment m => escaped m.text
  | .bytes l => escaped (Value.bytes l).written
  | .set members => escaped (Value.set members).written
  | .list items => bracketed level "[" "]" (prettyItems (level + 1) items)
  | .object fields => bracketed level "\x7b" "\x7d" (prettyFields (level + 1) fields)

def prettyItems (level : Nat) : List Value → List String
  | [] => []
  | v :: rest => prettyAt level v :: prettyItems level rest

def prettyFields (level : Nat) : List (Key × Value) → List String
  | [] => []
  | (k, v) :: rest => (escaped (keyText k) ++ ": " ++ prettyAt level v) :: prettyFields level rest

end

def pretty (v : Value) : String := prettyAt 0 v

end Stylebook.Json
