import Stylebook.Decoding.Scalar
import Stylebook.Text.Blank
import Stylebook.Text.Cut
import Stylebook.Text.Pattern

/-!
Design tokens: named values in categories. Each token is a custom property of the stylesheet, and
style values refer to tokens by name, with or without the category in front.
-/

namespace Stylebook

/-- Categories of tokens, each a map from token names to values. -/
abbrev Tokens := Dict (Dict Literal)

/-- What custom properties start with unless a system says otherwise. -/
def defaultPrefix : String := "intent"

/-- The custom property of a token. -/
def variableName (pre category name : String) : String :=
  "--" ++ pre ++ "-" ++ category ++ "-" ++ name

/-- The use of a custom property as a value. -/
def variableUse (pre category name : String) : String :=
  "var(" ++ variableName pre category name ++ ")"

namespace Tokens

variable (tokens : Tokens)

/-- Is there a token of this name in this category? -/
def holds (category name : String) : Bool :=
  ((tokens.get? category).map fun c => c.contains name).getD false

/-- Every token with its category, in order. -/
def all : List (String × String × Literal) :=
  tokens.entries.flatMap fun c => c.2.entries.map fun t => (c.1, t.1, t.2)

/-- Is every value short enough to be written? -/
def areWritable : Bool := tokens.all.all fun t => t.2.2.isWritable

/-- Lays `top` on `base`: categories are joined, and a token of both takes its value from `top`. -/
def merge (base top : Tokens) : Tokens :=
  top.entries.foldl (fun b c => b.insert c.1 (((b.get? c.1).getD ∅).update c.2)) base

def toValue : Value := .ofDict (.ofDict Literal.toValue) tokens

end Tokens

/-- Words of the style language that never refer to a token. -/
def keywords : List String := ["none", "transparent", "inherit", "initial", "unset", "auto"]

/-- What follows `start` in a word that begins with it. -/
def afterStart? (start word : String) : Option String :=
  if start.toList.isPrefixOf word.toList then some (.ofList (word.toList.drop start.toList.length))
  else none

namespace Tokens

variable (tokens : Tokens)

/-- The first category with a token of this very name. -/
def findExact? (word : String) : Option (String × String) :=
  (tokens.entries.find? fun c => c.2.contains word).map fun c => (c.1, word)

/-- The first category that stands before a hyphen and the name of one of its tokens. -/
def findQualified? (word : String) : Option (String × String) :=
  tokens.entries.findSome? fun c =>
    match afterStart? (c.1 ++ "-") word with
    | some name => if c.2.contains name then some (c.1, name) else none
    | none => none

/-- The token that a word refers to. -/
def find? (word : String) : Option (String × String) :=
  if keywords.contains word then none
  else (tokens.findExact? word).orElse fun _ => tokens.findQualified? word

def resolveName (pre word : String) : String :=
  match tokens.find? word with
  | some (category, name) => variableUse pre category name
  | none => word

/-- A word refers to a token only if it is an identifier. -/
def resolveWord (pre word : String) : String :=
  if Text.isIdentifier word then tokens.resolveName pre word else word

/-- A style value with its references to tokens as uses of custom properties. A value of several
words is resolved word by word; any other value is looked at as a whole. -/
def resolve (pre value : String) : String :=
  if Text.isIdentifier value then tokens.resolveName pre value
  else
    let ws := Text.words value
    if 1 < ws.length then Text.joinWith " " (ws.map (tokens.resolveWord pre)) else value

end Tokens

namespace Tokens

open Decoded Decoding

/-- An object whose field names are all texts; of two names with one text the later one gives the
value, at the place of the first. -/
def textNames (fs : Fields) : Fields :=
  fs.foldl (fun done e => Pairs.set (.text e.1.shown) e.2 done) []

/-- Category and token names may be written as any scalars; their texts count. -/
def normalize : Value → Value
  | .object fs => .object <| textNames <| fs.map fun e =>
      (e.1, match e.2 with
        | .object ts => .object (textNames ts)
        | v => v)
  | v => v

def decodeExact : Value → Decoded Tokens := dict (dict literal)

/-- Can the names of categories and of the tokens in them be written? -/
def namesWritable (v : Value) : Bool :=
  v.fieldsOf.all fun e => e.1.isWritable && e.2.fieldsOf.all fun t => t.1.isWritable

def decode (v : Value) : Decoded Tokens :=
  if namesWritable v then decodeExact (normalize v) else fault .unwritable

end Tokens

end Stylebook
