import Stylebook.Moment
import Stylebook.Number.Limit
import Stylebook.Text.Base64
import Stylebook.Yaml.Token

/-!
What can be wrong with a YAML text, and the words for it.
-/

namespace Stylebook.Yaml

open Text (Position quoted)

/-- The three shapes of a node. -/
inductive Shape where
  | scalar
  | sequence
  | mapping
  deriving DecidableEq, Repr

def Shape.label : Shape → String
  | scalar => "scalar"
  | sequence => "sequence"
  | mapping => "mapping"

inductive Problem where
  | expected (what : String) (found : Char)
  | zeroIndent
  | noToken (c : Char)
  | unknownEscape (c : Char)
  | endInQuotes
  | separatorInQuotes
  | badBytes (e : Text.Utf8Error)
  | colonMissing
  | entryNotAllowed
  | keyNotAllowed
  | valueNotAllowed
  | expectedToken (what : String) (found : Token.Kind)
  | expectedNext (mark : Token.Kind) (found : Token.Kind)
  | secondVersion
  | foreignVersion
  | secondHandle (name : String)
  | undefinedHandle (name : String)
  | undefinedAlias (name : String)
  | secondAnchor
  | secondDocument
  | unknownTag (uri : String)
  | wrongShape (wanted found : Shape)
  | notSequence (found : Shape)
  | notPair (found : Shape)
  | notOnePair (count : Nat)
  | notAscii (c : Char) (position length : Nat)
  | badBase64 (defect : Text.Base64Defect)
  | notMergeable (found : Shape)
  | itemNotMergeable (found : Shape)
  | unhashableKey
  deriving DecidableEq, Repr

namespace Problem

def message : Problem → String
  | expected what found => "expected " ++ what ++ ", but found " ++ quoted found.toString
  | zeroIndent => "expected indentation indicator in the range 1-9, but found 0"
  | noToken c => "found character " ++ quoted c.toString ++ " that cannot start any token"
  | unknownEscape c => "found unknown escape character " ++ quoted c.toString
  | endInQuotes => "found unexpected end of stream"
  | separatorInQuotes => "found unexpected document separator"
  | badBytes e => e.message
  | colonMissing => "could not find expected ':'"
  | entryNotAllowed => "sequence entries are not allowed here"
  | keyNotAllowed => "mapping keys are not allowed here"
  | valueNotAllowed => "mapping values are not allowed here"
  | expectedToken what found => "expected " ++ what ++ ", but found " ++ quoted found.label
  | expectedNext mark found =>
    "expected ',' or " ++ quoted mark.label ++ ", but got " ++ quoted found.label
  | secondVersion => "found duplicate YAML directive"
  | foreignVersion => "found incompatible YAML document (version 1.* is required)"
  | secondHandle name => "duplicate tag handle " ++ quoted name
  | undefinedHandle name => "found undefined tag handle " ++ quoted name
  | undefinedAlias name => "found undefined alias " ++ quoted name
  | secondAnchor => "second occurrence"
  | secondDocument => "but found another document"
  | unknownTag uri => "could not determine a constructor for the tag " ++ quoted uri
  | wrongShape wanted found => "expected a " ++ wanted.label ++ " node, but found " ++ found.label
  | notSequence found => "expected a sequence, but found " ++ found.label
  | notPair found => "expected a mapping of length 1, but found " ++ found.label
  | notOnePair n => "expected a single mapping item, but found " ++ toString n ++ " items"
  | notAscii c position length =>
    "failed to convert base64 data into ascii: 'ascii' codec can't encode character" ++
      (if length == 1 then
        " '" ++ String.ofList (Text.escapedCode c) ++ "' in position " ++ toString position
      else "s in position " ++ toString position ++ "-" ++ toString (position + length - 1)) ++
      ": ordinal not in range(128)"
  | badBase64 d => "failed to decode base64 data: " ++ d.message
  | notMergeable found => "expected a mapping or list of mappings for merging, but found " ++ found.label
  | itemNotMergeable found => "expected a mapping for merging, but found " ++ found.label
  | unhashableKey => "found unhashable key"

end Problem

/-- What can be wrong with the text of a scalar whose kind is settled. -/
inductive ScalarProblem where
  | tooManyDigits (count : Nat)
  | notInteger (base : Nat) (text : String)
  | notFloat (text : String)
  | tooLarge
  | notTimestamp
  | badMoment (fault : MomentFault)
  | notBool
  | empty
  | notCharacter (code : Nat)
  deriving DecidableEq, Repr

def ScalarProblem.message : ScalarProblem → String
  | tooManyDigits n => tooManyDigitsMessage (some n)
  | notInteger base text =>
    "invalid literal for int() with base " ++ toString base ++ ": " ++
      ((quoted text).take 200).toString
  | notFloat text => "could not convert string to float: " ++ quoted text
  | tooLarge => "int too large to convert to float"
  | badMoment fault => fault.message
  | notBool | notTimestamp | empty => ""
  | notCharacter code =>
    if code < 0x80000000 then "chr() arg not in range(0x110000)"
    else "Python int too large to convert to C int"

inductive ReadError where
  | located (problem : Problem) (position : Position)
  | scalar (problem : ScalarProblem)
  | unprintable (c : Char) (index : Nat)
  deriving DecidableEq, Repr

/-- A character in the form `#x0007`, with at least four digits. -/
def codeText (c : Char) : String :=
  let ds := Nat.toDigits 16 c.toNat
  "#x" ++ String.ofList (List.replicate (4 - ds.length) '0' ++ ds)

def unprintableMessage (c : Char) (index : Nat) : String :=
  "unacceptable character " ++ codeText c ++
    ": special characters are not allowed\n  in \"<unicode string>\", position " ++ toString index

end Stylebook.Yaml
