import Stylebook.Json.Reader
import Stylebook.Number.Arithmetic
import Stylebook.Text.Lower
import Stylebook.Yaml.Tag

/-!
The values that scalars stand for, by their tags. Underscores in numbers count for nothing. A scalar
that has its tag from its author, and not from its form, may write a number in more ways: with
blanks around it, with decimal digits of every script, and with a second sign.
-/

namespace Stylebook.Yaml

open Text (isDigitAscii trimmed)
open Json (hexValue?)

/-- The natural number of digits in a base up to 16, none if something else stands among them. -/
def baseValue? (base : Nat) (ds : List Char) : Option Nat :=
  if ds.isEmpty then none
  else ds.foldl (fun n c => do
    let n ← n
    let d ← hexValue? c
    if d < base then some (base * n + d) else none) (some 0)

/-- The letter that may stand after a zero in front of the digits of a base. -/
def baseMark? (base : Nat) : Option Char :=
  if base = 2 then some 'b' else if base = 8 then some 'o' else if base = 16 then some 'x' else none

/-- Digits without a zero and the letter of their base in front. -/
def withoutMark (base : Nat) : List Char → List Char
  | '0' :: c :: rest => if baseMark? base == some c.toLower then rest else '0' :: c :: rest
  | ds => ds

/-- An integer with an optional sign in a base. Only decimal ones are limited in length. -/
def readBase (base : Nat) (s : List Char) : Except ScalarProblem Int :=
  let (negative, ds) := takeSign (asciiDigits (trimmed s))
  let ds := withoutMark base ds
  let length := (ds.takeWhile isDigitAscii).length
  if base == 10 && maxDigits < length then .error (.tooManyDigits length)
  else match baseValue? base ds with
    | some n => .ok (if negative then -n else n)
    | none => .error (.notInteger base (String.ofList s))

/-- Hours, minutes and seconds: each part counts sixty of the next. -/
def sixtieths (parts : List Int) : Int := parts.foldl (fun n d => 60 * n + d) 0

def dropLows (s : String) : List Char := s.toList.filter (· != '_')

def readInt (text : String) : Except ScalarProblem Int := do
  let s := dropLows text
  if s.isEmpty then throw .empty
  let (negative, ds) := takeSign s
  let n ← match ds with
    | ['0'] => pure 0
    | '0' :: 'b' :: rest => readBase 2 rest
    | '0' :: 'x' :: rest => readBase 16 rest
    | '0' :: _ => readBase 8 ds
    | [] => throw .empty
    | _ => sixtieths <$> (Text.pieces ':' ds).mapM (readBase 10)
  return if negative then -n else n

/-- The sum of hours, minutes and seconds from the last part on, as it is rounded on the way. Each
part counts `unit`, which is rounded as well. -/
def floatSixtieths (sum : Binary64) (unit : Nat) : List Binary64 → Except ScalarProblem Binary64
  | [] => .ok sum
  | part :: earlier =>
    match Binary64.ofInt? unit with
    | none => .error .tooLarge
    | some u => floatSixtieths (sum.add (part.mul u)) (60 * unit) earlier

def readPart (s : List Char) : Except ScalarProblem Binary64 :=
  match readBinary64? (asciiDigits (trimmed s)) with
  | some x => .ok x
  | none => .error (.notFloat (String.ofList s))

def readUnsignedFloat (s : List Char) : Except ScalarProblem Binary64 := do
  match s with
  | ['.', 'i', 'n', 'f'] => return .infinite false
  | ['.', 'n', 'a', 'n'] => return .nan
  | s =>
    let parts ← (Text.pieces ':' s).mapM readPart
    match parts with
    | [x] => return x
    | parts => floatSixtieths (Binary64.zero false) 1 parts.reverse

def readFloat (text : String) : Except ScalarProblem Binary64 := do
  let s := (Text.lower (String.ofList (dropLows text))).toList
  if s.isEmpty then throw .empty
  let (negative, unsigned) := takeSign s
  let x ← readUnsignedFloat unsigned
  return if negative then x.negate else x

def readBool (text : String) : Except ScalarProblem Bool :=
  let word := String.ofList (text.toList.map Char.toLower)
  if truths.contains word then .ok true
  else if falsehoods.contains word then .ok false
  else .error .notBool

def readMoment (text : String) : Except ScalarProblem Moment :=
  match Timestamp.read? text.toList with
  | none => .error .notTimestamp
  | some t => t.moment?.mapError .badMoment

end Stylebook.Yaml
