import Stylebook.Decoding.Decoded
import Stylebook.Literal
import Stylebook.Number.Limit
import Stylebook.Number.Reading
import Stylebook.Text.Utf8

/-!
Scalars read from raw data, with the conversions that are allowed: bytes may stand for the text that they
spell, a truth value may be written as a word or as 0 or 1, an integer as text, as a truth value or as a
whole binary64 number. Where several
kinds are admitted, the kind that a value has wins over any conversion.
-/

namespace Stylebook.Decoding

open Text Decoded

/-- Bytes as the text that they spell, if they do. -/
@[simp] def spelled : Value → Value
  | .bytes l => match decodeUtf8 l with
    | .ok s => .text s
    | .error _ => .bytes l
  | v => v

def text (v : Value) : Decoded String :=
  match spelled v with
  | .text s => ok s
  | .bytes _ => fault .notUnicode
  | _ => fault .notText

/-- The words for a truth value, in any case. -/
def boolWord? (s : String) : Option Bool :=
  let w := s.map Char.toLower
  if ["0", "off", "f", "false", "n", "no"].contains w then some false
  else if ["1", "on", "t", "true", "y", "yes"].contains w then some true
  else none

/-- Integers written as binary64 numbers have to be finite, whole, and of machine size. -/
def wholeOf (x : Binary64) : Decoded Int :=
  match x, x.toInt? with
  | .nan, _ => fault .notFinite
  | .infinite _, _ => fault .notFinite
  | _, none => fault .fractional
  | _, some i => if -wordBound < i && i < wordBound then ok i else fault .oversizedInteger

def boolOfInt (i : Int) : Decoded Bool :=
  if i = 0 then ok false else if i = 1 then ok true else fault .unreadBool

def bool (v : Value) : Decoded Bool :=
  match spelled v with
  | .bool b => ok b
  | .bytes _ => fault .unreadBool
  | .text s => match boolWord? s with
    | some b => ok b
    | none => fault .unreadBool
  | .number (.int i) => if fitsWord i then boolOfInt i else fault .notBool
  | .number (.float x) => match wholeOf x with
    | ok i => boolOfInt i
    | _ => fault .notBool
  | _ => fault .notBool

/-- Blank characters other than the information separators. -/
def isWhiteSpace (c : Char) : Bool := isBlank c && !(0x1c ≤ c.toNat && c.toNat ≤ 0x1f)

/-- Do two underscores stand side by side? -/
def hasDouble : List Char → Bool
  | c :: d :: rest => (c == '_' && d == '_') || hasDouble (d :: rest)
  | _ => false

/-- Are underscores single, and neither first nor last? -/
def underscoresJoin (s : List Char) : Bool :=
  s.head? != some '_' && s.getLast? != some '_' && !hasDouble s

/-- Does an integer without needless zeros start with this character? -/
def startsInteger (c : Char) : Bool := c == '-' || ('1' ≤ c && c ≤ '9')

/-- Passes over zeros and underscores, of which `last` was the latest. What remains starts with a
digit other than zero or a minus, or is `last` with the end of the text or a point after it. -/
def dropZeros? (last : Char) : List Char → Option (List Char)
  | [] => some [last]
  | c :: rest =>
    if c == '0' || c == '_' then dropZeros? c rest
    else if c == '.' then some (last :: c :: rest)
    else if startsInteger c then some (c :: rest)
    else none

/-- An integer without the zeros in front of it. A minus may come after them. -/
def withoutZeros? : List Char → Option (List Char)
  | '0' :: rest => dropZeros? '0' rest
  | c :: rest => if startsInteger c then some (c :: rest) else none
  | [] => none

/-- An integer without a fraction that is zero. -/
def withoutFraction (s : List Char) : List Char :=
  match cutFirst '.' s with
  | (whole, some fraction) => if !fraction.isEmpty && fraction.all (· == '0') then whole else s
  | (_, none) => s

/-- What follows a plus, which no minus may follow. -/
def withoutPlus? : List Char → Option (List Char)
  | '+' :: '-' :: _ => none
  | '+' :: rest => some rest
  | s => some s

/-- The text of an integer without blanks around it, its plus, zeros in front, a zero fraction and
underscores. -/
def cleanInteger? (s : List Char) : Option (List Char) := do
  let whole := withoutFraction (← withoutZeros? (← withoutPlus? (trimBy isWhiteSpace s)))
  if underscoresJoin whole then return whole.filter (· != '_') else none

/-- A minus and decimal digits, without needless zeros and not too many. -/
def plainInteger (s : List Char) : Decoded Int :=
  let (negative, ds) := match s with
    | '-' :: rest => (true, rest)
    | rest => (false, rest)
  let run := ds.takeWhile isDigitAscii
  let n : Int := digitsValue ds
  if run.isEmpty || (run.head? == some '0' && 1 < ds.length) then fault .unreadInteger
  else if maxDigits < run.length + (if negative then 1 else 0) then fault .oversizedInteger
  else if run.length < ds.length then fault .unreadInteger
  else ok (if negative then -n else n)

/-- An integer as text. -/
def integerOfText (s : String) : Decoded Int :=
  match cleanInteger? s.toList with
  | some t => plainInteger t
  | none => fault .unreadInteger

def integer (v : Value) : Decoded Int :=
  match spelled v with
  | .number (.int i) => ok i
  | .number (.float x) => wholeOf x
  | .bool b => ok (if b then 1 else 0)
  | .text s => integerOfText s
  | .bytes _ => fault .unreadInteger
  | _ => fault .notInteger

/-- A binary64 number as text, with blanks around; a second look passes over underscores, but then
blanks may not stand anywhere. -/
def binary64OfText? (s : String) : Option Binary64 :=
  match readBinary64? (trimBy isWhiteSpace s.toList) with
  | some x => some x
  | none =>
    if underscoresJoin s.toList then readBinary64? (s.toList.filter (· != '_')) else none

/-- A defect of each alternative, in their order. -/
def noneFits {α : Type} (tried : List (String × Defect)) : Decoded α :=
  bad (tried.map fun t => ⟨[.name t.1], t.2⟩)

/-- A literal: a truth value counts as 0 or 1. -/
def literal (v : Value) : Decoded Literal :=
  match spelled v with
  | .text s => ok (.text s)
  | .number n => ok (.number n)
  | .bool b => ok (.number (.int (if b then 1 else 0)))
  | .bytes _ => noneFits [("str", .notUnicode), ("int", .unreadInteger), ("float", .unreadNumber)]
  | _ => noneFits [("str", .notText), ("int", .notInteger), ("float", .notNumber)]

def scalar (v : Value) : Decoded Scalar :=
  match spelled v with
  | .text s => ok (.text s)
  | .number n => ok (.number n)
  | .bool b => ok (.bool b)
  | .bytes _ =>
    noneFits [("str", .notUnicode), ("bool", .unreadBool), ("int", .unreadInteger), ("float", .unreadNumber)]
  | _ => noneFits [("str", .notText), ("bool", .notBool), ("int", .notInteger), ("float", .notNumber)]

/-- A number: a text is read as an integer if it is one. -/
def number (v : Value) : Decoded Number :=
  match spelled v with
  | .number n => ok n
  | .bool b => ok (.int (if b then 1 else 0))
  | .bytes _ => noneFits [("int", .unreadInteger), ("float", .unreadNumber)]
  | .text s =>
    match integerOfText s, binary64OfText? s with
    | ok i, _ => ok (.int i)
    | _, some x => ok (.float x)
    | bad ds, none =>
      bad (ds.map (fun d => { d with path := .name "int" :: d.path }) ++
        [⟨[.name "float"], .unreadNumber⟩])
    | refused r, none => refused r
  | _ => noneFits [("int", .notInteger), ("float", .notNumber)]

/-- One of the names that `f` knows. -/
def member {α : Type} (f : String → Option α) : Value → Decoded α
  | .text s => match f s with
    | some a => ok a
    | none => fault .notMember
  | _ => fault .notMember

end Stylebook.Decoding
