import Stylebook.Number.Basic
import Stylebook.Text.Blank
import Stylebook.Text.Digit
import Stylebook.Text.Pattern

/-!
Numbers read from text.
-/

namespace Stylebook

open Text

/-- The natural number that decimal digits write. -/
def digitsValue (ds : List Char) : Nat :=
  ds.foldl (fun n c => 10 * n + (c.toNat - '0'.toNat)) 0

/-- An optional sign at the front, and what follows it. -/
def takeSign : List Char → Bool × List Char
  | '-' :: rest => (true, rest)
  | '+' :: rest => (false, rest)
  | rest => (false, rest)

/-- The exponent that a text consists of, if it consists of one. -/
def readExponent? (s : List Char) : Option Int :=
  let (negative, ds) := takeSign s
  if ds.isEmpty || !ds.all isDigitAscii then none
  else some (if negative then -(digitsValue ds : Int) else digitsValue ds)

/-- Digits with an optional point, and an optional exponent after `e`. -/
def readUnsigned? (negative : Bool) (s : List Char) : Option Binary64 := do
  let whole := s.takeWhile isDigitAscii
  let rest := s.dropWhile isDigitAscii
  let (fraction, rest) := match rest with
    | '.' :: r => (r.takeWhile isDigitAscii, r.dropWhile isDigitAscii)
    | r => ([], r)
  if whole.isEmpty && fraction.isEmpty then none
  else
    let exponent ← match rest with
      | [] => some 0
      | c :: r => if c == 'e' || c == 'E' then readExponent? r else none
    some (.ofDecimal negative (digitsValue (whole ++ fraction)) (exponent - fraction.length))

/-- A binary64 number in ASCII: a decimal, or a word for infinity or for no number in any case. -/
def readBinary64? (s : List Char) : Option Binary64 :=
  let (negative, rest) := takeSign s
  let word := rest.map Char.toLower
  if word == "inf".toList || word == "infinity".toList then some (.infinite negative)
  else if word == "nan".toList then some .nan
  else readUnsigned? negative rest

/-- Removes underscores, each of which has to stand between two digits; `before` says whether a
digit came last. -/
def joinDigits? (before : Bool) : List Char → Option (List Char)
  | [] => some []
  | '_' :: c :: rest =>
    if before && isDigitAscii c then (joinDigits? true rest).map (c :: ·) else none
  | ['_'] => none
  | c :: rest => (joinDigits? (isDigitAscii c) rest).map (c :: ·)

/-- Decimal digits of every script as ASCII digits. -/
def asciiDigits (s : List Char) : List Char :=
  s.map fun c => match digitValue? c with
    | some d => Nat.digitChar d
    | none => c

/-- A number written with digits of any script, underscores between digits, and blanks around. -/
def readNumeral? (s : String) : Option Binary64 :=
  joinDigits? false (asciiDigits (trimmed s.toList)) >>= readBinary64?

end Stylebook
