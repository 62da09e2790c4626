import Stylebook.Text.Printable

/-!
Quoted text: a single quote on both sides, unless the text has a single quote and no double one.
-/

namespace Stylebook.Text

/-- The last `width` hexadecimal digits of `n`. -/
def hexDigits : Nat → Nat → List Char
  | 0, _ => []
  | width + 1, n => hexDigits width (n / 16) ++ [Nat.digitChar (n % 16)]

/-- The mark that stands on both sides of a quoted text. -/
def quoteMark (s : List Char) : Char := if s.contains '\'' && !s.contains '"' then '"' else '\''

/-- The number of a character after a backslash. -/
def escapedCode (c : Char) : List Char :=
  if c.toNat ≤ 0xff then '\\' :: 'x' :: hexDigits 2 c.toNat
  else if c.toNat ≤ 0xffff then '\\' :: 'u' :: hexDigits 4 c.toNat
  else '\\' :: 'U' :: hexDigits 8 c.toNat

/-- A character as written between two marks `q`. -/
def quoteChar (q c : Char) : List Char :=
  if c == q || c == '\\' then ['\\', c]
  else if c == '\n' then ['\\', 'n']
  else if c == '\r' then ['\\', 'r']
  else if c == '\t' then ['\\', 't']
  else if isPrintable c then [c]
  else escapedCode c

def quoted (s : String) : String :=
  let q := quoteMark s.toList
  String.ofList (q :: s.toList.flatMap (quoteChar q) ++ [q])

/-- A byte as written between two marks `q`: as its character in ASCII, or else by its number. -/
def quoteByte (q : Char) (b : UInt8) : List Char :=
  let c := Char.ofNat b.toNat
  if b < 0x80 then quoteChar q c else escapedCode c

def quotedBytes (l : List UInt8) : String :=
  let q := quoteMark (l.map fun b => Char.ofNat b.toNat)
  String.ofList ('b' :: q :: l.flatMap (quoteByte q) ++ [q])

end Stylebook.Text
