import Stylebook.Text.Digit
import Stylebook.Text.Word

/-!
The patterns that names have to follow. A pattern is met by a whole text, and also by such a text
with one line end after it.
-/

namespace Stylebook.Text

/-- Nothing is left, or one line end. -/
def atEnd (rest : List Char) : Bool := rest == [] || rest == ['\n']

/-- One character of class `first`, then only characters of class `next`. -/
def isNamed (first next : Char → Bool) : List Char → Bool
  | [] => false
  | c :: cs => first c && atEnd (cs.dropWhile next)

def isLowerAscii (c : Char) : Bool := 'a' ≤ c && c ≤ 'z'

def isUpperAscii (c : Char) : Bool := 'A' ≤ c && c ≤ 'Z'

def isDigitAscii (c : Char) : Bool := '0' ≤ c && c ≤ '9'

def isLetterAscii (c : Char) : Bool := isLowerAscii c || isUpperAscii c

/-- A letter, then word characters and hyphens. -/
def isIdentifier (s : String) : Bool :=
  isNamed isLetterAscii (fun c => isWordChar c || c == '-') s.toList

/-- A run of one or more characters of class `p` at the front, and what follows it. -/
def takeRun? (p : Char → Bool) (s : List Char) : Option (List Char) :=
  if (s.takeWhile p).isEmpty then none else some (s.dropWhile p)

/-- The mark `c` at the front, and what follows it. -/
def takeMark? (c : Char) : List Char → Option (List Char)
  | [] => none
  | d :: rest => if d = c then some rest else none

def isSuffixChar (c : Char) : Bool := isWordChar c || c == '.' || c == '-'

/-- What follows a suffix that `c` opens; a text that does not start with `c` has none to skip. -/
def skipSuffix? (c : Char) (s : List Char) : Option (List Char) :=
  match takeMark? c s with
  | none => some s
  | some rest => takeRun? isSuffixChar rest

/-- Three numbers with dots between them, then a suffix after `-`, then one after `+`; either
suffix may be absent. -/
def isVersion (s : String) : Bool :=
  let rest := do
    let r ← takeRun? isDecimalDigit s.toList
    let r ← takeRun? isDecimalDigit (← takeMark? '.' r)
    let r ← takeRun? isDecimalDigit (← takeMark? '.' r)
    skipSuffix? '+' (← skipSuffix? '-' r)
  (rest.map atEnd).getD false

end Stylebook.Text
