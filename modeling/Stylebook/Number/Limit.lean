import Stylebook.Number.Basic

/-!
The bound on the length of integers: one with too many decimal digits is neither read from decimal
text nor written as such.
-/

namespace Stylebook

/-- The most digits of an integer in decimal text. -/
def maxDigits : Nat := 4300

/-- The first natural number that is too long to be written. -/
def digitsBound : Nat := tenPow maxDigits

/-- The words for an integer that is too long; `count` tells its digits where they stand in text. -/
def tooManyDigitsMessage (count : Option Nat) : String :=
  "Exceeds the limit (4300 digits) for integer string conversion" ++
    (match count with
      | some n => ": value has " ++ toString n ++ " digits"
      | none => "") ++ "; use sys.set_int_max_str_digits() to increase the limit"

/-- Is a number short enough to be written? -/
def Number.isWritable : Number → Bool
  | .int i => i.natAbs < digitsBound
  | .float _ => true

end Stylebook
