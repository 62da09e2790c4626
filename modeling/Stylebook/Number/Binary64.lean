/-!
Binary64 numbers with exact values: rounding a quotient, comparing, and the whole numbers among
them. All of it is arithmetic on integers.
-/

namespace Stylebook

/-- The power `2 ^ n`. -/
def twoPow (n : Nat) : Nat := Nat.pow 2 n

/-- The power `10 ^ n`. -/
def tenPow (n : Nat) : Nat := Nat.pow 10 n

/-- `finite negative m e` stands for `m · 2 ^ e` with a sign; zero has a sign too. -/
inductive Binary64 where
  | nan
  | infinite (negative : Bool)
  | finite (negative : Bool) (mantissa : Nat) (exponent : Int)
  deriving DecidableEq, Repr

namespace Binary64

def zero (negative : Bool) : Binary64 := .finite negative 0 0

/-- The quotient to the nearest natural number; a tie goes to the even one. -/
def roundDiv (num den : Nat) : Nat :=
  let q := num / den
  let r := num % den
  if 2 * r < den then q
  else if den < 2 * r then q + 1
  else q + q % 2

/-- Numerator and denominator of `num / den / 2 ^ e`. -/
def scaleDown (num den : Nat) (e : Int) : Nat × Nat :=
  (num * twoPow (-e).toNat, den * twoPow e.toNat)

/-- The exponent at which the quotient `num / den` has 53 binary digits, but not below the least
one there is. -/
def exponentOf (num den : Nat) : Int :=
  let e : Int := (num.log2 : Int) - (den.log2 : Int) - 52
  let q := scaleDown num den e
  max (if q.1 < twoPow 52 * q.2 then e - 1 else e) (-1074)

/-- The number nearest to `num / den`; a tie goes to the even mantissa, and what is too large
becomes infinite. -/
def ofRatio (negative : Bool) (num den : Nat) : Binary64 :=
  if num = 0 then zero negative
  else
    let e := exponentOf num den
    let q := scaleDown num den e
    let m := roundDiv q.1 q.2
    if m = 0 then zero negative
    else if m = twoPow 53 then
      if e + 1 ≤ 971 then .finite negative (twoPow 52) (e + 1) else .infinite negative
    else if e ≤ 971 then .finite negative m e
    else .infinite negative

/-- The number nearest to `digits · 10 ^ exponent`. What is far out of range is settled before any
large power is formed. -/
def ofDecimal (negative : Bool) (digits : Nat) (exponent : Int) : Binary64 :=
  let top : Int := (Nat.toDigits 10 digits).length + exponent
  if digits = 0 || top < -330 then zero negative
  else if 310 < top then .infinite negative
  else ofRatio negative (digits * tenPow exponent.toNat) (tenPow (-exponent).toNat)

def ofInt (i : Int) : Binary64 := ofRatio (decide (i < 0)) i.natAbs 1

/-- The number nearest to an integer, unless it is too large for any finite one. -/
def ofInt? (i : Int) : Option Binary64 :=
  match ofInt i with
  | .finite s m e => some (.finite s m e)
  | _ => none

/-- The integer a number equals. -/
def toInt? : Binary64 → Option Int
  | .finite s m e =>
    let whole (n : Nat) : Int := if s then -n else n
    if 0 ≤ e then some (whole (m * twoPow e.toNat))
    else if m % twoPow (-e).toNat = 0 then some (whole (m / twoPow (-e).toNat))
    else none
  | _ => none

end Binary64

end Stylebook
