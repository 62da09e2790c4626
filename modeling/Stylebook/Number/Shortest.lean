import Stylebook.Number.Basic

/-!
The shortest decimal that reads back as a given binary64 number, and the text written from it:
positional while the first digit stands between the places `10 ^ (-4)` and `10 ^ 15`, with an
exponent of at least two digits otherwise.
-/

namespace Stylebook

/-- `digits · 10 ^ exponent`. -/
structure Decimal where
  digits : Nat
  exponent : Int

namespace Binary64

/-- A positive number and the ends of the interval that rounds to it, as numerators over one
denominator. The ends belong to the interval when the mantissa is even. -/
structure Interval where
  low : Nat
  value : Nat
  high : Nat
  den : Nat
  closed : Bool

def interval (m : Nat) (e : Int) : Interval :=
  let unit := twoPow e.toNat
  let down := if m = twoPow 52 ∧ e ≠ -1074 then unit else 2 * unit
  { low := 4 * m * unit - down
    value := 4 * m * unit
    high := 4 * m * unit + 2 * unit
    den := 4 * twoPow (-e).toNat
    closed := m % 2 == 0 }

def Interval.holds (i : Interval) (num : Nat) : Bool :=
  if i.closed then i.low ≤ num && num ≤ i.high else i.low < num && num < i.high

/-- The interval in units of `10 ^ g`. -/
def Interval.inUnits (i : Interval) (g : Int) : Interval :=
  let up := tenPow (-g).toNat
  { i with low := i.low * up, value := i.value * up, high := i.high * up, den := i.den * tenPow g.toNat }

/-- The place of the first decimal digit. Every positive number is above `10 ^ (-400)`. -/
def Interval.firstPlace (i : Interval) : Int :=
  ((Nat.toDigits 10 (i.value * tenPow 400 / i.den)).length : Int) - 401

/-- Of the two neighbours of the value on the grid of whole units, the one that reads back; if both
do, the nearer one, and the even one of two equally near. -/
def Interval.onGrid? (i : Interval) : Option Nat :=
  let c := i.value / i.den
  let below := i.holds (c * i.den)
  let above := i.holds ((c + 1) * i.den)
  let gap := 2 * (i.value - c * i.den)
  if below && above then some (if gap < i.den then c else if i.den < gap then c + 1 else c + c % 2)
  else if below then some c
  else if above then some (c + 1)
  else none

/-- The first grid with a hit, from one digit on; seventeen digits always suffice. -/
def shortest (m : Nat) (e : Int) : Decimal :=
  let i := interval m e
  let top := i.firstPlace
  let grid (n : Nat) : Int := top - n
  let found := (List.range 17).findSome? fun n =>
    (i.inUnits (grid n)).onGrid?.map fun d => (⟨d, grid n⟩ : Decimal)
  found.getD ⟨(i.inUnits (grid 16)).value / (i.inUnits (grid 16)).den, grid 16⟩

end Binary64

/-- Digits without the zeros at their end. -/
def trimZeros (ds : List Char) : List Char := (ds.reverse.dropWhile (· == '0')).reverse

/-- The text of a positive decimal. -/
def Decimal.text (d : Decimal) : String :=
  let all := Nat.toDigits 10 d.digits
  let place : Int := d.exponent + all.length - 1
  let ds := trimZeros all
  let zeros (n : Nat) : List Char := List.replicate n '0'
  String.ofList <|
    if -4 ≤ place ∧ place < 16 then
      if place < 0 then '0' :: '.' :: zeros (-place - 1).toNat ++ ds
      else
        let n := place.toNat + 1
        if ds.length ≤ n then ds ++ zeros (n - ds.length) ++ ['.', '0']
        else ds.take n ++ '.' :: ds.drop n
    else
      let exp := Nat.toDigits 10 place.natAbs
      ds.take 1 ++ (if ds.length ≤ 1 then [] else '.' :: ds.drop 1) ++
        'e' :: (if place < 0 then '-' else '+') :: zeros (2 - exp.length) ++ exp

namespace Binary64

def text : Binary64 → String
  | .nan => "nan"
  | .infinite s => if s then "-inf" else "inf"
  | .finite s m e =>
    (if s then "-" else "") ++ (if m = 0 then "0.0" else (shortest m e).text)

end Binary64

namespace Number

/-- The text of a number: a binary64 number always shows a point or an exponent. -/
def text : Number → String
  | .int i => toString i
  | .float x => x.text

/-- The text of a number in which a whole one shows no fraction. -/
def plainText : Number → String
  | .int i => toString i
  | .float x => match x.toInt? with
    | some i => toString i
    | none => x.text

end Number

end Stylebook
