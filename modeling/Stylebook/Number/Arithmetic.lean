import Stylebook.Number.Basic

/-!
Sums and products of binary64 numbers, each rounded from its exact value.
-/

namespace Stylebook.Binary64

/-- The number nearest to `a · 2 ^ e`. -/
def ofDyadic (negative : Bool) (a : Nat) (e : Int) : Binary64 :=
  ofRatio negative (a * twoPow e.toNat) (twoPow (-e).toNat)

def negate : Binary64 → Binary64
  | nan => nan
  | infinite s => infinite (!s)
  | finite s m e => finite (!s) m e

/-- A mantissa with its sign. -/
def signed (negative : Bool) (m : Nat) : Int := if negative then -m else m

/-- The sum; what cancels is a positive zero, and two infinities of different signs have none. -/
def add : Binary64 → Binary64 → Binary64
  | nan, _ | _, nan => nan
  | infinite s, infinite t => if s == t then infinite s else nan
  | infinite s, finite _ _ _ => infinite s
  | finite _ _ _, infinite t => infinite t
  | finite s m e, finite t n f =>
    let low := min e f
    let a := signed s (m * twoPow (e - low).toNat) + signed t (n * twoPow (f - low).toNat)
    if a = 0 then zero (s && t) else ofDyadic (decide (a < 0)) a.natAbs low

/-- The product; an infinity times zero has none. -/
def mul : Binary64 → Binary64 → Binary64
  | nan, _ | _, nan => nan
  | infinite s, infinite t => infinite (s != t)
  | infinite s, finite t n _ | finite t n _, infinite s =>
    if n = 0 then nan else infinite (s != t)
  | finite s m e, finite t n f => ofDyadic (s != t) (m * n) (e + f)

end Stylebook.Binary64
