import Stylebook.Number.Binary64

/-!
Numbers as data holds them: integers of any size, and binary64 numbers. The two kinds are told
apart everywhere, but compared by their exact values.
-/

namespace Stylebook

inductive Number where
  | int (i : Int)
  | float (x : Binary64)
  deriving DecidableEq, Repr

namespace Number

/-- A number's place in the order: `dyadic a e` is `a · 2 ^ e`. -/
inductive Place where
  | unordered
  | infinite (negative : Bool)
  | dyadic (a : Int) (e : Int)

def place : Number → Place
  | .int i => .dyadic i 0
  | .float .nan => .unordered
  | .float (.infinite s) => .infinite s
  | .float (.finite s m e) => .dyadic (if s then -m else m) e

/-- The order of `a · 2 ^ e` and `b · 2 ^ f`. -/
def compareDyadic (a e b f : Int) : Ordering :=
  compare (a * twoPow (e - min e f).toNat) (b * twoPow (f - min e f).toNat)

/-- The order of two numbers by their exact values; none if one of them is no number. -/
def compare? (x y : Number) : Option Ordering :=
  match x.place, y.place with
  | .unordered, _ => none
  | _, .unordered => none
  | .infinite s, .infinite t => some (if s == t then .eq else if s then .lt else .gt)
  | .infinite s, .dyadic _ _ => some (if s then .lt else .gt)
  | .dyadic _ _, .infinite t => some (if t then .gt else .lt)
  | .dyadic a e, .dyadic b f => some (compareDyadic a e b f)

def lt (x y : Number) : Bool := compare? x y == some .lt

def le (x y : Number) : Bool := compare? x y == some .lt || compare? x y == some .eq

/-- Equality of values: `2` and `2.0` are equal, and a NaN equals nothing. -/
def eqv (x y : Number) : Bool := compare? x y == some .eq

/-- Is this number `0`, of either kind and sign? -/
def isZero (x : Number) : Bool := x.eqv (.int 0)

end Number

end Stylebook
