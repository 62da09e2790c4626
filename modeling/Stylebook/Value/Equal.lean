import Stylebook.Value.Basic

/-!
Equality of values by what they stand for: numbers by their exact value, times by the moment,
sets and objects whatever the order of their members and fields. Inside a list or an object, truth
values count as 0 and 1, and no number (NaN) is the same as itself.
-/

namespace Stylebook

def boolNumber (b : Bool) : Number := .int (if b then 1 else 0)

def Number.same (x y : Number) : Bool := x.eqv y || (x == .float .nan && y == .float .nan)

def Key.number? : Key → Option Number
  | .bool b => some (boolNumber b)
  | .number n => some n
  | _ => none

/-- Do two names denote one field? -/
def Key.same (a b : Key) : Bool :=
  match a.number?, b.number? with
  | some x, some y => x.same y
  | none, none => match a, b with
    | .moment m, .moment n => m.same n
    | _, _ => a == b
  | _, _ => false

namespace Value

def number? : Value → Option Number
  | .bool b => some (boolNumber b)
  | .number n => some n
  | _ => none

mutual

def same : Value → Value → Bool
  | .null, .null => true
  | .text s, .text t => s == t
  | .moment m, .moment n => m.same n
  | .bytes a, .bytes b => a == b
  | .set a, .set b => a.length == b.length && a.all fun k => b.any k.same
  | .list xs, .list ys => sameItems xs ys
  | .object fs, .object gs => fs.length == gs.length && sameFields fs gs
  | .bool b, w => ((w.number?).map (boolNumber b).same).getD false
  | .number n, w => ((w.number?).map n.same).getD false
  | _, _ => false

def sameItems : List Value → List Value → Bool
  | [], [] => true
  | x :: xs, y :: ys => x.same y && sameItems xs ys
  | _, _ => false

/-- Does every field stand in `gs` with the same value? -/
def sameFields : List (Key × Value) → List (Key × Value) → Bool
  | [], _ => true
  | (k, v) :: fs, gs =>
    (match gs.find? fun g => k.same g.1 with
      | some g => v.same g.2
      | none => false) && sameFields fs gs

end

/-- Equality of two given values: a truth value equals truth values alone. -/
def equals : Value → Value → Bool
  | .bool a, .bool b => a == b
  | .bool _, _ => false
  | _, .bool _ => false
  | .number x, .number y => x.eqv y
  | a, b => a.same b

end Value

end Stylebook
