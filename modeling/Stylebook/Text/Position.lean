/-!
Lines and columns, both counted from one.
-/

namespace Stylebook.Text

structure Position where
  line : Nat
  column : Nat
  deriving DecidableEq, Repr

/-- The position one character further on. -/
def Position.next (p : Position) (c : Char) : Position :=
  if c == '\n' then ⟨p.line + 1, 1⟩ else ⟨p.line, p.column + 1⟩

/-- The position after the first `n` characters. -/
def positionAt (s : List Char) (n : Nat) : Position :=
  (s.take n).foldl Position.next ⟨1, 1⟩

end Stylebook.Text
