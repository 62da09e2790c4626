import Stylebook.Value.Text

/-!
The scalars that a description holds: literals, which are texts or numbers, and scalars, which may
be truth values as well.
-/

namespace Stylebook

inductive Literal where
  | text (s : String)
  | number (n : Number)
  deriving DecidableEq, Repr

inductive Scalar where
  | text (s : String)
  | bool (b : Bool)
  | number (n : Number)
  deriving DecidableEq, Repr

def Literal.toValue : Literal → Value
  | text s => .text s
  | number n => .number n

def Scalar.toValue : Scalar → Value
  | text s => .text s
  | bool b => .bool b
  | number n => .number n

/-- A literal as text; binary64 numbers keep their fraction. -/
def Literal.shown : Literal → String
  | text s => s
  | number n => n.text

/-- A literal as text; whole numbers show no fraction. -/
def Literal.plain : Literal → String
  | text s => s
  | number n => n.plainText

def Scalar.plain (s : Scalar) : String := s.toValue.plain

/-- Is a literal short enough to be written? -/
def Literal.isWritable (l : Literal) : Bool := l.toValue.isWritable

/-- Is a scalar short enough to be written? -/
def Scalar.isWritable (s : Scalar) : Bool := s.toValue.isWritable

end Stylebook
