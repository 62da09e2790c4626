/-!
A store of one's own beside one that all share. Without an own store, the shared one is meant.
-/

namespace Stylebook

structure Scope (α : Type) where
  shared : α
  own : Option α

namespace Scope

variable {α : Type}

/-- The store that is meant. -/
def current (s : Scope α) : α := s.own.getD s.shared

def isShared (s : Scope α) : Bool := s.own.isNone

def setCurrent (s : Scope α) (a : α) : Scope α :=
  match s.own with
  | some _ => { s with own := some a }
  | none => { s with shared := a }

/-- A fresh shared store, which from now on is the one that is meant. -/
def reset (_ : Scope α) (fresh : α) : Scope α := ⟨fresh, none⟩

end Scope

end Stylebook
