import Stylebook.Dict
import Stylebook.Value.Basic

/-!
Maps from names as objects.
-/

namespace Stylebook

/-- The object with the entries of a map. -/
def Value.ofDict {α : Type} (f : α → Value) (d : Dict α) : Value :=
  .record (d.entries.map fun e => (e.1, f e.2))

end Stylebook
