/-!
Character classes given by ranges of code points. The tables of the class modules hold closed
ranges in increasing order.
-/

namespace Stylebook.Text

/-- Does some closed range of the table hold the code point of `c`? -/
def inRanges (table : List (Nat × Nat)) (c : Char) : Bool :=
  table.any fun r => r.1 ≤ c.toNat && c.toNat ≤ r.2

theorem inRanges_iff {table : List (Nat × Nat)} {c : Char} :
    inRanges table c = true ↔ ∃ r ∈ table, r.1 ≤ c.toNat ∧ c.toNat ≤ r.2 := by
  simp [inRanges]

end Stylebook.Text
