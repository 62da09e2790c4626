/-!
Cutting a text at a separator.
-/

namespace Stylebook.Text

variable {sep : Char} {s : List Char}

/-- What stands before the first `sep`, and what stands after it if there is one. -/
def cutFirst (sep : Char) : List Char → List Char × Option (List Char)
  | [] => ([], none)
  | c :: cs =>
    if c = sep then ([], some cs)
    else ((c :: (cutFirst sep cs).1), (cutFirst sep cs).2)

/-- The pieces between the occurrences of `sep`; there is always at least one. -/
def pieces (sep : Char) : List Char → List (List Char)
  | [] => [[]]
  | c :: cs =>
    if c = sep then [] :: pieces sep cs
    else (c :: (pieces sep cs).headD []) :: (pieces sep cs).tail

theorem pieces_ne_nil : pieces sep s ≠ [] := by
  cases s with
  | nil => simp [pieces]
  | cons c cs => rw [pieces]; split <;> simp

theorem pieces_of_not_mem (h : sep ∉ s) : pieces sep s = [s] := by
  induction s with
  | nil => rfl
  | cons c cs ih =>
    rw [List.mem_cons, not_or] at h
    rw [pieces, if_neg (Ne.symm h.1), ih h.2]
    rfl

theorem pieces_append (h : sep ∉ s) (t : List Char) : pieces sep (s ++ sep :: t) = s :: pieces sep t := by
  induction s with
  | nil => rw [List.nil_append, pieces, if_pos rfl]
  | cons c cs ih =>
    rw [List.mem_cons, not_or] at h
    rw [List.cons_append, pieces, if_neg (Ne.symm h.1), ih h.2]
    rfl

theorem cutFirst_of_not_mem (h : sep ∉ s) : cutFirst sep s = (s, none) := by
  induction s with
  | nil => rfl
  | cons c cs ih =>
    rw [List.mem_cons, not_or] at h
    simp [cutFirst, Ne.symm h.1, ih h.2]

theorem cutFirst_append (h : sep ∉ s) (t : List Char) :
    cutFirst sep (s ++ sep :: t) = (s, some t) := by
  induction s with
  | nil => simp [cutFirst]
  | cons c cs ih =>
    rw [List.mem_cons, not_or] at h
    simp [cutFirst, Ne.symm h.1, ih h.2]

/-- Texts put one after the other with `sep` between them. -/
def joinWith (sep : String) (parts : List String) : String := sep.intercalate parts

def lines (s : String) : List String := (pieces '\n' s.toList).map String.ofList

end Stylebook.Text
