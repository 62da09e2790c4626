import Stylebook.Theme

/-!
Tokens as fields. Laying tokens over others is the same as merging their fields deeply, order
included.
-/

namespace Stylebook

/-- Entries with texts for names, as fields. -/
def Pairs.fields {α : Type} (f : α → Value) (l : List (String × α)) : Fields :=
  l.map fun e => (.text e.1, f e.2)

namespace Pairs

variable {α : Type} (f : α → Value) (k : String) (v : α) (l : List (String × α))

theorem fields_cons {e : String × α} : fields f (e :: l) = (.text e.1, f e.2) :: fields f l := rfl

theorem get?_fields : get? (Key.text k) (fields f l) = (get? k l).map f := by
  induction l with
  | nil => rfl
  | cons e l ih =>
    obtain ⟨j, w⟩ := e
    by_cases h : j = k
    · simp [fields, get?, h]
    · simpa [fields, get?, h] using ih

theorem set_fields : set (Key.text k) (f v) (fields f l) = fields f (set k v l) := by
  induction l with
  | nil => rfl
  | cons e l ih =>
    obtain ⟨j, w⟩ := e
    by_cases h : j = k
    · simp [fields, set, h]
    · simpa [fields, set, h] using ih

end Pairs

theorem Value.ofDict_eq {α : Type} (f : α → Value) (d : Dict α) :
    Value.ofDict f d = .object (Pairs.fields f d.entries) := by
  simp [ofDict, record, Pairs.fields]

theorem Value.laidOver_scalar {existing v : Value} (h : ∀ fs, v ≠ .object fs) :
    existing.laidOver v = v := by
  rw [laidOver]
  exact h

theorem deepMerge_cons {k : Key} {v : Value} (h : v ≠ .null) (base rest : Fields) :
    deepMerge base ((k, v) :: rest) =
      deepMerge (Pairs.set k (((Pairs.get? k base).getD .null).laidOver v) base) rest := by
  rw [deepMerge]
  exact h

/-- Of values that are neither null nor objects, a deep merge writes one after the other. -/
theorem deepMerge_scalars {α : Type} {f : α → Value} (hn : ∀ a, f a ≠ .null)
    (ho : ∀ a fs, f a ≠ .object fs) (base l : List (String × α)) :
    deepMerge (Pairs.fields f base) (Pairs.fields f l) = Pairs.fields f (Pairs.setAll base l) := by
  induction l generalizing base with
  | nil => simp [Pairs.fields, Pairs.setAll]
  | cons e l ih =>
    have hs : deepMerge (Pairs.fields f base) (Pairs.fields f (e :: l)) =
        deepMerge (Pairs.set (.text e.1) (f e.2) (Pairs.fields f base)) (Pairs.fields f l) := by
      have hc := deepMerge_cons (k := .text e.1) (hn e.2) (Pairs.fields f base) (Pairs.fields f l)
      rwa [Value.laidOver_scalar (ho e.2)] at hc
    rw [hs, Pairs.set_fields, ih]
    rfl

theorem Literal.toValue_ne_null (l : Literal) : l.toValue ≠ .null := by
  cases l <;> simp [toValue]

theorem Literal.toValue_ne_object (l : Literal) (fs : Fields) : l.toValue ≠ .object fs := by
  cases l <;> simp [toValue]

theorem Literal.ofDict_update (base top : Dict Literal) :
    Value.ofDict toValue (base.update top) =
      (Value.ofDict toValue base).laidOver (Value.ofDict toValue top) := by
  have hm := deepMerge_scalars toValue_ne_null toValue_ne_object base.entries top.entries
  rw [Value.ofDict_eq, Value.ofDict_eq, Value.ofDict_eq, Value.laidOver, Value.fieldsOf, hm]
  rfl

/-- A map that is not there counts as an empty one. -/
theorem Value.laidOver_absent {α : Type} (f : α → Value) (top : Dict α) :
    (Value.ofDict f ∅).laidOver (Value.ofDict f top) = Value.null.laidOver (Value.ofDict f top) := by
  rw [Value.ofDict_eq, Value.ofDict_eq, Value.laidOver, Value.laidOver]
  rfl

namespace Tokens

/-- The categories as fields of one object. -/
def fields (tokens : Tokens) : Fields := tokens.toValue.fieldsOf

theorem fields_eq (tokens : Tokens) :
    tokens.fields = Pairs.fields (Value.ofDict Literal.toValue) tokens.entries := by
  rw [fields, toValue, Value.ofDict_eq]
  rfl

theorem fields_merge (base top : Tokens) :
    (base.merge top).fields = deepMerge base.fields top.fields := by
  rw [merge, fields_eq, fields_eq, fields_eq]
  generalize top.entries = l
  induction l generalizing base with
  | nil => simp [Pairs.fields]
  | cons e l ih =>
    have hne : Value.ofDict Literal.toValue e.2 ≠ .null := by simp [Value.ofDict, Value.record]
    have hc := deepMerge_cons (k := .text e.1) hne
      (Pairs.fields (Value.ofDict Literal.toValue) base.entries)
      (Pairs.fields (Value.ofDict Literal.toValue) l)
    have hv : ((Pairs.get? (Key.text e.1)
          (Pairs.fields (Value.ofDict Literal.toValue) base.entries)).getD .null).laidOver
          (Value.ofDict Literal.toValue e.2) =
        Value.ofDict Literal.toValue (((base.get? e.1).getD ∅).update e.2) := by
      rw [Pairs.get?_fields, Literal.ofDict_update, Dict.get?]
      cases Pairs.get? e.1 base.entries with
      | none => exact (Value.laidOver_absent _ e.2).symm
      | some c => rfl
    rw [hv, Pairs.set_fields] at hc
    rw [List.foldl_cons, ih]
    exact hc.symm

end Tokens

end Stylebook
