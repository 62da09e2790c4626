/-!
Lists of pairs read as maps. A write keeps the place of a key that is there and puts a new key
last. Main statements: what a read finds after a write, and that keys stay distinct.
-/

namespace Stylebook.Pairs

variable {κ α β : Type} [DecidableEq κ] {k j : κ} {v : α} {l : List (κ × α)}

def keys (l : List (κ × α)) : List κ := l.map Prod.fst

def get? (k : κ) : List (κ × α) → Option α
  | [] => none
  | (j, v) :: rest => if j = k then some v else get? k rest

/-- Writes `v` at `k`. -/
def set (k : κ) (v : α) : List (κ × α) → List (κ × α)
  | [] => [(k, v)]
  | (j, w) :: rest => if j = k then (j, v) :: rest else (j, w) :: set k v rest

def erase (k : κ) (l : List (κ × α)) : List (κ × α) := l.filter fun e => e.1 ≠ k

/-- Writes every pair of `l` over `base`, from the first one on. -/
def setAll (base l : List (κ × α)) : List (κ × α) := l.foldl (fun b e => set e.1 e.2 b) base

omit [DecidableEq κ] in
@[simp] theorem keys_nil : keys ([] : List (κ × α)) = [] := rfl

omit [DecidableEq κ] in
@[simp] theorem keys_cons {e : κ × α} : keys (e :: l) = e.1 :: keys l := rfl

omit [DecidableEq κ] in
@[simp] theorem keys_append {l m : List (κ × α)} : keys (l ++ m) = keys l ++ keys m := by
  simp [keys]

theorem get?_eq_none_iff : get? k l = none ↔ k ∉ keys l := by
  induction l with
  | nil => simp [get?]
  | cons e l ih =>
    obtain ⟨j, w⟩ := e
    by_cases h : j = k
    · simp [get?, h]
    · simp [get?, h, ih, Ne.symm h]

theorem get?_isSome_iff : (get? k l).isSome = true ↔ k ∈ keys l := by
  rw [← Decidable.not_iff_not, Bool.not_eq_true, Option.isSome_eq_false_iff, Option.isNone_iff_eq_none,
    get?_eq_none_iff]

theorem mem_of_get? (h : get? k l = some v) : (k, v) ∈ l := by
  induction l with
  | nil => simp [get?] at h
  | cons e l ih =>
    obtain ⟨j, w⟩ := e
    by_cases hj : j = k
    · simp only [get?, hj, if_true, Option.some.injEq] at h
      simp [hj, h]
    · simp only [get?, hj, if_false] at h
      exact List.mem_cons_of_mem _ (ih h)

theorem get?_eq_some_iff (hl : (keys l).Nodup) : get? k l = some v ↔ (k, v) ∈ l := by
  refine ⟨mem_of_get?, fun h => ?_⟩
  induction l with
  | nil => simp at h
  | cons e l ih =>
    obtain ⟨j, w⟩ := e
    rw [keys_cons, List.nodup_cons] at hl
    rcases List.mem_cons.1 h with h | h
    · simp only [Prod.mk.injEq] at h
      simp [get?, h.1, h.2]
    · have hj : j ≠ k := fun e => hl.1 (e ▸ List.mem_map.2 ⟨(k, v), h, rfl⟩)
      simp [get?, hj, ih hl.2 h]

@[simp] theorem get?_set_self : get? k (set k v l) = some v := by
  induction l with
  | nil => simp [set, get?]
  | cons e l ih =>
    obtain ⟨j, w⟩ := e
    by_cases h : j = k
    · simp [set, get?, h]
    · simp [set, get?, h, ih]

theorem get?_set_of_ne (h : k ≠ j) : get? j (set k v l) = get? j l := by
  induction l with
  | nil => simp [set, get?, h]
  | cons e l ih =>
    obtain ⟨i, w⟩ := e
    by_cases hi : i = k
    · simp [set, get?, hi, h]
    · by_cases hj : i = j
      · subst hj
        simp [set, get?, hi]
      · simp [set, get?, hi, hj, ih]

theorem get?_set : get? j (set k v l) = if k = j then some v else get? j l := by
  by_cases h : k = j
  · subst h; simp
  · simp [h, get?_set_of_ne h]

theorem keys_set : keys (set k v l) = if k ∈ keys l then keys l else keys l ++ [k] := by
  induction l with
  | nil => simp [set]
  | cons e l ih =>
    obtain ⟨j, w⟩ := e
    by_cases h : j = k
    · simp [set, h]
    · simp only [set, h, if_false, keys_cons, ih, List.mem_cons, Ne.symm h, false_or]
      split <;> simp

theorem mem_keys_set : j ∈ keys (set k v l) ↔ j = k ∨ j ∈ keys l := by
  rw [keys_set]
  split
  · rename_i h
    exact ⟨Or.inr, fun e => e.elim (fun e => e ▸ h) id⟩
  · simp [or_comm]

theorem nodup_set (h : (keys l).Nodup) : (keys (set k v l)).Nodup := by
  rw [keys_set]
  split
  · exact h
  · rename_i hk
    rw [List.nodup_append]
    exact ⟨h, by simp, fun a ha b hb => by
      obtain rfl := List.mem_singleton.1 hb
      exact fun e => hk (e ▸ ha)⟩

theorem set_of_get? (h : get? k l = some v) : set k v l = l := by
  induction l with
  | nil => simp [get?] at h
  | cons e l ih =>
    obtain ⟨j, w⟩ := e
    by_cases hj : j = k
    · simp only [get?, hj, if_true, Option.some.injEq] at h
      simp [set, hj, h]
    · simp only [get?, hj, if_false] at h
      simp [set, hj, ih h]

theorem get?_map (f : α → β) : get? k (l.map fun e => (e.1, f e.2)) = (get? k l).map f := by
  induction l with
  | nil => rfl
  | cons e l ih =>
    obtain ⟨j, w⟩ := e
    by_cases h : j = k
    · simp [get?, h]
    · simpa [get?, h] using ih

theorem nodup_erase (h : (keys l).Nodup) : (keys (erase k l)).Nodup :=
  h.sublist (List.filter_sublist.map _)

theorem nodup_setAll {base l : List (κ × α)} (h : (keys base).Nodup) :
    (keys (setAll base l)).Nodup := by
  induction l generalizing base with
  | nil => exact h
  | cons e l ih => exact ih (nodup_set h)

end Stylebook.Pairs
