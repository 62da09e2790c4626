import Stylebook.Dict

/-!
Names taken out of maps. What is done under other names can be done before or after.
-/

namespace Stylebook

variable {α : Type}

namespace Pairs

variable {κ : Type} [DecidableEq κ] {j k : κ} {v : α} {l : List (κ × α)}

theorem erase_of_not_mem (h : k ∉ keys l) : erase k l = l := by
  refine List.filter_eq_self.mpr fun e he => ?_
  have hne : e.1 ≠ k := fun hk => h (hk ▸ List.mem_map_of_mem he)
  exact decide_eq_true hne

theorem erase_set_self : erase k (set k v l) = erase k l := by
  induction l with
  | nil => simp [set, erase]
  | cons e l ih =>
    obtain ⟨i, w⟩ := e
    by_cases hi : i = k
    · simp [set, erase, hi]
    · simpa [set, erase, hi] using ih

theorem erase_set_of_ne (h : k ≠ j) : erase j (set k v l) = set k v (erase j l) := by
  induction l with
  | nil => simp [set, erase, h]
  | cons e l ih =>
    obtain ⟨i, w⟩ := e
    by_cases hi : i = k
    · subst hi
      simp [set, erase, h]
    · by_cases hj : i = j
      · subst hj
        simpa [set, erase, hi] using ih
      · simpa [set, erase, hi, hj] using ih

theorem erase_erase_comm : erase j (erase k l) = erase k (erase j l) := by
  rw [erase, erase, erase, erase, List.filter_filter, List.filter_filter]
  exact List.filter_congr fun e _ => Bool.and_comm ..

end Pairs

namespace Dict

variable {d : Dict α} {j k : String} {v : α}

theorem erase_of_not_mem (h : k ∉ d.keys) : d.erase k = d := eq_of_entries (Pairs.erase_of_not_mem h)

theorem erase_insert_self : (d.insert k v).erase k = d.erase k := eq_of_entries Pairs.erase_set_self

theorem erase_insert_of_ne (h : k ≠ j) : (d.insert k v).erase j = (d.erase j).insert k v :=
  eq_of_entries (Pairs.erase_set_of_ne h)

theorem erase_erase_comm : (d.erase k).erase j = (d.erase j).erase k :=
  eq_of_entries Pairs.erase_erase_comm

theorem get?_erase_of_ne (h : k ≠ j) : (d.erase j).get? k = d.get? k := by
  have he : (d.erase j).entries = d.entries.filter fun e => e.1 ≠ j := rfl
  refine Option.ext fun v => ?_
  rw [get?_eq_some_iff, get?_eq_some_iff, he, List.mem_filter]
  simp [h]

end Dict

end Stylebook
