import Stylebook.Proofs.Dict.Overlay

/-!
Maps laid over one another in several steps. It makes no difference which of them are laid together
first, not even to the order of names.
-/

namespace Stylebook

variable {α : Type}

namespace Pairs

variable {κ : Type} [DecidableEq κ] {l m : List (κ × α)}

/-- The first keys, and then those of the others that are new. -/
def joinKeys (front back : List κ) : List κ := front ++ back.filter fun k => k ∉ front

theorem mem_joinKeys {k : κ} {a b : List κ} : k ∈ joinKeys a b ↔ k ∈ a ∨ k ∈ b := by
  by_cases ha : k ∈ a <;> simp [joinKeys, ha]

theorem joinKeys_eq_nil_iff {a b : List κ} : joinKeys a b = [] ↔ a = [] ∧ b = [] := by
  simp only [List.eq_nil_iff_forall_not_mem, mem_joinKeys, not_or, forall_and]

theorem nil_joinKeys (l : List κ) : joinKeys [] l = l := by simp [joinKeys]

theorem joinKeys_assoc (a b c : List κ) : joinKeys (joinKeys a b) c = joinKeys a (joinKeys b c) := by
  have hc : c.filter (fun k => k ∉ a ++ b.filter fun k => k ∉ a) =
      (c.filter fun k => k ∉ b).filter fun k => k ∉ a := by
    rw [List.filter_filter]
    apply List.filter_congr
    intro k _
    by_cases ha : k ∈ a <;> simp [ha]
  unfold joinKeys
  rw [hc, List.filter_append, List.append_assoc]

/-- A run of writes of which each puts a new key last. -/
theorem keys_foldl {δ : Type} {keysOf : δ → List κ} {write : δ → κ × α → δ}
    (hw : ∀ d e, keysOf (write d e) = if e.1 ∈ keysOf d then keysOf d else keysOf d ++ [e.1])
    (hl : (keys l).Nodup) (d : δ) : keysOf (l.foldl write d) = joinKeys (keysOf d) (keys l) := by
  induction l generalizing d with
  | nil => simp [joinKeys]
  | cons e l ih =>
    rw [keys_cons, List.nodup_cons] at hl
    rw [List.foldl_cons, ih hl.2, hw, keys_cons, joinKeys, joinKeys]
    by_cases he : e.1 ∈ keysOf d
    · simp [he]
    · have hrest : (keys l).filter (fun k => k ∉ keysOf d ++ [e.1]) =
          (keys l).filter fun k => k ∉ keysOf d := by
        apply List.filter_congr
        intro k hk
        have hne : k ≠ e.1 := fun h => hl.1 (h ▸ hk)
        simp [hne]
      rw [if_neg he, hrest, List.filter_cons_of_pos (by simpa using he), List.append_assoc]
      rfl

theorem eq_of_get? (hl : (keys l).Nodup) (hk : keys l = keys m) (hg : ∀ k, get? k l = get? k m) :
    l = m := by
  induction l generalizing m with
  | nil =>
    have hm : m = [] := List.map_eq_nil_iff.mp hk.symm
    rw [hm]
  | cons e l ih =>
    cases m with
    | nil => cases hk
    | cons e' m =>
      obtain ⟨j, v⟩ := e
      obtain ⟨j', v'⟩ := e'
      rw [keys_cons, keys_cons, List.cons.injEq] at hk
      obtain ⟨rfl, hk⟩ := hk
      rw [keys_cons, List.nodup_cons] at hl
      have hv : v = v' := by simpa [get?] using hg j
      have hrest : ∀ k, get? k l = get? k m := by
        intro k
        by_cases h : j = k
        · subst h
          rw [get?_eq_none_iff.mpr hl.1, get?_eq_none_iff.mpr (hk ▸ hl.1)]
        · simpa [get?, h] using hg k
      rw [hv, ih hl.2 hk hrest]

end Pairs

namespace Dict

variable {c k : String}

theorem eq_of_get? {d e : Dict α} (hk : d.keys = e.keys) (hg : ∀ k, d.get? k = e.get? k) : d = e :=
  eq_of_entries (Pairs.eq_of_get? d.nodup hk hg)

theorem keys_update (d e : Dict α) : (d.update e).keys = Pairs.joinKeys d.keys e.keys :=
  Pairs.keys_foldl (fun _ _ => Pairs.keys_set) e.nodup d.entries

theorem update_assoc (a b d : Dict α) : (a.update b).update d = a.update (b.update d) := by
  apply eq_of_get?
  · simp only [keys_update, Pairs.joinKeys_assoc]
  · intro k
    simp only [get?_update, Option.or_assoc]

theorem keys_joinWith (join : α → Option α → α) (base top : Dict α) :
    (base.joinWith join top).keys = Pairs.joinKeys base.keys top.keys :=
  Pairs.keys_foldl (fun _ _ => keys_insert) top.nodup base

theorem keys_overlay (base top : Dict (Dict α)) :
    (base.overlay top).keys = Pairs.joinKeys base.keys top.keys := by
  rw [overlay_eq_joinWith, keys_joinWith]

/-- A category of the upper map is written over that of the lower one. -/
theorem get?_overlay (base top : Dict (Dict α)) : (base.overlay top).get? c =
    match top.get? c with
    | none => base.get? c
    | some e => some (((base.get? c).getD ∅).update e) := by
  rw [overlay_eq_joinWith, get?_joinWith]
  cases top.get? c <;> rfl

theorem overlay_assoc (a b d : Dict (Dict α)) :
    (a.overlay b).overlay d = a.overlay (b.overlay d) := by
  apply eq_of_get?
  · simp only [keys_overlay, Pairs.joinKeys_assoc]
  · intro c
    simp only [get?_overlay]
    cases hd : d.get? c with
    | none => rfl
    | some x =>
      cases hb : b.get? c with
      | none =>
        have hx : (∅ : Dict α).update x = x := ofList_entries x
        simp only [Option.getD_none, hx]
      | some y => simp only [Option.getD_some, update_assoc]

end Dict

end Stylebook
