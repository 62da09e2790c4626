import Mathlib.Data.List.FinRange
import Mathlib.Data.List.Perm.Subperm
import Stylebook.Proofs.Combination.Listing

/-!
The suggestions are the best combinations. Those that share more values with what is wanted come first,
those that share equally many keep their order, and none that is left out shares more.
-/

namespace Stylebook

section Ranks

variable {α : Type} {score : α → Nat} {l : List α}

/-- What is at the place `i` has a higher score than what is at `j`, or the same and comes earlier. -/
def Outranks (score : α → Nat) (l : List α) (i j : Fin l.length) : Prop :=
  score (l.get j) < score (l.get i) ∨ score (l.get i) = score (l.get j) ∧ i < j

/-- The places of the best items, in order: as many as wanted if there are so many, and each before
those that it outranks. -/
structure AreBest (score : α → Nat) (l : List α) (count : Nat) (places : List (Fin l.length)) :
    Prop where
  length_eq : places.length = min count l.length
  sorted : places.Pairwise (Outranks score l)
  best : ∀ i ∈ places, ∀ j, j ∉ places → Outranks score l i j

/-- Sorting by falling score is stable. -/
theorem exists_ranking (score : α → Nat) (l : List α) : ∃ order : List (Fin l.length),
    order.Perm (List.finRange l.length) ∧ order.Pairwise (Outranks score l) ∧
      l.mergeSort (fun a b => score b ≤ score a) = order.map l.get := by
  let le (i j : Fin l.length) : Bool := score (l.get j) ≤ score (l.get i)
  have hperm := List.mergeSort_perm (List.finRange l.length) le
  refine ⟨(List.finRange l.length).mergeSort le, hperm, ?_, ?_⟩
  · have hnodup : ((List.finRange l.length).mergeSort le).Nodup :=
      hperm.nodup_iff.mpr (List.nodup_finRange _)
    -- ties are broken by the places, which are the items here
    have hsorted := @List.pairwise_mergeSort _ (List.zipIdxLE le)
      (List.zipIdxLE_trans (by grind)) (List.zipIdxLE_total (by grind))
      (List.finRange l.length).zipIdx
    have hplace : ∀ p ∈ (List.finRange l.length).zipIdx.mergeSort (List.zipIdxLE le),
        p.2 = p.1.val := by
      intro p hp
      obtain ⟨-, hlt, he⟩ := List.mem_zipIdx (List.mem_mergeSort.mp hp)
      simp [he]
    rw [← List.mergeSort_zipIdx, List.Nodup, List.pairwise_map] at hnodup
    rw [← List.mergeSort_zipIdx, List.pairwise_map]
    refine (hsorted.and hnodup).imp_of_mem fun {p q} hp hq h => ?_
    have hpq := h.1
    simp only [List.zipIdxLE, hplace p hp, hplace q hq] at hpq
    have hne : p.1.val ≠ q.1.val := fun he => h.2 (Fin.ext he)
    grind [Outranks]
  · rw [List.map_mergeSort (s := fun a b => score b ≤ score a) (fun _ _ _ _ => rfl),
      List.map_get_finRange]

/-- The first items of the sorted list are the best. -/
theorem exists_best (score : α → Nat) (l : List α) (count : Nat) : ∃ places,
    AreBest score l count places ∧
      (l.mergeSort fun a b => score b ≤ score a).take count = places.map l.get := by
  obtain ⟨order, hperm, hsorted, he⟩ := exists_ranking score l
  have hrest := List.pairwise_append.mp ((List.take_append_drop count order).symm ▸ hsorted)
  refine ⟨order.take count, ⟨?_, hrest.1, fun i hi j hj => ?_⟩, by rw [he, List.map_take]⟩
  · rw [List.length_take, hperm.length_eq, List.length_finRange]
  · refine hrest.2.2 i hi j ?_
    have hmem : j ∈ order.take count ++ order.drop count := by
      rw [List.take_append_drop]
      exact hperm.mem_iff.mpr (List.mem_finRange j)
    exact (List.mem_append.mp hmem).resolve_left hj

/-- An item with a score above all others comes first. -/
theorem AreBest.head? {count : Nat} {places : List (Fin l.length)} (h : AreBest score l count places)
    (hcount : count ≠ 0) {x : α} (hx : x ∈ l) (hbest : ∀ y ∈ l, y ≠ x → score y < score x) :
    (places.map l.get).head? = some x := by
  obtain ⟨j, rfl⟩ := List.mem_iff_get.mp hx
  have hlen := h.length_eq
  cases places with
  | nil =>
    have := j.isLt
    simp at hlen
    omega
  | cons i rest =>
    rw [List.map_cons, List.head?_cons]
    by_contra hne
    have hlt : score (l.get i) < score (l.get j) :=
      hbest _ (List.get_mem l i) fun he => hne (congrArg some he)
    have hout : Outranks score l i j := by
      by_cases hj : j ∈ rest
      · exact (List.pairwise_cons.mp h.sorted).1 j hj
      · refine h.best i List.mem_cons_self j fun hmem => ?_
        rcases List.mem_cons.mp hmem with rfl | hmem
        · exact Nat.lt_irrefl _ hlt
        · exact hj hmem
    rcases hout with hout | ⟨hout, -⟩ <;> omega

end Ranks

namespace Combination

variable {wanted : Dict String} {x y : Combination}

/-- Everything in the combination is wanted. -/
def Within (x : Combination) (wanted : Dict String) : Prop := ∀ e ∈ x, wanted.get? e.1 = some e.2

/-- The wanted values that a combination has. -/
def shared (wanted : Dict String) (x : Combination) : List (String × String) :=
  wanted.entries.filter fun e => Pairs.get? e.1 x == some e.2

theorem mem_shared {e : String × String} :
    e ∈ shared wanted x ↔ wanted.get? e.1 = some e.2 ∧ Pairs.get? e.1 x = some e.2 := by
  rw [shared, List.mem_filter, beq_iff_eq, Dict.get?_eq_some_iff]

theorem shared_subperm : (shared wanted x).Subperm x := by
  have hn : wanted.entries.Nodup := wanted.nodup.of_map _
  exact (hn.filter _).subperm fun e he => Pairs.mem_of_get? (mem_shared.mp he).2

theorem score_le_length : x.score wanted ≤ x.length := shared_subperm.length_le

/-- A combination has the highest possible score exactly if all of it is wanted. -/
theorem score_eq_length_iff (hx : (Pairs.keys x).Nodup) :
    x.score wanted = x.length ↔ x.Within wanted := by
  constructor
  · intro h e he
    have hperm := shared_subperm.perm_of_length_le (Nat.le_of_eq h.symm)
    exact (mem_shared.mp (hperm.mem_iff.mpr he)).1
  · intro h
    have hsub : x ⊆ shared wanted x := fun e he =>
      mem_shared.mpr ⟨h e he, (Pairs.get?_eq_some_iff hx).mpr he⟩
    exact Nat.le_antisymm score_le_length ((hx.of_map _).subperm hsub).length_le

theorem Within.eq_map (h : x.Within wanted) :
    x = (Pairs.keys x).map fun k => (k, (wanted.get? k).getD "") := by
  rw [Pairs.keys, List.map_map]
  refine (List.map_id x).symm.trans (List.map_congr_left fun e he => ?_)
  simp [h e he]

/-- Of the assignments, one that is wanted as a whole has a higher score than all others. -/
theorem Within.score_lt {entries : List (String × List String)} (hn : (Pairs.keys entries).Nodup)
    (h : x.Within wanted) (hx : x ∈ assignments entries) (hy : y ∈ assignments entries) (hne : y ≠ x) :
    y.score wanted < x.score wanted := by
  have hkx := keys_of_mem_assignments hx
  have hky := keys_of_mem_assignments hy
  have hlen : x.length = y.length := by
    have hk := congrArg List.length (hkx.trans hky.symm)
    rwa [Pairs.keys, Pairs.keys, List.length_map, List.length_map] at hk
  rw [(score_eq_length_iff (hkx ▸ hn)).mpr h, hlen]
  refine lt_of_le_of_ne score_le_length fun hs => hne ?_
  have hw := (score_eq_length_iff (hky ▸ hn)).mp hs
  rw [hw.eq_map, h.eq_map, hkx, hky]

end Combination

theorem rankCombinations_eq (wanted : Dict String) (l : List Combination) :
    (rankCombinations wanted l).map Prod.snd =
      l.mergeSort fun a b => b.score wanted ≤ a.score wanted := by
  have he : l = (l.map fun x => (x.score wanted, x)).map Prod.snd := by simp [Function.comp_def]
  rw [rankCombinations]
  conv_rhs => rw [he]
  refine List.map_mergeSort fun p hp q hq => ?_
  obtain ⟨x, -, rfl⟩ := List.mem_map.mp hp
  obtain ⟨y, -, rfl⟩ := List.mem_map.mp hq
  rfl

namespace Component

variable {c : Component} {props : Dict Value} {count : Nat} {s : List Combination}

theorem suggestions_eq_ok_iff : c.suggestions props count = .ok s ↔
    (∀ v ∈ props.values, v.isWritable = true) ∧ ∃ l, c.enumerate none = .ok l ∧
      s = (l.mergeSort fun a b => b.score (props.mapValues Value.plain) ≤
        a.score (props.mapValues Value.plain)).take count := by
  have hfirst (l : List Combination) :
      (firstItems count (rankCombinations (props.mapValues Value.plain) l)).map Prod.snd =
        (l.mergeSort fun a b => b.score (props.mapValues Value.plain) ≤
          a.score (props.mapValues Value.plain)).take count := by
    rw [← rankCombinations_eq, ← List.map_take]
    simp [firstItems]
  rw [suggestions, ← List.all_eq_true]
  cases props.values.all Value.isWritable with
  | false => simp
  | true =>
    cases c.enumerate none with
    | error e => simp [Except.map]
    | ok l => simp [Except.map, hfirst, eq_comm]

/-- The suggestions are the best of the combinations that break no rule: as many as wanted, those first
that share more values with what is wanted, and in the order of the enumeration where they share equally
many. One that is wanted as a whole comes first. There are suggestions exactly if the wanted values can be
written as texts and the enumeration comes to an end, as it does if the rules can be put into words. -/
theorem suggestions_best (c : Component) (props : Dict Value) (count : Nat) :
    ((∃ s, c.suggestions props count = .ok s) ↔
      (∀ v ∈ props.values, v.isWritable = true) ∧ ∀ x ∈ assignments c.enums.entries, c.CanTry x) ∧
    ((∀ rule ∈ c.constraints, rule.hasWording = true) →
      ∀ x ∈ assignments c.enums.entries, c.CanTry x) ∧
    ∀ s, c.suggestions props count = .ok s → ∃ l places, c.enumerateWithin none = .ok l ∧
      AreBest (Combination.score (props.mapValues Value.plain)) l count places ∧
      s = places.map l.get ∧
      ∀ x ∈ l, x.Within (props.mapValues Value.plain) → count ≠ 0 → s.head? = some x := by
  refine ⟨?_, fun h x hx => canTry_of_hasWording h hx, fun s hs => ?_⟩
  · rw [← exists_enumerate_iff]
    simp only [suggestions_eq_ok_iff]
    constructor
    · rintro ⟨s, hv, l, hl, -⟩
      exact ⟨hv, l, hl⟩
    · rintro ⟨hv, l, hl⟩
      exact ⟨_, hv, l, hl, rfl⟩
  · obtain ⟨-, l, hl, rfl⟩ := suggestions_eq_ok_iff.mp hs
    obtain ⟨places, hbest, he⟩ :=
      exists_best (Combination.score (props.mapValues Value.plain)) l count
    refine ⟨l, places, by rw [enumerateWithin, hl]; rfl, hbest, he, fun x hx hw hcount => ?_⟩
    obtain ⟨-, rfl⟩ := enumerate_eq_ok_iff.mp hl
    rw [he]
    refine hbest.head? hcount hx fun y hy hne => ?_
    exact hw.score_lt c.enums.nodup (List.mem_filter.mp hx).1 (List.mem_filter.mp hy).1 hne

/-- The values of a banner that is loud and large, with a word for its angle. -/
def loudProps : Dict Value :=
  .ofList [("tone", .text "loud"), ("angle", .text "right"), ("size", .text "large")]

theorem suggestions_best_banner : ∃ s, banner.suggestions loudProps 2 = .ok s ∧ s.length = 2 ∧
    s.head? = some [("size", "large"), ("tone", "loud")] := by
  have hw : ∀ rule ∈ banner.constraints, rule.hasWording = true := by decide
  have hv : ∀ v ∈ loudProps.values, v.isWritable = true := by decide
  have hlarge : Combination.Within [("size", "large"), ("tone", "loud")]
      (loudProps.mapValues Value.plain) := by
    have hall : [("size", "large"), ("tone", "loud")].all (fun e =>
        (loudProps.mapValues Value.plain).get? e.1 == some e.2) = true := by decide
    intro e he
    exact beq_iff_eq.mp (List.all_eq_true.mp hall e he)
  obtain ⟨hends, htry, hbest⟩ := suggestions_best banner loudProps 2
  obtain ⟨s, hs⟩ := hends.mpr ⟨hv, htry hw⟩
  obtain ⟨l, places, hl, hplaces, rfl, hfirst⟩ := hbest s hs
  have hlist : (banner.enumerateWithin none).toOption.map (fun l =>
      (l.length, l.contains [("size", "large"), ("tone", "loud")])) = some (3, true) := by
    decide +kernel
  rw [hl] at hlist
  obtain ⟨hlen, hmem⟩ := Prod.mk.inj (Option.some.inj hlist)
  refine ⟨_, hs, ?_, hfirst _ (List.contains_iff_mem.mp hmem) hlarge (by decide)⟩
  rw [List.length_map, hplaces.length_eq, hlen]
  rfl

/-- Nothing is suggested where a rule that fires cannot be put into words. -/
example : datedBanner.suggestions loudProps 2 = .error .notJson := by decide +kernel

end Component

end Stylebook
