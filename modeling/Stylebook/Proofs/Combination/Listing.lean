import Mathlib.Data.List.Nodup
import Stylebook.Proofs.Combination.Enumeration

/-!
The enumeration as a list: which combinations it has, how often, in which order, and what a limit
leaves of it.
-/

namespace Stylebook

/-- The ways to point at one value for each name, in lexicographic order. Each is there once, also where
a name has the same value twice. -/
structure AreChoices (entries : List (String × List String)) (choices : List (List Nat)) : Prop where
  sorted : choices.Pairwise (· < ·)
  mem_iff : ∀ places, places ∈ choices ↔ List.Forall₂ (fun i e => i < e.2.length) places entries

/-- The combination of the values at the places. -/
def Combination.ofPlaces (entries : List (String × List String)) (places : List Nat) : Combination :=
  List.zipWith (fun e i => (e.1, e.2.getD i "")) entries places

theorem exists_choices (entries : List (String × List String)) :
    ∃ choices, AreChoices entries choices ∧
      assignments entries = choices.map (Combination.ofPlaces entries) := by
  induction entries with
  | nil => exact ⟨[[]], ⟨List.pairwise_singleton _ _, by simp⟩, rfl⟩
  | cons e rest ih =>
    obtain ⟨name, values⟩ := e
    obtain ⟨choices, hc, ha⟩ := ih
    refine ⟨(List.range values.length).flatMap fun i => choices.map fun p => i :: p, ⟨?_, fun p => ?_⟩, ?_⟩
    · rw [List.pairwise_flatMap]
      refine ⟨fun i _ => ?_, List.pairwise_lt_range.imp fun {i j} hij => ?_⟩
      · rw [List.pairwise_map]
        exact hc.sorted.imp fun h => List.cons_lt_cons_iff.mpr (.inr ⟨rfl, h⟩)
      · intro p hp q hq
        obtain ⟨p, -, rfl⟩ := List.mem_map.mp hp
        obtain ⟨q, -, rfl⟩ := List.mem_map.mp hq
        exact List.cons_lt_cons_iff.mpr (.inl hij)
    · cases p with
      | nil => simp
      | cons i p => simp [hc.mem_iff]
    · have hvalues : values = (List.range values.length).map fun i => values.getD i "" := by
        refine List.ext_getElem (by simp) fun i hi _ => ?_
        simp [List.getD, hi]
      rw [assignments, ha]
      conv_lhs => rw [hvalues]
      simp [List.flatMap_map, List.map_flatMap, Combination.ofPlaces, Function.comp_def]

theorem nodup_assignments {entries : List (String × List String)} (h : ∀ e ∈ entries, e.2.Nodup) :
    (assignments entries).Nodup := by
  induction entries with
  | nil => simp [assignments]
  | cons e rest ih =>
    obtain ⟨name, values⟩ := e
    rw [List.forall_mem_cons] at h
    rw [assignments, List.nodup_flatMap]
    refine ⟨fun v _ => (ih h.2).map fun x y hxy => (List.cons.inj hxy).2, h.1.imp fun hvw => ?_⟩
    intro x hx hy
    obtain ⟨y, -, rfl⟩ := List.mem_map.mp hx
    obtain ⟨z, -, hz⟩ := List.mem_map.mp hy
    exact hvw (Prod.mk.inj (List.cons.inj hz).1).2.symm

/-- A limit cuts off what comes after, as long as it does so for each item. -/
theorem takeEach_some {α β : Type} {f : Option Nat → α → List β}
    (hf : ∀ n a, n ≠ 0 → f (some n) a = (f none a).take n) (l : List α) {n : Nat} (hn : n ≠ 0) :
    takeEach f (some n) l = (l.flatMap (f none)).take n := by
  induction l generalizing n with
  | nil => simp [takeEach]
  | cons a rest ih =>
    rw [takeEach, hf n a hn, List.flatMap_cons, List.take_append]
    by_cases hlen : (f none a).length < n
    · -- fewer than wanted: the search goes on for those that are left
      have htake : (f none a).take n = f none a := List.take_of_length_le (by omega)
      rw [htake]
      simp only [Option.map_some, Option.some.injEq]
      rw [if_neg (by omega), ih (by omega)]
    · simp only [Option.map_some, Option.some.injEq, List.length_take]
      have hz : n - (f none a).length = 0 := by omega
      rw [if_pos (by omega), hz, List.take_zero, List.append_nil]

theorem search_some (accepts : Combination → Bool) (entries : List (String × List String))
    (chosen : Combination) {n : Nat} (hn : n ≠ 0) :
    search accepts entries (some n) chosen = (search accepts entries none chosen).take n := by
  induction entries generalizing chosen n with
  | nil =>
    have hone : (if accepts chosen then [chosen] else []).length ≤ 1 := by split <;> simp
    rw [search, search, List.take_of_length_le (by omega)]
  | cons e rest ih =>
    obtain ⟨name, values⟩ := e
    rw [search, search, takeEach_none]
    exact takeEach_some (fun m v hm => ih (chosen ++ [(name, v)]) hm) values hn

namespace Component

variable {c : Component} {l : List Combination} {x : Combination} {n : Nat}

/-- Can the rules be looked at for every combination with fewer than `n` accepted ones before it? -/
def CanTryUntil (c : Component) (n : Nat) (l : List Combination) : Prop :=
  ∀ i x, l[i]? = some x → (l.take i).countP c.accepts < n → c.CanTry x

theorem canTryUntil_cons : c.CanTryUntil (n + 1) (x :: l) ↔
    c.CanTry x ∧ c.CanTryUntil (if c.accepts x then n else n + 1) l := by
  have hcount (i : Nat) : ((x :: l).take (i + 1)).countP c.accepts < n + 1 ↔
      (l.take i).countP c.accepts < if c.accepts x then n else n + 1 := by
    rw [List.take_succ_cons, List.countP_cons]
    split <;> omega
  constructor
  · intro h
    exact ⟨h 0 x rfl (by simp), fun i y hy hi => h (i + 1) y hy ((hcount i).mpr hi)⟩
  · rintro ⟨hx, h⟩ i y hy hi
    cases i with
    | zero => exact Option.some.inj hy ▸ hx
    | succ i => exact h i y hy ((hcount i).mp hi)

/-- Of the combinations that a search stops at, the first `n` can be tried exactly if all on the way to
them can. -/
theorem canTryUntil_iff :
    c.CanTryUntil n l ↔ ∀ x ∈ (l.filter c.stopsAt).take n, c.combinationUnfit? x = none := by
  induction l generalizing n with
  | nil => simp [CanTryUntil]
  | cons x l ih =>
    cases n with
    | zero => simp [CanTryUntil]
    | succ n =>
      rw [canTryUntil_cons, canTry_iff]
      cases hu : c.combinationUnfit? x with
      | some e => simp [stopsAt_of_unfit hu, hu]
      | none =>
        rw [ih, List.filter_cons, stopsAt_of_fit hu]
        split <;> simp [hu]

theorem CanTryUntil.take_eq (h : c.CanTryUntil n l) :
    (l.filter c.stopsAt).take n = (l.filter c.accepts).take n := by
  induction l generalizing n with
  | nil => rfl
  | cons x l ih =>
    cases n with
    | zero => rfl
    | succ n =>
      obtain ⟨hx, h⟩ := canTryUntil_cons.mp h
      rw [List.filter_cons, List.filter_cons, stopsAt_of_fit (canTry_iff.mp hx)]
      split at h
      · rename_i ha
        rw [if_pos ha, if_pos ha, List.take_succ_cons, List.take_succ_cons, ih h]
      · rename_i ha
        rw [if_neg ha, if_neg ha, ih h]

theorem search_stopsAt (c : Component) :
    (if some n = some 0 then [] else search c.stopsAt c.enums.entries (some n) []) =
      ((assignments c.enums.entries).filter c.stopsAt).take n := by
  split
  · rename_i h
    cases h
    rfl
  · rename_i h
    rw [search_some _ _ _ fun hn => h (congrArg some hn), search_none]
    simp

/-- With a limit nothing is looked at after the last combination that is listed. -/
theorem enumerate_some_eq_ok_iff : c.enumerate (some n) = .ok l ↔
    c.CanTryUntil n (assignments c.enums.entries) ∧
      l = ((assignments c.enums.entries).filter c.accepts).take n := by
  rw [enumerate, search_stopsAt]
  constructor
  · intro h
    split at h
    · cases h
    · rename_i hf
      have ht := canTryUntil_iff.mpr (List.findSome?_eq_none_iff.mp hf)
      cases h
      exact ⟨ht, ht.take_eq⟩
  · rintro ⟨ht, rfl⟩
    rw [List.findSome?_eq_none_iff.mpr (canTryUntil_iff.mp ht), ht.take_eq]

theorem enumerateWithin_nat (hn : (n : Int) < wordBound) :
    c.enumerateWithin (some n) = (c.enumerate (some n)).mapError .unfit := by
  simp [enumerateWithin, hn]

theorem enumerateWithin_refused {i : Int} (h : i < 0 ∨ wordBound ≤ i) :
    c.enumerateWithin (some i) = .error (.badLimit ⟨i⟩) := by
  have hi : ¬ (0 ≤ i ∧ i < wordBound) := by omega
  simp [enumerateWithin, hi]

/-- The enumeration lists every choice of a value for each enumeration that breaks no rule, in
lexicographic order, and a limit leaves the first ones. It comes to an end exactly if the rules can be
looked at for every choice on the way, as they always can if they can be put into words; and with a limit
below zero or beyond all sizes there is no list. -/
theorem enumerateWithin_lists (c : Component) : ∃ choices all,
    AreChoices c.enums.entries choices ∧ all = choices.map (Combination.ofPlaces c.enums.entries) ∧
    ((∀ rule ∈ c.constraints, rule.hasWording = true) → ∀ x ∈ all, c.CanTry x) ∧
    (∀ l, c.enumerateWithin none = .ok l ↔ (∀ x ∈ all, c.CanTry x) ∧ l = all.filter c.accepts) ∧
    (∀ n : Nat, n < wordBound → ∀ l, c.enumerateWithin (some n) = .ok l ↔
      c.CanTryUntil n all ∧ l = (all.filter c.accepts).take n) ∧
    (∀ i : Int, i < 0 ∨ wordBound ≤ i → c.enumerateWithin (some i) = .error (.badLimit ⟨i⟩)) ∧
    ((∀ e ∈ c.enums.entries, e.2.Nodup) → (all.filter c.accepts).Nodup) := by
  obtain ⟨choices, hc, ha⟩ := exists_choices c.enums.entries
  refine ⟨choices, assignments c.enums.entries, hc, ha, fun h x hx => canTry_of_hasWording h hx,
    fun l => ?_, fun n hn l => ?_, fun i hi => enumerateWithin_refused hi,
    fun h => (nodup_assignments h).filter _⟩
  · have hall : (∀ x ∈ assignments c.enums.entries, c.CanTry x) ↔
        ∀ x ∈ assignments c.enums.entries, c.combinationUnfit? x = none :=
      forall₂_congr fun x _ => canTry_iff
    rw [hall, eq_comm (a := l), ← enumerate_eq_ok_iff, enumerateWithin]
    cases c.enumerate none <;> simp [Except.mapError]
  · rw [enumerateWithin_nat hn, ← enumerate_some_eq_ok_iff]
    cases c.enumerate (some n) <;> simp [Except.mapError]

theorem enumerateWithin_lists_banner :
    ∃ l, banner.enumerateWithin none = .ok l ∧ l.length = 3 ∧ l.Nodup ∧
      banner.enumerateWithin (some 2) = .ok (l.take 2) := by
  have hw : ∀ rule ∈ banner.constraints, rule.hasWording = true := by decide
  have hv : ∀ e ∈ banner.enums.entries, e.2.Nodup := by decide
  obtain ⟨choices, all, -, -, htry, hall, hlimit, -, hnodup⟩ := enumerateWithin_lists banner
  have hl := (hall _).mpr ⟨htry hw, rfl⟩
  have hlen : (banner.enumerateWithin none).toOption.map List.length = some 3 := by decide +kernel
  rw [hl] at hlen
  refine ⟨_, hl, Option.some.inj hlen, hnodup hv, (hlimit 2 (by decide) _).mpr ⟨?_, rfl⟩⟩
  exact fun i x hx _ => htry hw x (List.mem_of_getElem? hx)

/-- Not every limit leaves the first combinations: beyond all sizes it is refused. -/
theorem large_limit_refused : ¬ ∀ (c : Component) (l : List Combination) (n : Nat),
    c.enumerateWithin none = .ok l → c.enumerateWithin (some n) = .ok (l.take n) := by
  intro h
  have hb : (banner.enumerateWithin none).toOption.isSome = true := by decide +kernel
  cases hl : banner.enumerateWithin none with
  | error e => simp [hl, Except.toOption] at hb
  | ok l =>
    have hn := h banner l wordBound.toNat hl
    rw [enumerateWithin_refused (.inr (by decide))] at hn
    cases hn

end Component

end Stylebook
