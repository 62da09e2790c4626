import Stylebook.Number.Basic
import Stylebook.Proofs.Number.Overflow

/-!
Integers that some binary64 number equals. Up to `2 ^ 53` the nearest one does, and is ordered among all
numbers as the integer is.
-/

namespace Stylebook

open Binary64

namespace Number

theorem compare_mul_right (x y : Int) {c : Nat} (hc : 0 < c) : compare (x * c) (y * c) = compare x y := by
  have hpos : (0 : Int) < c := Int.natCast_pos.mpr hc
  have hlt : x * c < y * c ↔ x < y := Int.mul_lt_mul_right hpos
  have heq : x * c = y * c ↔ x = y := Int.mul_eq_mul_right_iff (Int.ne_of_gt hpos)
  simp only [compare, compareOfLessAndEq, hlt, heq]

theorem mul_twoPow_sub (a : Int) {e g m : Int} (hg : g ≤ m) (hm : m ≤ e) :
    a * twoPow (e - g).toNat = a * twoPow (e - m).toNat * twoPow (m - g).toNat := by
  have hsum : (e - g).toNat = (e - m).toNat + (m - g).toNat := by omega
  rw [hsum, twoPow_add, Int.natCast_mul, Int.mul_assoc]

/-- The order can be seen at every exponent that is small enough. -/
theorem compareDyadic_eq (a b : Int) {e f g : Int} (he : g ≤ e) (hf : g ≤ f) :
    compareDyadic a e b f = compare (a * twoPow (e - g).toNat) (b * twoPow (f - g).toNat) := by
  have hg : g ≤ min e f := Int.le_min.mpr ⟨he, hf⟩
  rw [mul_twoPow_sub a hg (Int.min_le_left e f), mul_twoPow_sub b hg (Int.min_le_right e f),
    compare_mul_right _ _ (twoPow_pos _)]
  rfl

/-- Of numbers with one value, both are ordered alike. -/
theorem compare?_congr {x y : Number} {a b e f : Int} (hx : x.place = .dyadic a e)
    (hy : y.place = .dyadic b f)
    (h : a * twoPow (e - min e f).toNat = b * twoPow (f - min e f).toNat) (z : Number) :
    compare? x z = compare? y z ∧ compare? z x = compare? z y := by
  have hvalue {g : Int} (hg : g ≤ min e f) : a * twoPow (e - g).toNat = b * twoPow (f - g).toNat := by
    rw [mul_twoPow_sub a hg (Int.min_le_left e f), mul_twoPow_sub b hg (Int.min_le_right e f), h]
  simp only [compare?, hx, hy]
  cases z.place with
  | unordered => exact ⟨rfl, rfl⟩
  | infinite s => exact ⟨rfl, rfl⟩
  | dyadic c k =>
    -- an exponent below all three
    obtain ⟨g, hg, hk⟩ : ∃ g, g ≤ min e f ∧ g ≤ k := ⟨min (min e f) k, by omega, by omega⟩
    have he : g ≤ e := by omega
    have hf : g ≤ f := by omega
    simp only [compareDyadic_eq a c he hk, compareDyadic_eq b c hf hk, compareDyadic_eq c a hk he,
      compareDyadic_eq c b hk hf, hvalue hg, and_self]

end Number

namespace Binary64

section Natural

variable {negative : Bool} {n : Nat}

theorem roundDiv_one (n : Nat) : roundDiv n 1 = n := by
  have hr : n % 1 = 0 := Nat.mod_one n
  simp [roundDiv, hr]

theorem scaleDown_small (h : n.log2 < 52) :
    scaleDown n 1 (n.log2 - 52) = (n * twoPow (52 - n.log2), 1) := by
  have hneg : (-((n.log2 : Int) - 52)).toNat = 52 - n.log2 := by omega
  have hpos : ((n.log2 : Int) - 52).toNat = 0 := by omega
  rw [scaleDown, hneg, hpos]
  rfl

/-- Moved up, a small number has 53 binary digits. -/
theorem twoPow_le_small (hn : n ≠ 0) (h : n.log2 < 52) : twoPow 52 ≤ n * twoPow (52 - n.log2) := by
  have hsplit : twoPow n.log2 * twoPow (52 - n.log2) = twoPow 52 := by
    rw [← twoPow_add, Nat.add_sub_cancel' (Nat.le_of_lt h)]
  rw [← hsplit]
  exact Nat.mul_le_mul_right _ (Nat.log2_self_le hn)

theorem small_lt_twoPow (h : n.log2 < 52) : n * twoPow (52 - n.log2) < twoPow 53 := by
  have hsplit : twoPow (n.log2 + 1) * twoPow (52 - n.log2) = twoPow 53 := by
    rw [← twoPow_add]
    congr 1
    omega
  rw [← hsplit]
  exact Nat.mul_lt_mul_of_pos_right Nat.lt_log2_self (twoPow_pos _)

theorem exponentOf_small (hn : n ≠ 0) (h : n.log2 < 52) : exponentOf n 1 = n.log2 - 52 := by
  have h1 : (Nat.log2 1 : Int) = 0 := by decide
  have hnot : ¬ n * twoPow (52 - n.log2) < twoPow 52 * 1 := by
    have hle := twoPow_le_small hn h
    omega
  simp only [exponentOf, h1, Int.sub_zero, scaleDown_small h, if_neg hnot]
  omega

theorem ofRatio_small (hn : n ≠ 0) (h : n.log2 < 52) :
    ofRatio negative n 1 = finite negative (n * twoPow (52 - n.log2)) (n.log2 - 52) := by
  have hpos := twoPow_pos 52
  have hle := twoPow_le_small hn h
  have hlt := small_lt_twoPow h
  have hm0 : n * twoPow (52 - n.log2) ≠ 0 := by omega
  have hm : n * twoPow (52 - n.log2) ≠ twoPow 53 := by omega
  simp only [ofRatio, if_neg hn, exponentOf_small hn h, scaleDown_small h, roundDiv_one, if_neg hm0,
    if_neg hm]
  rw [if_pos (by omega)]

theorem ofRatio_of_log2 (h : n.log2 = 52) : ofRatio negative n 1 = finite negative n 0 := by
  have hn : n ≠ 0 := by
    rintro rfl
    simp at h
  have hlt : n < twoPow 53 := by
    have hn := Nat.lt_log2_self (n := n)
    rw [h] at hn
    exact hn
  have he : exponentOf n 1 = 0 := by rw [exponentOf_one (by omega), h]; rfl
  have hq : scaleDown n 1 0 = (n, 1) := by
    rw [scaleDown]
    exact Prod.ext (Nat.mul_one n) rfl
  simp only [ofRatio, if_neg hn, he, hq, roundDiv_one, if_neg (Nat.ne_of_lt hlt)]
  rw [if_pos (by omega)]

/-- Up to `2 ^ 53` nothing is rounded off. -/
theorem exists_ofRatio_eq (negative : Bool) (h : n ≤ twoPow 53) :
    ∃ (m : Nat) (e : Int), ofRatio negative n 1 = finite negative m e ∧
      m * twoPow (e - min e 0).toNat = n * twoPow (0 - min e 0).toNat := by
  by_cases hn : n = 0
  · subst hn
    exact ⟨0, 0, rfl, rfl⟩
  rcases Nat.lt_trichotomy n.log2 52 with hl | hl | hl
  · refine ⟨_, _, ofRatio_small hn hl, ?_⟩
    have hmin : min ((n.log2 : Int) - 52) 0 = n.log2 - 52 := by omega
    have hself : ((n.log2 : Int) - 52 - (n.log2 - 52)).toNat = 0 := by omega
    have hzero : (0 - ((n.log2 : Int) - 52)).toNat = 52 - n.log2 := by omega
    rw [hmin, hself, hzero]
    exact Nat.mul_one _
  · exact ⟨n, 0, ofRatio_of_log2 hl, rfl⟩
  · have hge : twoPow 53 ≤ n := Nat.le_trans (twoPow_le hl) (Nat.log2_self_le hn)
    obtain rfl : n = twoPow 53 := Nat.le_antisymm h hge
    refine ⟨twoPow 52, 1, ?_, by decide⟩
    cases negative <;> decide +kernel

end Natural

/-- The nearest number of an integer up to `2 ^ 53` takes its place in the order. -/
theorem exists_ofInt?_eq {i : Int} (h : i.natAbs ≤ twoPow 53) : ∃ x, ofInt? i = some x ∧
    ∀ z, Number.compare? (.float x) z = Number.compare? (.int i) z ∧
      Number.compare? z (.float x) = Number.compare? z (.int i) := by
  obtain ⟨m, e, hx, hvalue⟩ := exists_ofRatio_eq (decide (i < 0)) h
  refine ⟨finite (decide (i < 0)) m e, by rw [ofInt?, ofInt, hx], ?_⟩
  refine Number.compare?_congr (b := i) (f := 0) rfl rfl ?_
  have hint : (m : Int) * twoPow (e - min e 0).toNat = i.natAbs * twoPow (0 - min e 0).toNat := by
    exact_mod_cast hvalue
  by_cases hi : i < 0
  · have hneg : i = -(i.natAbs : Int) := by omega
    simp only [hi, decide_true, if_true]
    rw [Int.neg_mul, hint, ← Int.neg_mul, ← hneg]
  · have hpos : (i.natAbs : Int) = i := by omega
    simp only [hi, decide_false, Bool.false_eq_true, if_false]
    rw [hint, hpos]

end Binary64

end Stylebook
