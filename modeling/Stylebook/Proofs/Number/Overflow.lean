import Stylebook.Number.Binary64

/-!
The integers that are too large for a finite binary64 number.
-/

namespace Stylebook.Binary64

/-- Halfway from the largest finite number to `2 ^ 1024`. -/
def overflowBound : Nat := twoPow 1024 - twoPow 970

theorem twoPow_pos (n : Nat) : 0 < twoPow n := Nat.two_pow_pos n

theorem twoPow_le {m n : Nat} (h : m ≤ n) : twoPow m ≤ twoPow n := Nat.pow_le_pow_right (by decide) h

theorem twoPow_add (m n : Nat) : twoPow (m + n) = twoPow m * twoPow n := Nat.pow_add 2 m n

/-- A quotient from halfway below the next number on is rounded up to it, if that is even. -/
theorem roundDiv_eq_iff {num den m : Nat} (hden : 0 < den) (hm : m % 2 = 1) (hlt : num < den * (m + 1)) :
    roundDiv num den = m + 1 ↔ den * (2 * m + 1) ≤ 2 * num := by
  have hdiv : den * (num / den) + num % den = num := Nat.div_add_mod num den
  have hmod : num % den < den := Nat.mod_lt _ hden
  have hle : num / den ≤ m := Nat.lt_succ_iff.mp ((Nat.div_lt_iff_lt_mul hden).mpr (by rwa [Nat.mul_comm]))
  have hsplit : den * (2 * m + 1) = 2 * (den * m) + den := by
    rw [Nat.mul_add, Nat.mul_one, Nat.mul_left_comm]
  rw [roundDiv, hsplit]
  rcases Nat.lt_or_eq_of_le hle with h | h
  · -- the quotient is too small to be rounded that far
    have hmul : den * (num / den + 1) ≤ den * m := Nat.mul_le_mul_left den h
    rw [Nat.mul_add, Nat.mul_one] at hmul
    split
    · omega
    · split <;> omega
  · rw [h] at hdiv ⊢
    split
    · omega
    · split <;> omega

theorem le_roundDiv (num den : Nat) : num / den ≤ roundDiv num den := by
  rw [roundDiv]
  split
  · exact Nat.le_refl _
  · split <;> omega

/-- Whether a number is neither infinite nor NaN. -/
def IsFinite : Binary64 → Prop
  | finite _ _ _ => True
  | _ => False

section Integer

variable {negative : Bool} {n : Nat}

theorem exponentOf_one_le (n : Nat) : exponentOf n 1 ≤ n.log2 - 52 := by
  have h : (Nat.log2 1 : Int) = 0 := by decide
  simp only [exponentOf, h]
  split <;> omega

theorem scaleDown_one (h : 52 ≤ n.log2) : scaleDown n 1 (n.log2 - 52) = (n, twoPow (n.log2 - 52)) := by
  have hneg : (-((n.log2 : Int) - 52)).toNat = 0 := by omega
  have hpos : ((n.log2 : Int) - 52).toNat = n.log2 - 52 := by omega
  rw [scaleDown, hneg, hpos, Nat.one_mul]
  exact congrArg (·, _) (Nat.mul_one n)

theorem twoPow_log2_le (h : 52 ≤ n.log2) : twoPow 52 * twoPow (n.log2 - 52) ≤ n := by
  have hn : n ≠ 0 := by
    rintro rfl
    simp at h
  rw [← twoPow_add, Nat.add_sub_cancel' h]
  exact Nat.log2_self_le hn

theorem exponentOf_one (h : 52 ≤ n.log2) : exponentOf n 1 = n.log2 - 52 := by
  have h1 : (Nat.log2 1 : Int) = 0 := by decide
  simp only [exponentOf, h1, Int.sub_zero, scaleDown_one h, if_neg (Nat.not_lt.mpr (twoPow_log2_le h))]
  omega

theorem isFinite_ofRatio_of_lt (h : n.log2 < 1023) : IsFinite (ofRatio negative n 1) := by
  have he := exponentOf_one_le n
  rw [ofRatio]
  split
  · trivial
  · dsimp only
    split
    · trivial
    · split
      · rw [if_pos (by omega)]
        trivial
      · rw [if_pos (by omega)]
        trivial

/-- From the greatest exponent on, what matters is whether the mantissa is rounded up to the next power. -/
theorem isFinite_ofRatio_iff (h : 1023 ≤ n.log2) : IsFinite (ofRatio negative n 1) ↔
    n.log2 = 1023 ∧ roundDiv n (twoPow (n.log2 - 52)) ≠ twoPow 53 := by
  have h52 : 52 ≤ n.log2 := by omega
  have hn : n ≠ 0 := by
    rintro rfl
    simp at h
  have hm : roundDiv n (twoPow (n.log2 - 52)) ≠ 0 := by
    have hle := le_roundDiv n (twoPow (n.log2 - 52))
    have hpos : 0 < n / twoPow (n.log2 - 52) := by
      refine Nat.div_pos (Nat.le_trans ?_ (twoPow_log2_le h52)) (twoPow_pos _)
      exact Nat.le_mul_of_pos_left _ (by decide)
    omega
  simp only [ofRatio, if_neg hn, exponentOf_one h52, scaleDown_one h52, if_neg hm]
  split
  · rename_i hup
    rw [if_neg (by omega)]
    simp [IsFinite, hup]
  · rename_i hup
    split
    · exact ⟨fun _ => ⟨by omega, hup⟩, fun _ => trivial⟩
    · exact ⟨False.elim, fun hf => by omega⟩

theorem overflowBound_le : overflowBound ≤ twoPow 1024 := Nat.sub_le _ _

theorem le_overflowBound : twoPow 1023 ≤ overflowBound := by
  have h1 : twoPow 1024 = twoPow 1023 * twoPow 1 := twoPow_add 1023 1
  have h2 : twoPow 970 ≤ twoPow 1023 := twoPow_le (by decide)
  have h11 : twoPow 1 = 2 := rfl
  rw [h11] at h1
  rw [overflowBound]
  omega

/-- With 53 digits and one more, the bound is all ones. -/
theorem overflowBound_le_iff :
    overflowBound ≤ n ↔ twoPow 971 * (2 * (twoPow 53 - 1) + 1) ≤ 2 * n := by
  have h1 : twoPow 1024 = twoPow 54 * twoPow 970 := twoPow_add 54 970
  have h2 : twoPow 971 = twoPow 1 * twoPow 970 := twoPow_add 1 970
  have h54 : twoPow 54 = 18014398509481984 := by decide
  have h53 : twoPow 53 = 9007199254740992 := by decide
  have h11 : twoPow 1 = 2 := rfl
  rw [overflowBound, h1, h2, h54, h53, h11]
  generalize twoPow 970 = k
  omega

theorem not_isFinite_ofRatio_iff (negative : Bool) : ¬ IsFinite (ofRatio negative n 1) ↔ overflowBound ≤ n := by
  have hlow := le_overflowBound
  have hhigh := overflowBound_le
  by_cases hn : n = 0
  · subst hn
    have hpos : 0 < twoPow 1023 := twoPow_pos _
    have hzero : IsFinite (ofRatio negative 0 1) := trivial
    exact ⟨fun hf => absurd hzero hf, fun hle => by omega⟩
  have hlo : twoPow n.log2 ≤ n := Nat.log2_self_le hn
  have hhi : n < twoPow (n.log2 + 1) := Nat.lt_log2_self
  rcases Nat.lt_trichotomy n.log2 1023 with h | h | h
  · have hle : twoPow (n.log2 + 1) ≤ twoPow 1023 := twoPow_le h
    exact ⟨fun hf => absurd (isFinite_ofRatio_of_lt h) hf, fun hb => by omega⟩
  · rw [h] at hhi
    have hnext : twoPow 53 - 1 + 1 = twoPow 53 := Nat.sub_add_cancel (twoPow_pos 53)
    have hlt : n < twoPow 971 * (twoPow 53 - 1 + 1) := by
      rw [hnext, ← twoPow_add]
      exact hhi
    have hround := roundDiv_eq_iff (twoPow_pos 971) (by decide) hlt
    rw [isFinite_ofRatio_iff (by omega), h, overflowBound_le_iff, ← hround, hnext]
    simp
  · have hle : twoPow 1024 ≤ twoPow n.log2 := twoPow_le h
    refine ⟨fun _ => by omega, fun _ hf => ?_⟩
    have := ((isFinite_ofRatio_iff (by omega)).mp hf).1
    omega

end Integer

/-- An integer is too large from halfway to `2 ^ 1024` on. -/
theorem ofInt?_eq_none_iff {i : Int} : ofInt? i = none ↔ overflowBound ≤ i.natAbs := by
  rw [← not_isFinite_ofRatio_iff (decide (i < 0)), ofInt?]
  change _ ↔ ¬ IsFinite (ofInt i)
  cases ofInt i <;> simp [IsFinite]

end Stylebook.Binary64
