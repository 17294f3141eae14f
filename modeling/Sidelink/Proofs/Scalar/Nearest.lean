import Mathlib.Algebra.Order.Field.Power
import Mathlib.Data.Rat.Floor
import Mathlib.Tactic.Linarith
import Mathlib.Tactic.NormNum
import Sidelink.Scalar.Binary64

/-!
# Products in binary64

A literal and a product are the nearest of the numbers with 53 bits to what they stand for. The literal of a fifth is a
little too large, and so is the product with a count, but rounding takes that back where the exact product is whole.
-/

namespace Sidelink.Binary64

/-- A number with 53 bits. The range of the exponents does not matter here. -/
def Has (x : ℚ) : Prop := ∃ m e : ℤ, |m| < 2 ^ 53 ∧ x = m * 2 ^ e

/-- No number with 53 bits is nearer to `x`. Either of two may be taken between them. -/
structure Nearest (x r : ℚ) : Prop where
  has : Has r
  le : ∀ y, Has y → |r - x| ≤ |y - x|

theorem has_natCast {n : ℕ} (h : n < 2 ^ 53) : Has n := by
  refine ⟨n, 0, ?_, by simp⟩
  rw [abs_of_nonneg (Int.natCast_nonneg n)]
  exact_mod_cast h

theorem Has.scaled {r : ℚ} (h : Has r) : ∃ (j : ℕ) (m : ℤ), r * 2 ^ j = m ∧ (j = 0 ∨ m < 2 ^ 53) := by
  obtain ⟨m, e, hm, rfl⟩ := h
  rcases le_or_gt 0 e with he | he
  · obtain ⟨i, rfl⟩ := Int.eq_ofNat_of_zero_le he
    exact ⟨0, m * 2 ^ i, by push_cast; simp, .inl rfl⟩
  · obtain ⟨j, rfl⟩ := Int.exists_eq_neg_ofNat he.le
    refine ⟨j, m, ?_, .inr (abs_lt.1 hm).2⟩
    rw [mul_assoc, zpow_neg, zpow_natCast, inv_mul_cancel₀ (by positivity), mul_one]

theorem lt_of_has {r : ℚ} (hr : Has r) {k : ℕ} (hk : k < 2 ^ 53) (hlt : (k : ℚ) < r) : (k : ℚ) < 2 ^ 53 * (r - k) := by
  obtain ⟨j, m, hm, hbits⟩ := hr.scaled
  have hpow : (0 : ℚ) < 2 ^ j := by positivity
  have hgrid : (k : ℤ) * 2 ^ j < m := by
    have hscaled := mul_lt_mul_of_pos_right hlt hpow
    rw [hm] at hscaled
    exact_mod_cast hscaled
  have hword : (k : ℚ) * 2 ^ j < 2 ^ 53 := by
    rcases hbits with rfl | hbits
    · rw [pow_zero, mul_one]
      exact_mod_cast hk
    · exact_mod_cast hgrid.trans hbits
  have hgap : 1 ≤ (r - k) * 2 ^ j := by
    have hnext : (k : ℚ) * 2 ^ j + 1 ≤ m := by exact_mod_cast hgrid
    rw [sub_mul, hm]
    linarith
  refine lt_of_mul_lt_mul_right ?_ hpow.le
  calc (k : ℚ) * 2 ^ j < 2 ^ 53 * 1 := by linarith
    _ ≤ 2 ^ 53 * ((r - k) * 2 ^ j) := mul_le_mul_of_nonneg_left hgap (by positivity)
    _ = 2 ^ 53 * (r - k) * 2 ^ j := (mul_assoc ..).symm

theorem Nearest.fifth {share : ℚ} (h : Nearest (1 / 5) share) : |share - 1 / 5| ≤ 1 / (5 * 2 ^ 54) := by
  refine (h.le (3602879701896397 / 2 ^ 54) ⟨3602879701896397, -54, by norm_num, by norm_num⟩).trans ?_
  norm_num [abs_le]

theorem ceil_fifth {n : ℕ} (h : 0 < n) : ⌈(n : ℚ) / 5⌉₊ = (n + 4) / 5 := by
  rw [Nat.ceil_eq_iff (by omega), lt_div_iff₀ (by norm_num), div_le_iff₀ (by norm_num)]
  constructor
  · have hlow : ((n + 4) / 5 - 1) * 5 < n := by omega
    exact_mod_cast hlow
  · have hhigh : n ≤ (n + 4) / 5 * 5 := by omega
    exact_mod_cast hhigh

theorem Nearest.whole {x r : ℚ} (h : Nearest x r) {k : ℕ} (hk : k < 2 ^ 53)
    (hx : |k - x| ≤ k / 2 ^ 54) : k - 1 < r ∧ r ≤ k := by
  have hk' : (k : ℚ) < 2 ^ 53 := by exact_mod_cast hk
  have hnear := abs_le.1 ((h.le k (has_natCast hk)).trans hx)
  have hx' := abs_le.1 hx
  refine ⟨by linarith, not_lt.1 fun hlt => ?_⟩
  have hfar := lt_of_has h.has hk hlt
  linarith

theorem Nearest.between {x r : ℚ} (h : Nearest x r) {k : ℕ} (hpos : 0 < k) (hk : k < 2 ^ 50)
    (hlow : k - 1 + 1 / 8 < x) (hhigh : x ≤ k) : k - 1 < r ∧ r ≤ k := by
  have heighth : Has (k - 1 + 1 / 8) := by
    refine ⟨8 * k - 7, -3, ?_, ?_⟩
    · rw [abs_of_nonneg (by omega)]
      omega
    · push_cast
      norm_num
      linarith
  have hbelow := (h.le _ heighth).trans_eq (abs_of_neg (by linarith))
  have habove := (h.le k (has_natCast (by omega))).trans_eq (abs_of_nonneg (by linarith))
  have hbelow' := (abs_le.1 hbelow).1
  have habove' := (abs_le.1 habove).2
  constructor <;> linarith

/-- The product of a count with the literal of a fifth, rounded up, is the fifth rounded up. -/
theorem ceil_of_nearest {n : ℕ} (hpos : 0 < n) (hn : n ≤ 2 ^ 50) {share product : ℚ} (hshare : Nearest (1 / 5) share)
    (hproduct : Nearest (n * share) product) : ⌈product⌉₊ = ⌈(n : ℚ) / 5⌉₊ := by
  rw [ceil_fifth hpos]
  obtain ⟨k, hk⟩ : ∃ k, (n + 4) / 5 = k := ⟨_, rfl⟩
  have hn' : (n : ℚ) ≤ 2 ^ 50 := by exact_mod_cast hn
  have herror : |n * share - n / 5| ≤ n * (1 / (5 * 2 ^ 54)) := by
    rw [← mul_one_div (n : ℚ) 5, ← mul_sub, abs_mul, Nat.abs_cast]
    exact mul_le_mul_of_nonneg_left hshare.fifth (Nat.cast_nonneg n)
  have hbetween : (k : ℚ) - 1 < product ∧ product ≤ k := by
    rcases Nat.lt_or_ge n (5 * k) with hlt | hge
    · have hlow : (5 * k : ℚ) ≤ n + 4 := by exact_mod_cast (show 5 * k ≤ n + 4 by omega)
      have hhigh : (n : ℚ) + 1 ≤ 5 * k := by exact_mod_cast hlt
      obtain ⟨hbelow, habove⟩ := abs_le.1 herror
      exact hproduct.between (by omega) (by omega) (by linarith) (by linarith)
    · have hwhole : (n : ℚ) = 5 * k := by exact_mod_cast (show n = 5 * k by omega)
      have hfifth : (n : ℚ) / 5 = k := by linarith
      rw [abs_sub_comm, hfifth] at herror
      exact hproduct.whole (by omega) (herror.trans_eq (by linarith))
  rw [hk, Nat.ceil_eq_iff (by omega), Nat.cast_sub (by omega), Nat.cast_one]
  exact hbetween

end Sidelink.Binary64
