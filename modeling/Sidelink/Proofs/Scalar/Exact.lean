import Mathlib.Algebra.Order.Archimedean.Real.Basic
import Mathlib.Algebra.Order.Floor.Semiring
import Mathlib.Data.Rat.Cast.OfScientific
import Sidelink.Proofs.Scalar.Extended

/-!
# Exact arithmetic

Some scalars stand for real numbers, and the arithmetic makes no error on these. Nothing is asked of any other scalar,
so that infinities and values that are no number may exist beside them.
-/

namespace Sidelink

namespace Scalar

class Exact (α : Type) [Scalar α] where
  /-- The scalar stands for the real number. -/
  Is : α → ℝ → Prop
  is_ofNat (n : Nat) : Is (ofNat n) n
  is_ofScientific (m : Nat) (s : Bool) (e : Nat) :
    Is (OfScientific.ofScientific m s e) (OfScientific.ofScientific m s e)
  is_neg {x : α} {r : ℝ} : Is x r → Is (-x) (-r)
  is_add {x y : α} {r s : ℝ} : Is x r → Is y s → Is (x + y) (r + s)
  is_sub {x y : α} {r s : ℝ} : Is x r → Is y s → Is (x - y) (r - s)
  is_mul {x y : α} {r s : ℝ} : Is x r → Is y s → Is (x * y) (r * s)
  is_div {x y : α} {r s : ℝ} : Is x r → Is y s → s ≠ 0 → Is (x / y) (r / s)
  is_floor {x : α} {r : ℝ} : Is x r → Is (floor x) ⌊r⌋
  is_ceil {x : α} {r : ℝ} : Is x r → Is (ceil x) ⌈r⌉
  toNat_eq {x : α} {r : ℝ} : Is x r → toNat x = ⌊r⌋₊
  lt_iff {x y : α} {r s : ℝ} : Is x r → Is y s → (x < y ↔ r < s)
  le_iff {x y : α} {r s : ℝ} : Is x r → Is y s → (x ≤ y ↔ r ≤ s)
  beq_iff {x y : α} {r s : ℝ} : Is x r → Is y s → (x == y ↔ r = s)

namespace Exact

variable {α : Type} [Scalar α] [Exact α] {x y : α} {r s : ℝ}

theorem is_decimal (m e : ℕ) : Is (OfScientific.ofScientific m true e : α) (m / 10 ^ e) := by
  have hreal : (OfScientific.ofScientific m true e : ℝ) = m / 10 ^ e := by
    rw [← Rat.cast_ofScientific]
    show ((Rat.ofScientific _ _ _ : ℚ) : ℝ) = _
    rw [Rat.ofScientific_true_def, Rat.mkRat_eq_div]
    push_cast
    rfl
  rw [← hreal]
  exact is_ofScientific m true e

theorem is_whole (n : ℕ) : Is (OfScientific.ofScientific (n * 10) true 1 : α) n := by
  have h := is_decimal (α := α) (n * 10) 1
  rwa [Nat.cast_mul, pow_one, Nat.cast_ofNat, mul_div_cancel_right₀ _ (by norm_num)] at h

theorem is_zero : Is (0.0 : α) 0 := by
  have h := is_ofScientific (α := α) 0 true 1
  norm_num at h
  exact h

theorem is_one : Is (1.0 : α) 1 := by
  have h := is_ofScientific (α := α) 10 true 1
  norm_num at h
  exact h

theorem eq_of_is (hr : Is x r) (hs : Is x s) : r = s :=
  (beq_iff hr hs).1 ((beq_iff hr hr).2 rfl)

theorem isNaN_eq (h : Is x r) : isNaN x = false := by
  simp [isNaN, (beq_iff h h).2]

theorem is_smaller (hx : Is x r) (hy : Is y s) : Is (smaller x y) (min r s) := by
  unfold smaller
  rw [if_neg (by simp [isNaN_eq hx])]
  split
  · rename_i h
    rw [min_eq_right ((lt_iff hy hx).1 h).le]
    exact hy
  · rename_i h
    rw [min_eq_left (not_lt.1 (mt (lt_iff hy hx).2 h))]
    exact hx

theorem is_larger (hx : Is x r) (hy : Is y s) : Is (larger x y) (max r s) := by
  unfold larger
  rw [if_neg (by simp [isNaN_eq hx])]
  split
  · rename_i h
    rw [max_eq_right ((lt_iff hx hy).1 h).le]
    exact hy
  · rename_i h
    rw [max_eq_left (not_lt.1 (mt (lt_iff hx hy).2 h))]
    exact hx

theorem is_clampUnit (hx : Is x r) : Is (clampUnit x) (max 0 (min r 1)) := by
  unfold clampUnit
  split
  · rename_i h
    rw [max_eq_left (min_le_of_left_le ((lt_iff hx is_zero).1 h).le)]
    exact is_zero
  · rename_i hneg
    have hr : 0 ≤ r := not_lt.1 (mt (lt_iff hx is_zero).2 hneg)
    split
    · rename_i h
      rw [min_eq_right ((lt_iff is_one hx).1 h).le, max_eq_right zero_le_one]
      exact is_one
    · rename_i h
      rw [min_eq_left (not_lt.1 (mt (lt_iff is_one hx).2 h)), max_eq_right hr]
      exact hx

end Exact

end Scalar

open Scalar Extended in
instance : Exact Extended where
  Is x r := ∃ q : ℚ, x = finite q ∧ q = r
  is_ofNat n := ⟨n, rfl, by simp⟩
  is_ofScientific m s e := ⟨OfScientific.ofScientific m s e, rfl, by simp⟩
  is_neg := by
    rintro _ _ ⟨p, rfl, rfl⟩
    exact ⟨-p, rfl, by simp⟩
  is_add := by
    rintro _ _ _ _ ⟨p, rfl, rfl⟩ ⟨q, rfl, rfl⟩
    exact ⟨p + q, rfl, by simp⟩
  is_sub := by
    rintro _ _ _ _ ⟨p, rfl, rfl⟩ ⟨q, rfl, rfl⟩
    exact ⟨p + -q, rfl, by simp [sub_eq_add_neg]⟩
  is_mul := by
    rintro _ _ _ _ ⟨p, rfl, rfl⟩ ⟨q, rfl, rfl⟩
    exact ⟨p * q, rfl, by simp⟩
  is_div := by
    rintro _ _ _ _ ⟨p, rfl, rfl⟩ ⟨q, rfl, rfl⟩ hq
    refine ⟨p / q, ?_, by simp⟩
    exact if_neg (mod_cast hq)
  is_floor := by
    rintro _ _ ⟨p, rfl, rfl⟩
    exact ⟨⌊p⌋, rfl, by simp⟩
  is_ceil := by
    rintro _ _ ⟨p, rfl, rfl⟩
    exact ⟨⌈p⌉, rfl, by simp⟩
  toNat_eq := by
    rintro _ _ ⟨p, rfl, rfl⟩
    show ⌊p⌋.toNat = _
    rw [← Int.floor_toNat, Rat.floor_cast]
  lt_iff := by
    rintro _ _ _ _ ⟨p, rfl, rfl⟩ ⟨q, rfl, rfl⟩
    simp
  le_iff := by
    rintro _ _ _ _ ⟨p, rfl, rfl⟩ ⟨q, rfl, rfl⟩
    simp
  beq_iff := by
    rintro _ _ _ _ ⟨p, rfl, rfl⟩ ⟨q, rfl, rfl⟩
    simp [BEq.beq, eq]

end Sidelink
