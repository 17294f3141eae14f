import Sidelink.Proofs.Scalar.Exact

/-!
# Exact remainders

The remainder makes no error either. Whatever is finite, or lies between two numbers, is a number.
-/

namespace Sidelink

theorem Rational.abs_sub_truncate_lt (x : ℚ) : |x - truncate x| < 1 := by
  unfold truncate
  rw [abs_lt]
  split
  · have := Int.le_ceil x
    have := Int.ceil_lt_add_one x
    constructor <;> linarith
  · have := Int.floor_le x
    have := Int.lt_floor_add_one x
    constructor <;> linarith

namespace Scalar

class ExactRemainder (α : Type) [Scalar α] extends Exact α where
  is_rem {x y : α} {r s : ℝ} : Is x r → Is y s → s ≠ 0 → ∃ q : ℤ, Is (rem x y) (r - s * q) ∧ |r - s * q| < |s|
  is_of_isFinite {x : α} : isFinite x = true → ∃ r, Is x r
  is_of_between {x y z : α} {r t : ℝ} : Is x r → Is z t → x ≤ y → y ≤ z → ∃ s, Is y s

open Exact

theorem is_remEuclid {α : Type} [Scalar α] [ExactRemainder α] {x y : α} {r s : ℝ} (hx : Is x r) (hy : Is y s)
    (hs : 0 < s) : ∃ q : ℤ, Is (remEuclid x y) (r - s * q) ∧ 0 ≤ r - s * q ∧ r - s * q < s := by
  obtain ⟨q, hrem, hless⟩ := ExactRemainder.is_rem hx hy hs.ne'
  rw [abs_of_pos hs, abs_lt] at hless
  have habs : Scalar.abs y = y := if_neg (mt (lt_iff hy is_zero).1 hs.not_gt)
  unfold remEuclid
  dsimp only
  rw [habs]
  split
  · rename_i hneg
    replace hneg := (lt_iff hrem is_zero).1 hneg
    have hsum : r - s * q + s = r - s * (q - 1 : ℤ) := by push_cast; ring
    refine ⟨q - 1, ?_, ?_, ?_⟩
    · rw [← hsum]
      exact is_add hrem hy
    · linarith
    · linarith
  · rename_i hnot
    exact ⟨q, hrem, not_lt.1 (mt (lt_iff hrem is_zero).2 hnot), hless.2⟩

end Scalar

open Scalar Extended in
instance : ExactRemainder Extended where
  is_rem := by
    rintro _ _ _ _ ⟨p, rfl, rfl⟩ ⟨q, rfl, rfl⟩ hq
    have hpos : 0 < |q| := abs_pos.2 (mod_cast hq)
    have hwhole : p - q * Rational.truncate (p / q) = q * (p / q - Rational.truncate (p / q)) := by
      rw [mul_sub, mul_div_cancel₀ p (abs_pos.1 hpos)]
    have hless : |p - q * Rational.truncate (p / q)| < |q| := by
      rw [hwhole, abs_mul]
      exact mul_lt_of_lt_one_right hpos (Rational.abs_sub_truncate_lt _)
    exact ⟨Rational.truncate (p / q), ⟨p - q * Rational.truncate (p / q), rfl, by push_cast; rfl⟩, mod_cast hless⟩
  is_of_isFinite {x} h := by
    cases x with
    | finite p => exact ⟨p, p, rfl, rfl⟩
    | _ => cases h
  is_of_between := by
    rintro _ y _ _ _ ⟨p, rfl, rfl⟩ ⟨q, rfl, rfl⟩ hle hle'
    cases y with
    | finite t => exact ⟨t, t, rfl, rfl⟩
    | _ => grind [le_iff, lt, eq]

end Sidelink
