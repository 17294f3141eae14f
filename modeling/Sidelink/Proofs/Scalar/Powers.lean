import Sidelink.Proofs.Scalar.Exact

/-!
# Exact powers of two

Rounding to a multiple of a power of two makes no other error than the rounding itself.
-/

namespace Sidelink

namespace Scalar

class ExactPowers (α : Type) [Scalar α] extends Exact α where
  is_round {x : α} {r : ℝ} : Is x r → 0 ≤ r → Is (round x) ⌊r + 1 / 2⌋
  is_twoPow (n : ℤ) : Is (twoPow n) ((2 : ℝ) ^ n)
  twoPow_floorLog2_le {x : α} {r : ℝ} : Is x r → 0 < r → (2 : ℝ) ^ floorLog2 x ≤ r
  lt_twoPow_floorLog2 {x : α} {r : ℝ} : Is x r → 0 < r → r < (2 : ℝ) ^ (floorLog2 x + 1)

/-- Exact rounding of numbers that are not negative, a half going up. -/
class ExactRounding (α : Type) [Scalar α] [Exact α] : Prop where
  is_round {x : α} {r : ℝ} : Exact.Is x r → 0 ≤ r → Exact.Is (round x) ⌊r + 1 / 2⌋

instance {α : Type} [Scalar α] [ExactPowers α] : ExactRounding α := ⟨ExactPowers.is_round⟩

end Scalar

open Scalar Extended in
instance : ExactPowers Extended where
  is_round := by
    rintro _ _ ⟨p, rfl, rfl⟩ hp
    have hneg : ¬p < 0 := not_lt.2 (mod_cast hp)
    have hhalf : (p : ℝ) + 1 / 2 = ((p + 1 / 2 : ℚ) : ℝ) := by push_cast; rfl
    refine ⟨⌊p + 1 / 2⌋, ?_, ?_⟩
    · show finite (if p < 0 then _ else _) = _
      rw [if_neg hneg]
    · rw [hhalf, Rat.floor_cast]
      rfl
  is_twoPow n := ⟨2 ^ n, rfl, by simp⟩
  twoPow_floorLog2_le := by
    rintro _ _ ⟨p, rfl, rfl⟩ hp
    have h := (Rat.cast_le (K := ℝ)).2 (Int.zpow_log_le_self (b := 2) (by norm_num) (show 0 < p from mod_cast hp))
    rw [Rat.cast_zpow, Rat.cast_natCast, Nat.cast_ofNat] at h
    exact h
  lt_twoPow_floorLog2 := by
    rintro _ _ ⟨p, rfl, rfl⟩ -
    have h := (Rat.cast_lt (K := ℝ)).2 (Int.lt_zpow_succ_log_self (b := 2) (by norm_num) p)
    rw [Rat.cast_zpow, Rat.cast_natCast, Nat.cast_ofNat] at h
    exact h

end Sidelink
