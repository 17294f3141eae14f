import Sidelink.Proofs.TransportBlock.Size

/-!
# How large a block can be

Rounding to a legal size adds a fraction of the information bits and a few bits for every code block. In exact
arithmetic a block is therefore far below what 32 bits can count.
-/

namespace Sidelink

open Scalar Exact

variable {r : ℝ}

theorem onGrid_round_le (hr : 0 < r) : onGrid round (Int.log 2 r - 5) r ≤ 2 * r := by
  have hlead : (2 : ℝ) ^ Int.log 2 r ≤ r := mod_cast Int.zpow_log_le_self (by norm_num) hr
  have hpos : (0 : ℝ) < 2 ^ (Int.log 2 r - 5) := zpow_pos (by norm_num) _
  have hsmall : (2 : ℝ) ^ (Int.log 2 r - 5) ≤ r :=
    (zpow_le_zpow_right₀ (by norm_num) (by omega)).trans hlead
  rw [onGrid_eq, round_eq]
  generalize (2 : ℝ) ^ (Int.log 2 r - 5) = s at hpos hsmall
  calc s * ⌊r / s + 1 / 2⌋ ≤ s * (r / s + 1 / 2) := by
        gcongr
        exact Int.floor_le _
    _ = r + s / 2 := by field_simp
    _ ≤ 2 * r := by linarith

theorem exactSize_le_of_le (low : Prop) [Decidable low] {n : ℕ} (h : r ≤ n) : exactSize low r ≤ 4 * n + 20000 := by
  rcases le_or_gt r 3824 with hr | hr
  · rw [exactSize_of_le low hr]
    exact (smallSize_legal _).2.2.trans (by omega)
  · have hrounded : roundedNear r ≤ 2 * r :=
      max_le ((onGrid_round_le (by linarith)).trans (by linarith)) (by linarith)
    have hlt := exactSize_lt low hr
    have hle : (exactSize low r : ℝ) ≤ 4 * n + 20000 := by linarith
    exact_mod_cast hle

theorem blockSize_le {α : Type} [Scalar α] [ExactPowers α] {info : α} {i : ℝ} (rate : α) (hinfo : Is info i) {n : ℕ}
    (hi : i ≤ n) : blockSize info rate ≤ 4 * n + 20000 := by
  rcases le_or_gt i 0 with hnone | hpos
  · unfold blockSize
    rw [if_pos (mt (lt_iff is_zero hinfo).1 hnone.not_gt)]
    exact Nat.zero_le _
  · rw [blockSize_eq rate hinfo hpos]
    exact (Nat.min_le_left ..).trans (exactSize_le_of_le _ hi)

end Sidelink
