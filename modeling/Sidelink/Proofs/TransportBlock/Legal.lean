import Sidelink.Proofs.TransportBlock.Size

/-!
# Legal block sizes

Every size has whole bytes, until the information bits are rounded to more than a 32-bit word can count.
-/

namespace Sidelink

open Scalar Exact

/-! ## The limit of a word -/

section

variable (low : Prop) [Decidable low] {r : ℝ}

/-- The fewest information bits that are rounded to `2 ^ 32`. -/
def wordInfo : ℕ := 2 ^ 32 - 2 ^ 25 + 24

theorem wordInfo_eq : (wordInfo : ℝ) = 2 ^ 32 - 2 ^ 25 + 24 := by
  unfold wordInfo
  norm_num

theorem log_wordInfo : Int.log 2 ((wordInfo : ℝ) - 24) = 31 := by
  rw [wordInfo_eq]
  refine le_antisymm ?_ ?_
  · exact Int.lt_add_one_iff.1 ((Int.lt_zpow_iff_log_lt (by norm_num) (by norm_num)).1 (by norm_num))
  · exact (Int.zpow_le_iff_le_log (by norm_num) (by norm_num)).1 (by norm_num)

theorem le_exactSize_of_wordInfo (hr : wordInfo ≤ r) : 2 ^ 32 ≤ exactSize low r := by
  have hword : ((2 ^ 32 : ℕ) : ℝ) ≤ roundedNear wordInfo := by
    refine le_max_of_le_left ?_
    rw [log_wordInfo, onGrid_eq, wordInfo_eq, round_eq]
    norm_num
  have hinfo := wordInfo_eq
  have hlarge : (3824 : ℝ) < r := by linarith
  exact_mod_cast (hword.trans (roundedNear_le (by linarith) hr)).trans (roundedNear_le_exactSize low hlarge)

theorem roundedNear_le_of_lt_wordInfo (h24 : 24 < r) (hr : r < wordInfo) : roundedNear r ≤ 2 ^ 32 - 2 ^ 26 := by
  have hpos : 0 < r - 24 := sub_pos.2 h24
  have hlt : r - 24 < 2 ^ 32 - 2 ^ 25 := by
    rw [wordInfo_eq] at hr
    linarith
  refine max_le ?_ (by norm_num)
  rcases lt_or_ge (Int.log 2 (r - 24)) 31 with hlog | hlog
  · have hbelow : r - 24 < 2 ^ (31 : ℤ) := mod_cast (Int.lt_zpow_iff_log_lt (by norm_num) hpos).2 hlog
    refine (rounding_round.onGrid_mono _ hbelow.le).trans ?_
    rw [rounding_round.onGrid_twoPow (by omega)]
    norm_num
  · have hlog' : Int.log 2 (r - 24) = 31 := by
      refine le_antisymm (Int.lt_add_one_iff.1 ((Int.lt_zpow_iff_log_lt (by norm_num) hpos).1 ?_)) hlog
      norm_num
      linarith
    -- The grid has a step of `2 ^ 26`, and `wordInfo` is halfway to its 64th multiple.
    have hround : (round ((r - 24) / 2 ^ 26) : ℤ) ≤ 63 := by
      rw [round_eq]
      refine Int.lt_add_one_iff.1 (Int.floor_lt.2 ?_)
      push_cast
      linarith
    have hround' : ((round ((r - 24) / 2 ^ 26) : ℤ) : ℝ) ≤ 63 := mod_cast hround
    rw [hlog', onGrid_eq]
    norm_num at hround' ⊢
    linarith

theorem exactSize_lt_of_lt_wordInfo (hr : r < wordInfo) : exactSize low r < 2 ^ 32 := by
  rcases le_or_gt r 3824 with hsmall | hlarge
  · rw [exactSize_of_le low hsmall]
    exact (smallSize_legal _).2.2.trans_lt (by norm_num)
  · have hlt := exactSize_lt low hlarge
    have hle := roundedNear_le_of_lt_wordInfo (by linarith) hr
    have hword : (exactSize low r : ℝ) < 2 ^ 32 := by linarith
    exact_mod_cast hword

end

variable {α : Type} [Scalar α] [ExactPowers α] {x y : α} {r s : ℝ}

/-- More information bits never give a shorter block, at any rate. Every block has at least 24 bits and whole bytes, up
to the information bits that are rounded to `2 ^ 32`. From there on a block has the largest size that a word holds. -/
theorem blockSize_legal (rate : α) (hx : Is x r) (hy : Is y s) (hr : 0 < r) (hle : r ≤ s) :
    blockSize x rate ≤ blockSize y rate ∧ 24 ≤ blockSize x rate ∧
      (r < 2 ^ 32 - 2 ^ 25 + 24 → 8 ∣ blockSize x rate) ∧
      (2 ^ 32 - 2 ^ 25 + 24 ≤ r → blockSize x rate = limit32 - 1) := by
  rw [← wordInfo_eq]
  have hlimit : limit32 = 2 ^ 32 := rfl
  obtain ⟨hdvd, h24⟩ := exactSize_legal (rate ≤ 0.25) r
  have hmono := exactSize_le (rate ≤ 0.25) hr hle
  rw [blockSize_eq rate hx hr, blockSize_eq rate hy (hr.trans_le hle)]
  refine ⟨min_le_min_right _ hmono, le_min h24 (by omega), fun hlt => ?_, fun hge => ?_⟩
  · have hsize := exactSize_lt_of_lt_wordInfo (rate ≤ 0.25) hlt
    rwa [Nat.min_eq_left (by omega)]
  · have hsize := le_exactSize_of_wordInfo (rate ≤ 0.25) hge
    rw [Nat.min_eq_right (by omega)]

/-- Between 3824 bits, the last size of the table, and the first formula beyond it. -/
theorem blockSize_legal_table : Is (3824.0 : Extended) 3824 ∧ Is (3825.0 : Extended) 3825 ∧ (0 : ℝ) < 3824 ∧
    (3824 : ℝ) ≤ 3825 ∧ blockSize (3824.0 : Extended) 0.5 ≤ blockSize (3825.0 : Extended) 0.5 ∧
    8 ∣ blockSize (3824.0 : Extended) 0.5 := by
  have hx : Is (3824.0 : Extended) 3824 := mod_cast is_whole 3824
  have hy : Is (3825.0 : Extended) 3825 := mod_cast is_whole 3825
  obtain ⟨hmono, -, hdvd, -⟩ := blockSize_legal (0.5 : Extended) hx hy (by norm_num) (by norm_num)
  exact ⟨hx, hy, by norm_num, by norm_num, hmono, hdvd (by norm_num)⟩

/-- Ten billion information bits give the largest word, which is not a number of bytes. -/
theorem blockSize_not_legal : ∃ rate : Extended, mcsParameters 14 = .ok (4, rate) ∧
    Is (10000000000.0 : Extended) (10 ^ 10) ∧ (0 : ℝ) < 10 ^ 10 ∧ blockSize 10000000000.0 rate = 4294967295 ∧
    ¬8 ∣ blockSize 10000000000.0 rate := by
  have h : Is (10000000000.0 : Extended) (10 ^ 10) := by
    have := is_whole (α := Extended) 10000000000
    norm_num at this ⊢
    exact this
  have hsize : blockSize (10000000000.0 : Extended) (Scalar.ofNat 553 / 1024.0) = 4294967295 := by decide +kernel
  refine ⟨Scalar.ofNat 553 / 1024.0, rfl, h, by norm_num, hsize, ?_⟩
  rw [hsize]
  decide

end Sidelink
