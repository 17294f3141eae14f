import Mathlib.Algebra.Order.Field.Power
import Mathlib.Tactic.Linarith
import Mathlib.Tactic.NormNum
import Sidelink.Proofs.Scalar.Order

/-!
# Exact decibels

What conversions between dBm and mW keep when they are not rounded: they undo each other, and a larger power is a
larger level.
-/

namespace Sidelink

/-- A power that comes from levels: of one node, or of some that are added up. -/
inductive IsPower {α : Type} [Analysis α] : α → Prop where
  | ofDbm (dbm : α) : IsPower (dbmToMw dbm)
  | add {p q : α} : IsPower p → IsPower q → IsPower (p + q)

class ExactDecibels (α : Type) [Analysis α] : Prop extends Scalar.LawfulOrder α where
  isNaN_power {p : α} : IsPower p → Scalar.isNaN p = false
  left_le_add {p q : α} : IsPower p → IsPower q → p ≤ p + q
  right_le_add {p q : α} : IsPower p → IsPower q → q ≤ p + q
  mwToDbm_mono {p q : α} : IsPower p → IsPower q → p ≤ q → mwToDbm p ≤ mwToDbm q
  mwToDbm_dbmToMw (dbm : α) : mwToDbm (dbmToMw dbm) = dbm

theorem IsPower.larger {α : Type} [Analysis α] {p q : α} (hp : IsPower p) (hq : IsPower q) :
    IsPower (Scalar.larger p q) := by
  unfold Scalar.larger
  split
  · exact hq
  · split
    · exact hq
    · exact hp

/-! ## Over the rationals -/

namespace Rational

theorem fract_nonneg (x : ℚ) : 0 ≤ x - ⌊x⌋ := sub_nonneg.2 (Int.floor_le x)

theorem tenPow_pos (x : ℚ) : 0 < tenPow x := by
  unfold tenPow
  have hfract := fract_nonneg x
  positivity

theorem log_tenPow (x : ℚ) : Int.log 10 (tenPow x) = ⌊x⌋ := by
  have hpow : (0 : ℚ) < 10 ^ ⌊x⌋ := by positivity
  have hlow := fract_nonneg x
  have hhigh : x - ⌊x⌋ < 1 := by linarith [Int.lt_floor_add_one x]
  refine le_antisymm ?_ ?_
  · refine Int.lt_add_one_iff.1 ((Int.lt_zpow_iff_log_lt (by norm_num) (tenPow_pos x)).1 ?_)
    rw [tenPow, Nat.cast_ofNat, zpow_add_one₀ (by norm_num)]
    exact mul_lt_mul_of_pos_left (by linarith) hpow
  · refine (Int.zpow_le_iff_le_log (by norm_num) (tenPow_pos x)).1 ?_
    rw [tenPow, Nat.cast_ofNat]
    exact le_mul_of_one_le_right hpow.le (by linarith)

theorem log10_tenPow (x : ℚ) : log10 (tenPow x) = x := by
  have hpow : (10 : ℚ) ^ ⌊x⌋ ≠ 0 := by positivity
  rw [log10, log_tenPow, tenPow, mul_div_cancel_left₀ _ hpow]
  linarith

theorem log10_mono {p q : ℚ} (hp : 0 < p) (h : p ≤ q) : log10 p ≤ log10 q := by
  have hq : 0 < q := lt_of_lt_of_le hp h
  unfold log10
  rcases (Int.log_mono_right (b := 10) hp h).eq_or_lt with heq | hlt
  · rw [heq]
    have hpow : (0 : ℚ) < 10 ^ Int.log 10 q := by positivity
    have hdiv := div_le_div_of_nonneg_right h hpow.le
    linarith
  · -- The chords below and above a whole power meet there.
    have hbelow : p / 10 ^ Int.log 10 p < 10 := by
      rw [div_lt_iff₀ (by positivity), ← zpow_one_add₀ (by norm_num), add_comm]
      exact_mod_cast Int.lt_zpow_succ_log_self (b := 10) (by norm_num) p
    have habove : 1 ≤ q / 10 ^ Int.log 10 q := by
      rw [one_le_div (by positivity)]
      exact_mod_cast Int.zpow_log_le_self (b := 10) (by norm_num) hq
    have hwhole : (Int.log 10 p : ℚ) + 1 ≤ Int.log 10 q := by exact_mod_cast hlt
    linarith

theorem tenPow_log10 {p : ℚ} (hp : 0 < p) : tenPow (log10 p) = p := by
  have hpow : (0 : ℚ) < 10 ^ Int.log 10 p := by positivity
  have hlow : 1 ≤ p / 10 ^ Int.log 10 p := by
    rw [one_le_div hpow]
    exact_mod_cast Int.zpow_log_le_self (b := 10) (by norm_num) hp
  have hhigh : p / 10 ^ Int.log 10 p < 10 := by
    rw [div_lt_iff₀ hpow, ← zpow_one_add₀ (by norm_num), add_comm]
    exact_mod_cast Int.lt_zpow_succ_log_self (b := 10) (by norm_num) p
  have hfloor : ⌊log10 p⌋ = Int.log 10 p := by
    rw [Int.floor_eq_iff, log10]
    constructor <;> linarith
  rw [tenPow, hfloor, log10]
  field_simp
  ring

theorem log10_lt_iff {p q : ℚ} (hp : 0 < p) (hq : 0 < q) : log10 p < log10 q ↔ p < q := by
  constructor
  · intro h
    by_contra hle
    exact absurd (log10_mono hq (not_lt.1 hle)) (not_le.2 h)
  · intro h
    refine lt_of_le_of_ne (log10_mono hp h.le) fun heq => h.ne ?_
    rw [← tenPow_log10 hp, heq, tenPow_log10 hq]

theorem tenPow_lt_iff {x y : ℚ} : tenPow x < tenPow y ↔ x < y := by
  rw [← log10_lt_iff (tenPow_pos x) (tenPow_pos y), log10_tenPow, log10_tenPow]

end Rational

theorem IsPower.pos {p : ℚ} (h : IsPower p) : 0 < p := by
  induction h with
  | ofDbm dbm => exact Rational.tenPow_pos _
  | add _ _ ihp ihq => exact add_pos ihp ihq

instance : ExactDecibels ℚ where
  isNaN_power _ := by simp [Scalar.isNaN]
  left_le_add _ hq := le_add_of_nonneg_right hq.pos.le
  right_le_add hp _ := le_add_of_nonneg_left hp.pos.le
  mwToDbm_mono hp _ h := mul_le_mul_of_nonneg_left (Rational.log10_mono hp.pos h) (by norm_num)
  mwToDbm_dbmToMw dbm := by
    show 10.0 * Rational.log10 (Rational.tenPow (dbm / 10.0)) = dbm
    rw [Rational.log10_tenPow]
    norm_num

end Sidelink
