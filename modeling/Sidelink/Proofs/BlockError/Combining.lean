import Sidelink.Proofs.BlockError.Inverse

/-!
# Two attempts combined

The weight of the newer attempt is a ratio of levels, the larger over the smaller. It is at least one, so that the mean
is not nearer to the older attempt, unless neither level is a signal, and then both attempts are lost for certain. Where
there is no ratio the newer attempt stands alone.
-/

namespace Sidelink.BlockError

open Scalar Exact ExactLevels

/-! ## Quotients -/

/-- Finite scalars are those that stand for numbers, and a quotient that is a number other than zero is one of
numbers. -/
class ExactQuotients (α : Type) [Scalar α] [Exact α] : Prop where
  isFinite_iff {x : α} : isFinite x = true ↔ ∃ r, Is x r
  of_is_div {x y : α} {q : ℝ} : Is (x / y) q → q ≠ 0 → ∃ r s, Is x r ∧ Is y s ∧ s ≠ 0

open Extended in
instance : ExactQuotients Extended where
  isFinite_iff {x} := by
    cases x with
    | nan => exact iff_of_false nofun (by rintro ⟨_, _, h, -⟩; cases h)
    | infinite negative => exact iff_of_false nofun (by rintro ⟨_, _, h, -⟩; cases h)
    | finite q => exact iff_of_true rfl ⟨q, q, rfl, rfl⟩
  of_is_div {x y q} := by
    rintro ⟨p, h, rfl⟩ hq
    change Extended.div x y = finite p at h
    cases x with
    | nan => cases y <;> cases h
    | infinite negative => cases y <;> cases h
    | finite r =>
      cases y with
      | nan => cases h
      | infinite negative =>
        cases h
        exact absurd Rat.cast_zero hq
      | finite s =>
        refine ⟨r, s, ⟨r, rfl, rfl⟩, ⟨s, rfl, rfl⟩, fun hs => ?_⟩
        rw [div, if_pos (mod_cast hs)] at h
        split at h <;> cases h

theorem one_le_div_or_nonpos {r u : ℝ} (h : r ≤ u) (hne : r ≠ 0) (hpos : 0 < u / r) : 1 ≤ u / r ∨ u ≤ 0 ∧ r ≤ 0 := by
  rcases hne.lt_or_gt with hr | hr
  · refine .inr ⟨?_, hr.le⟩
    by_contra hu
    exact absurd (div_neg_of_pos_of_neg (not_le.1 hu) hr) (not_lt.2 hpos.le)
  · exact .inl ((one_le_div hr).2 h)

/-! ## Means of two rates -/

/-- A rate between those of two attempts that is not nearer to the earlier one. -/
structure Leans (before now y : ℝ) : Prop where
  min_le : min before now ≤ y
  le_max : y ≤ max before now
  nearer : |y - now| ≤ |y - before|

section

variable {b b' q : ℝ}

theorem leans_now (b b' : ℝ) : Leans b b' b' where
  min_le := min_le_right ..
  le_max := le_max_right ..
  nearer := by
    rw [sub_self, abs_zero]
    exact abs_nonneg _

theorem leans_mean (hq : 1 ≤ q) (b b' : ℝ) : Leans b b' ((b + b' * q) / (1 + q)) := by
  have hsum : 0 < 1 + q := by linarith
  have hnow : (b + b' * q) / (1 + q) - b' = (b - b') / (1 + q) := by
    field_simp
    ring
  have hbefore : (b + b' * q) / (1 + q) - b = (b' - b) * q / (1 + q) := by
    field_simp
    ring
  refine ⟨?_, ?_, ?_⟩
  · rw [le_div_iff₀ hsum]
    have hleft := min_le_left b b'
    have hright := mul_le_mul_of_nonneg_right (min_le_right b b') (show 0 ≤ q by linarith)
    linarith
  · rw [div_le_iff₀ hsum]
    have hleft := le_max_left b b'
    have hright := mul_le_mul_of_nonneg_right (le_max_right b b') (show 0 ≤ q by linarith)
    linarith
  · rw [hnow, hbefore, abs_div, abs_div, abs_mul, abs_sub_comm b b', abs_of_pos (show 0 < q by linarith)]
    gcongr
    exact le_mul_of_one_le_right (abs_nonneg _) hq

end

/-! ## Rates at every level -/

variable {α : Type} [Analysis α] [ExactLevels α] {c : Curve α} {p s : α} {b b' q r : ℝ}

theorem blerAt_of_nonpos (hs : Is s r) (hr : r ≤ 0) : c.blerAt s = 1.0 := by
  have hnone : s ≤ 0.0 := (le_iff hs is_zero).2 hr
  unfold Curve.blerAt
  rw [if_pos (by simp [hnone])]

theorem Tabulated.exists_rate (h : Tabulated c) (s : α) : ∃ y, Is (c.blerAt s) y ∧ 0 ≤ y ∧ y ≤ 1 := by
  by_cases hnone : isNaN s || decide (s ≤ 0.0)
  · have hlost : c.blerAt s = 1.0 := by
      unfold Curve.blerAt
      rw [if_pos hnone]
    rw [hlost]
    exact ⟨1, is_one, zero_le_one, le_rfl⟩
  · obtain ⟨hnumber, hsignal⟩ : isNaN s = false ∧ ¬s ≤ 0.0 := by simpa using hnone
    have hpos : 0.0 < s := by
      by_contra hle
      exact hsignal (LawfulOrder.le_of_not_lt (isNaN_eq is_zero) hnumber hle)
    rcases positive hpos with ⟨r, hr⟩ | hunbounded
    · obtain ⟨x, b, edge, place, hfall, hgraph, -⟩ := h.exists_graph
      obtain ⟨_, y, -, hy, hheight⟩ := hgraph hr ((lt_iff is_zero hr).1 hpos)
      exact ⟨y, hy, hfall.height_nonneg hheight, hfall.height_le_one hheight⟩
    · rw [h.blerAt_unbounded hunbounded]
      exact ⟨0, is_zero, le_rfl, zero_le_one⟩

variable [ExactQuotients α]

theorem one_le_ratio (hq : Is (if p < s then s / p else p / s) q) (hpos : 0 < q) :
    1 ≤ q ∨ c.blerAt p = 1.0 ∧ c.blerAt s = 1.0 := by
  split at hq
  · rename_i hless
    obtain ⟨u, r, hs, hp, hr⟩ := ExactQuotients.of_is_div hq hpos.ne'
    rw [eq_of_is hq (is_div hs hp hr)] at hpos ⊢
    refine (one_le_div_or_nonpos ((lt_iff hp hs).1 hless).le hr hpos).imp_right fun ⟨hu, hr⟩ => ?_
    exact ⟨blerAt_of_nonpos hp hr, blerAt_of_nonpos hs hu⟩
  · rename_i hless
    obtain ⟨r, u, hp, hs, hu⟩ := ExactQuotients.of_is_div hq hpos.ne'
    rw [eq_of_is hq (is_div hp hs hu)] at hpos ⊢
    refine (one_le_div_or_nonpos (not_lt.1 (mt (lt_iff hp hs).2 hless)) hu hpos).imp_right fun ⟨hr, hu⟩ => ?_
    exact ⟨blerAt_of_nonpos hp hr, blerAt_of_nonpos hs hu⟩

theorem Tabulated.evaluateOn_leans (h : Tabulated c) (hb : Is (c.blerAt p) b) (hb' : Is (c.blerAt s) b') :
    ∃ y, Is (evaluateOn c (some p) s).bler y ∧ Leans b b' y := by
  have hunit {t : α} {y : ℝ} (hy : Is (c.blerAt t) y) : 0 ≤ y ∧ y ≤ 1 := by
    obtain ⟨z, hz, hbounds⟩ := h.exists_rate t
    rwa [eq_of_is hy hz]
  have hnow : Is (sanitize (c.blerAt s)) b' := by
    rwa [sanitize_eq hb' (hunit hb').1 (hunit hb').2]
  unfold evaluateOn
  dsimp only
  split
  · exact ⟨b', hnow, leans_now b b'⟩
  split
  · rename_i hlost
    rw [Bool.and_eq_true, beq_iff hb is_one, beq_iff hb' is_one] at hlost
    rw [hlost.1, hlost.2]
    exact ⟨1, is_one, leans_now 1 1⟩
  rename_i hlost
  unfold combinedBler
  dsimp only
  generalize heq : (if p < s then s / p else p / s) = ratio
  split
  · rename_i hratio
    rw [Bool.and_eq_true, ExactQuotients.isFinite_iff, decide_eq_true_eq] at hratio
    obtain ⟨⟨q, hq⟩, hpos⟩ := hratio
    rw [lt_iff is_zero hq] at hpos
    rcases one_le_ratio (c := c) (heq ▸ hq) hpos with hweight | ⟨hbefore, hafter⟩
    · have hmean := is_div (is_add hb (is_mul hb' hq)) (is_add is_one hq) (by linarith)
      have hleans := leans_mean hweight b b'
      have hlow : 0 ≤ min b b' := le_min (hunit hb).1 (hunit hb').1
      have hhigh : max b b' ≤ 1 := max_le (hunit hb).2 (hunit hb').2
      rw [sanitize_eq hmean (hlow.trans hleans.min_le) (hleans.le_max.trans hhigh)]
      exact ⟨_, hmean, hleans⟩
    · rw [hbefore, hafter, (beq_iff is_one is_one).2 rfl] at hlost
      exact absurd rfl hlost
  · exact ⟨b', hnow, leans_now b b'⟩

/-- The rate of an attempt at any level, after earlier ones of which the last was at any level, lies between the rates
of the two alone. It is at least as near to that of the new attempt as to that of the previous one. -/
theorem evaluate_leans {channel : Channel} {mcs : Nat} (hmcs : mcs ≤ channel.maxMcs) (hsupported : channel.isSupported)
    {history : List α} (hlast : history.getLast? = some p) (s : α) :
    ∃ c e b b' y, curve channel mcs history.length = .ok c ∧ evaluate channel mcs s history = .ok e ∧
      Is (c.blerAt p) b ∧ Is (c.blerAt s) b' ∧ Is e.bler y ∧
      min b b' ≤ y ∧ y ≤ max b b' ∧ |y - b'| ≤ |y - b| := by
  obtain ⟨c, hc, htab⟩ := exists_curve (α := α) hmcs hsupported history.length
  obtain ⟨b, hb, -⟩ := htab.exists_rate p
  obtain ⟨b', hb', -⟩ := htab.exists_rate s
  obtain ⟨y, hy, hleans⟩ := htab.evaluateOn_leans hb hb'
  refine ⟨c, evaluateOn c (some p) s, b, b', y, hc, ?_, hb, hb', hy, hleans.min_le, hleans.le_max, hleans.nearer⟩
  unfold evaluate
  rw [hc, hlast]
  rfl

/-- After an attempt at 0 dB and one before it without any signal. -/
theorem evaluate_leans_pssch :
    ∃ (c : Curve Extended) (e : Evaluation Extended) (b b' y : ℝ),
      5 ≤ Channel.pssch.maxMcs ∧ Channel.pssch.isSupported ∧ curve .pssch 5 2 = .ok c ∧
        evaluate .pssch 5 (.finite 2) [.infinite true, .finite 1] = .ok e ∧ Is (c.blerAt (.finite 1)) b ∧
        Is (c.blerAt (.finite 2)) b' ∧ Is e.bler y ∧ min b b' ≤ y ∧ y ≤ max b b' ∧ |y - b'| ≤ |y - b| := by
  have hmcs : 5 ≤ Channel.pssch.maxMcs := by decide
  have hlast : [Extended.infinite true, .finite 1].getLast? = some (.finite 1) := rfl
  obtain ⟨c, e, b, b', y, hleans⟩ := evaluate_leans hmcs rfl hlast (.finite 2)
  exact ⟨c, e, b, b', y, hmcs, rfl, hleans⟩

end Sidelink.BlockError
