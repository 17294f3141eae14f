import Sidelink.Proofs.BlockError.Graph
import Sidelink.Proofs.Scalar.Decibel

/-!
# More signal never hurts

In exact arithmetic no curve of the tables rises with the signal level, from one segment to the next, at the knots, at
both ends and beyond them. Above every number no block is lost.
-/

namespace Sidelink.BlockError

open Scalar Exact ExactLevels

/-! ## Exact levels with infinities -/

theorem ten_eq : (10.0 : Extended) = .finite 10 := congrArg Extended.finite (by norm_num)

theorem toDb_finite {q : ℚ} (hq : 0 < q) : toDb (.finite q) = Extended.finite (10 * Rational.log10 q) := by
  have hlog : Analysis.log10 (Extended.finite q) = .finite (Rational.log10 q) := if_pos hq
  rw [toDb, hlog, ten_eq]
  rfl

theorem toDb_infinite : toDb (.infinite false) = Extended.infinite false := by
  rw [toDb, ten_eq]
  show Extended.mul (.finite 10) (.infinite false) = _
  simp [Extended.mul]

theorem ofDb_finite (d : ℚ) : ofDb (.finite d) = Extended.finite (Rational.tenPow (d / 10)) := by
  have hdiv : Extended.finite d / .finite 10 = .finite (d / 10) := by
    show Extended.div _ _ = _
    simp [Extended.div]
  rw [ofDb, ten_eq, hdiv]
  rfl

theorem eq_infinite {s : Extended} (h : ∀ t r, Is t r → t < s) : s = .infinite false := by
  cases s with
  | nan => exact absurd (h (.finite 0) _ ⟨0, rfl, rfl⟩) (by decide)
  | infinite negative =>
    cases negative with
    | true => exact absurd (h (.finite 0) _ ⟨0, rfl, rfl⟩) (by decide)
    | false => rfl
  | finite q => exact absurd (h (.finite q) _ ⟨q, rfl, rfl⟩) (LawfulOrder.lt_irrefl _)

instance : ExactLevels Extended where
  exists_toDb := by
    rintro _ _ ⟨q, rfl, rfl⟩ hq
    rw [toDb_finite (mod_cast hq)]
    exact ⟨_, _, rfl, rfl⟩
  exists_ofDb := by
    rintro _ _ ⟨d, rfl, rfl⟩
    rw [ofDb_finite]
    exact ⟨_, mod_cast Rational.tenPow_pos _, _, rfl, rfl⟩
  ofDb_toDb := by
    rintro _ _ ⟨q, rfl, rfl⟩ hq
    have hq' : 0 < q := mod_cast hq
    rw [toDb_finite hq', ofDb_finite, mul_div_cancel_left₀ _ (by norm_num), Rational.tenPow_log10 hq']
  toDb_ofDb := by
    rintro _ _ ⟨d, rfl, rfl⟩
    rw [ofDb_finite, toDb_finite (Rational.tenPow_pos _), Rational.log10_tenPow, mul_div_cancel₀ _ (by norm_num)]
  toDb_lt_toDb := by
    rintro _ _ _ _ ⟨p, rfl, rfl⟩ ⟨q, rfl, rfl⟩ hp hq
    have hp' : 0 < p := mod_cast hp
    have hq' : 0 < q := mod_cast hq
    rw [toDb_finite hp', toDb_finite hq', Extended.finite_lt_finite, Extended.finite_lt_finite,
      mul_lt_mul_iff_of_pos_left (by norm_num), Rational.log10_lt_iff hp' hq']
  ofDb_lt_ofDb := by
    rintro _ _ _ _ ⟨d, rfl, rfl⟩ ⟨e, rfl, rfl⟩
    rw [ofDb_finite, ofDb_finite, Extended.finite_lt_finite, Extended.finite_lt_finite, Rational.tenPow_lt_iff,
      div_lt_div_iff_of_pos_right (by norm_num)]
  positive {s} h := by
    cases s with
    | nan => exact absurd h (by decide)
    | infinite negative =>
      refine .inr ?_
      rintro _ _ ⟨q, rfl, -⟩
      cases negative with
      | true => exact absurd h (by decide)
      | false => rfl
    | finite q => exact .inl ⟨q, q, rfl, rfl⟩
  lt_toDb {s} h := by
    rw [eq_infinite h, toDb_infinite]
    rintro _ _ ⟨q, rfl, -⟩
    rfl
  beq_eq_false {s l d} h := by
    rw [eq_infinite h]
    rintro ⟨q, rfl, -⟩
    rfl

/-! ## Rates over levels -/

section

variable {α : Type} [Analysis α] [ExactLevels α] {c : Curve α} {s t : α} {r u : ℝ}

theorem Tabulated.exists_graph (h : Tabulated c) :
    ∃ x b edge, ∃ place : α → ℝ → Prop, Falling x b ∧
      (∀ {s r}, Is s r → 0 < r → ∃ p y, place s p ∧ Is (c.blerAt s) y ∧ Height x b edge p y) ∧
      ∀ {s t r u p q}, Is s r → Is t u → 0 < r → r ≤ u → place s p → place t q → p ≤ q := by
  obtain ⟨b, hb⟩ := h.exists_heights
  rcases h.onGrid_or_onPoints with ⟨lo, hi, step, l, e, w, hgrid⟩ | ⟨z, hpoints⟩
  · obtain ⟨x, edge, hfall, -, -, hgraph⟩ := hgrid.exists_graph hb
    refine ⟨x, b, edge, Is, hfall, fun {s r} hs hr => ?_, fun hs ht _ hru hp hq => ?_⟩
    · obtain ⟨y, hy, hheight⟩ := hgraph hs hr
      exact ⟨r, y, hs, hy, hheight⟩
    · rwa [eq_of_is hp hs, eq_of_is hq ht]
  · refine ⟨z, b, _, fun s d => Is (toDb s) d, ⟨hpoints.places, hb.antitone, hb.nonneg, hb.le_one⟩,
      fun hs hr => hpoints.exists_height hb hs hr, fun hs ht hr hru hp hq => ?_⟩
    rw [← not_lt, ← lt_iff hq hp, toDb_lt_toDb ht hs (hr.trans_le hru) hr, lt_iff ht hs, not_lt]
    exact hru

theorem Tabulated.blerAt_le (h : Tabulated c) (hs : Is s r) (ht : Is t u) (hr : 0 < r) (hru : r ≤ u) :
    c.blerAt t ≤ c.blerAt s := by
  obtain ⟨x, b, edge, place, hfall, hgraph, hplace⟩ := h.exists_graph
  obtain ⟨p, y, hp, hy, hys⟩ := hgraph hs hr
  obtain ⟨q, z, hq, hz, hzt⟩ := hgraph ht (hr.trans_le hru)
  rw [le_iff hz hy]
  exact hfall.height_le hys hzt (hplace hs ht hr hru hp hq)

theorem Tabulated.blerAt_nonneg (h : Tabulated c) (hs : Is s r) (hr : 0 < r) : 0.0 ≤ c.blerAt s := by
  obtain ⟨x, b, edge, place, hfall, hgraph, -⟩ := h.exists_graph
  obtain ⟨p, y, -, hy, hys⟩ := hgraph hs hr
  rw [le_iff is_zero hy]
  exact hfall.height_nonneg hys

theorem Tabulated.blerAt_unbounded (h : Tabulated c) (hs : ∀ t r, Is t r → t < s) : c.blerAt s = 0.0 := by
  have hpos : 0.0 < s := hs _ _ is_zero
  have hnumber : isNaN s = false := by
    by_contra hnan
    exact (LawfulOrder.not_lt_of_isNaN (by simpa using hnan)).2 hpos
  have hsignal : ¬s ≤ 0.0 := fun hle => LawfulOrder.lt_irrefl _ (LawfulOrder.lt_of_lt_of_le hpos hle)
  have hlevel := lt_toDb hs
  unfold Curve.blerAt
  rw [if_neg (by simp [hnumber, hsignal])]
  rcases h.onGrid_or_onPoints with ⟨lo, hi, step, l, e, w, hgrid⟩ | ⟨z, hpoints⟩
  · have hlo := hlevel lo l hgrid.is_lo
    simp only [hgrid.axis]
    rw [if_neg fun hlt => LawfulOrder.lt_irrefl _ (LawfulOrder.lt_trans hlo hlt), if_pos (hlevel hi e hgrid.is_hi)]
  · have hlast : Is c.last.db (z c.rest.length) := hpoints.is_level le_rfl
    simp only [hpoints.axis]
    rw [if_pos (LawfulOrder.le_of_lt (hlevel _ _ hlast)), beq_eq_false hlevel hlast]
    rfl

/-- No curve that the tables have for a channel and a coding index rises. -/
theorem blerAt_antitone {channel : Channel} {mcs : Nat} (hmcs : mcs ≤ channel.maxMcs) (hsupported : channel.isSupported)
    (attempts : Nat) :
    ∃ c : Curve α, curve channel mcs attempts = .ok c ∧ ∀ s t, 0.0 < s → s ≤ t → c.blerAt t ≤ c.blerAt s := by
  obtain ⟨c, hc, htab⟩ := exists_curve (α := α) hmcs hsupported attempts
  refine ⟨c, hc, fun s t hs hst => ?_⟩
  rcases positive hs with ⟨r, hr⟩ | hs'
  · have hpos : 0 < r := (lt_iff is_zero hr).1 hs
    rcases positive (LawfulOrder.lt_of_lt_of_le hs hst) with ⟨u, hu⟩ | ht'
    · exact htab.blerAt_le hr hu hpos ((le_iff hr hu).1 hst)
    · rw [htab.blerAt_unbounded ht']
      exact htab.blerAt_nonneg hr hpos
  · rcases positive (LawfulOrder.lt_of_lt_of_le hs hst) with ⟨u, hu⟩ | ht'
    · exact absurd (LawfulOrder.lt_of_lt_of_le (hs' t u hu) hst) (LawfulOrder.lt_irrefl t)
    · rw [htab.blerAt_unbounded hs', htab.blerAt_unbounded ht', le_iff is_zero is_zero]

end

theorem blerAt_antitone_shared :
    ∃ c : Curve Extended, curve .ltePssch 5 7 = .ok c ∧ c.blerAt (.finite 3) ≤ c.blerAt (.finite (1 / 2)) ∧
      c.blerAt (.infinite false) ≤ c.blerAt (.finite 3) := by
  obtain ⟨c, hc, hle⟩ := blerAt_antitone (α := Extended) (show 5 ≤ Channel.ltePssch.maxMcs by decide) rfl 7
  exact ⟨c, hc, hle _ _ (by decide +kernel) (by decide +kernel), hle _ _ (by decide +kernel) (by decide +kernel)⟩

end Sidelink.BlockError
