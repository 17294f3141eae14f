import Mathlib.Tactic.Linarith
import Sidelink.Proofs.BlockError.Envelope

/-!
# Graphs of curves

In exact arithmetic the rates of a curve lie on a graph over real numbers: one before the first knot, chords between the
knots up to an edge, and zero beyond it. On a grid the graph is drawn over the ratio, on free breakpoints over the level
in dB. The conversions between the two undo each other and keep the order.
-/

namespace Sidelink.BlockError

variable {x b : ℕ → ℝ} {i : ℕ} {edge u v y z : ℝ}

/-! ## Chords -/

/-- The height at `u` of the line through a knot and the next. -/
noncomputable def chord (x b : ℕ → ℝ) (i : ℕ) (u : ℝ) : ℝ := b i + (b (i + 1) - b i) * (u - x i) / (x (i + 1) - x i)

theorem chord_left (x b : ℕ → ℝ) (i : ℕ) : chord x b i (x i) = b i := by simp [chord]

theorem chord_of_eq (h : b (i + 1) = b i) (u : ℝ) : chord x b i u = b i := by simp [chord, h]

theorem chord_right (h : x i < x (i + 1)) : chord x b i (x (i + 1)) = b (i + 1) := by
  rw [chord, mul_div_assoc, div_self (sub_ne_zero.2 h.ne')]
  ring

theorem chord_antitone (hx : x i < x (i + 1)) (hb : b (i + 1) ≤ b i) : Antitone (chord x b i) := by
  intro u v h
  have hdrop : (b (i + 1) - b i) * (v - x i) ≤ (b (i + 1) - b i) * (u - x i) :=
    mul_le_mul_of_nonpos_left (by linarith) (by linarith)
  unfold chord
  linarith [div_le_div_of_nonneg_right hdrop (sub_pos.2 hx).le]

/-! ## Graphs -/

/-- `y` is the height at `u`, given the places and the rates of all knots. -/
inductive Height (x b : ℕ → ℝ) (edge : ℝ) : ℝ → ℝ → Prop
  | before {u : ℝ} (h : u < x 0) : Height x b edge u 1
  | between {u : ℝ} (i : ℕ) (hlow : x i ≤ u) (hhigh : u < x (i + 1)) (hedge : u ≤ edge) :
      Height x b edge u (chord x b i u)
  | beyond {u : ℝ} (hlow : x 0 ≤ u) (hedge : edge < u) : Height x b edge u 0

/-- Knots in order with rates in the unit interval that do not rise. -/
structure Falling (x b : ℕ → ℝ) : Prop where
  places : StrictMono x
  rates : Antitone b
  nonneg (i : ℕ) : 0 ≤ b i
  le_one (i : ℕ) : b i ≤ 1

namespace Falling

variable (hfall : Falling x b)
include hfall

theorem chord_le (h : x i ≤ u) : chord x b i u ≤ b i := by
  rw [← chord_left x b i]
  exact chord_antitone (hfall.places i.lt_succ_self) (hfall.rates i.le_succ) h

theorem le_chord (h : u ≤ x (i + 1)) : b (i + 1) ≤ chord x b i u := by
  rw [← chord_right (b := b) (hfall.places i.lt_succ_self)]
  exact chord_antitone (hfall.places i.lt_succ_self) (hfall.rates i.le_succ) h

theorem height_nonneg (h : Height x b edge u y) : 0 ≤ y := by
  cases h with
  | before => exact zero_le_one
  | between i _ hhigh => exact (hfall.nonneg (i + 1)).trans (hfall.le_chord hhigh.le)
  | beyond => exact le_rfl

theorem height_le_one (h : Height x b edge u y) : y ≤ 1 := by
  cases h with
  | before => exact le_rfl
  | between i hlow => exact (hfall.chord_le hlow).trans (hfall.le_one i)
  | beyond => exact zero_le_one

theorem height_le (hu : Height x b edge u y) (hv : Height x b edge v z) (huv : u ≤ v) : z ≤ y := by
  cases hv with
  | before hv =>
    cases hu with
    | before => exact le_rfl
    | between i hlow => 
      have hfirst := hfall.places.monotone i.zero_le
      linarith
    | beyond hlow => linarith
  | beyond => exact hfall.height_nonneg hu
  | between j hjlow hjhigh hjedge =>
    cases hu with
    | before => exact hfall.height_le_one (.between j hjlow hjhigh hjedge)
    | beyond _ hedge => linarith
    | between i hilow hihigh =>
      have hij : i < j + 1 := hfall.places.lt_iff_lt.1 (by linarith)
      rcases (Nat.lt_succ_iff.1 hij).eq_or_lt with rfl | hlt
      · exact chord_antitone (hfall.places i.lt_succ_self) (hfall.rates i.le_succ) huv
      · -- The knot that ends the left chord is at or before the one that begins the right chord.
        calc chord x b j v ≤ b j := hfall.chord_le hjlow
          _ ≤ b (i + 1) := hfall.rates hlt
          _ ≤ chord x b i u := hfall.le_chord hihigh.le

end Falling

/-! ## Levels -/

/-- Exact arithmetic with exact conversions between a ratio and its level in dB. A positive scalar that stands for no
number is above all that do, and so is its level. -/
class ExactLevels (α : Type) [Analysis α] extends Scalar.Exact α, Scalar.LawfulOrder α where
  exists_toDb {s : α} {r : ℝ} : Is s r → 0 < r → ∃ d, Is (toDb s) d
  exists_ofDb {l : α} {d : ℝ} : Is l d → ∃ r, 0 < r ∧ Is (ofDb l) r
  ofDb_toDb {s : α} {r : ℝ} : Is s r → 0 < r → ofDb (toDb s) = s
  toDb_ofDb {l : α} {d : ℝ} : Is l d → toDb (ofDb l) = l
  toDb_lt_toDb {s t : α} {r u : ℝ} : Is s r → Is t u → 0 < r → 0 < u → (toDb s < toDb t ↔ s < t)
  ofDb_lt_ofDb {l m : α} {d e : ℝ} : Is l d → Is m e → (ofDb l < ofDb m ↔ l < m)
  positive {s : α} : 0.0 < s → (∃ r, Is s r) ∨ ∀ t r, Is t r → t < s
  lt_toDb {s : α} : (∀ t r, Is t r → t < s) → ∀ l d, Is l d → l < toDb s
  beq_eq_false {s l : α} {d : ℝ} : (∀ t r, Is t r → t < s) → Is l d → (s == l) = false

theorem Curve.knotAt_min {α : Type} (c : Curve α) (i : ℕ) : c.knotAt (min i c.rest.length) = c.knotAt i := by
  simp [knotAt]

open Scalar Exact ExactLevels

variable {α : Type} [Analysis α] [ExactLevels α] {c : Curve α} {s : α} {r d : ℝ}

theorem lt_ofDb_iff {l : α} {q : ℝ} {e : ℝ} (hs : Is s r) (hr : 0 < r) (hd : Is (toDb s) d) (hl : Is l e)
    (hq : Is (ofDb l) q) : r < q ↔ d < e := by
  rw [← lt_iff hs hq, ← lt_iff hd hl, ← ofDb_lt_ofDb hd hl, ofDb_toDb hs hr]

theorem ofDb_lt_iff {l : α} {q : ℝ} {e : ℝ} (hs : Is s r) (hr : 0 < r) (hd : Is (toDb s) d) (hl : Is l e)
    (hq : Is (ofDb l) q) : q < r ↔ e < d := by
  rw [← lt_iff hq hs, ← lt_iff hl hd, ← ofDb_lt_ofDb hl hd, ofDb_toDb hs hr]

theorem is_line {x₁ y₁ x₂ y₂ x : α} {u₁ v₁ u₂ v₂ u : ℝ} (hx₁ : Is x₁ u₁) (hy₁ : Is y₁ v₁) (hx₂ : Is x₂ u₂)
    (hy₂ : Is y₂ v₂) (hx : Is x u) (hne : u₂ ≠ u₁) :
    Is (Curve.line x₁ y₁ x₂ y₂ x) (v₁ + (v₂ - v₁) * (u - u₁) / (u₂ - u₁)) :=
  is_add hy₁ (is_div (is_mul (is_sub hy₂ hy₁) (is_sub hx hx₁)) (is_sub hx₂ hx₁) (sub_ne_zero.2 hne))

theorem hasSignal (hs : Is s r) (hr : 0 < r) : (isNaN s || decide (s ≤ 0.0)) = false := by
  have hpos : ¬s ≤ 0.0 := by
    rw [le_iff hs is_zero]
    exact not_le.2 hr
  simp [isNaN_eq hs, hpos]

/-! ## Curves on a grid -/

/-- A grid of levels, with the numbers that its ends and its step stand for. -/
structure Curve.OnGrid (c : Curve α) (lo hi step : α) (l h w : ℝ) : Prop where
  axis : c.axis = .grid lo hi step
  is_lo : Is lo l
  is_hi : Is hi h
  is_step : Is step w
  step_pos : 0 < w
  db {i : ℕ} (hi : i ≤ c.rest.length) : (c.knotAt i).db = lo + ofNat i * step

variable {lo hi step : α} {l h w : ℝ} {b : ℕ → ℝ}

theorem Curve.OnGrid.is_level (hgrid : c.OnGrid lo hi step l h w) (i : ℕ) : Is (lo + ofNat i * step) (l + i * w) :=
  is_add hgrid.is_lo (is_mul (is_ofNat i) hgrid.is_step)

theorem Curve.OnGrid.position (hgrid : c.OnGrid lo hi step l h w) {db : α} (hd : Is db d) (hlow : l ≤ d) :
    ∃ i : ℕ, toNat (Scalar.floor ((db - lo) / step)) = i ∧ l + i * w ≤ d ∧ d < l + (i + 1 : ℕ) * w ∧
      (d = l + i * w ∧ toNat (Scalar.ceil ((db - lo) / step)) = i ∨
        toNat (Scalar.ceil ((db - lo) / step)) = i + 1) := by
  have hw := hgrid.step_pos
  have hp : Is ((db - lo) / step) ((d - l) / w) := is_div (is_sub hd hgrid.is_lo) hgrid.is_step hw.ne'
  have hnonneg : 0 ≤ (d - l) / w := div_nonneg (by linarith) hw.le
  have hmul : (d - l) / w * w = d - l := div_mul_cancel₀ _ hw.ne'
  have hfloor : toNat (Scalar.floor ((db - lo) / step)) = ⌊(d - l) / w⌋₊ := by
    rw [toNat_eq (is_floor hp), ← Int.floor_toNat, Int.floor_intCast, Int.floor_toNat]
  have hceil : toNat (Scalar.ceil ((db - lo) / step)) = ⌈(d - l) / w⌉₊ := by
    rw [toNat_eq (is_ceil hp), ← Int.floor_toNat, Int.floor_intCast, Int.ceil_toNat]
  have hle := Nat.floor_le hnonneg
  have hlt := Nat.lt_floor_add_one ((d - l) / w)
  refine ⟨_, hfloor, ?_, ?_, ?_⟩
  · have hfrom := mul_le_mul_of_nonneg_right hle hw.le
    linarith
  · have hto := mul_lt_mul_of_pos_right hlt hw
    push_cast
    linarith
  · rw [hceil]
    rcases hle.eq_or_lt with heq | hless
    · refine .inl ⟨?_, ?_⟩
      · rw [heq, hmul]
        ring
      · rw [← heq, Nat.ceil_natCast, Nat.floor_natCast]
    · exact .inr ((Nat.ceil_eq_iff (Nat.succ_ne_zero _)).2 ⟨by simpa using hless, by push_cast; exact hlt.le⟩)

theorem Curve.OnGrid.exists_graph (hgrid : c.OnGrid lo hi step l h w) (hb : c.Heights b) :
    ∃ x edge, Falling x b ∧ (∀ i, 0 < x i ∧ Is (ofDb (lo + ofNat i * step)) (x i)) ∧ Is (ofDb hi) edge ∧
      ∀ {s : α} {r : ℝ}, Is s r → 0 < r → ∃ y, Is (c.blerAt s) y ∧ Height x b edge r y := by
  have hratio (i : ℕ) : ∃ q, 0 < q ∧ Is (ofDb (lo + ofNat i * step)) q := exists_ofDb (hgrid.is_level i)
  choose x hxpos hx using hratio
  obtain ⟨edge, -, hedge⟩ := exists_ofDb hgrid.is_hi
  have hplaces : StrictMono x := by
    refine strictMono_nat_of_lt_succ fun i => ?_
    rw [← lt_iff (hx i) (hx (i + 1)), ofDb_lt_ofDb (hgrid.is_level i) (hgrid.is_level (i + 1)),
      lt_iff (hgrid.is_level i) (hgrid.is_level (i + 1))]
    push_cast
    linarith [hgrid.step_pos]
  refine ⟨x, edge, ⟨hplaces, hb.antitone, hb.nonneg, hb.le_one⟩, fun i => ⟨hxpos i, hx i⟩, hedge,
    fun {s r} hs hr => ?_⟩
  obtain ⟨d, hd⟩ := exists_toDb hs hr
  have hfirst : r < x 0 ↔ d < l := by simpa using lt_ofDb_iff hs hr hd (hgrid.is_level 0) (hx 0)
  have hlast : edge < r ↔ h < d := ofDb_lt_iff hs hr hd hgrid.is_hi hedge
  unfold blerAt
  rw [if_neg (by simp [hasSignal hs hr])]
  simp only [hgrid.axis, lt_iff hd hgrid.is_lo, lt_iff hgrid.is_hi hd]
  split
  · exact ⟨1, is_one, .before (by rwa [hfirst])⟩
  rename_i hlow
  split
  · exact ⟨0, is_zero, .beyond (not_lt.1 (by rwa [hfirst])) (by rwa [hlast])⟩
  rename_i hhigh
  obtain ⟨i, hfloor, hfrom, hto, hceil⟩ := hgrid.position hd (not_lt.1 hlow)
  have hxi : x i ≤ r := by
    rw [← not_lt, lt_ofDb_iff hs hr hd (hgrid.is_level i) (hx i), not_lt]
    exact hfrom
  have hxi' : r < x (i + 1) := by
    rw [lt_ofDb_iff hs hr hd (hgrid.is_level (i + 1)) (hx (i + 1))]
    exact hto
  refine ⟨chord x b i r, ?_, .between i hxi hxi' (not_lt.1 (by rwa [hlast]))⟩
  rw [hfloor]
  rcases hceil with ⟨hat, hceil⟩ | hceil
  · have hxr : r = x i := by
      refine le_antisymm (not_lt.1 ?_) hxi
      rw [ofDb_lt_iff hs hr hd (hgrid.is_level i) (hx i), hat]
      exact lt_irrefl _
    rw [hceil, if_pos rfl, knotAt_min, hxr, chord_left]
    exact hb.is i
  · rw [hceil]
    split
    · rename_i hsame
      -- Past the last knot both positions are cut back to it.
      have hrate : b (i + 1) = b i := by
        refine eq_of_is (hb.is (i + 1)) ?_
        rw [← c.knotAt_min (i + 1), ← hsame, c.knotAt_min]
        exact hb.is i
      rw [knotAt_min, chord_of_eq hrate]
      exact hb.is i
    · have hlt : i < c.rest.length := by omega
      rw [knotAt_min, knotAt_min, Knot.sinr, Knot.sinr, hgrid.db hlt.le, hgrid.db hlt]
      exact is_line (hx i) (hb.is i) (hx (i + 1)) (hb.is (i + 1)) hs (hplaces i.lt_succ_self).ne'

/-! ## Curves on breakpoints -/

/-- Breakpoints at rising levels. Past the last knot the sequence goes on at any levels that rise. -/
structure Curve.OnPoints (c : Curve α) (z : ℕ → ℝ) : Prop where
  axis : c.axis = .points
  is_level {i : ℕ} (hi : i ≤ c.rest.length) : Is (c.knotAt i).db (z i)
  places : StrictMono z

theorem Curve.getElem_segments {α : Type} (c : Curve α) {i : ℕ} (h : i < (c.knots.zip c.rest).length) :
    (c.knots.zip c.rest)[i] = (c.knotAt i, c.knotAt (i + 1)) := by
  have hi : i < c.rest.length := by
    rw [List.length_zip] at h
    omega
  simp only [List.getElem_zip, knotAt, knots, List.get_eq_getElem, min_eq_left hi.le,
    min_eq_left (Nat.succ_le_of_lt hi), List.getElem_cons_succ]

theorem Curve.OnPoints.exists_segment {z : ℕ → ℝ} (hpoints : c.OnPoints z) {db : α} (hd : Is db d) (hlow : z 0 ≤ d)
    (hhigh : d < z c.rest.length) :
    ∃ i < c.rest.length, z i ≤ d ∧ d < z (i + 1) ∧ c.segment? db = some (c.knotAt i, c.knotAt (i + 1)) := by
  have hlength : (c.knots.zip c.rest).length = c.rest.length := by
    rw [List.length_zip, knots, List.length_cons]
    omega
  have hholds {i : ℕ} (hi : i < c.rest.length) :
      (decide ((c.knotAt i).db ≤ db) && decide (db < (c.knotAt (i + 1)).db)) = true ↔ z i ≤ d ∧ d < z (i + 1) := by
    rw [Bool.and_eq_true, decide_eq_true_iff, decide_eq_true_iff, le_iff (hpoints.is_level hi.le) hd,
      lt_iff hd (hpoints.is_level hi)]
  unfold segment?
  dsimp only
  split
  · rename_i segment hfind
    obtain ⟨i, hi, rfl⟩ := List.getElem_of_mem (List.mem_of_find?_eq_some hfind)
    have hin := List.find?_some hfind
    rw [c.getElem_segments hi] at hin ⊢
    rw [hlength] at hi
    obtain ⟨hfrom, hto⟩ := (hholds hi).1 hin
    exact ⟨i, hi, hfrom, hto, rfl⟩
  · rename_i hfind
    -- A level that no segment holds is at or above every knot, the last one too.
    have habove (i : ℕ) (hi : i ≤ c.rest.length) : z i ≤ d := by
      induction i with
      | zero => exact hlow
      | succ i ih =>
        have hmem := List.getElem_mem (hlength ▸ hi : i < (c.knots.zip c.rest).length)
        have hnot := List.find?_eq_none.1 hfind _ hmem
        rw [c.getElem_segments] at hnot
        by_contra hlt
        exact hnot ((hholds hi).2 ⟨ih (Nat.le_of_succ_le hi), not_le.1 hlt⟩)
    exact absurd (habove _ le_rfl) (not_le.2 hhigh)

theorem Curve.OnPoints.exists_height {z : ℕ → ℝ} (hpoints : c.OnPoints z) (hb : c.Heights b) (hs : Is s r)
    (hr : 0 < r) : ∃ d y, Is (toDb s) d ∧ Is (c.blerAt s) y ∧ Height z b (z c.rest.length) d y := by
  obtain ⟨d, hd⟩ := exists_toDb hs hr
  refine ⟨d, ?_⟩
  have hlast : Is c.last.db (z c.rest.length) := hpoints.is_level le_rfl
  have hfirst : Is c.first.db (z 0) := hpoints.is_level (Nat.zero_le _)
  have hfirst_le := hpoints.places.monotone (Nat.zero_le c.rest.length)
  unfold blerAt
  rw [if_neg (by simp [hasSignal hs hr])]
  simp only [hpoints.axis, le_iff hlast hd, lt_iff hd hfirst, beq_iff hd hlast]
  split
  · rename_i hend
    split
    · rename_i heq
      refine ⟨b c.rest.length, hd, hb.is _, ?_⟩
      have hheight := Height.between (x := z) (b := b) c.rest.length hend
        (heq ▸ hpoints.places (Nat.lt_succ_self _)) heq.le
      rw [heq, chord_left] at hheight
      rwa [heq]
    · rename_i hne
      exact ⟨0, hd, is_zero, .beyond (hfirst_le.trans hend) (lt_of_le_of_ne hend (Ne.symm hne))⟩
  · rename_i hend
    split
    · rename_i hbefore
      exact ⟨1, hd, is_one, .before hbefore⟩
    · rename_i hlow
      obtain ⟨i, hi, hfrom, hto, hsegment⟩ := hpoints.exists_segment hd (not_lt.1 hlow) (not_le.1 hend)
      rw [hsegment]
      refine ⟨chord z b i d, hd, ?_, .between i hfrom hto (not_le.1 hend).le⟩
      exact is_line (hpoints.is_level hi.le) (hb.is i) (hpoints.is_level hi) (hb.is (i + 1)) hd
        (hpoints.places i.lt_succ_self).ne'

/-! ## Curves of the tables -/

theorem GridRow.onGrid {row : GridRow} (hrow : row.Sound) {first : Knot α} {rest : List (Knot α)}
    (hknots : row.knots = first :: rest) :
    Curve.OnGrid ⟨.grid row.minDb.toScalar row.maxDb.toScalar row.stepDb.toScalar, first, rest⟩ row.minDb.toScalar
      row.maxDb.toScalar row.stepDb.toScalar row.minDb.toRat row.maxDb.toRat row.stepDb.toRat where
  axis := rfl
  is_lo := row.minDb.is_toScalar
  is_hi := row.maxDb.is_toScalar
  is_step := row.stepDb.is_toScalar
  step_pos := mod_cast hrow.step_pos
  db {i} hi := by
    have hlt : i < (row.knots : List (Knot α)).length := by
      rw [hknots, List.length_cons]
      exact Nat.lt_succ_of_le hi
    rw [← row.knots_db hlt]
    simp only [Curve.knotAt, Curve.knots, min_eq_left hi, List.get_eq_getElem, hknots]

theorem PointRow.onPoints {row : PointRow} (hrow : PointRow.Sound row) {first : Knot α} {rest : List (Knot α)}
    (hknots : PointRow.knots row = first :: rest) : ∃ z, Curve.OnPoints ⟨.points, first, rest⟩ z := by
  have hlength : row.length = rest.length + 1 := by
    rw [← PointRow.knots_length (α := α), hknots, List.length_cons]
  have hlt (i : ℕ) : min i rest.length < row.length := by omega
  refine ⟨fun i => (row.get ⟨min i rest.length, hlt i⟩).1.toRat + (i - rest.length : ℕ), rfl, ?_, ?_⟩
  · intro i hi
    have hi' : i < row.length := hlength ▸ Nat.lt_succ_of_le hi
    have hdb := row.knots_db (row.knots_length (α := α) ▸ hi') hi'
    simp only [hknots] at hdb
    simp only [Curve.knotAt, Curve.knots, min_eq_left hi, List.get_eq_getElem, hdb, Nat.sub_eq_zero_of_le hi,
      Nat.cast_zero, add_zero]
    exact row[i].1.is_toScalar
  · refine strictMono_nat_of_lt_succ fun i => ?_
    rcases Nat.lt_or_ge i rest.length with hi | hi
    · have hrise := List.isChain_iff_getElem.1 hrow.rising i (by omega)
      simp only [min_eq_left hi.le, min_eq_left (Nat.succ_le_of_lt hi), Nat.sub_eq_zero_of_le hi.le,
        Nat.sub_eq_zero_of_le (Nat.succ_le_of_lt hi), List.get_eq_getElem, Nat.cast_zero, add_zero]
      exact mod_cast hrise
    · simp only [min_eq_right hi, min_eq_right (hi.trans i.le_succ), Nat.succ_sub hi, Nat.cast_succ]
      linarith

theorem Tabulated.onGrid_or_onPoints (h : Tabulated c) :
    (∃ lo hi step l h w, c.OnGrid lo hi step l h w) ∨ ∃ z, c.OnPoints z := by
  cases h with
  | grid hrow hknots => exact .inl ⟨_, _, _, _, _, _, GridRow.onGrid (sound_of_mem_gridRows _ hrow) hknots⟩
  | points hrow hknots => exact .inr (PointRow.onPoints (sound_of_mem_pointRows _ hrow) hknots)

end Sidelink.BlockError
