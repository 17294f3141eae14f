import Sidelink.Proofs.BlockError.Tables
import Sidelink.Proofs.Scalar.Exact

/-!
# Rates that never rise

In exact arithmetic the samples of a row become their running minimum. The knots of a curve therefore have rates in the
unit interval that do not rise from one knot to the next.
-/

namespace Sidelink

open Scalar Exact

theorem Decimal.is_toScalar {α : Type} [Scalar α] [Exact α] (d : Decimal) : Is (d.toScalar : α) d.toRat := by
  have h := is_decimal (α := α) d.mantissa.natAbs d.places
  unfold toScalar toRat
  dsimp only
  split
  · rename_i hneg
    have habs : (d.mantissa.natAbs : ℝ) = -d.mantissa := by
      rw [Nat.cast_natAbs, abs_of_neg hneg, Int.cast_neg]
    rw [habs] at h
    convert is_neg h using 1
    push_cast
    ring
  · rename_i hnonneg
    have habs : (d.mantissa.natAbs : ℝ) = d.mantissa := by
      rw [Nat.cast_natAbs, abs_of_nonneg (not_lt.1 hnonneg)]
    rw [habs] at h
    convert h using 1
    push_cast
    rfl

namespace BlockError

/-- The running minimum of numbers moved into the unit interval, below a ceiling. -/
noncomputable def runningMin : ℝ → List ℝ → List ℝ
  | _, [] => []
  | ceiling, r :: rest =>
    let low := min ceiling (max 0 (min r 1))
    low :: runningMin low rest

theorem runningMin_le {ceiling : ℝ} {rs : List ℝ} : ∀ b ∈ runningMin ceiling rs, b ≤ ceiling := by
  induction rs generalizing ceiling with
  | nil => nofun
  | cons r rest ih =>
    intro b hb
    rcases List.mem_cons.1 hb with rfl | hb
    · exact min_le_left ..
    · exact (ih b hb).trans (min_le_left ..)

theorem runningMin_nonneg {ceiling : ℝ} (hceiling : 0 ≤ ceiling) {rs : List ℝ} :
    ∀ b ∈ runningMin ceiling rs, 0 ≤ b := by
  induction rs generalizing ceiling with
  | nil => nofun
  | cons r rest ih =>
    have hlow : 0 ≤ min ceiling (max 0 (min r 1)) := le_min hceiling (le_max_left ..)
    intro b hb
    rcases List.mem_cons.1 hb with rfl | hb
    · exact hlow
    · exact ih hlow b hb

theorem runningMin_falling (ceiling : ℝ) (rs : List ℝ) : (runningMin ceiling rs).Pairwise (· ≥ ·) := by
  induction rs generalizing ceiling with
  | nil => exact .nil
  | cons r rest ih => exact .cons (fun b hb => runningMin_le b hb) (ih _)

variable {α : Type} [Scalar α] [Exact α]

theorem is_envelopeBelow {ceiling : α} {c : ℝ} (hceiling : Is ceiling c) {samples : List α} {rs : List ℝ}
    (h : List.Forall₂ Is samples rs) : List.Forall₂ Is (envelopeBelow ceiling samples) (runningMin c rs) := by
  induction h generalizing ceiling c with
  | nil => exact .nil
  | cons hb _ ih =>
    have hlow := is_smaller hceiling (is_clampUnit hb)
    exact .cons hlow (ih hlow)

theorem is_envelope {samples : List α} {rs : List ℝ} (h : List.Forall₂ Is samples rs) :
    List.Forall₂ Is (envelope samples) (runningMin 1 rs) :=
  is_envelopeBelow is_one h

/-! ## Knots -/

/-- The rates of the knots of a curve, the last one repeated for ever. -/
structure Curve.Heights (c : Curve α) (b : ℕ → ℝ) : Prop where
  is (i : ℕ) : Is (c.knotAt i).bler (b i)
  antitone : Antitone b
  nonneg (i : ℕ) : 0 ≤ b i
  le_one (i : ℕ) : b i ≤ 1

theorem Curve.exists_heights {c : Curve α} {samples : List Decimal}
    (h : c.knots.map Knot.bler = envelope (samples.map Decimal.toScalar)) : ∃ b, c.Heights b := by
  have hsamples : List.Forall₂ Is (samples.map Decimal.toScalar : List α) (samples.map fun d => (d.toRat : ℝ)) := by
    rw [List.forall₂_map_left_iff, List.forall₂_map_right_iff]
    exact List.forall₂_same.2 fun d _ => d.is_toScalar
  have hall := is_envelope hsamples
  rw [← h] at hall
  generalize hrates : runningMin 1 (samples.map fun d => (d.toRat : ℝ)) = rates at hall
  have hlength : rates.length = c.rest.length + 1 := by
    rw [← hall.length_eq, List.length_map, knots, List.length_cons]
  have hlt (i : ℕ) : min i c.rest.length < rates.length := by omega
  have hmem (i : ℕ) :
      rates.get ⟨min i c.rest.length, hlt i⟩ ∈ runningMin 1 (samples.map fun d => (d.toRat : ℝ)) := by
    rw [hrates]
    exact List.get_mem ..
  refine ⟨fun i => rates.get ⟨min i c.rest.length, hlt i⟩, fun i => ?_, fun i j hij => ?_, fun i => ?_, fun i => ?_⟩
  · have hi := hall.get (hall.length_eq ▸ hlt i) (hlt i)
    simpa [knotAt] using hi
  · have hfalling := runningMin_falling 1 (samples.map fun d => (d.toRat : ℝ))
    rw [hrates, List.pairwise_iff_getElem] at hfalling
    rcases (min_le_min_right c.rest.length hij).eq_or_lt with heq | hless
    · simp only [heq, Std.le_refl]
    · exact hfalling _ _ (hlt i) (hlt j) hless
  · exact runningMin_nonneg zero_le_one _ (hmem i)
  · exact runningMin_le _ (hmem i)

theorem Tabulated.exists_heights {c : Curve α} (h : Tabulated c) : ∃ b, c.Heights b := by
  cases h with
  | @grid row first rest hrow hknots =>
    have hbler := row.knots_bler (α := α)
    rw [hknots] at hbler
    exact Curve.exists_heights hbler
  | @points row first rest hrow hknots =>
    have hbler := row.knots_bler (α := α)
    rw [hknots] at hbler
    exact Curve.exists_heights hbler

end BlockError

end Sidelink
