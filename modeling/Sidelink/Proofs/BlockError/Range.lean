import Sidelink.Proofs.BlockError.Tables
import Sidelink.Proofs.Scalar.Extended

/-!
# Attempts are always evaluated

Whatever the levels of an attempt and of those before it are, no number among them, its error rate is a number in the
unit interval. The only refusals are those of a coding index and of a number of PRBs without a curve.
-/

namespace Sidelink.BlockError

open Scalar

/-! ## Segments -/

theorem Curve.segment?_isSome {α : Type} [Analysis α] {c : Curve α} (h : c.rest ≠ []) (db : α) :
    (c.segment? db).isSome := by
  unfold segment?
  dsimp only
  split
  · rfl
  · rw [List.getLast?_isSome, ← List.length_pos_iff, List.length_zip, knots, List.length_cons]
    have hpos := List.length_pos_iff.2 h
    omega

theorem Tabulated.rest_ne_nil {α : Type} [Scalar α] {c : Curve α} (h : Tabulated c) (hpoints : c.axis = .points) :
    c.rest ≠ [] := by
  cases h with
  | grid => cases hpoints
  | points hrow hknots =>
    have hlength := congrArg List.length hknots
    have htwo := (sound_of_mem_pointRows _ hrow).two_le_length
    rw [PointRow.knots_length, List.length_cons] at hlength
    exact List.length_pos_iff.1 (by dsimp only; omega)

/-! ## Rates -/

variable {α : Type} [Analysis α]

theorem evaluate_error (channel : Channel) (mcs : Nat) (sinr : α) (history : List α) (e : BlockErrorFailure) :
    evaluate channel mcs sinr history = .error e ↔
      (curve channel mcs history.length : Except _ (Curve α)) = .error e := by
  rw [evaluate]
  cases (curve channel mcs history.length : Except _ (Curve α)) with
  | error e' =>
    constructor
    · intro h
      cases h
      rfl
    · intro h
      cases h
      rfl
  | ok c => exact iff_of_false nofun nofun

variable [LawfulOrder α] [LawfulUnit α]

theorem inUnit_sanitize (b : α) : InUnit (sanitize b) := by
  unfold sanitize
  split
  · exact .one
  · rename_i h
    exact .clampUnit (by simpa using h)

theorem inUnit_combinedBler (c : Curve α) (before now : α) : InUnit (combinedBler c before now) := by
  unfold combinedBler
  dsimp only
  generalize (if before < now then now / before else before / now) = ratio
  split
  · exact inUnit_sanitize _
  · exact inUnit_sanitize _

theorem inUnit_evaluateOn (c : Curve α) (before : Option α) (now : α) : InUnit (evaluateOn c before now).bler := by
  unfold evaluateOn
  split
  · exact inUnit_sanitize _
  · split
    · exact inUnit_sanitize _
    · split
      · exact .one
      · exact inUnit_combinedBler ..

theorem inUnit_evaluate {channel : Channel} {mcs : Nat} {sinr : α} {history : List α} {evaluation : Evaluation α}
    (h : evaluate channel mcs sinr history = .ok evaluation) : InUnit evaluation.bler := by
  obtain ⟨c, -, h⟩ := ok_of_bind h
  cases h
  exact inUnit_evaluateOn ..

/-- An attempt is refused only if its coding index is too high or, after that, its number of PRBs has no curve. Any
other has a rate in the unit interval, found on a curve with a segment for every level that it joins in dB. -/
theorem evaluate_total (channel : Channel) (mcs : Nat) (sinr : α) (history : List α) :
    (∀ e, evaluate channel mcs sinr history = .error e ↔
      (channel.maxMcs < mcs ∧ e = .mcsOutOfRange channel mcs channel.maxMcs) ∨
      (mcs ≤ channel.maxMcs ∧ ∃ los prbs, channel = .cdlPssch los prbs ∧ fadedPrbs prbs = none ∧
        e = .unsupportedPrbCount prbs)) ∧
    (∀ evaluation, evaluate channel mcs sinr history = .ok evaluation → InUnit evaluation.bler) ∧
    ∀ c : Curve α, curve channel mcs history.length = .ok c → c.axis = .points → ∀ db, (c.segment? db).isSome := by
  refine ⟨fun e => ?_, fun evaluation h => inUnit_evaluate h, fun c h hpoints db => ?_⟩
  · rw [evaluate_error]
    exact curve_error_iff history.length e
  · exact Curve.segment?_isSome ((tabulated_of_curve h).rest_ne_nil hpoints) db

theorem evaluate_total_nan :
    ∃ evaluation : Evaluation Extended,
      evaluate (.cdlPscch true) 7 .nan [.finite 2, .infinite false] = .ok evaluation ∧ InUnit evaluation.bler := by
  obtain ⟨herror, hunit, -⟩ := evaluate_total (.cdlPscch true) 7 Extended.nan [.finite 2, .infinite false]
  cases h : evaluate (.cdlPscch true) 7 Extended.nan [.finite 2, .infinite false] with
  | error e =>
    rcases (herror e).1 h with ⟨hlt, -⟩ | ⟨-, los, prbs, hchannel, -⟩
    · exact absurd hlt (by decide)
    · cases hchannel
  | ok evaluation => exact ⟨evaluation, rfl, hunit evaluation h⟩

end Sidelink.BlockError
