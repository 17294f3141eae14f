import Sidelink.Proofs.Scalar.Decibel
import Sidelink.Proofs.Scalar.Exact

/-!
# Exact levels

Every finite level stands for a positive power.
-/

namespace Sidelink

namespace Scalar

class PositivePowers (α : Type) [Analysis α] extends Exact α where
  is_tenPow {x : α} {r : ℝ} : Is x r → ∃ s, 0 < s ∧ Is (Analysis.tenPow x) s

namespace Exact

variable {α : Type} [Scalar α] [Exact α] {x : α} {r : ℝ}

open Classical in
/-- The number that a scalar stands for, and zero for any other scalar. -/
noncomputable def value (x : α) : ℝ := if h : ∃ r, Is x r then h.choose else 0

theorem value_eq (h : Is x r) : value x = r := by
  have hexists : ∃ r, Is x r := ⟨r, h⟩
  rw [value, dif_pos hexists]
  exact eq_of_is hexists.choose_spec h

end Exact

theorem PositivePowers.is_dbmToMw {α : Type} [Analysis α] [PositivePowers α] {x : α} {r : ℝ} (h : Exact.Is x r) :
    ∃ s, 0 < s ∧ Exact.Is (dbmToMw x) s :=
  is_tenPow (Exact.is_div h (Exact.is_whole 10) (by norm_num))

end Scalar

open Scalar Extended in
instance : PositivePowers Extended where
  is_tenPow := by
    rintro _ _ ⟨p, rfl, rfl⟩
    exact ⟨(Rational.tenPow p : ℚ), mod_cast Rational.tenPow_pos p, Rational.tenPow p, rfl, rfl⟩

end Sidelink
