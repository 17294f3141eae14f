import Sidelink.Proofs.Fault
import Sidelink.Proofs.Scalar.Nonnegative
import Sidelink.Proofs.Selection.Draw

/-!
# What candidates are ranked by

A level is the mean of the powers that were heard before a candidate. It is never a value that is no number as long as
every message was heard with a finite power.
-/

namespace Sidelink

variable {α : Type} [Analysis α]

/-! ## Levels -/

namespace History

/-- The power of each sub-channel at the occasions before a resource. -/
def powersBefore (h : History α) (r : Resource) (slotsPerMs : Nat) : List α :=
  r.subchannels.flatMap fun c => (lookback r.slot (100 * slotsPerMs)).map fun slot => h.powerAt slot c

/-- The level that a resource is ranked by, where counts need not fit words. -/
def level (h : History α) (slotsPerMs : Nat) (r : Resource) : α :=
  Scalar.sum (h.powersBefore r slotsPerMs) / 10.0 / Scalar.ofNat (max r.count 1)

theorem averageInterference_gives {ε : Type} [OfFault ε] (h : History α) (r : Resource) (slotsPerMs : Nat) :
    Gives (ε := ε) (h.averageInterference r slotsPerMs) (h.level slotsPerMs r)
      (1000 * slotsPerMs < limit32 ∧ r.start + r.count < limit16) := by
  have hlast : Gives (ε := ε) (word32 (10 * (100 * slotsPerMs)) >>= fun _ => .ok (h.level slotsPerMs r))
      (h.level slotsPerMs r) (1000 * slotsPerMs < limit32) := by
    refine ((Gives.word32 (10 * (100 * slotsPerMs))).bind (.pure (h.level slotsPerMs r) True)).mono ?_
    exact fun hfits => ⟨by omega, trivial⟩
  have hcovered : Gives (ε := ε)
      (if 0 < r.count then word32 (10 * (100 * slotsPerMs)) >>= fun _ => .ok (h.level slotsPerMs r)
        else .ok (h.level slotsPerMs r))
      (h.level slotsPerMs r) (1000 * slotsPerMs < limit32) := by
    split
    · exact hlast
    · exact .pure _ _
  unfold averageInterference
  refine ((Gives.word32 _).bind ((Gives.word16 _).bind hcovered)).mono ?_
  exact fun ⟨hslots, hend⟩ => ⟨by omega, hend, hslots⟩

/-- Every message was heard with a finite power. -/
def Finite (h : History α) : Prop := ∀ s ∈ h.sensed, Scalar.isFinite s.rsrpDbm = true

theorem Finite.prune {h : History α} (hfinite : h.Finite) (nowUs windowUs : Nat) : (h.prune nowUs windowUs).Finite :=
  fun s hs => hfinite s (List.mem_filter.1 hs).1

variable [Scalar.LawfulMeans α]

open Scalar LawfulMeans

theorem Finite.powerAt {h : History α} (hfinite : h.Finite) (slot : Slot) (subchannel : Nat) :
    Nonneg (h.powerAt slot subchannel) := by
  refine Nonneg.sum fun x hx => ?_
  obtain ⟨s, hs, rfl⟩ := List.mem_map.1 hx
  exact nonneg_dbmToMw (hfinite s (List.mem_filter.1 hs).1)

theorem Finite.level {h : History α} (hfinite : h.Finite) {r : Resource} (hcount : r.count < limit16)
    (slotsPerMs : Nat) : Nonneg (h.level slotsPerMs r) := by
  have hsum : Nonneg (Scalar.sum (h.powersBefore r slotsPerMs)) := by
    refine Nonneg.sum fun x hx => ?_
    obtain ⟨c, -, hx⟩ := List.mem_flatMap.1 hx
    obtain ⟨slot, -, rfl⟩ := List.mem_map.1 hx
    exact hfinite.powerAt slot c
  refine nonneg_div_ofNat (nonneg_div_ten hsum) (by omega) ?_
  simp only [limit16] at hcount ⊢
  omega

end History

/-! ## The best fifth -/

theorem bestCount_le {n : Nat} (h : 0 < n) : 0 < bestCount n ∧ bestCount n ≤ n := by
  unfold bestCount
  omega

end Sidelink
