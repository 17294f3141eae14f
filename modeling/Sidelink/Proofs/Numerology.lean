import Sidelink.Numerology
import Sidelink.Proofs.Fault
import Sidelink.Proofs.Scalar.Rational
import Sidelink.Proofs.Slot

/-!
# Slots and time

The slots of a numerology fill whole milliseconds. A decision that is taken one slot later applies one slot later.
-/

namespace Sidelink

namespace Numerology

theorem index_cases (n : Numerology) : n.index = 0 ∨ n.index = 1 ∨ n.index = 2 := by
  have := n.index_le
  omega

theorem slotsInMs_one (n : Numerology) : n.slotsInMs 1 = n.slotsPerMs := by
  rcases n.index_cases with h | h | h <;> simp [slotsInMs, slotsPerMs, limit32, h]

theorem slotsInMs_one_pos (n : Numerology) : 0 < n.slotsInMs 1 := by
  rcases n.index_cases with h | h | h <;> simp [slotsInMs_one, slotsPerMs, h]

theorem slotsInMs_one_le (n : Numerology) : n.slotsInMs 1 ≤ 4 := by
  rcases n.index_cases with h | h | h <;> simp [slotsInMs_one, slotsPerMs, h]

theorem slotsInMs_eq {n : Numerology} {ms : Nat} (h : ms * n.slotsInMs 1 < limit32) :
    n.slotsInMs ms = ms * n.slotsInMs 1 := by
  have hshift : ms <<< n.index = ms * n.slotsPerMs := by
    rw [slotsPerMs, Nat.shiftLeft_eq, Nat.one_shiftLeft]
  rw [slotsInMs_one] at h ⊢
  rw [slotsInMs, hshift]
  exact Nat.mod_eq_of_lt h

theorem slotUs_pos (n : Numerology) : 0 < n.slotUs := by
  rcases n.index_cases with h | h | h <;> simp [slotUs, slotsPerMs, h]

theorem slotUs_le (n : Numerology) : n.slotUs ≤ 1000 := Nat.div_le_self ..

theorem slotsInMs_mul_slotUs (n : Numerology) {ms : Nat} (h : ms ≤ 1000) : n.slotsInMs ms * n.slotUs = ms * 1000 := by
  have hone : n.slotsInMs 1 ≤ 4 ∧ n.slotsInMs 1 * n.slotUs = 1000 := by
    rw [slotsInMs_one]
    rcases n.index_cases with h | h | h <;> simp [slotUs, slotsPerMs, h]
  have hfits : ms * n.slotsInMs 1 < limit32 := by
    have := Nat.mul_le_mul h hone.1
    simp only [limit32]
    omega
  rw [slotsInMs_eq hfits, Nat.mul_assoc, hone.2]

theorem slotsInMs_pos (n : Numerology) {ms : Nat} (h : ms ≤ 1000) (hpos : 0 < ms) : 0 < n.slotsInMs ms := by
  apply Nat.pos_of_ne_zero
  intro hzero
  have := n.slotsInMs_mul_slotUs h
  rw [hzero] at this
  omega

/-- The slot that a decision applies to. -/
def slotAt (n : Numerology) (timeUs : Nat) : Slot := Slot.ofIndex (timeUs / n.slotUs + decisionDelaySlots - 1)

theorem slotAt_add (n : Numerology) (timeUs : Nat) : n.slotAt (timeUs + n.slotUs) = (n.slotAt timeUs).next := by
  unfold slotAt
  rw [Nat.add_div_right _ n.slotUs_pos]
  generalize timeUs / n.slotUs = slots
  ext
  simp only [Slot.next, Slot.index_ofIndex, Slot.index_later, decisionDelaySlots]
  omega

end Numerology

/-- The length of a slot comes out in whole microseconds, as it does in binary64 and in the rationals. -/
class Scalar.LawfulSlots (α : Type) [Scalar α] : Prop where
  slotUs (n : Numerology) : Scalar.toNat (Scalar.round ((n.slotMs : α) * 1000.0)) = n.slotUs

instance : Scalar.LawfulSlots ℚ where
  slotUs n := by
    rw [Numerology.slotMs, Numerology.slotUs, Numerology.slotsPerMs]
    rcases n.index_cases with h | h | h <;> rw [h] <;> decide +kernel

theorem Numerology.slotUs_of_slotMs {α : Type} [Scalar α] [Scalar.LawfulSlots α] (n : Numerology) :
    min (Scalar.toNat (Scalar.round ((n.slotMs : α) * 1000.0))) (limit64 - 1) = n.slotUs := by
  have := n.slotUs_le
  rw [Scalar.LawfulSlots.slotUs]
  simp only [limit64]
  omega

theorem Slot.of_ofTime {α : Type} [Scalar α] [Scalar.LawfulSlots α] {n : Numerology} {timeUs : Nat} {s : Slot}
    (h : Slot.ofTime (α := α) timeUs n.slotMs = .ok s) :
    s = n.slotAt timeUs ∧ timeUs + decisionDelaySlots * n.slotUs < limit64 := by
  unfold ofTime at h
  dsimp only at h
  rw [Numerology.slotUs_of_slotMs] at h
  split at h
  · cases h
  · obtain ⟨_, hdelay, h⟩ := ok_of_bind h
    obtain ⟨rfl, -⟩ := of_word64 hdelay
    obtain ⟨_, hshifted, h⟩ := ok_of_bind h
    obtain ⟨rfl, hlt⟩ := of_word64 hshifted
    obtain ⟨_, hslots, h⟩ := ok_of_bind h
    cases (Gives.quotient ..).of_ok hslots
    cases h
    refine ⟨?_, hlt⟩
    unfold Numerology.slotAt
    rw [Nat.add_mul_div_right _ _ n.slotUs_pos]

/-- The length of a slot is positive. -/
class Scalar.PositiveSlots (α : Type) [Scalar α] : Prop where
  slotMs_pos (n : Numerology) : (0.0 : α) < n.slotMs

instance : Scalar.PositiveSlots ℚ where
  slotMs_pos n := by
    rw [Numerology.slotMs, Numerology.slotsPerMs]
    rcases n.index_cases with h | h | h <;> rw [h] <;> decide +kernel

theorem Slot.ofTime_eq {α : Type} [Scalar α] [Scalar.LawfulSlots α] [Scalar.PositiveSlots α] (n : Numerology)
    (timeUs : Nat) : Slot.ofTime (α := α) timeUs n.slotMs =
      if timeUs + decisionDelaySlots * n.slotUs < limit64 then .ok (n.slotAt timeUs)
      else .error (OfFault.ofFault .overflow) := by
  have hdelay : decisionDelaySlots * n.slotUs < limit64 := by
    have := n.slotUs_le
    simp only [decisionDelaySlots, limit64]
    omega
  unfold ofTime
  dsimp only
  rw [n.slotUs_of_slotMs, if_neg (not_not_intro (Scalar.PositiveSlots.slotMs_pos n))]
  by_cases hfits : timeUs + decisionDelaySlots * n.slotUs < limit64
  · simp only [word64, quotient, if_pos hdelay, if_pos hfits, if_neg n.slotUs_pos.ne', bind, Except.bind, pure,
      Except.pure, Numerology.slotAt]
    rw [Nat.add_mul_div_right _ _ n.slotUs_pos]
  · simp only [word64, if_pos hdelay, if_neg hfits, bind, Except.bind]

end Sidelink
