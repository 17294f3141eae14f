import Sidelink.Proofs.Fault
import Sidelink.TransportBlock

/-!
# The size of an allocation

An allocation has at least one sub-channel, no more of them than the carrier, and a block for every bit of its packet.
-/

namespace Sidelink

/-- What an allocation promises to a packet of so many bytes on a carrier of so many RBs. -/
structure Allocation.Carries (a : Allocation) (bytes subchannelSize bandwidthRbs : Nat) : Prop where
  size_pos : 0 < subchannelSize
  subchannels_pos : 0 < a.subchannels
  subchannels_le : a.subchannels ≤ bandwidthRbs / subchannelSize
  bits : min (bytes * 8) (limit32 - 1) ≤ a.tbsBits

namespace Allocation.Carries

variable {a : Allocation} {bytes subchannelSize bandwidthRbs : Nat}

theorem tbsBytes_ge (h : a.Carries bytes subchannelSize bandwidthRbs) {size : Nat} (hsize : size ≤ bytes)
    (hsmall : size * 8 < limit32) : size ≤ a.tbsBytes := by
  have := h.bits
  unfold tbsBytes
  omega

end Allocation.Carries

namespace SlotLayout

theorem of_firstFitting {bits n tbs : Nat} {size : Nat → Except SizingError Nat} {ns : List Nat}
    (h : firstFitting bits size ns = .ok (some (n, tbs))) : n ∈ ns ∧ bits ≤ tbs := by
  induction ns with
  | nil => cases h
  | cons m rest ih =>
    obtain ⟨tbs', -, h⟩ := ok_of_bind h
    split at h
    · cases h
      simpa
    · have := ih h
      simp [this]

variable {α : Type} [Scalar α]

theorem allocate_carries {l : SlotLayout} {bytes mcs subchannelSize bandwidthRbs : Nat} {a : Allocation}
    (h : l.allocate (α := α) bytes mcs subchannelSize bandwidthRbs = .ok a) :
    a.Carries bytes subchannelSize bandwidthRbs := by
  unfold allocate at h
  obtain ⟨⟨order, rate⟩, -, h⟩ := ok_of_bind h
  dsimp only at h
  split at h
  · cases h
  · rename_i hsize
    obtain ⟨whole, hwhole, h⟩ := ok_of_bind h
    rcases whole with _ | ⟨subchannels, tbsBits⟩
    · cases h
    · obtain ⟨single, -, h⟩ := ok_of_bind h
      rcases single with _ | ⟨rbs, _⟩
      · cases h
      · obtain ⟨subchannelRbs, -, h⟩ := ok_of_bind h
        cases h
        obtain ⟨hmem, hbits⟩ := of_firstFitting hwhole
        rw [List.mem_range'_1] at hmem
        exact ⟨by omega, hmem.1, Nat.lt_one_add_iff.1 hmem.2, hbits⟩

end SlotLayout

end Sidelink
