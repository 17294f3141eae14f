import Sidelink.Proofs.Pool.Accepted
import Sidelink.Proofs.Slot

/-!
# Periods on the ring

Periods are counted from the slot where the first one begins, once around the ring. The last one is cut short where the
length of a period does not divide the ring.
-/

namespace Sidelink

namespace ResourcePool

/-- Where the first period begins. -/
def origin (p : ResourcePool) : Slot := .ofIndex p.start

/-- The period of a slot ends before the ring does. -/
def InsideRing (p : ResourcePool) (s : Slot) : Prop := (p.currentPeriod s).since p.origin + p.period ≤ ringLength

instance (p : ResourcePool) (s : Slot) : Decidable (p.InsideRing s) := inferInstanceAs (Decidable (_ ≤ _))

/-- A pool whose last period on the ring has only 20 of its 70 subframes. The control subframes come after those. -/
def cutRecord : PoolRecord :=
  { narrowRecord with
    period := .sf70
    control := { prbNum := 2, prbStart := 0, prbEnd := 2,
                 bitmap := ⟨.replicate 20 false ++ [true, true] ++ .replicate 18 false, rfl⟩ } }

def cutPool : ResourcePool where
  kind := .ueSelected
  period := 70
  start := 0
  control := ⟨[20, 21], [0, 1, 2]⟩
  data := ⟨List.range 20 ++ List.range' 22 48, List.range 20⟩

theorem cutPool_ofRecord : ofRecord cutRecord = .ok cutPool := by rfl

namespace Accepted

variable {r : PoolRecord} {p : ResourcePool} {s : Slot} {o : Nat}

theorem periodOffset_eq (h : Accepted r p) (s : Slot) : p.periodOffset s = s.since p.origin % p.period := by
  rw [periodOffset, Slot.since, origin, Slot.index_ofIndex, Nat.mod_eq_of_lt h.start_lt]

theorem periodOffset_lt (h : Accepted r p) (s : Slot) : p.periodOffset s < p.period :=
  Nat.mod_lt _ (by have := h.le_period; omega)

theorem since_currentPeriod (h : Accepted r p) (s : Slot) :
    (p.currentPeriod s).since p.origin = s.since p.origin - p.periodOffset s := by
  have hle : p.periodOffset s ≤ s.since p.origin := by
    rw [h.periodOffset_eq]
    exact Nat.mod_le ..
  have := s.isLt
  have := p.origin.isLt
  rw [currentPeriod]
  simp only [Slot.since, Slot.index_ofIndex, ringLength] at hle ⊢
  omega

theorem currentPeriod_add (h : Accepted r p) (s : Slot) : p.currentPeriod s + p.periodOffset s = s := by
  have hlt := h.periodOffset_lt s
  have := h.le_period
  have := s.isLt
  ext
  simp only [currentPeriod, Slot.index_later, Slot.index_ofIndex, ringLength]
  omega

theorem periodOffset_of_lt (h : Accepted r p) (ho : o < p.period)
    (hring : (p.currentPeriod s).since p.origin + o < ringLength) : p.periodOffset (p.currentPeriod s + o) = o := by
  have hfirst : p.period ∣ (p.currentPeriod s).since p.origin := by
    rw [h.since_currentPeriod, h.periodOffset_eq]
    exact Nat.dvd_sub_mod _
  obtain ⟨k, hk⟩ := hfirst
  rw [h.periodOffset_eq, Slot.since_add_of_lt hring, hk, Nat.mul_add_mod, Nat.mod_eq_of_lt ho]

theorem currentPeriod_of_lt (h : Accepted r p) (ho : o < p.period)
    (hring : (p.currentPeriod s).since p.origin + o < ringLength) :
    p.currentPeriod (p.currentPeriod s + o) = p.currentPeriod s := by
  have hadd := h.currentPeriod_add (p.currentPeriod s + o)
  rwa [h.periodOffset_of_lt ho hring, Slot.add_left_inj] at hadd

theorem currentPeriod_of_le (h : Accepted r p) (ho : o < p.period)
    (hpast : ringLength ≤ (p.currentPeriod s).since p.origin + o) :
    p.currentPeriod (p.currentPeriod s + o) = p.origin := by
  have := h.le_period
  have hfirst := Slot.since_lt (p.currentPeriod s) p.origin
  have hsince := Slot.since_add_of_le (by omega) hpast
  have hlt : (p.currentPeriod s + o).since p.origin < p.period := by omega
  rw [← Slot.since_eq_zero, h.since_currentPeriod, h.periodOffset_eq, Nat.mod_eq_of_lt hlt, Nat.sub_self]

end Accepted

end ResourcePool

end Sidelink
