import Sidelink.Proofs.Pool.Boundary

/-!
# One period for every slot

The periods divide the ring among themselves. A period has the slots from its beginning on until its subframes are used
up or the ring is, and beginning and offset together give the slot back.
-/

namespace Sidelink.ResourcePool

variable {record : PoolRecord} {pool : ResourcePool} {s t : Slot}

/-- How many subframes the period of a slot has on the ring. -/
def subframesOnRing (p : ResourcePool) (s : Slot) : Nat :=
  min p.period (ringLength - (p.currentPeriod s).since p.origin)

namespace Accepted

theorem since_currentPeriod_self (h : Accepted record pool) (s : Slot) :
    s.since (pool.currentPeriod s) = pool.periodOffset s := by
  have hlt := h.periodOffset_lt s
  have hbounds := h.le_period
  have hsince := Slot.since_add (pool.currentPeriod s) (pool.periodOffset s)
  rwa [h.currentPeriod_add, Nat.mod_eq_of_lt (by omega)] at hsince

theorem currentPeriod_eq_iff (h : Accepted record pool) :
    pool.currentPeriod t = pool.currentPeriod s ↔ t.since (pool.currentPeriod s) < pool.subframesOnRing s := by
  unfold subframesOnRing
  constructor
  · intro heq
    have hlt := h.periodOffset_lt t
    have hle := h.periodOffset_le_since t
    have hturn : t.since pool.origin < ringLength := Slot.since_lt t pool.origin
    rw [← heq, h.since_currentPeriod_self, h.since_currentPeriod]
    omega
  · intro hlt
    have hin : pool.currentPeriod (pool.currentPeriod s + t.since (pool.currentPeriod s)) = pool.currentPeriod s :=
      h.currentPeriod_of_lt (by omega) (by omega)
    rwa [Slot.add_since] at hin

theorem periodOffset_currentPeriod (h : Accepted record pool) (s : Slot) :
    pool.periodOffset (pool.currentPeriod s) = 0 := by
  have hbounds := h.le_period
  have hturn : (pool.currentPeriod s).since pool.origin < ringLength := Slot.since_lt ..
  have hzero := h.periodOffset_of_lt (s := s) (o := 0) (by omega) hturn
  rwa [Slot.add_zero] at hzero

end Accepted

/-- A slot is the offset-th one of its period, whose slots up to there all belong to it. -/
theorem slot_in_one_period (h : ofRecord record = .ok pool) (s : Slot) :
    pool.periodOffset s < pool.period ∧
    pool.currentPeriod s + pool.periodOffset s = s ∧
    pool.periodOffset (pool.currentPeriod s) = 0 ∧
    ∀ t : Slot, t.since (pool.currentPeriod s) ≤ s.since (pool.currentPeriod s) →
      pool.currentPeriod t = pool.currentPeriod s := by
  have haccepted := accepted_of_ofRecord h
  refine ⟨haccepted.periodOffset_lt s, haccepted.currentPeriod_add s, haccepted.periodOffset_currentPeriod s, ?_⟩
  intro t ht
  have hself := haccepted.currentPeriod_eq_iff.1 (rfl : pool.currentPeriod s = pool.currentPeriod s)
  exact haccepted.currentPeriod_eq_iff.2 (Nat.lt_of_le_of_lt ht hself)

/-- A pool whose cut period begins before index 0 and ends behind it. -/
def wrappedRecord : PoolRecord := { cutRecord with control := { cutRecord.control with offset := 10 } }

def wrappedPool : ResourcePool := { cutPool with start := 10 }

theorem wrappedPool_ofRecord : ofRecord wrappedRecord = .ok wrappedPool := by rfl

theorem slot_in_one_period_wrapped :
    wrappedPool.currentPeriod (.ofIndex 5) = .ofIndex 10230 ∧ wrappedPool.periodOffset (.ofIndex 10230) = 0 ∧
      wrappedPool.currentPeriod (.ofIndex 10239) = .ofIndex 10230 := by
  have hfirst : wrappedPool.currentPeriod (.ofIndex 5) = .ofIndex 10230 := by decide
  obtain ⟨-, -, hzero, hall⟩ := slot_in_one_period wrappedPool_ofRecord (.ofIndex 5)
  rw [hfirst] at hzero hall
  exact ⟨hfirst, hzero, hall (.ofIndex 10239) (by decide)⟩

end Sidelink.ResourcePool
