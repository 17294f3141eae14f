import Sidelink.Proofs.Pool.Periods

/-!
# Beginnings of periods

The next period begins where the one of a slot is over, and none begins before. Only the end of the ring interferes. The
period that it cuts is followed by the first one, but the slot that is given for its end still lies a whole period after
its beginning, some way into the first period.
-/

namespace Sidelink

/-- `t` comes after `s` and before `u` on the way around the ring. -/
def Slot.Between (s t u : Slot) : Prop := 0 < t.since s ∧ t.since s < u.since s

instance (s t u : Slot) : Decidable (Slot.Between s t u) := inferInstanceAs (Decidable (_ ∧ _))

namespace ResourcePool

namespace Accepted

variable {r : PoolRecord} {p : ResourcePool} {s : Slot}

theorem periodOffset_le_since (h : Accepted r p) (s : Slot) : p.periodOffset s ≤ s.since p.origin := by
  rw [h.periodOffset_eq]
  exact Nat.mod_le ..

theorem since_nextPeriod (h : Accepted r p) (s : Slot) : (p.nextPeriod s).since s = p.period - p.periodOffset s := by
  have hlt := h.periodOffset_lt s
  have hbounds := h.le_period
  have hnext : s + (p.period - p.periodOffset s) = p.nextPeriod s := by
    calc s + (p.period - p.periodOffset s)
        = p.currentPeriod s + p.periodOffset s + (p.period - p.periodOffset s) := by rw [h.currentPeriod_add]
      _ = p.currentPeriod s + p.period := by rw [Slot.add_add, Nat.add_sub_cancel' (Nat.le_of_lt hlt)]
  rw [← hnext, Slot.since_add, Nat.mod_eq_of_lt (by omega)]

theorem periodOffset_add_of_lt (h : Accepted r p) {n : Nat} (hperiod : p.periodOffset s + n < p.period)
    (hring : s.since p.origin + n < ringLength) : p.periodOffset (s + n) = p.periodOffset s + n := by
  have hle := h.periodOffset_le_since s
  have hslot : s + n = p.currentPeriod s + (p.periodOffset s + n) := by
    rw [← Slot.add_add, h.currentPeriod_add]
  rw [hslot, h.periodOffset_of_lt hperiod]
  rw [h.since_currentPeriod]
  omega

theorem periodOffset_ne_zero_of_between (h : Accepted r p) {t u : Slot}
    (hperiod : p.periodOffset s + u.since s ≤ p.period) (hring : s.since p.origin + u.since s ≤ ringLength)
    (ht : Slot.Between s t u) : p.periodOffset t ≠ 0 := by
  obtain ⟨hafter, hbefore⟩ := ht
  rw [← Slot.add_since t s, h.periodOffset_add_of_lt (by omega) (by omega)]
  omega

theorem periodOffset_nextPeriod (h : Accepted r p) (s : Slot) :
    p.periodOffset (p.nextPeriod s) = (p.currentPeriod s).since p.origin + p.period - ringLength := by
  have hbounds := h.le_period
  have hfirst := Slot.since_lt (p.currentPeriod s) p.origin
  rw [h.periodOffset_eq, nextPeriod]
  rcases Nat.lt_or_ge ((p.currentPeriod s).since p.origin + p.period) ringLength with hlt | hge
  · have hwhole : p.period ∣ (p.currentPeriod s).since p.origin := by
      rw [h.since_currentPeriod, h.periodOffset_eq]
      exact Nat.dvd_sub_mod _
    rw [Slot.since_add_of_lt hlt, Nat.add_mod_right, Nat.mod_eq_zero_of_dvd hwhole]
    omega
  · rw [Slot.since_add_of_le (by omega) hge, Nat.mod_eq_of_lt (by omega)]

theorem periodOffset_origin (h : Accepted r p) : p.periodOffset p.origin = 0 := by
  rw [h.periodOffset_eq, Slot.since_self, Nat.zero_mod]

theorem origin_since_of_cut (h : Accepted r p) (hcut : ¬p.InsideRing s) :
    p.origin.since s = ringLength - s.since p.origin ∧ p.periodOffset s + p.origin.since s < p.period := by
  have hle := h.periodOffset_le_since s
  have hbounds := h.le_period
  have hturn := Slot.since_lt s p.origin
  rw [InsideRing, h.since_currentPeriod] at hcut
  simp only [ringLength] at hcut ⊢
  have hne : p.origin ≠ s := by
    intro heq
    rw [← heq, Slot.since_self] at hcut
    omega
  have hback := Slot.since_eq_sub hne
  exact ⟨hback, by omega⟩

end Accepted

/-- The next period begins where it is put, and none begins between a slot and there, unless the end of the ring cuts
the period of the slot. Then the next one to begin is the first period, before that. -/
theorem next_period_begins {record : PoolRecord} {pool : ResourcePool} (h : ofRecord record = .ok pool) (s : Slot) :
    (pool.InsideRing s → pool.periodOffset (pool.nextPeriod s) = 0 ∧
      ∀ t, Slot.Between s t (pool.nextPeriod s) → pool.periodOffset t ≠ 0) ∧
    (¬pool.InsideRing s → pool.periodOffset (pool.nextPeriod s) ≠ 0 ∧ pool.periodOffset pool.origin = 0 ∧
      Slot.Between s pool.origin (pool.nextPeriod s) ∧
      ∀ t, Slot.Between s t pool.origin → pool.periodOffset t ≠ 0) := by
  have haccepted := accepted_of_ofRecord h
  have hoffset := haccepted.periodOffset_nextPeriod s
  have hnext := haccepted.since_nextPeriod s
  have hle := haccepted.periodOffset_le_since s
  have hlt := haccepted.periodOffset_lt s
  have hturn : s.since pool.origin < ringLength := Slot.since_lt s pool.origin
  rw [haccepted.since_currentPeriod] at hoffset
  constructor
  · intro hring
    rw [InsideRing, haccepted.since_currentPeriod] at hring
    refine ⟨by omega, fun t ht => ?_⟩
    exact haccepted.periodOffset_ne_zero_of_between (by omega) (by omega) ht
  · intro hcut
    obtain ⟨hback, hshort⟩ := haccepted.origin_since_of_cut hcut
    rw [InsideRing, haccepted.since_currentPeriod] at hcut
    refine ⟨by omega, haccepted.periodOffset_origin, ⟨by omega, by omega⟩, fun t ht => ?_⟩
    exact haccepted.periodOffset_ne_zero_of_between (by omega) (by omega) ht

theorem next_period_begins_cutPool :
    (cutPool.periodOffset (.ofIndex 140) = 0 ∧
      ∀ t, Slot.Between (.ofIndex 100) t (.ofIndex 140) → cutPool.periodOffset t ≠ 0) ∧
    cutPool.periodOffset (cutPool.nextPeriod (.ofIndex 10239)) ≠ 0 := by
  have hnext : cutPool.nextPeriod (.ofIndex 100) = .ofIndex 140 := by decide
  obtain ⟨hinside, -⟩ := next_period_begins cutPool_ofRecord (.ofIndex 100)
  obtain ⟨-, hcut⟩ := next_period_begins cutPool_ofRecord (.ofIndex 10239)
  rw [hnext] at hinside
  exact ⟨hinside (by decide), (hcut (by decide)).1⟩

/-- Behind the cut period no next one begins where it is put, and the first period begins before. -/
theorem next_period_past_ring : ¬∀ (record : PoolRecord) (pool : ResourcePool) (s : Slot),
    ofRecord record = .ok pool → pool.periodOffset (pool.nextPeriod s) = 0 ∧
      ∀ t, Slot.Between s t (pool.nextPeriod s) → pool.periodOffset t ≠ 0 := by
  intro h
  have hend := (h cutRecord cutPool (.ofIndex 10239) cutPool_ofRecord).1
  exact absurd hend (by decide)

end ResourcePool

end Sidelink
