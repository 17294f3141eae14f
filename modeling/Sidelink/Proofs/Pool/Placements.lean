import Sidelink.Proofs.Pool.Control
import Sidelink.Proofs.Pool.Subframes

/-!
# Transmissions in their period

The transmissions of a period lie in slots that carry their channel, as far as the period goes. The last period on the
ring may be cut. Its remaining transmissions come round to the beginning of the first period, whatever is there.
-/

namespace Sidelink.ResourcePool

variable {record : PoolRecord} {pool : ResourcePool} {first : Slot} {n : Nat} {t : Placement}

theorem offset_of_mem_pair (hn : n < pool.controlCount) (ht : t ∈ pool.pair first n) :
    ∃ o ∈ pool.control.offsets, t.slot = first + o := by
  obtain ⟨b, a, hplaced, rfl⟩ := mem_pair.1 ht
  exact ⟨_, mem_iff_getD.2 ⟨b, (hplaced.lt hn).1, rfl⟩, rfl⟩

theorem offset_of_mem_dataPlacements {pattern rbStart rbCount : Nat} {ts : List Placement}
    (h : pool.dataPlacements first pattern rbStart rbCount = .ok ts) (ht : t ∈ ts) :
    ∃ o ∈ pool.data.offsets, t.slot = first + o := by
  unfold dataPlacements at h
  dsimp only at h
  split at h
  · cases h
  · obtain ⟨rb, -, h⟩ := ok_of_bind h
    cases h
    obtain ⟨⟨o, j⟩, hchosen, rfl⟩ := List.mem_map.1 ht
    exact ⟨o, List.fst_mem_of_mem_zipIdx (List.mem_filter.1 hchosen).1, rfl⟩

namespace Accepted

theorem within_or_past (h : Accepted record pool) (s : Slot) {o : Nat} (ho : o < pool.period) :
    (pool.periodOffset (pool.currentPeriod s + o) = o ∧
      pool.currentPeriod (pool.currentPeriod s + o) = pool.currentPeriod s) ∨
    (¬pool.InsideRing s ∧ pool.currentPeriod (pool.currentPeriod s + o) = pool.origin) := by
  rcases Nat.lt_or_ge ((pool.currentPeriod s).since pool.origin + o) ringLength with hlt | hge
  · exact .inl ⟨h.periodOffset_of_lt ho hlt, h.currentPeriod_of_lt ho hlt⟩
  · refine .inr ⟨fun hring => ?_, h.currentPeriod_of_le ho hge⟩
    unfold InsideRing at hring
    omega

theorem control_within_or_past (h : Accepted record pool) (s : Slot) (hn : n < pool.controlCount)
    (ht : t ∈ pool.pair (pool.currentPeriod s) n) :
    (pool.isControlSlot t.slot = true ∧ pool.currentPeriod t.slot = pool.currentPeriod s) ∨
      (¬pool.InsideRing s ∧ pool.currentPeriod t.slot = pool.origin) := by
  obtain ⟨o, ho, hslot⟩ := offset_of_mem_pair hn ht
  rw [hslot, isControlSlot_iff]
  refine (h.within_or_past s (h.controlOffset_lt ho)).imp_left fun ⟨hoffset, hperiod⟩ => ⟨?_, hperiod⟩
  rwa [hoffset]

theorem data_within_or_past (h : Accepted record pool) (s : Slot) {pattern rbStart rbCount : Nat}
    {ts : List Placement} (hts : pool.dataPlacements (pool.currentPeriod s) pattern rbStart rbCount = .ok ts)
    (ht : t ∈ ts) :
    (pool.isDataSlot t.slot = true ∧ pool.currentPeriod t.slot = pool.currentPeriod s) ∨
      (¬pool.InsideRing s ∧ pool.currentPeriod t.slot = pool.origin) := by
  obtain ⟨o, ho, hslot⟩ := offset_of_mem_dataPlacements hts ht
  rw [hslot, h.isDataSlot_iff]
  refine (h.within_or_past s (h.dataOffset_lt ho)).imp_left fun ⟨hoffset, hperiod⟩ => ⟨?_, hperiod⟩
  rwa [hoffset]

end Accepted

/-- Every transmission that a pool lists for the period of `s` is in a slot of that period which carries its channel,
or else the end of the ring cuts the period and the transmission is in a slot of the first one. -/
theorem placements_in_pool (h : ofRecord record = .ok pool) (s : Slot) :
    (∀ n < pool.controlCount, ∃ ts, pool.controlPlacements (pool.currentPeriod s) n = .ok ts ∧ ∀ t ∈ ts,
      (pool.isControlSlot t.slot = true ∧ pool.currentPeriod t.slot = pool.currentPeriod s) ∨
        (¬pool.InsideRing s ∧ pool.currentPeriod t.slot = pool.origin)) ∧
    ∀ pattern rbStart rbCount ts,
      pool.dataPlacements (pool.currentPeriod s) pattern rbStart rbCount = .ok ts → ∀ t ∈ ts,
      (pool.isDataSlot t.slot = true ∧ pool.currentPeriod t.slot = pool.currentPeriod s) ∨
        (¬pool.InsideRing s ∧ pool.currentPeriod t.slot = pool.origin) := by
  have haccepted := accepted_of_ofRecord h
  exact ⟨fun n hn => ⟨_, controlPlacements_eq _ hn, fun t ht => haccepted.control_within_or_past s hn ht⟩,
    fun _ _ _ _ hts t ht => haccepted.data_within_or_past s hts ht⟩

theorem placements_in_pool_cutPool :
    (∃ ts, cutPool.controlPlacements (.ofIndex 70) 1 = .ok ts ∧ ∀ t ∈ ts, cutPool.isControlSlot t.slot = true) ∧
    ∃ ts, cutPool.dataPlacements (.ofIndex 70) 129 5 10 = .ok ts ∧ ∀ t ∈ ts, cutPool.isDataSlot t.slot = true := by
  obtain ⟨hcontrol, hdata⟩ := placements_in_pool cutPool_ofRecord (.ofIndex 100)
  have hring : cutPool.InsideRing (.ofIndex 100) := by decide
  obtain ⟨ts, hts, hin⟩ := hcontrol 1 (by decide)
  refine ⟨⟨ts, hts, fun t ht => ?_⟩, _, rfl, fun t ht => ?_⟩
  · exact ((hin t ht).resolve_right fun hcut => hcut.1 hring).1
  · exact ((hdata 129 5 10 _ rfl t ht).resolve_right fun hcut => hcut.1 hring).1

/-- In the cut period at the end of the ring a control transmission is put into a data slot of the first period, and a
data transmission into a control slot. -/
theorem placed_past_ring :
    ofRecord cutRecord = .ok cutPool ∧ cutPool.currentPeriod (.ofIndex 10239) = .ofIndex 10220 ∧
    (∃ ts, cutPool.controlPlacements (.ofIndex 10220) 0 = .ok ts ∧ ∃ t ∈ ts,
      cutPool.isControlSlot t.slot = false ∧ cutPool.isDataSlot t.slot = true) ∧
    ∃ ts, cutPool.dataPlacements (.ofIndex 10220) 64 0 1 = .ok ts ∧ ∃ t ∈ ts,
      cutPool.isDataSlot t.slot = false ∧ cutPool.isControlSlot t.slot = true := by
  refine ⟨cutPool_ofRecord, by decide, ⟨_, rfl, ⟨.ofIndex 0, 0, 1⟩, ?_, ?_⟩, _, rfl, ⟨.ofIndex 20, 0, 1⟩, ?_, ?_⟩
  all_goals decide +kernel

end Sidelink.ResourcePool
