import Sidelink.Proofs.Pool.Periods

/-!
# The subframes of a pool

A slot carries control or data as its offset in the period and the bitmaps of the record say, and never both.
-/

namespace Sidelink

@[simp] theorem SubframeBitmap.isSet_mod (b : SubframeBitmap) (o : Nat) : b.isSet (o % 40) = b.isSet o := by
  simp only [isSet, Nat.mod_mod]

namespace ResourcePool

variable {record : PoolRecord} {pool : ResourcePool}

namespace Accepted

theorem isControlSlot_iff_isSet (h : Accepted record pool) (s : Slot) :
    pool.isControlSlot s = true ↔
      pool.periodOffset s < 40 ∧ record.control.bitmap.isSet (pool.periodOffset s) = true := by
  rw [isControlSlot_iff, h.mem_controlOffsets]

theorem isDataSlot_scheduled (h : Accepted record pool) {bandwidthRbs : Nat} {mcs : Option Nat}
    (hdata : record.data = .scheduled bandwidthRbs mcs) (s : Slot) :
    pool.isDataSlot s = true ↔
      ∀ c < 40, record.control.bitmap.isSet c = true → c < pool.periodOffset s := by
  rw [h.isDataSlot_iff, h.mem_dataOffsets_scheduled hdata, and_iff_right (h.periodOffset_lt s)]
  simp only [h.mem_controlOffsets, and_imp]

theorem isDataSlot_ueSelected (h : Accepted record pool) {area : TimeFrequency} {patterns : PatternSubset}
    {controlPower dataPower : TxPower} (hdata : record.data = .ueSelected area patterns controlPower dataPower)
    (s : Slot) :
    pool.isDataSlot s = true ↔
      area.bitmap.isSet (pool.periodOffset s % 40) = true ∧ pool.isControlSlot s = false := by
  rw [h.isDataSlot_iff, h.mem_dataOffsets_ueSelected hdata, and_iff_right (h.periodOffset_lt s), ← isControlSlot_iff,
    Bool.not_eq_true, SubframeBitmap.isSet_mod]

theorem not_both (h : Accepted record pool) (s : Slot) :
    ¬(pool.isControlSlot s = true ∧ pool.isDataSlot s = true) := by
  rw [isControlSlot_iff, h.isDataSlot_iff]
  exact fun ⟨hcontrol, hdata⟩ => h.not_mem_dataOffsets hcontrol hdata

theorem exists_periodOffset (h : Accepted record pool) {s : Slot} (hring : pool.InsideRing s) {o : Nat}
    (ho : o < pool.period) : ∃ t, pool.currentPeriod t = pool.currentPeriod s ∧ pool.periodOffset t = o := by
  have hlt : (pool.currentPeriod s).since pool.origin + o < ringLength := Nat.lt_of_lt_of_le (by omega) hring
  exact ⟨pool.currentPeriod s + o, h.currentPeriod_of_lt ho hlt, h.periodOffset_of_lt ho hlt⟩

theorem exists_isControlSlot (h : Accepted record pool) {s : Slot} (hring : pool.InsideRing s) :
    ∃ t, pool.currentPeriod t = pool.currentPeriod s ∧ pool.isControlSlot t = true := by
  obtain ⟨o, ho⟩ := List.exists_mem_of_ne_nil _ h.controlOffsets_ne_nil
  obtain ⟨t, hperiod, rfl⟩ := h.exists_periodOffset hring (h.controlOffset_lt ho)
  exact ⟨t, hperiod, (isControlSlot_iff pool t).2 ho⟩

theorem exists_isDataSlot (h : Accepted record pool) {s : Slot} (hring : pool.InsideRing s) :
    ∃ t, pool.currentPeriod t = pool.currentPeriod s ∧ pool.isDataSlot t = true := by
  obtain ⟨o, ho⟩ := List.exists_mem_of_ne_nil _ h.dataOffsets_ne_nil
  obtain ⟨t, hperiod, rfl⟩ := h.exists_periodOffset hring (h.dataOffset_lt ho)
  exact ⟨t, hperiod, (h.isDataSlot_iff t).2 ho⟩

end Accepted

/-- The slots of each channel are those that the record names. Both channels have a slot in every period that the end
of the ring does not cut, and the binary search for data slots finds what a search through the whole list finds. -/
theorem slots_of_record (h : ofRecord record = .ok pool) (s : Slot) :
    (pool.isControlSlot s = true ↔
      pool.periodOffset s < 40 ∧ record.control.bitmap.isSet (pool.periodOffset s) = true) ∧
    (∀ area patterns controlPower dataPower, record.data = .ueSelected area patterns controlPower dataPower →
      (pool.isDataSlot s = true ↔
        area.bitmap.isSet (pool.periodOffset s % 40) = true ∧ pool.isControlSlot s = false)) ∧
    (∀ bandwidthRbs mcs, record.data = .scheduled bandwidthRbs mcs →
      (pool.isDataSlot s = true ↔
        ∀ c < 40, record.control.bitmap.isSet c = true → c < pool.periodOffset s)) ∧
    ¬(pool.isControlSlot s = true ∧ pool.isDataSlot s = true) ∧
    (pool.InsideRing s →
      (∃ t, pool.currentPeriod t = pool.currentPeriod s ∧ pool.isControlSlot t = true) ∧
      ∃ t, pool.currentPeriod t = pool.currentPeriod s ∧ pool.isDataSlot t = true) ∧
    pool.isDataSlot s = pool.data.offsets.contains (pool.periodOffset s) := by
  have haccepted := accepted_of_ofRecord h
  refine ⟨haccepted.isControlSlot_iff_isSet s, fun _ _ _ _ hdata => haccepted.isDataSlot_ueSelected hdata s,
    fun _ _ hdata => haccepted.isDataSlot_scheduled hdata s, haccepted.not_both s,
    fun hring => ⟨haccepted.exists_isControlSlot hring, haccepted.exists_isDataSlot hring⟩, ?_⟩
  rw [Bool.eq_iff_iff, haccepted.isDataSlot_iff, List.contains_iff_mem]

theorem slots_of_record_cutPool :
    cutPool.isControlSlot (.ofIndex 90) = true ∧ cutPool.isDataSlot (.ofIndex 92) = true ∧
      ∃ t, cutPool.currentPeriod t = .ofIndex 70 ∧ cutPool.isDataSlot t = true := by
  have hcontrol := (slots_of_record cutPool_ofRecord (.ofIndex 90)).1
  obtain ⟨-, hdata, -, -, hperiod, -⟩ := slots_of_record cutPool_ofRecord (.ofIndex 92)
  exact ⟨hcontrol.2 (by decide), (hdata _ _ _ _ rfl).2 (by decide), (hperiod (by decide)).2⟩

end ResourcePool

end Sidelink
