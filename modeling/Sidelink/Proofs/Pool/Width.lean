import Sidelink.Proofs.Pool.Accepted

/-!
# The width of a pool

The PRBs of a data channel and the ends of its sub-channels are 16-bit words.
-/

namespace Sidelink

theorem Record.of_get {β : Type} {r : Record} {f : Field β} {x : β} (h : r.get f = .ok x) : ∃ v, f.read v = .ok x := by
  unfold get at h
  split at h
  · exact ⟨_, h⟩
  · cases h

theorem Value.asWord_lt {bits n : Nat} {v : Value} (h : v.asWord bits = .ok n) : n < 1 <<< bits := by
  unfold asWord asIntIn at h
  split at h
  · split at h
    · cases h
      omega
    · cases h
  · cases h

/-- The RBs of a scheduled data channel are a 16-bit word. -/
def DataPool.Worded : DataPool → Prop
  | .scheduled bandwidthRbs _ => bandwidthRbs < limit16
  | .ueSelected .. => True

theorem DataPool.worded_of_scheduledOfValue {v : Value} {data : DataPool} (h : scheduledOfValue v = .ok data) :
    data.Worded := by
  obtain ⟨r, -, h⟩ := ok_of_bind h
  obtain ⟨rbs, hrbs, h⟩ := ok_of_bind h
  obtain ⟨mcs, -, h⟩ := ok_of_bind h
  cases h
  obtain ⟨v, hv⟩ := Record.of_get hrbs
  exact Value.asWord_lt hv

theorem DataPool.worded_of_ueSelectedOfValue {v : Value} {data : DataPool} (h : ueSelectedOfValue v = .ok data) :
    data.Worded := by
  obtain ⟨r, -, h⟩ := ok_of_bind h
  obtain ⟨area, -, h⟩ := ok_of_bind h
  obtain ⟨patterns, -, h⟩ := ok_of_bind h
  obtain ⟨controlPower, -, h⟩ := ok_of_bind h
  obtain ⟨dataPower, -, h⟩ := ok_of_bind h
  cases h
  trivial

namespace PoolRecord

theorem data_of_sharedOfValue {data : DataPool} {v : Value} {record : PoolRecord}
    (h : sharedOfValue data v = .ok record) : record.data = data := by
  obtain ⟨r, -, h⟩ := ok_of_bind h
  obtain ⟨controlPrefix, -, h⟩ := ok_of_bind h
  obtain ⟨period, -, h⟩ := ok_of_bind h
  obtain ⟨control, -, h⟩ := ok_of_bind h
  obtain ⟨dataPrefix, -, h⟩ := ok_of_bind h
  obtain ⟨hopping, -, h⟩ := ok_of_bind h
  cases h
  rfl

theorem worded_of_ofValue {v : Value} {record : PoolRecord} (h : ofValue v = .ok record) : record.data.Worded := by
  unfold ofValue at h
  split at h
  · split at h
    · cases h
    · split at h
      · obtain ⟨data, hdata, h⟩ := ok_of_bind h
        rw [data_of_sharedOfValue h]
        exact DataPool.worded_of_scheduledOfValue hdata
      · obtain ⟨data, hdata, h⟩ := ok_of_bind h
        rw [data_of_sharedOfValue h]
        exact DataPool.worded_of_ueSelectedOfValue hdata
      · cases h
  · cases h

end PoolRecord

theorem TimeFrequency.length_lt_of_prbs {t : TimeFrequency} {prbs : List Nat} (h : t.prbs = .ok prbs) :
    prbs.length < limit16 := by
  obtain ⟨-, hlt, rfl⟩ := TimeFrequency.of_prbs h
  calc _ ≤ (List.range' t.prbStart (t.prbEnd - t.prbStart + 1)).length := List.length_filter_le ..
    _ = t.prbEnd - t.prbStart + 1 := List.length_range'
    _ < limit16 := hlt

namespace ResourcePool

variable {record : PoolRecord} {pool : ResourcePool}

theorem length_lt_of_dataArea {period : Nat} {controlOffsets : List Nat} {data : DataPool} {area : ChannelArea}
    (h : dataArea period controlOffsets data = .ok area) (hword : data.Worded) : area.rbs.length < limit16 := by
  cases data with
  | scheduled bandwidthRbs mcs =>
    cases h
    have hlt : bandwidthRbs < limit16 := hword
    simpa using hlt
  | ueSelected area patterns controlPower dataPower =>
    obtain ⟨_, -, h⟩ := ok_of_bind h
    obtain ⟨prbs, hprbs, h⟩ := ok_of_bind h
    cases h
    exact area.length_lt_of_prbs hprbs

theorem dataRbCount_lt (h : ofRecord record = .ok pool) (hword : record.data.Worded) : pool.dataRbCount < limit16 :=
  length_lt_of_dataArea (accepted_of_ofRecord h).dataArea hword

theorem subchannelCount_lt (pool : ResourcePool) (size : Nat) : pool.subchannelCount size < limit16 := by
  unfold subchannelCount
  split
  · decide
  · exact Nat.mod_lt _ (by decide)

theorem subchannels_le (pool : ResourcePool) (size : Nat) : pool.subchannelCount size * size ≤ pool.dataRbCount := by
  unfold subchannelCount
  split
  · simp
  · calc pool.dataRbCount / size % 65536 * size
        ≤ pool.dataRbCount / size * size := Nat.mul_le_mul_right size (Nat.mod_le ..)
      _ ≤ pool.dataRbCount := Nat.div_mul_le_self ..

end ResourcePool

end Sidelink
