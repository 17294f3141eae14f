import Sidelink.Proofs.Pool.Clusters
import Sidelink.Proofs.Pool.Width

/-!
# Areas up to the last PRB number

PRB numbers are 16-bit words, and so are the number of PRBs in a range and the ends of the two clusters. An area is
refused if its clusters do not fit its range. One that fits gets exactly the PRBs of its clusters, unless its range ends
on the last number there is. No word then holds the number after it.
-/

namespace Sidelink

namespace TimeFrequency

variable {t : TimeFrequency} {prbs : List Nat}

/-- The three PRB counts are 16-bit words, as they are in every record that is read. -/
structure Worded (t : TimeFrequency) : Prop where
  num : t.prbNum < limit16
  start : t.prbStart < limit16
  last : t.prbEnd < limit16

/-- The range is in order, and a cluster has PRBs and fits the range. -/
def Fits (t : TimeFrequency) : Prop :=
  t.prbNum ≠ 0 ∧ t.prbStart ≤ t.prbEnd ∧ t.prbNum ≤ t.prbEnd - t.prbStart + 1

instance (t : TimeFrequency) : Decidable t.Fits := inferInstanceAs (Decidable (_ ∧ _))

/-- The range ends on the last 16-bit word. -/
def AtLimit (t : TimeFrequency) : Prop := t.prbEnd + 1 = limit16

instance (t : TimeFrequency) : Decidable t.AtLimit := inferInstanceAs (Decidable (_ = _))

theorem Worded.last_succ_lt (h : t.Worded) (hlimit : ¬t.AtLimit) : t.prbEnd + 1 < limit16 := by
  have hlast := h.last
  unfold AtLimit at hlimit
  omega

/-- The PRBs of both clusters, each once and in increasing order. -/
structure HasClusters (t : TimeFrequency) (prbs : List Nat) : Prop where
  sorted : prbs.Pairwise (· < ·)
  mem_iff : ∀ rb, rb ∈ prbs ↔ t.HasRb rb
  length_eq : prbs.length = min (2 * t.prbNum) (t.prbEnd - t.prbStart + 1)

/-! ## One area -/

theorem length_prbs (h : t.prbs = .ok prbs) : prbs.length = min (2 * t.prbNum) (t.prbEnd - t.prbStart + 1) := by
  obtain ⟨hfits, -, -⟩ := of_prbs h
  by_cases hgap : t.HasGap
  · have hlength := congrArg List.length (prbs_of_hasGap h hgap)
    rw [List.length_append, List.length_range', List.length_range'] at hlength
    unfold HasGap at hgap
    omega
  · have hlength := congrArg List.length (prbs_of_not_hasGap h hgap)
    rw [List.length_range'] at hlength
    unfold HasGap at hgap
    omega

theorem hasClusters_of_prbs (h : t.prbs = .ok prbs) : t.HasClusters prbs where
  sorted := prbs_sorted h
  mem_iff _ := mem_prbs_iff h
  length_eq := length_prbs h

theorem prbs_of_not_fits (hword : t.Worded) (hfits : ¬t.Fits) :
    t.prbs = .error (.invalidPrbRange t.prbStart t.prbEnd t.prbNum) := by
  have hlast := hword.last
  unfold Fits at hfits
  unfold prbs
  dsimp only
  split
  · rfl
  · have hwidth : t.prbEnd - t.prbStart + 1 < limit16 := by
      have hnum := hword.num
      omega
    have hnum : t.prbEnd - t.prbStart + 1 < t.prbNum := by omega
    unfold word16
    rw [if_pos hwidth, ok_bind, if_pos hnum]
    rfl

theorem prbs_of_fits (hfits : t.Fits) (hbelow : t.prbEnd + 1 < limit16) : ∃ prbs, t.prbs = .ok prbs := by
  obtain ⟨hnum, hrange, hcount⟩ := hfits
  have hvalid : ¬(t.prbNum = 0 ∨ t.prbEnd < t.prbStart) := by omega
  have hwidth : t.prbEnd - t.prbStart + 1 < limit16 := by omega
  have hlow : t.prbStart + t.prbNum < limit16 := by omega
  unfold prbs word16
  dsimp only
  rw [if_neg hvalid, if_pos hwidth, ok_bind, if_neg (Nat.not_lt.2 hcount), if_pos hlow, ok_bind, if_pos hbelow]
  exact ⟨_, rfl⟩

theorem prbs_of_atLimit (hfits : t.Fits) (hlimit : t.AtLimit) : t.prbs = .error (.fault .overflow) := by
  obtain ⟨hnum, hrange, hcount⟩ := hfits
  have hvalid : ¬(t.prbNum = 0 ∨ t.prbEnd < t.prbStart) := by omega
  have hhigh : ¬t.prbEnd + 1 < limit16 := Nat.not_lt.2 (Nat.le_of_eq hlimit.symm)
  unfold prbs word16
  dsimp only
  rw [if_neg hvalid]
  split
  · rw [ok_bind, if_neg (Nat.not_lt.2 hcount)]
    split
    · rfl
    · rfl
  · rfl

theorem of_prbs_fault (hword : t.Worded) {f : Fault} (h : t.prbs = .error (.fault f)) :
    f = .overflow ∧ t.Fits ∧ t.AtLimit := by
  by_cases hfits : t.Fits
  · by_cases hlimit : t.AtLimit
    · rw [prbs_of_atLimit hfits hlimit] at h
      cases h
      exact ⟨rfl, hfits, hlimit⟩
    · obtain ⟨prbs, hprbs⟩ := prbs_of_fits hfits (hword.last_succ_lt hlimit)
      rw [hprbs] at h
      cases h
  · rw [prbs_of_not_fits hword hfits] at h
    cases h

theorem worded_of_ofValue {v : Value} (h : ofValue v = .ok t) : t.Worded := by
  obtain ⟨r, -, h⟩ := ok_of_bind h
  obtain ⟨num, hnum, h⟩ := ok_of_bind h
  obtain ⟨start, hstart, h⟩ := ok_of_bind h
  obtain ⟨last, hlast, h⟩ := ok_of_bind h
  obtain ⟨offset, -, h⟩ := ok_of_bind h
  obtain ⟨bitmap, -, h⟩ := ok_of_bind h
  cases h
  obtain ⟨_, hnum⟩ := Record.of_get hnum
  obtain ⟨_, hstart⟩ := Record.of_get hstart
  obtain ⟨_, hlast⟩ := Record.of_get hlast
  exact ⟨Value.asWord_lt hnum, Value.asWord_lt hstart, Value.asWord_lt hlast⟩

end TimeFrequency

/-! ## The areas of a record -/

def DataPool.areas : DataPool → List TimeFrequency
  | .scheduled .. => []
  | .ueSelected area .. => [area]

/-- The areas whose PRBs a pool is built from. -/
def PoolRecord.areas (r : PoolRecord) : List TimeFrequency := r.control :: r.data.areas

theorem DataPool.areas_worded_of_scheduledOfValue {v : Value} {data : DataPool} (h : scheduledOfValue v = .ok data) :
    ∀ area ∈ data.areas, area.Worded := by
  obtain ⟨r, -, h⟩ := ok_of_bind h
  obtain ⟨bandwidthRbs, -, h⟩ := ok_of_bind h
  obtain ⟨mcs, -, h⟩ := ok_of_bind h
  cases h
  simp [areas]

theorem DataPool.areas_worded_of_ueSelectedOfValue {v : Value} {data : DataPool}
    (h : ueSelectedOfValue v = .ok data) : ∀ area ∈ data.areas, area.Worded := by
  obtain ⟨r, -, h⟩ := ok_of_bind h
  obtain ⟨area, harea, h⟩ := ok_of_bind h
  obtain ⟨patterns, -, h⟩ := ok_of_bind h
  obtain ⟨controlPower, -, h⟩ := ok_of_bind h
  obtain ⟨dataPower, -, h⟩ := ok_of_bind h
  cases h
  obtain ⟨_, harea⟩ := Record.of_get harea
  simpa [areas] using TimeFrequency.worded_of_ofValue harea

namespace PoolRecord

variable {v : Value} {record : PoolRecord}

theorem control_of_sharedOfValue {data : DataPool} (h : sharedOfValue data v = .ok record) :
    ∃ v', TimeFrequency.ofValue v' = .ok record.control := by
  obtain ⟨r, -, h⟩ := ok_of_bind h
  obtain ⟨controlPrefix, -, h⟩ := ok_of_bind h
  obtain ⟨period, -, h⟩ := ok_of_bind h
  obtain ⟨control, hcontrol, h⟩ := ok_of_bind h
  obtain ⟨dataPrefix, -, h⟩ := ok_of_bind h
  obtain ⟨hopping, -, h⟩ := ok_of_bind h
  cases h
  exact Record.of_get hcontrol

theorem areas_worded_of_sharedOfValue {data : DataPool} (h : sharedOfValue data v = .ok record)
    (hdata : ∀ area ∈ data.areas, area.Worded) : ∀ area ∈ record.areas, area.Worded := by
  intro area harea
  unfold areas at harea
  rw [data_of_sharedOfValue h] at harea
  rcases List.mem_cons.1 harea with rfl | harea
  · obtain ⟨v', hcontrol⟩ := control_of_sharedOfValue h
    exact TimeFrequency.worded_of_ofValue hcontrol
  · exact hdata area harea

theorem areas_worded_of_ofValue (h : ofValue v = .ok record) : ∀ area ∈ record.areas, area.Worded := by
  unfold ofValue at h
  split at h
  · split at h
    · cases h
    · split at h
      · obtain ⟨data, hdata, h⟩ := ok_of_bind h
        exact areas_worded_of_sharedOfValue h (DataPool.areas_worded_of_scheduledOfValue hdata)
      · obtain ⟨data, hdata, h⟩ := ok_of_bind h
        exact areas_worded_of_sharedOfValue h (DataPool.areas_worded_of_ueSelectedOfValue hdata)
      · cases h
  · cases h

end PoolRecord

/-! ## Pools -/

namespace ResourcePool

variable {record : PoolRecord} {f : Fault}

theorem of_dataArea_fault {period : Nat} {controlOffsets : List Nat} {data : DataPool}
    (h : dataArea period controlOffsets data = .error (.fault f)) :
    ∃ area ∈ data.areas, area.prbs = .error (.fault f) := by
  cases data with
  | scheduled => cases h
  | ueSelected area =>
    refine ⟨area, List.mem_singleton.2 rfl, ?_⟩
    rcases error_of_bind h with hpowers | ⟨_, -, h⟩
    · simp only [List.forIn_cons, List.forIn_nil] at hpowers
      split at hpowers
      · cases hpowers
      · rw [pure_bind] at hpowers
        dsimp only at hpowers
        split at hpowers
        · cases hpowers
        · cases hpowers
    · rcases error_of_bind h with hprbs | ⟨prbs, -, h⟩
      · exact hprbs
      · cases h

theorem of_ofRecord_fault (h : ofRecord record = .error (.fault f)) :
    ∃ area ∈ record.areas, area.prbs = .error (.fault f) := by
  unfold ofRecord at h
  dsimp only at h
  split at h
  · cases h
  · rcases error_of_bind h with hcontrol | ⟨controlRbs, -, h⟩
    · exact ⟨record.control, List.mem_cons_self, hcontrol⟩
    · split at h
      · cases h
      · rcases error_of_bind h with hdata | ⟨data, -, h⟩
        · obtain ⟨area, hmem, harea⟩ := of_dataArea_fault hdata
          exact ⟨area, List.mem_cons_of_mem _ hmem, harea⟩
        · split at h
          · cases h
          · cases h

/-- Building the PRBs of an area fails exactly if its clusters do not fit their range, and otherwise gives exactly the
PRBs of the clusters, if the range ends before the last word. A range that ends on it overflows. A record that was read
gives a pool or a rule that it breaks, unless it has such an area. -/
theorem clusters_exact_below_limit {t : TimeFrequency} (hword : t.Worded) :
    (t.prbs = .error (.invalidPrbRange t.prbStart t.prbEnd t.prbNum) ↔ ¬t.Fits) ∧
    (t.Fits → ¬t.AtLimit → ∃ prbs, t.prbs = .ok prbs ∧ t.HasClusters prbs) ∧
    (t.Fits → t.AtLimit → t.prbs = .error (.fault .overflow)) ∧
    ∀ (v : Value) (record : PoolRecord) (f : Fault), PoolRecord.ofValue v = .ok record →
      ofRecord record = .error (.fault f) → f = .overflow ∧ ∃ area ∈ record.areas, area.Fits ∧ area.AtLimit := by
  refine ⟨⟨?_, ?_⟩, ?_, ?_, ?_⟩
  · intro h hfits
    by_cases hlimit : t.AtLimit
    · rw [TimeFrequency.prbs_of_atLimit hfits hlimit] at h
      cases h
    · obtain ⟨prbs, hprbs⟩ := TimeFrequency.prbs_of_fits hfits (hword.last_succ_lt hlimit)
      rw [hprbs] at h
      cases h
  · intro hfits
    exact TimeFrequency.prbs_of_not_fits hword hfits
  · intro hfits hlimit
    obtain ⟨prbs, hprbs⟩ := TimeFrequency.prbs_of_fits hfits (hword.last_succ_lt hlimit)
    exact ⟨prbs, hprbs, TimeFrequency.hasClusters_of_prbs hprbs⟩
  · intro hfits hlimit
    exact TimeFrequency.prbs_of_atLimit hfits hlimit
  · intro v record f hread hfault
    obtain ⟨area, hmem, harea⟩ := of_ofRecord_fault hfault
    obtain ⟨hf, hfits, hlimit⟩ := TimeFrequency.of_prbs_fault (PoolRecord.areas_worded_of_ofValue hread area hmem) harea
    exact ⟨hf, area, hmem, hfits, hlimit⟩

/-! ## A record up to the last word -/

def areaValue (first last count : Int) (bitmap : String) : Value :=
  .object [("prb_num", .int count), ("prb_start", .int first), ("prb_end", .int last), ("subframe_bitmap", .str bitmap)]

def powerValue : Value := .object [("alpha", .str "al1"), ("p0", .int (-40))]

/-- Twenty PRBs of data, which end on the last 16-bit word. -/
def limitValue : Value :=
  .object [("type", .str "ue_selected"), ("sc_cp_len", .str "normal"), ("sc_period", .str "sf40"),
    ("sc_tf_resource_config", areaValue 0 1 1 "1000000000000000000000000000000000000000"),
    ("data_cp_len", .str "normal"),
    ("data_tf_resource_config", areaValue 65516 65535 10 "1111111111111111111111111111111111111111"),
    ("sc_tx_parameters", powerValue), ("data_tx_parameters", powerValue)]

def limitArea : TimeFrequency where
  prbNum := 10
  prbStart := 65516
  prbEnd := 65535
  bitmap := ⟨.replicate 40 true, everySubframe_length⟩

def limitRecord : PoolRecord :=
  { narrowRecord with data := .ueSelected limitArea .all ⟨⟨10⟩, -40⟩ ⟨⟨10⟩, -40⟩ }

theorem areaValue_isWhole (first last count : Int) (bitmap : String) :
    (areaValue first last count bitmap).isWhole = true := by
  simp [areaValue, Value.isWhole, Value.all]

theorem powerValue_isWhole : powerValue.isWhole = true := by
  simp [powerValue, Value.isWhole, Value.all]

theorem str_isWhole (s : String) : (Value.str s).isWhole = true := by
  simp [Value.isWhole, Value.all]

theorem limitValue_data : DataPool.ueSelectedOfValue limitValue = .ok limitRecord.data := by
  unfold DataPool.ueSelectedOfValue limitValue
  simp only [Record.ofValue, Record.collect, areaValue_isWhole, powerValue_isWhole, str_isWhole]
  decide +kernel

theorem limitValue_shared : PoolRecord.sharedOfValue limitRecord.data limitValue = .ok limitRecord := by
  unfold PoolRecord.sharedOfValue limitValue
  simp only [Record.ofValue, Record.collect, areaValue_isWhole, powerValue_isWhole, str_isWhole]
  decide +kernel

theorem limitValue_readable : limitValue.readable = true := by
  simp [limitValue, areaValue, powerValue, Value.readable, Value.all]

theorem limitValue_read : PoolRecord.ofValue limitValue = .ok limitRecord := by
  have hkind : PoolRecord.ofValue limitValue =
      (DataPool.ueSelectedOfValue limitValue >>= fun data => PoolRecord.sharedOfValue data limitValue) := by
    have hreadable := limitValue_readable
    unfold limitValue at hreadable ⊢
    unfold PoolRecord.ofValue
    dsimp only
    rw [hreadable]
    rfl
  rw [hkind, limitValue_data, ok_bind, limitValue_shared]

theorem limitRecord_fault : ofRecord limitRecord = .error (.fault .overflow) := by decide +kernel

theorem limitArea_worded : limitArea.Worded := ⟨by decide, by decide, by decide⟩

theorem narrowControl_worded : narrowRecord.control.Worded := ⟨by decide, by decide, by decide⟩

theorem clusters_exact_below_limit_case : narrowRecord.control.Worded ∧ limitArea.Worded ∧
    (∃ prbs, narrowRecord.control.prbs = .ok prbs ∧ narrowRecord.control.HasClusters prbs) ∧
    limitArea.prbs = .error (.fault .overflow) ∧ ∃ area ∈ limitRecord.areas, area.Fits ∧ area.AtLimit := by
  refine ⟨narrowControl_worded, limitArea_worded, ?_, ?_, ?_⟩
  · exact (clusters_exact_below_limit narrowControl_worded).2.1 (by decide) (by decide)
  · exact (clusters_exact_below_limit limitArea_worded).2.2.1 (by decide) (by decide)
  · exact ((clusters_exact_below_limit limitArea_worded).2.2.2 limitValue limitRecord .overflow limitValue_read
      limitRecord_fault).2

/-- The PRBs of an area can overflow, and a record that was read can give neither a pool nor a rule that it breaks. -/
theorem clusters_overflow :
    (¬∀ t : TimeFrequency, t.Worded → ∀ f, t.prbs ≠ .error (.fault f)) ∧
      ¬∀ (v : Value) (record : PoolRecord), PoolRecord.ofValue v = .ok record →
        ∀ f, ofRecord record ≠ .error (.fault f) := by
  constructor
  · intro h
    have hfault : limitArea.prbs = .error (.fault .overflow) := by decide +kernel
    exact h limitArea limitArea_worded .overflow hfault
  · intro h
    exact h limitValue limitRecord limitValue_read .overflow limitRecord_fault

end ResourcePool

end Sidelink
