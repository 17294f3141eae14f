import Mathlib.Data.List.Dedup
import Mathlib.Data.List.Sort
import Sidelink.Proofs.Pool.Accepted

/-!
# PRBs of data transmissions

A data transmission is asked for by its place among the PRBs of the pool, counted without gaps, and it is given as a
first PRB and a count. The two agree as long as it stays in one cluster. Where the clusters are apart and it reaches
from one into the other, it occupies PRBs between them, which are not of the pool.
-/

namespace Sidelink

/-! ## Clusters -/

namespace TimeFrequency

variable {t : TimeFrequency} {prbs : List Nat} {rb i n : Nat}

/-- The PRB lies in the cluster at the lower end of the range, or in the one at the upper end. -/
def HasRb (t : TimeFrequency) (rb : Nat) : Prop :=
  (t.prbStart ≤ rb ∧ rb < t.prbStart + t.prbNum) ∨ (t.prbEnd < rb + t.prbNum ∧ rb ≤ t.prbEnd)

instance (t : TimeFrequency) (rb : Nat) : Decidable (t.HasRb rb) := inferInstanceAs (Decidable (_ ∨ _))

/-- Between the two clusters lies a PRB of neither. -/
def HasGap (t : TimeFrequency) : Prop := t.prbStart + 2 * t.prbNum ≤ t.prbEnd

/-- `n` PRBs from the `i`-th one on begin below the gap and end above it. -/
def Crosses (t : TimeFrequency) (i n : Nat) : Prop := t.HasGap ∧ i < t.prbNum ∧ t.prbNum < i + n

instance (t : TimeFrequency) (i n : Nat) : Decidable (t.Crosses i n) :=
  inferInstanceAs (Decidable (t.prbStart + 2 * t.prbNum ≤ t.prbEnd ∧ _))

theorem mem_prbs_iff (h : t.prbs = .ok prbs) : rb ∈ prbs ↔ t.HasRb rb := by
  obtain ⟨hrange, -, rfl⟩ := of_prbs h
  simp only [HasRb, List.mem_filter, List.mem_range'_1, Bool.or_eq_true, decide_eq_true_eq]
  omega

/-- The area lists the PRBs of both clusters in ascending order, and those that are in both once. -/
theorem prbs_eq_dedup (h : t.prbs = .ok prbs) :
    prbs = ((List.range' t.prbStart t.prbNum ++
      List.range' (t.prbEnd + 1 - t.prbNum) t.prbNum).mergeSort (· ≤ ·)).dedup := by
  obtain ⟨hrange, -, -⟩ := of_prbs h
  refine (prbs_sorted h).eq_of_mem_iff ?_ fun rb => ?_
  · have hsorted : ((List.range' t.prbStart t.prbNum ++
        List.range' (t.prbEnd + 1 - t.prbNum) t.prbNum).mergeSort (· ≤ ·)).dedup.Pairwise (· ≤ ·) :=
      (List.pairwise_mergeSort' (· ≤ ·) _).sublist (List.dedup_sublist _)
    exact hsorted.imp₂ (fun _ _ hle hne => Nat.lt_of_le_of_ne hle hne) (List.nodup_dedup _)
  · rw [mem_prbs_iff h, HasRb, List.mem_dedup, List.mem_mergeSort, List.mem_append, List.mem_range'_1,
      List.mem_range'_1]
    omega

theorem prbs_of_hasGap (h : t.prbs = .ok prbs) (hgap : t.HasGap) :
    prbs = List.range' t.prbStart t.prbNum ++ List.range' (t.prbEnd + 1 - t.prbNum) t.prbNum := by
  unfold HasGap at hgap
  refine (prbs_sorted h).eq_of_mem_iff
    (List.pairwise_append.2 ⟨List.pairwise_lt_range', List.pairwise_lt_range', ?_⟩) ?_
  · intro low hlow high hhigh
    rw [List.mem_range'_1] at hlow hhigh
    omega
  · intro rb
    rw [mem_prbs_iff h, HasRb, List.mem_append, List.mem_range'_1, List.mem_range'_1]
    omega

theorem prbs_of_not_hasGap (h : t.prbs = .ok prbs) (hgap : ¬t.HasGap) :
    prbs = List.range' t.prbStart (t.prbEnd - t.prbStart + 1) := by
  obtain ⟨hrange, -, -⟩ := of_prbs h
  unfold HasGap at hgap
  refine (prbs_sorted h).eq_of_mem_iff List.pairwise_lt_range' fun rb => ?_
  rw [mem_prbs_iff h, HasRb, List.mem_range'_1]
  omega

/-- Below the gap places and PRBs count up from the start of the range, above it both count down from its end. -/
theorem getElem?_of_hasGap (h : t.prbs = .ok prbs) (hgap : t.HasGap) (hrb : prbs[i]? = some rb) :
    (i < t.prbNum ∧ rb = t.prbStart + i) ∨ (t.prbNum ≤ i ∧ rb + 2 * t.prbNum = t.prbEnd + 1 + i) := by
  obtain ⟨hrange, -, -⟩ := of_prbs h
  rw [prbs_of_hasGap h hgap] at hrb
  rcases Nat.lt_or_ge i t.prbNum with hlow | hhigh
  · rw [List.getElem?_append_left (by rwa [List.length_range']), List.getElem?_range' hlow] at hrb
    have := Option.some.inj hrb
    exact .inl ⟨hlow, by omega⟩
  · obtain ⟨hlength, -⟩ := List.getElem?_eq_some_iff.1 hrb
    rw [List.length_append, List.length_range', List.length_range'] at hlength
    rw [List.getElem?_append_right (by rwa [List.length_range']), List.length_range',
      List.getElem?_range' (by omega)] at hrb
    have := Option.some.inj hrb
    unfold HasGap at hgap
    exact .inr ⟨hhigh, by omega⟩

theorem all_hasRb_iff (h : t.prbs = .ok prbs) (hn : i + n ≤ prbs.length) (hrb : prbs[i]? = some rb) :
    (∀ x, rb ≤ x → x < rb + n → t.HasRb x) ↔ ¬t.Crosses i n := by
  by_cases hgap : t.HasGap
  · have hplace := getElem?_of_hasGap h hgap hrb
    have hlength := congrArg List.length (prbs_of_hasGap h hgap)
    rw [List.length_append, List.length_range', List.length_range'] at hlength
    unfold Crosses HasGap
    unfold HasGap at hgap
    constructor
    · -- the PRB next to the lower cluster is in the gap
      rintro hall ⟨-, hlow, hcross⟩
      have hnext := hall (t.prbStart + t.prbNum) (by omega) (by omega)
      unfold HasRb at hnext
      omega
    · intro hcross x hx hlt
      unfold HasRb
      omega
  · obtain ⟨hrange, -, -⟩ := of_prbs h
    obtain rfl := prbs_of_not_hasGap h hgap
    have hi := (List.getElem?_eq_some_iff.1 hrb).1
    rw [List.length_range'] at hn hi
    rw [List.getElem?_range' hi] at hrb
    have hplace := Option.some.inj hrb
    refine iff_of_true (fun x hx hlt => ?_) fun hcross => hgap hcross.1
    unfold HasGap at hgap
    unfold HasRb
    omega

end TimeFrequency

/-! ## Data channels -/

/-- The PRBs that a record gives to the data channel. -/
def DataPool.HasRb : DataPool → Nat → Prop
  | .scheduled bandwidthRbs _, rb => rb < bandwidthRbs
  | .ueSelected area .., rb => area.HasRb rb

def DataPool.Crosses : DataPool → Nat → Nat → Prop
  | .scheduled .., _, _ => False
  | .ueSelected area .., i, n => area.Crosses i n

namespace ResourcePool

variable {record : PoolRecord} {pool : ResourcePool} {rb : Nat}

namespace Accepted

theorem dataRbs_scheduled (h : Accepted record pool) {bandwidthRbs : Nat} {mcs : Option Nat}
    (hdata : record.data = .scheduled bandwidthRbs mcs) : pool.data.rbs = List.range bandwidthRbs := by
  have harea := h.dataArea
  rw [hdata] at harea
  exact congrArg ChannelArea.rbs (Except.ok.inj harea).symm

theorem dataRbs_ueSelected (h : Accepted record pool) {area : TimeFrequency} {patterns : PatternSubset}
    {controlPower dataPower : TxPower} (hdata : record.data = .ueSelected area patterns controlPower dataPower) :
    area.prbs = .ok pool.data.rbs := by
  have harea := h.dataArea
  rw [hdata] at harea
  obtain ⟨_, -, harea⟩ := ok_of_bind harea
  obtain ⟨prbs, hprbs, harea⟩ := ok_of_bind harea
  rw [hprbs, ← congrArg ChannelArea.rbs (Except.ok.inj harea)]

end Accepted

theorem mem_dataRbs_iff (h : ofRecord record = .ok pool) : rb ∈ pool.data.rbs ↔ record.data.HasRb rb := by
  have haccepted := accepted_of_ofRecord h
  cases hdata : record.data with
  | scheduled =>
    rw [haccepted.dataRbs_scheduled hdata, List.mem_range]
    exact Iff.rfl
  | ueSelected =>
    exact TimeFrequency.mem_prbs_iff (haccepted.dataRbs_ueSelected hdata)

theorem of_dataPlacements {first : Slot} {pattern rbStart rbCount : Nat} {ts : List Placement}
    (h : pool.dataPlacements first pattern rbStart rbCount = .ok ts) :
    rbStart + rbCount ≤ pool.data.rbs.length ∧
      ∀ t ∈ ts, pool.data.rbs[rbStart]? = some t.rbStart ∧ t.rbCount = rbCount := by
  unfold dataPlacements at h
  dsimp only at h
  split at h
  · cases h
  · rename_i hrange
    obtain ⟨rb, hrb, h⟩ := ok_of_bind h
    cases h
    refine ⟨Nat.not_lt.1 fun hlt => hrange (.inr hlt), fun t ht => ?_⟩
    obtain ⟨_, -, rfl⟩ := List.mem_map.1 ht
    exact ⟨of_entry hrb, rfl⟩

/-- A data transmission begins on a PRB of the pool and has as many as were asked for. It stays on PRBs of the pool
exactly if what was asked for does not reach across the gap of the clusters. -/
theorem data_stays_on_rbs_iff (h : ofRecord record = .ok pool) {first : Slot} {pattern rbStart rbCount : Nat}
    {ts : List Placement} (hts : pool.dataPlacements first pattern rbStart rbCount = .ok ts) :
    ∀ t ∈ ts, record.data.HasRb t.rbStart ∧ t.rbCount = rbCount ∧
      ((∀ rb, t.rbStart ≤ rb → rb < t.rbStart + t.rbCount → record.data.HasRb rb) ↔
        ¬record.data.Crosses rbStart rbCount) := by
  intro t ht
  have haccepted := accepted_of_ofRecord h
  obtain ⟨hrange, hall⟩ := of_dataPlacements hts
  obtain ⟨hstart, hcount⟩ := hall t ht
  refine ⟨(mem_dataRbs_iff h).1 (List.mem_of_getElem? hstart), hcount, ?_⟩
  rw [hcount]
  cases hdata : record.data with
  | scheduled bandwidthRbs =>
    rw [haccepted.dataRbs_scheduled hdata] at hstart hrange
    obtain ⟨hlt, hget⟩ := List.getElem?_eq_some_iff.1 hstart
    rw [List.getElem_range] at hget
    rw [List.length_range] at hrange
    refine iff_of_true (fun rb _ hrb => ?_) id
    have hin : rb < bandwidthRbs := by omega
    exact hin
  | ueSelected =>
    exact TimeFrequency.all_hasRb_iff (haccepted.dataRbs_ueSelected hdata) hrange hstart

theorem everySubframe_length : (List.replicate 40 true).length = 40 := rfl

/-- A pool with the PRBs 0, 1, 8 and 9. -/
def gapRecord : PoolRecord :=
  { narrowRecord with
    data := .ueSelected
      { prbNum := 2, prbStart := 0, prbEnd := 9, bitmap := ⟨.replicate 40 true, everySubframe_length⟩ } .all
      ⟨⟨10⟩, -40⟩ ⟨⟨10⟩, -40⟩ }

def gapPool : ResourcePool := { narrowPool with data := ⟨List.range' 1 39, [0, 1, 8, 9]⟩ }

theorem gapPool_ofRecord : ofRecord gapRecord = .ok gapPool := by rfl

theorem gapPool_dataPlacements : gapPool.dataPlacements (.ofIndex 0) 1 1 2 =
    .ok ([1, 9, 17, 25, 33].map fun o => ⟨.ofIndex o, 1, 2⟩) := by rfl

theorem data_stays_on_rbs_iff_gap : ¬(∀ rb, 1 ≤ rb → rb < 1 + 2 → gapRecord.data.HasRb rb) := by
  obtain ⟨-, -, hiff⟩ := data_stays_on_rbs_iff gapPool_ofRecord gapPool_dataPlacements ⟨.ofIndex 1, 1, 2⟩ (by decide)
  have hcrosses : gapRecord.data.Crosses 1 2 := by
    show TimeFrequency.Crosses _ 1 2
    decide
  exact fun hall => hiff.1 hall hcrosses

/-- A transmission of two PRBs that crosses the gap occupies one that is not of the pool. -/
theorem data_leaves_rbs : ¬∀ (record : PoolRecord) (pool : ResourcePool) (s : Slot) (pattern rbStart rbCount : Nat)
    (ts : List Placement), ofRecord record = .ok pool →
    pool.dataPlacements (pool.currentPeriod s) pattern rbStart rbCount = .ok ts →
    ∀ t ∈ ts, ∀ rb, t.rbStart ≤ rb → rb < t.rbStart + t.rbCount → record.data.HasRb rb := by
  intro h
  have hin := h gapRecord gapPool (.ofIndex 0) 1 1 2 _ gapPool_ofRecord gapPool_dataPlacements ⟨.ofIndex 1, 1, 2⟩
    (by decide) 2 (by decide) (by decide)
  have hout : ¬TimeFrequency.HasRb ⟨2, 0, 9, 0, ⟨.replicate 40 true, everySubframe_length⟩⟩ 2 := by decide
  exact hout hin

end ResourcePool

end Sidelink
