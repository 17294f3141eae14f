import Sidelink.Pool.Basic
import Sidelink.Proofs.Fault

/-!
# Accepted pools

An accepted pool has the subframes and the PRBs that its record names, each list increasing and none empty.
-/

namespace Sidelink

/-! ## Increasing lists -/

theorem split_at {xs upper : List Nat} {middle k : Nat} (hupper : xs.drop k = middle :: upper)
    (h : xs.Pairwise (· < ·)) :
    (∀ x, x ∈ xs ↔ x ∈ xs.take k ∨ x = middle ∨ x ∈ upper) ∧ (∀ x ∈ xs.take k, x < middle) ∧
      ∀ x ∈ upper, middle < x := by
  have hsplit : xs.take k ++ middle :: upper = xs := by rw [← hupper, List.take_append_drop]
  have hpairwise := hsplit ▸ h
  rw [List.pairwise_append, List.pairwise_cons] at hpairwise
  obtain ⟨-, ⟨habove, -⟩, hbelow⟩ := hpairwise
  refine ⟨fun x => ?_, fun x hx => hbelow x hx middle (by simp), habove⟩
  rw [← List.mem_cons, ← List.mem_append, hsplit]

theorem bisect_iff {x : Nat} {xs : List Nat} (h : xs.Pairwise (· < ·)) : bisect x xs = true ↔ x ∈ xs := by
  fun_induction bisect x xs with
  | case1 xs hupper =>
    have hlength := List.drop_eq_nil_iff.1 hupper
    have hnil : xs = [] := List.length_eq_zero_iff.1 (by omega)
    simp [hnil]
  | case2 xs middle upper hupper hlt ih =>
    obtain ⟨hmem, -, habove⟩ := split_at hupper h
    rw [ih (h.sublist (List.take_sublist ..)), hmem]
    refine ⟨.inl, fun hx => hx.resolve_right ?_⟩
    rintro (rfl | hx)
    · omega
    · have := habove x hx
      omega
  | case3 xs middle upper hupper hle hlt ih =>
    obtain ⟨hmem, hbelow, -⟩ := split_at hupper h
    have hsorted : upper.Pairwise (· < ·) :=
      (List.pairwise_cons.1 (hupper ▸ h.sublist (List.drop_sublist (xs.length / 2) xs))).2
    rw [ih hsorted, hmem]
    refine ⟨fun hx => .inr (.inr hx), ?_⟩
    rintro (hx | rfl | hx)
    · have := hbelow x hx
      omega
    · omega
    · exact hx
  | case4 xs middle upper hupper hle hge =>
    have heq : x = middle := by omega
    simp [(split_at hupper h).1, heq]

theorem le_getLastD {xs : List Nat} (h : xs.Pairwise (· < ·)) : ∀ x ∈ xs, x ≤ xs.getLastD 0 := by
  intro x hx
  obtain ⟨ys, y, rfl⟩ := (List.eq_nil_or_concat xs).resolve_left (List.ne_nil_of_mem hx)
  rw [List.concat_eq_append] at hx h ⊢
  rw [List.getLastD_concat]
  rcases List.mem_append.1 hx with hx | hx
  · exact Nat.le_of_lt ((List.pairwise_append.1 h).2.2 x hx y (by simp))
  · exact Nat.le_of_eq (List.mem_singleton.1 hx)

theorem getLastD_mem {xs : List Nat} (h : xs ≠ []) : xs.getLastD 0 ∈ xs := by
  obtain ⟨ys, y, rfl⟩ := (List.eq_nil_or_concat xs).resolve_left h
  simp

/-! ## Areas -/

theorem ControlPeriod.le_subframes (c : ControlPeriod) : 40 ≤ c.subframes ∧ c.subframes ≤ 320 := by
  cases c <;> decide

theorem TimeFrequency.of_prbs {t : TimeFrequency} {prbs : List Nat} (h : t.prbs = .ok prbs) :
    (t.prbNum ≠ 0 ∧ t.prbStart ≤ t.prbEnd ∧ t.prbNum ≤ t.prbEnd - t.prbStart + 1) ∧
      t.prbEnd - t.prbStart + 1 < limit16 ∧
      prbs = (List.range' t.prbStart (t.prbEnd - t.prbStart + 1)).filter fun rb =>
        rb < t.prbStart + t.prbNum || t.prbEnd + 1 - t.prbNum ≤ rb := by
  unfold TimeFrequency.prbs at h
  dsimp only at h
  split at h
  · cases h
  · rename_i hrange
    rw [not_or, Nat.not_lt] at hrange
    obtain ⟨width, hwidth, h⟩ := ok_of_bind h
    obtain ⟨rfl, hlt⟩ := of_word16 hwidth
    split at h
    · cases h
    · rename_i hnum
      obtain ⟨lowStop, hlow, h⟩ := ok_of_bind h
      obtain ⟨highStop, hhigh, h⟩ := ok_of_bind h
      obtain ⟨rfl, -⟩ := of_word16 hlow
      obtain ⟨rfl, -⟩ := of_word16 hhigh
      cases h
      exact ⟨⟨hrange.1, hrange.2, Nat.not_lt.1 hnum⟩, hlt, rfl⟩

theorem TimeFrequency.prbs_sorted {t : TimeFrequency} {prbs : List Nat} (h : t.prbs = .ok prbs) :
    prbs.Pairwise (· < ·) := by
  obtain ⟨-, -, rfl⟩ := TimeFrequency.of_prbs h
  exact List.Pairwise.filter _ List.pairwise_lt_range'

namespace ResourcePool

/-- What a pool has from a record that keeps every rule. -/
structure Accepted (r : PoolRecord) (p : ResourcePool) : Prop where
  period_eq : p.period = r.period.subframes
  start_lt : p.start < ringLength
  controlOffsets_eq : p.control.offsets = (List.range 40).filter r.control.bitmap.isSet
  controlRbs : r.control.prbs = .ok p.control.rbs
  dataArea : dataArea p.period p.control.offsets r.data = .ok p.data
  controlOffsets_ne_nil : p.control.offsets ≠ []
  two_le_controlRbs : 2 ≤ p.control.rbs.length
  dataOffsets_ne_nil : p.data.offsets ≠ []
  dataRbs_ne_nil : p.data.rbs ≠ []

variable {r : PoolRecord} {p : ResourcePool}

theorem accepted_of_ofRecord (h : ofRecord r = .ok p) : Accepted r p := by
  unfold ofRecord at h
  dsimp only at h
  split at h
  · cases h
  · obtain ⟨controlRbs, hcontrolRbs, h⟩ := ok_of_bind h
    split at h
    · cases h
    · rename_i hcontrol
      obtain ⟨data, hdata, h⟩ := ok_of_bind h
      split at h
      · cases h
      · rename_i hnonempty
        rw [not_or] at hcontrol hnonempty
        cases h
        exact ⟨rfl, Nat.mod_lt _ (by decide), rfl, hcontrolRbs, hdata, hcontrol.1, Nat.not_lt.1 hcontrol.2, hnonempty.1,
          hnonempty.2⟩

namespace Accepted

theorem le_period (h : Accepted r p) : 40 ≤ p.period ∧ p.period ≤ 320 := by
  rw [h.period_eq]
  exact r.period.le_subframes

theorem mem_controlOffsets (h : Accepted r p) {o : Nat} :
    o ∈ p.control.offsets ↔ o < 40 ∧ r.control.bitmap.isSet o = true := by
  rw [h.controlOffsets_eq, List.mem_filter, List.mem_range]

theorem controlOffsets_sorted (h : Accepted r p) : p.control.offsets.Pairwise (· < ·) := by
  rw [h.controlOffsets_eq]
  exact List.Pairwise.filter _ List.pairwise_lt_range

theorem controlRbs_sorted (h : Accepted r p) : p.control.rbs.Pairwise (· < ·) :=
  TimeFrequency.prbs_sorted h.controlRbs

theorem dataOffsets_scheduled (h : Accepted r p) {bandwidthRbs : Nat} {mcs : Option Nat}
    (hdata : r.data = .scheduled bandwidthRbs mcs) :
    p.data.offsets = List.range' (p.control.offsets.getLastD 0 + 1) (p.period - (p.control.offsets.getLastD 0 + 1)) := by
  have harea := h.dataArea
  rw [hdata] at harea
  exact congrArg ChannelArea.offsets (Except.ok.inj harea).symm

theorem dataOffsets_ueSelected (h : Accepted r p) {area : TimeFrequency} {patterns : PatternSubset}
    {controlPower dataPower : TxPower} (hdata : r.data = .ueSelected area patterns controlPower dataPower) :
    p.data.offsets = (List.range p.period).filter fun o => area.bitmap.isSet o && !p.control.offsets.contains o := by
  have harea := h.dataArea
  rw [hdata] at harea
  obtain ⟨_, -, harea⟩ := ok_of_bind harea
  obtain ⟨prbs, -, harea⟩ := ok_of_bind harea
  exact congrArg ChannelArea.offsets (Except.ok.inj harea).symm

theorem dataOffsets_sorted (h : Accepted r p) : p.data.offsets.Pairwise (· < ·) := by
  cases hdata : r.data with
  | scheduled =>
    rw [h.dataOffsets_scheduled hdata]
    exact List.pairwise_lt_range'
  | ueSelected =>
    rw [h.dataOffsets_ueSelected hdata]
    exact List.Pairwise.filter _ List.pairwise_lt_range

theorem controlOffset_lt (h : Accepted r p) {o : Nat} (ho : o ∈ p.control.offsets) : o < p.period :=
  Nat.lt_of_lt_of_le (h.mem_controlOffsets.1 ho).1 h.le_period.1

theorem dataOffset_lt (h : Accepted r p) {o : Nat} (ho : o ∈ p.data.offsets) : o < p.period := by
  cases hdata : r.data with
  | scheduled =>
    rw [h.dataOffsets_scheduled hdata, List.mem_range'_1] at ho
    omega
  | ueSelected =>
    rw [h.dataOffsets_ueSelected hdata, List.mem_filter, List.mem_range] at ho
    exact ho.1

theorem mem_dataOffsets_scheduled (h : Accepted r p) {bandwidthRbs : Nat} {mcs : Option Nat}
    (hdata : r.data = .scheduled bandwidthRbs mcs) {o : Nat} :
    o ∈ p.data.offsets ↔ o < p.period ∧ ∀ c ∈ p.control.offsets, c < o := by
  have hlast := h.controlOffset_lt (getLastD_mem h.controlOffsets_ne_nil)
  rw [h.dataOffsets_scheduled hdata, List.mem_range'_1]
  constructor
  · intro ho
    refine ⟨by omega, fun c hc => ?_⟩
    have := le_getLastD h.controlOffsets_sorted c hc
    omega
  · rintro ⟨ho, hafter⟩
    have := hafter _ (getLastD_mem h.controlOffsets_ne_nil)
    omega

theorem mem_dataOffsets_ueSelected (h : Accepted r p) {area : TimeFrequency} {patterns : PatternSubset}
    {controlPower dataPower : TxPower} (hdata : r.data = .ueSelected area patterns controlPower dataPower) {o : Nat} :
    o ∈ p.data.offsets ↔ o < p.period ∧ area.bitmap.isSet o = true ∧ o ∉ p.control.offsets := by
  rw [h.dataOffsets_ueSelected hdata]
  simp

theorem not_mem_dataOffsets (h : Accepted r p) {o : Nat} (ho : o ∈ p.control.offsets) : o ∉ p.data.offsets := by
  cases hdata : r.data with
  | scheduled =>
    rw [h.mem_dataOffsets_scheduled hdata]
    exact fun hafter => Nat.lt_irrefl o (hafter.2 o ho)
  | ueSelected =>
    rw [h.mem_dataOffsets_ueSelected hdata]
    exact fun hfree => hfree.2.2 ho

theorem isDataSlot_iff (h : Accepted r p) (s : Slot) : p.isDataSlot s = true ↔ p.periodOffset s ∈ p.data.offsets := by
  rw [isDataSlot, bisect_iff h.dataOffsets_sorted]

end Accepted

theorem isControlSlot_iff (p : ResourcePool) (s : Slot) :
    p.isControlSlot s = true ↔ p.periodOffset s ∈ p.control.offsets := by
  rw [isControlSlot, List.contains_iff_mem]

end ResourcePool

/-! ## A pool -/

/-- A pool with one control subframe in forty, and with two sub-channels of ten RBs. -/
def narrowRecord : PoolRecord where
  controlPrefix := .normal
  period := .sf40
  control := { prbNum := 1, prbStart := 0, prbEnd := 1, bitmap := ⟨true :: .replicate 39 false, rfl⟩ }
  dataPrefix := .normal
  data := .ueSelected { prbNum := 10, prbStart := 0, prbEnd := 19, bitmap := ⟨.replicate 40 true, rfl⟩ } .all
    ⟨⟨10⟩, -40⟩ ⟨⟨10⟩, -40⟩

def narrowPool : ResourcePool where
  kind := .ueSelected
  period := 40
  start := 0
  control := ⟨[0], [0, 1]⟩
  data := ⟨List.range' 1 39, List.range 20⟩

theorem narrowPool_ofRecord : ResourcePool.ofRecord narrowRecord = .ok narrowPool := by rfl

end Sidelink
