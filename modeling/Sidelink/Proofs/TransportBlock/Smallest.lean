import Sidelink.Config.Rules
import Sidelink.Proofs.TransportBlock
import Sidelink.Proofs.TransportBlock.Bound

/-!
# The smallest allocation

Both searches stop at the first count whose block holds the packet. The whole sub-channels that the first one finds are
counts of RBs that the second one meets too, so that it always ends there at the latest.
-/

namespace Sidelink

theorem Config.layout_of_flowParams {α : Type} [Scalar α] {c : Config α} {params : FlowParams α}
    (h : c.flowParams = .ok params) : ∃ dmrs psfchSymbols, params.layout = { dmrs, psfchSymbols } := by
  unfold flowParams at h
  obtain ⟨_, -, h⟩ := ok_of_bind h
  obtain ⟨_, -, h⟩ := ok_of_bind h
  cases h
  exact ⟨_, _, rfl⟩

namespace SlotLayout

/-! ## A search -/

/-- A candidate has a block, and it is shorter than so many bits. -/
def Short (bits : Nat) (size : Nat → Except SizingError Nat) (n : Nat) : Prop := ∃ tbs, size n = .ok tbs ∧ tbs < bits

theorem not_short {bits n tbs : Nat} {size : Nat → Except SizingError Nat} (hblock : size n = .ok tbs)
    (henough : bits ≤ tbs) : ¬Short bits size n := by
  rintro ⟨tbs', htbs', hshort⟩
  rw [hblock] at htbs'
  cases htbs'
  omega

/-- What a search finds among the candidates from `start` up to `stop`. -/
inductive Searched (bits : Nat) (size : Nat → Except SizingError Nat) (start stop : Nat) : Option (Nat × Nat) → Prop where
  | found {n tbs : Nat} (le : start ≤ n) (lt : n < stop) (block : size n = .ok tbs) (enough : bits ≤ tbs)
      (before : ∀ m, start ≤ m → m < n → Short bits size m) : Searched bits size start stop (some (n, tbs))
  | nothing (all : ∀ m, start ≤ m → m < stop → Short bits size m) : Searched bits size start stop none

theorem exists_searched (bits : Nat) (size : Nat → Except SizingError Nat) (start count : Nat)
    (hsize : ∀ n, start ≤ n → n < start + count → ∃ tbs, size n = .ok tbs) :
    ∃ result, firstFitting bits size (List.range' start count) = .ok result ∧
      Searched bits size start (start + count) result := by
  induction count generalizing start with
  | zero => exact ⟨none, rfl, .nothing fun m hle hlt => by omega⟩
  | succ count ih =>
    obtain ⟨tbs, htbs⟩ := hsize start le_rfl (by omega)
    have hunfold : firstFitting bits size (List.range' start (count + 1)) =
        if bits ≤ tbs then .ok (some (start, tbs)) else firstFitting bits size (List.range' (start + 1) count) := by
      rw [List.range'_succ, firstFitting, htbs]
      rfl
    rw [hunfold]
    split
    · exact ⟨_, rfl, .found le_rfl (by omega) htbs ‹_› fun m hle hlt => by omega⟩
    · rename_i hshort
      have hstart : ∀ m, start ≤ m → m < start + 1 → Short bits size m := fun m hle hlt => by
        obtain rfl : m = start := by omega
        exact ⟨tbs, htbs, not_le.1 hshort⟩
      obtain ⟨result, hresult, hsearched⟩ := ih (start + 1) fun n hle hlt => hsize n (by omega) (by omega)
      refine ⟨result, hresult, ?_⟩
      cases hsearched with
      | found hle hlt hblock henough hbefore =>
        refine .found (by omega) (by omega) hblock henough fun m hle' hlt' => ?_
        exact (Nat.lt_or_ge m (start + 1)).elim (hstart m hle') fun h => hbefore m h hlt'
      | nothing hall =>
        refine .nothing fun m hle' hlt' => ?_
        exact (Nat.lt_or_ge m (start + 1)).elim (hstart m hle') fun h => hall m h (by omega)

theorem Searched.exists_le {bits : Nat} {size : Nat → Except SizingError Nat} {start stop m : Nat}
    {result : Option (Nat × Nat)} (h : Searched bits size start stop result) (hstart : start ≤ m) (hstop : m < stop)
    (henough : ¬Short bits size m) :
    ∃ n tbs, result = some (n, tbs) ∧ start ≤ n ∧ n ≤ m ∧ size n = .ok tbs ∧ bits ≤ tbs ∧
      ∀ k, start ≤ k → k < n → Short bits size k := by
  cases h with
  | @found n tbs hle hlt hblock hbits hbefore =>
    exact ⟨n, tbs, rfl, hle, not_lt.1 fun hlt => henough (hbefore m hstart hlt), hblock, hbits, hbefore⟩
  | nothing hall => exact absurd (hall m hstart hstop) henough

end SlotLayout

/-- What is promised by the smallest allocation of so many bits, where so many RBs have the block size `size`. -/
structure Allocation.Smallest (a : Allocation) (size : Nat → Except SizingError Nat)
    (bits subchannelSize bandwidthRbs : Nat) : Prop where
  subchannels_pos : 1 ≤ a.subchannels
  subchannelRbs_eq : a.subchannelRbs = a.subchannels * subchannelSize
  subchannelRbs_le : a.subchannelRbs ≤ bandwidthRbs
  block : size a.subchannelRbs = .ok a.tbsBits
  enough : bits ≤ a.tbsBits
  fewer_subchannels : ∀ j, 1 ≤ j → j < a.subchannels → SlotLayout.Short bits size (j * subchannelSize)
  rbs_ge : subchannelSize ≤ a.rbs
  rbs_le : a.rbs ≤ a.subchannelRbs
  rbs_enough : ∃ tbs, size a.rbs = .ok tbs ∧ bits ≤ tbs
  fewer_rbs : ∀ rbs, subchannelSize ≤ rbs → rbs < a.rbs → SlotLayout.Short bits size rbs

theorem Allocation.Smallest.not_short {a : Allocation} {size : Nat → Except SizingError Nat}
    {bits subchannelSize bandwidthRbs : Nat} (h : a.Smallest size bits subchannelSize bandwidthRbs) :
    ¬SlotLayout.Short bits size (a.subchannels * subchannelSize) :=
  SlotLayout.not_short (h.subchannelRbs_eq ▸ h.block) h.enough

namespace SlotLayout

/-! ## Blocks -/

section

variable {α : Type} [Scalar α]

theorem exists_mcsParameters {mcs : Nat} (h : mcs ≤ maxMcs) :
    ∃ order rate : Nat, order ≤ 6 ∧ rate ≤ 1024 ∧
      mcsParameters (α := α) mcs = .ok (order, Scalar.ofNat rate / 1024.0) := by
  have hbounds : ∀ row ∈ mcsTable, row.1 ≤ 6 ∧ row.2 ≤ 1024 := by decide
  have hlt : mcs < mcsTable.length := Nat.lt_succ_of_le h
  obtain ⟨horder, hrate⟩ := hbounds _ (List.getElem_mem hlt)
  refine ⟨_, _, horder, hrate, ?_⟩
  unfold mcsParameters entry
  rw [if_neg (by omega), List.getElem?_eq_getElem hlt]
  rfl

variable (α) in
/-- The block size of so many RBs at a coding index. -/
def blockSizeAt (l : SlotLayout) (mcs subchannelSize rbs : Nat) : Except SizingError Nat := do
  let (order, rate) ← mcsParameters (α := α) mcs
  l.blockSizeOfRbs subchannelSize order rate rbs

theorem blockSizeAt_eq {l : SlotLayout} {mcs order : Nat} {rate : α} (h : mcsParameters mcs = .ok (order, rate))
    (subchannelSize : Nat) : l.blockSizeAt α mcs subchannelSize = l.blockSizeOfRbs subchannelSize order rate := by
  funext rbs
  unfold blockSizeAt
  rw [h]
  rfl

section

variable (dmrs : DmrsPattern) (psfchSymbols : Nat)

theorem exists_resPerRb : ∃ res ≤ 144, ({ dmrs, psfchSymbols } : SlotLayout).resPerRb = .ok res := by
  have hdmrs : dmrs.resourceElements ≤ 24 := by cases dmrs <;> decide
  refine ⟨12 * (14 - 2 - psfchSymbols) - (0 + dmrs.resourceElements), by omega, ?_⟩
  unfold resPerRb
  dsimp only
  rw [(Gives.word32 _).ok (by unfold limit32; omega), (Gives.word32 _).ok (by unfold limit32; omega)]
  rfl

theorem exists_blockSizeOfRbs (order : Nat) (rate : α) {subchannelSize rbs : Nat} (hsize : subchannelSize < limit16)
    (hrbs : rbs < limit16) :
    ∃ total ≤ 144 * limit16, ∃ control,
      ({ dmrs, psfchSymbols } : SlotLayout).blockSizeOfRbs subchannelSize order rate rbs =
        .ok (blockSize ((Scalar.ofNat total - Scalar.ofNat control - Scalar.ofNat (secondStageRes rate)) * rate *
          Scalar.ofNat order) rate) := by
  obtain ⟨res, hres, hok⟩ := exists_resPerRb dmrs psfchSymbols
  have htotal : res * rbs ≤ 144 * limit16 := Nat.mul_le_mul hres hrbs.le
  refine ⟨res * rbs, htotal, 2 * 12 * subchannelSize, ?_⟩
  unfold limit16 at hsize htotal
  unfold blockSizeOfRbs
  dsimp only
  rw [hok, (Gives.word32 _).ok (by unfold limit32; omega)]
  dsimp only [Except.bind, bind]
  rw [(Gives.word32 _).ok (by unfold limit32; omega)]
  dsimp only
  rw [(Gives.word32 _).ok (by unfold limit32; omega)]
  rfl

end

/-! ## Both searches -/

section

variable {l : SlotLayout} {bytes mcs order subchannelSize bandwidthRbs : Nat} {rate : α}

/-- The block size of so many sub-channels, whose RBs are counted in 16 bits. -/
def blockSizeOfSubchannels (l : SlotLayout) (subchannelSize order : Nat) (rate : α) (j : Nat) :
    Except SizingError Nat := do
  l.blockSizeOfRbs subchannelSize order rate (← word16 (j * subchannelSize))

theorem allocate_eq (hmcs : mcsParameters mcs = .ok (order, rate)) (hpos : 0 < subchannelSize)
    (hle : subchannelSize ≤ bandwidthRbs) :
    l.allocate (α := α) bytes mcs subchannelSize bandwidthRbs =
      firstFitting (min (bytes * 8) (limit32 - 1)) (l.blockSizeOfSubchannels subchannelSize order rate)
        (List.range' 1 (bandwidthRbs / subchannelSize)) >>= fun
      | none => .error (.packetTooLarge bytes mcs bandwidthRbs)
      | some (subchannels, tbsBits) =>
        firstFitting (min (bytes * 8) (limit32 - 1)) (l.blockSizeOfRbs subchannelSize order rate)
          (List.range' subchannelSize (bandwidthRbs + 1 - subchannelSize)) >>= fun
        | none => .error (.packetTooLarge bytes mcs bandwidthRbs)
        | some (rbs, _) => do return ⟨subchannels, ← word16 (subchannels * subchannelSize), rbs, tbsBits⟩ := by
  unfold allocate
  rw [hmcs]
  dsimp only [bind, Except.bind]
  rw [if_neg (by omega)]
  rfl

variable {dmrs : DmrsPattern} {psfchSymbols : Nat}

variable (bytes) in
theorem allocate_searched (hl : l = { dmrs, psfchSymbols }) (hmcs : mcsParameters mcs = .ok (order, rate))
    (hpos : 0 < subchannelSize) (hle : subchannelSize ≤ bandwidthRbs) (hwidth : bandwidthRbs < limit16) :
    (∃ a, l.allocate (α := α) bytes mcs subchannelSize bandwidthRbs = .ok a ∧
      a.Smallest (l.blockSizeOfRbs subchannelSize order rate) (min (bytes * 8) (limit32 - 1)) subchannelSize
        bandwidthRbs) ∨
    (l.allocate (α := α) bytes mcs subchannelSize bandwidthRbs = .error (.packetTooLarge bytes mcs bandwidthRbs) ∧
      ∀ j, 1 ≤ j → j * subchannelSize ≤ bandwidthRbs →
        Short (min (bytes * 8) (limit32 - 1)) (l.blockSizeOfRbs subchannelSize order rate) (j * subchannelSize)) := by
  have hsize : ∀ n, n ≤ bandwidthRbs → ∃ tbs, l.blockSizeOfRbs subchannelSize order rate n = .ok tbs := fun n hn => by
    obtain ⟨_, -, _, h⟩ := exists_blockSizeOfRbs dmrs psfchSymbols order rate
      (hle.trans_lt hwidth) (hn.trans_lt hwidth)
    exact ⟨_, hl ▸ h⟩
  have hcount : ∀ j, j < 1 + bandwidthRbs / subchannelSize ↔ j * subchannelSize ≤ bandwidthRbs := fun j => by
    rw [Nat.lt_one_add_iff, Nat.le_div_iff_mul_le hpos]
  have hword : ∀ j, j * subchannelSize ≤ bandwidthRbs → l.blockSizeOfSubchannels subchannelSize order rate j =
      l.blockSizeOfRbs subchannelSize order rate (j * subchannelSize) := fun j hj => by
    unfold blockSizeOfSubchannels
    rw [(Gives.word16 _).ok (hj.trans_lt hwidth)]
    rfl
  rw [allocate_eq hmcs hpos hle]
  generalize min (bytes * 8) (limit32 - 1) = bits
  generalize l.blockSizeOfRbs subchannelSize order rate = size at hsize hword
  obtain ⟨whole, hwhole, hsearched⟩ := exists_searched bits (l.blockSizeOfSubchannels subchannelSize order rate)
    1 (bandwidthRbs / subchannelSize) fun j _ hj => by
      rw [hword j ((hcount j).1 hj)]
      exact hsize _ ((hcount j).1 hj)
  rw [hwhole]
  cases hsearched with
  | nothing hall =>
    refine .inr ⟨rfl, fun j hj hfits => ?_⟩
    obtain ⟨tbs, htbs, hshort⟩ := hall j hj ((hcount j).2 hfits)
    exact ⟨tbs, (hword j hfits).symm.trans htbs, hshort⟩
  | @found j tbs hj hlt hblock henough hbefore =>
    have hfits := (hcount j).1 hlt
    have hone : subchannelSize ≤ j * subchannelSize := Nat.le_mul_of_pos_left _ hj
    rw [hword j hfits] at hblock
    obtain ⟨single, hsingle, hsearched'⟩ := exists_searched bits size subchannelSize (bandwidthRbs + 1 - subchannelSize)
      fun n _ hn => hsize n (by omega)
    -- The sub-channels that were found are one of the counts of RBs.
    obtain ⟨rbs, tbs', rfl, hrbs, hmet, hblock', henough', hbefore'⟩ :=
      hsearched'.exists_le hone (by omega) (not_short hblock henough)
    dsimp only [bind, Except.bind]
    rw [hsingle]
    dsimp only
    rw [(Gives.word16 _).ok (hfits.trans_lt hwidth)]
    refine .inl ⟨_, rfl, hj, rfl, hfits, hblock, henough, fun k hk hkj => ?_, hrbs, hmet, ⟨tbs', hblock', henough'⟩,
      hbefore'⟩
    obtain ⟨t, ht, hshort⟩ := hbefore k hk hkj
    exact ⟨t, (hword k ((hcount k).1 (hkj.trans hlt))).symm.trans ht, hshort⟩

theorem allocate_mcsOutOfRange (hmcs : maxMcs < mcs) :
    l.allocate (α := α) bytes mcs subchannelSize bandwidthRbs = .error (.mcsOutOfRange mcs) := by
  unfold allocate mcsParameters
  rw [if_pos hmcs]
  rfl

theorem allocate_invalid (hmcs : mcsParameters mcs = .ok (order, rate))
    (hsize : subchannelSize = 0 ∨ bandwidthRbs < subchannelSize) :
    l.allocate (α := α) bytes mcs subchannelSize bandwidthRbs =
      .error (.invalidSubchannelSize subchannelSize bandwidthRbs) := by
  unfold allocate
  rw [hmcs]
  dsimp only [bind, Except.bind]
  rw [if_pos hsize]
  rfl

open Scalar Exact in
theorem blockSizeAt_lt [ExactPowers α] (hl : l = { dmrs, psfchSymbols }) (hmcs : mcs ≤ maxMcs)
    (hsize : subchannelSize < limit16) {rbs tbs : Nat} (hrbs : rbs < limit16)
    (h : l.blockSizeAt α mcs subchannelSize rbs = .ok tbs) : tbs < limit32 - 1 := by
  obtain ⟨order, k, horder, hk, hparameters⟩ := exists_mcsParameters (α := α) hmcs
  rw [blockSizeAt_eq hparameters, hl] at h
  obtain ⟨total, htotal, control, hblock⟩ := exists_blockSizeOfRbs dmrs psfchSymbols order
    (Scalar.ofNat k / 1024.0 : α) hsize hrbs
  rw [h] at hblock
  cases hblock
  have hrate : Is (Scalar.ofNat k / 1024.0 : α) (k / 1024) :=
    is_div (is_ofNat k) (mod_cast is_whole 1024) (by norm_num)
  generalize (Scalar.ofNat k / 1024.0 : α) = rate at hrate ⊢
  have hinfo := is_mul (is_mul (is_sub (is_sub (is_ofNat total) (is_ofNat control)) (is_ofNat (secondStageRes rate)))
    hrate) (is_ofNat (α := α) order)
  have hunit : (k : ℝ) / 1024 ≤ 1 := by
    rw [div_le_one (by norm_num)]
    exact_mod_cast hk
  have hinfo_le : ((total : ℝ) - control - secondStageRes rate) * (k / 1024) * order ≤ ((total * 6 : ℕ) : ℝ) :=
    calc ((total : ℝ) - control - secondStageRes rate) * (k / 1024) * order
        ≤ total * (k / 1024) * order := by
          gcongr
          have : (0 : ℝ) ≤ control := Nat.cast_nonneg _
          have : (0 : ℝ) ≤ secondStageRes rate := Nat.cast_nonneg _
          linarith
      _ ≤ total * 1 * 6 := by
          gcongr
          exact_mod_cast horder
      _ = ((total * 6 : ℕ) : ℝ) := by push_cast; ring
  have hbound := blockSize_le rate hinfo hinfo_le
  unfold limit16 at htotal
  unfold limit32
  omega

variable (α) in
/-- The answers that a sizing has, each with its cause. -/
inductive Answer (l : SlotLayout) (bytes mcs subchannelSize bandwidthRbs : Nat) : Except SizingError Allocation → Prop where
  | mcsOutOfRange (hmcs : maxMcs < mcs) : Answer l bytes mcs subchannelSize bandwidthRbs (.error (.mcsOutOfRange mcs))
  | invalidSubchannelSize (hmcs : mcs ≤ maxMcs) (hsize : subchannelSize = 0 ∨ bandwidthRbs < subchannelSize) :
    Answer l bytes mcs subchannelSize bandwidthRbs (.error (.invalidSubchannelSize subchannelSize bandwidthRbs))
  | smallest {a : Allocation} (hmcs : mcs ≤ maxMcs) (hpos : 0 < subchannelSize) (hle : subchannelSize ≤ bandwidthRbs)
      (h : a.Smallest (l.blockSizeAt α mcs subchannelSize) (min (bytes * 8) (limit32 - 1)) subchannelSize bandwidthRbs) :
    Answer l bytes mcs subchannelSize bandwidthRbs (.ok a)
  | packetTooLarge (hmcs : mcs ≤ maxMcs) (hpos : 0 < subchannelSize) (hle : subchannelSize ≤ bandwidthRbs)
      (hshort : ∀ j, 1 ≤ j → j * subchannelSize ≤ bandwidthRbs →
        Short (min (bytes * 8) (limit32 - 1)) (l.blockSizeAt α mcs subchannelSize) (j * subchannelSize)) :
    Answer l bytes mcs subchannelSize bandwidthRbs (.error (.packetTooLarge bytes mcs bandwidthRbs))

variable (bytes mcs subchannelSize) in
theorem answer_allocate (hl : l = { dmrs, psfchSymbols }) (hwidth : bandwidthRbs < limit16) :
    Answer α l bytes mcs subchannelSize bandwidthRbs
      (l.allocate (α := α) bytes mcs subchannelSize bandwidthRbs) := by
  rcases Nat.lt_or_ge maxMcs mcs with hmcs | hmcs
  · rw [allocate_mcsOutOfRange hmcs]
    exact .mcsOutOfRange hmcs
  · obtain ⟨order, k, -, -, hparameters⟩ := exists_mcsParameters (α := α) hmcs
    by_cases hsize : subchannelSize = 0 ∨ bandwidthRbs < subchannelSize
    · rw [allocate_invalid hparameters hsize]
      exact .invalidSubchannelSize hmcs hsize
    · have hpos : 0 < subchannelSize := by omega
      have hle : subchannelSize ≤ bandwidthRbs := by omega
      have hsearched := allocate_searched bytes hl hparameters hpos hle hwidth
      rw [← blockSizeAt_eq hparameters] at hsearched
      rcases hsearched with ⟨a, ha, hsmallest⟩ | ⟨herror, hshort⟩
      · rw [ha]
        exact .smallest hmcs hpos hle hsmallest
      · rw [herror]
        exact .packetTooLarge hmcs hpos hle hshort

theorem Answer.error_iff {answer : Except SizingError Allocation}
    (h : Answer α l bytes mcs subchannelSize bandwidthRbs answer) (e : SizingError) :
    answer = .error e ↔
      (maxMcs < mcs ∧ e = .mcsOutOfRange mcs) ∨
      (mcs ≤ maxMcs ∧ (subchannelSize = 0 ∨ bandwidthRbs < subchannelSize) ∧
        e = .invalidSubchannelSize subchannelSize bandwidthRbs) ∨
      (mcs ≤ maxMcs ∧ 0 < subchannelSize ∧ subchannelSize ≤ bandwidthRbs ∧
        (∀ j, 1 ≤ j → j * subchannelSize ≤ bandwidthRbs →
          Short (min (bytes * 8) (limit32 - 1)) (l.blockSizeAt α mcs subchannelSize) (j * subchannelSize)) ∧
        e = .packetTooLarge bytes mcs bandwidthRbs) := by
  cases h with
  | mcsOutOfRange hmcs => grind
  | invalidSubchannelSize hmcs hsize => grind
  | smallest hmcs hpos hle h =>
    refine iff_of_false nofun ?_
    rintro (⟨hlt, -⟩ | ⟨-, hsize, -⟩ | ⟨-, -, -, hshort, -⟩)
    · omega
    · omega
    · exact h.not_short (hshort _ h.subchannels_pos (h.subchannelRbs_eq ▸ h.subchannelRbs_le))
  | packetTooLarge hmcs hpos hle hshort => grind

theorem Answer.of_ok {a : Allocation} (h : Answer α l bytes mcs subchannelSize bandwidthRbs (.ok a))
    (hbytes : bytes < 2 ^ 29) :
    bytes ≤ a.tbsBytes ∧ a.Smallest (l.blockSizeAt α mcs subchannelSize) (bytes * 8) subchannelSize bandwidthRbs := by
  cases h with
  | smallest hmcs hpos hle h =>
    have hbits : min (bytes * 8) (limit32 - 1) = bytes * 8 := by
      unfold limit32
      omega
    rw [hbits] at h
    refine ⟨?_, h⟩
    have := h.enough
    unfold Allocation.tbsBytes
    omega

open Scalar in
theorem short_min_iff [ExactPowers α] (hl : l = { dmrs, psfchSymbols }) (hmcs : mcs ≤ maxMcs)
    (hsize : subchannelSize < limit16) {rbs : Nat} (hrbs : rbs < limit16) :
    Short (min (bytes * 8) (limit32 - 1)) (l.blockSizeAt α mcs subchannelSize) rbs ↔
      Short (bytes * 8) (l.blockSizeAt α mcs subchannelSize) rbs := by
  constructor
  · rintro ⟨tbs, htbs, hshort⟩
    exact ⟨tbs, htbs, hshort.trans_le (Nat.min_le_left ..)⟩
  · rintro ⟨tbs, htbs, hshort⟩
    exact ⟨tbs, htbs, lt_min hshort (blockSizeAt_lt hl hmcs hsize hrbs htbs)⟩

end

/-- A packet gets the smallest allocation that carries it. It is refused only for its coding index, for the size of a
sub-channel or, after that, because no whole number of sub-channels is long enough. Its bits are counted in 32 bits at
most, which in exact arithmetic makes no difference to what is long enough. -/
theorem allocate_smallest {c : Config α} {params : FlowParams α} (hparams : c.flowParams = .ok params)
    (bytes mcs subchannelSize : Nat) {bandwidthRbs : Nat} (hwidth : bandwidthRbs < limit16) :
    let size := params.layout.blockSizeAt α mcs subchannelSize
    let bits := min (bytes * 8) (limit32 - 1)
    (∀ e, params.layout.allocate (α := α) bytes mcs subchannelSize bandwidthRbs = .error e ↔
      (maxMcs < mcs ∧ e = .mcsOutOfRange mcs) ∨
      (mcs ≤ maxMcs ∧ (subchannelSize = 0 ∨ bandwidthRbs < subchannelSize) ∧
        e = .invalidSubchannelSize subchannelSize bandwidthRbs) ∨
      (mcs ≤ maxMcs ∧ 0 < subchannelSize ∧ subchannelSize ≤ bandwidthRbs ∧
        (∀ j, 1 ≤ j → j * subchannelSize ≤ bandwidthRbs → Short bits size (j * subchannelSize)) ∧
        e = .packetTooLarge bytes mcs bandwidthRbs)) ∧
    (∀ a, params.layout.allocate (α := α) bytes mcs subchannelSize bandwidthRbs = .ok a → bytes < 2 ^ 29 →
      bytes ≤ a.tbsBytes ∧ a.Smallest size (bytes * 8) subchannelSize bandwidthRbs) ∧
    ∀ [Scalar.ExactPowers α], mcs ≤ maxMcs → subchannelSize ≤ bandwidthRbs → ∀ rbs ≤ bandwidthRbs,
      (Short bits size rbs ↔ Short (bytes * 8) size rbs) := by
  intro size bits
  obtain ⟨dmrs, psfchSymbols, hl⟩ := Config.layout_of_flowParams hparams
  have hanswer := answer_allocate (α := α) bytes mcs subchannelSize hl hwidth
  refine ⟨hanswer.error_iff, fun a ha hbytes => ?_, fun hmcs hle rbs hrbs => ?_⟩
  · rw [ha] at hanswer
    exact hanswer.of_ok hbytes
  · exact short_min_iff hl hmcs (hle.trans_lt hwidth) (hrbs.trans_lt hwidth)

end

/-- One sub-channel of ten RBs is too short for 400 bytes, and two are longer than they need to be. -/
theorem allocate_smallest_twoSubchannels : ∃ params : FlowParams Extended, ∃ a : Allocation,
    Config.standard.flowParams = .ok params ∧ 50 < limit16 ∧
      params.layout.allocate (α := Extended) 400 20 10 50 = .ok a ∧ 400 < 2 ^ 29 ∧ a.subchannels = 2 ∧ a.rbs < 20 ∧
      a.Smallest (params.layout.blockSizeAt Extended 20 10) (400 * 8) 10 50 ∧
      (Short (min (400 * 8) (limit32 - 1)) (params.layout.blockSizeAt Extended 20 10) 10 ↔
        Short (400 * 8) (params.layout.blockSizeAt Extended 20 10) 10) := by
  have hparams : (Config.standard : Config Extended).flowParams = .ok _ := rfl
  have hallocate : SlotLayout.allocate (α := Extended) {} 400 20 10 50 = .ok ⟨2, 20, 12, 6784⟩ := by decide +kernel
  obtain ⟨-, hsmallest, hexact⟩ := allocate_smallest hparams 400 20 10 (show 50 < limit16 by decide)
  exact ⟨_, _, hparams, by decide, hallocate, by decide, rfl, by decide, (hsmallest _ hallocate (by decide)).2,
    hexact (by decide) (by decide) 10 (by decide)⟩

end SlotLayout

end Sidelink
