import Mathlib.Data.List.GetD
import Mathlib.Data.List.Nodup
import Mathlib.Data.Nat.ModEq
import Sidelink.Proofs.Pool.Periods

/-!
# Control resources

The control subframes of a period and the control PRBs span a grid, each of whose cells holds one transmission of one
resource. In the lower half of the PRBs the resources are laid out row by row. In the upper half each row has the same
resources as in the lower half, turned by a number of subframes that depends on the row.
-/

namespace Sidelink

/-! ## The grid -/

/-- By how many of the `l` subframes row `a` is turned in the upper half. -/
def turn (l a : Nat) : Nat := if 1 < l then 1 + a % (l - 1) else 0

theorem turn_lt {l : Nat} (a : Nat) (hl : 0 < l) : turn l a < l := by
  unfold turn
  split
  · have := Nat.mod_lt a (show 0 < l - 1 by omega)
    omega
  · exact hl

theorem second_eq (l n : Nat) :
    (if 1 < l then (n + 1 + n / l % (l - 1)) % l else n % l) = (n + turn l (n / l)) % l := by
  unfold turn
  split
  · rw [Nat.add_assoc]
  · rfl

theorem ne_turned {l : Nat} (hl : 1 < l) (n : Nat) : n % l ≠ (n + turn l (n / l)) % l := by
  intro heq
  have hmod : 0 % l = turn l (n / l) % l := Nat.ModEq.add_left_cancel' n heq
  rw [Nat.zero_mod, Nat.mod_eq_of_lt (turn_lt _ (by omega)), turn, if_pos hl] at hmod
  omega

/-- Resource `n` is sent in the `b`-th of `l` subframes on the `a`-th of twice `half` PRBs. -/
inductive Lands (l half n b a : Nat) : Prop
  | low (hb : n % l = b) (ha : n / l = a)
  | high (hb : (n + turn l (n / l)) % l = b) (ha : n / l + half = a)

section

variable {l half m n b a : Nat}

theorem row_lt (hn : n < half * l) : n / l < half := Nat.div_lt_of_lt_mul (by rwa [Nat.mul_comm])

theorem resource_at {row c : Nat} (hrow : row < half) (hc : c < l) :
    row * l + c < half * l ∧ (row * l + c) / l = row ∧ (row * l + c) % l = c := by
  refine ⟨?_, ?_, ?_⟩
  · calc row * l + c < row * l + l := Nat.add_lt_add_left hc _
      _ = (row + 1) * l := (Nat.succ_mul row l).symm
      _ ≤ half * l := Nat.mul_le_mul_right l hrow
  · rw [Nat.add_comm, Nat.add_mul_div_right _ _ (by omega), Nat.div_eq_of_lt hc, Nat.zero_add]
  · rw [Nat.mul_comm, Nat.mul_add_mod, Nat.mod_eq_of_lt hc]

namespace Lands

theorem lt (h : Lands l half n b a) (hn : n < half * l) : b < l ∧ a < 2 * half := by
  have hl : 0 < l := Nat.pos_of_mul_pos_left (by omega : 0 < half * l)
  have hrow := row_lt hn
  cases h with
  | low hb ha =>
    have := Nat.mod_lt n hl
    omega
  | high hb ha =>
    have := Nat.mod_lt (n + turn l (n / l)) hl
    omega

theorem unique (hm : m < half * l) (hn : n < half * l) (h : Lands l half m b a) (h' : Lands l half n b a) :
    m = n := by
  have hrow := row_lt hm
  have hrow' := row_lt hn
  have same (hdiv : m / l = n / l) (hmod : m % l = n % l) : m = n := by
    rw [← Nat.div_add_mod m l, hdiv, hmod, Nat.div_add_mod]
  have apart {i j : Nat} (hi : i < half) : i ≠ j + half := by omega
  cases h with
  | low hb ha =>
    cases h' with
    | low hb' ha' => exact same (by omega) (by omega)
    | high hb' ha' => exact absurd (ha.trans ha'.symm) (apart hrow)
  | high hb ha =>
    cases h' with
    | low hb' ha' => exact absurd (ha'.trans ha.symm) (apart hrow')
    | high hb' ha' =>
      -- Both rows are the same, so they are turned alike.
      have hdiv : m / l = n / l := by omega
      rw [hdiv] at hb
      exact same hdiv (Nat.ModEq.add_right_cancel' _ (hb.trans hb'.symm))

/-- Some resource lands at every place: in the upper half the one whose first subframe is turned to this one. -/
theorem exists_of_lt (hb : b < l) (ha : a < 2 * half) : ∃ n < half * l, Lands l half n b a := by
  by_cases hlow : a < half
  · obtain ⟨hlt, hdiv, hmod⟩ := resource_at hlow hb
    exact ⟨_, hlt, .low hmod hdiv⟩
  · have hturn := turn_lt (a - half) (show 0 < l by omega)
    obtain ⟨hlt, hdiv, -⟩ := resource_at (show a - half < half by omega)
      (Nat.mod_lt (b + (l - turn l (a - half))) (show 0 < l by omega))
    refine ⟨_, hlt, .high ?_ (by omega)⟩
    rw [hdiv]
    calc ((a - half) * l + (b + (l - turn l (a - half))) % l + turn l (a - half)) % l
        = ((b + (l - turn l (a - half))) % l + turn l (a - half)) % l := by
          rw [Nat.add_assoc, Nat.mul_comm, Nat.mul_add_mod]
      _ = (b + (l - turn l (a - half)) + turn l (a - half)) % l := Nat.mod_add_mod ..
      _ = (b + l) % l := by rw [Nat.add_assoc, Nat.sub_add_cancel (Nat.le_of_lt hturn)]
      _ = b := by rw [Nat.add_mod_right, Nat.mod_eq_of_lt hb]

end Lands

end

/-! ## Entries of a list -/

theorem entry_eq_getD {ε : Type} [OfFault ε] {xs : List Nat} {i : Nat} (h : i < xs.length) :
    entry (ε := ε) xs i = .ok (xs.getD i 0) := by
  simp [entry, h]

theorem getD_inj {xs : List Nat} (hxs : xs.Nodup) {i j : Nat} (hi : i < xs.length) (hj : j < xs.length) :
    xs.getD i 0 = xs.getD j 0 ↔ i = j := by
  rw [List.getD_eq_getElem _ _ hi, List.getD_eq_getElem _ _ hj, hxs.getElem_inj_iff]

theorem mem_iff_getD {xs : List Nat} {x : Nat} : x ∈ xs ↔ ∃ i < xs.length, xs.getD i 0 = x := by
  rw [List.mem_iff_getElem]
  constructor
  · rintro ⟨i, hi, rfl⟩
    exact ⟨i, hi, List.getD_eq_getElem _ _ hi⟩
  · rintro ⟨i, hi, rfl⟩
    exact ⟨i, hi, (List.getD_eq_getElem _ _ hi).symm⟩

theorem mem_take_iff_getD {xs : List Nat} {x k : Nat} (hk : k ≤ xs.length) :
    x ∈ xs.take k ↔ ∃ i < k, xs.getD i 0 = x := by
  rw [mem_iff_getD, List.length_take_of_le hk]
  refine exists_congr fun i => and_congr_right fun hi => ?_
  rw [List.getD_eq_getElem?_getD, List.getElem?_take_of_lt hi, ← List.getD_eq_getElem?_getD]

namespace ResourcePool

/-! ## Transmissions on the grid -/

/-- The places of resource `n` on the grid of a pool. -/
def PlacedAt (p : ResourcePool) (n b a : Nat) : Prop :=
  Lands p.control.offsets.length (p.control.rbs.length / 2) n b a

/-- The transmission in the `b`-th control subframe of a period on the `a`-th control PRB. -/
def tile (p : ResourcePool) (first : Slot) (b a : Nat) : Placement :=
  ⟨first + p.control.offsets.getD b 0, p.control.rbs.getD a 0, 1⟩

/-- The two transmissions of resource `n`. -/
def pair (p : ResourcePool) (first : Slot) (n : Nat) : List Placement :=
  let l := p.control.offsets.length
  [p.tile first (n % l) (n / l), p.tile first ((n + turn l (n / l)) % l) (n / l + p.control.rbs.length / 2)]

/-- The PRBs of resource `n` in a slot. -/
def rbsIn (p : ResourcePool) (s : Slot) (n : Nat) : List Nat :=
  ((p.pair (p.currentPeriod s) n).filter fun t => t.slot = s).map (·.rbStart)

variable {record : PoolRecord} {pool : ResourcePool} {first s : Slot} {m n b b' a a' : Nat}

theorem PlacedAt.lt (h : pool.PlacedAt n b a) (hn : n < pool.controlCount) :
    b < pool.control.offsets.length ∧ a < pool.control.rbs.length := by
  have hlt := Lands.lt h hn
  omega

theorem pair_lt (hn : n < pool.controlCount) :
    (n % pool.control.offsets.length < pool.control.offsets.length ∧
      n / pool.control.offsets.length < pool.control.rbs.length) ∧
    (n + turn pool.control.offsets.length (n / pool.control.offsets.length)) % pool.control.offsets.length <
        pool.control.offsets.length ∧
      n / pool.control.offsets.length + pool.control.rbs.length / 2 < pool.control.rbs.length :=
  ⟨PlacedAt.lt (.low rfl rfl) hn, PlacedAt.lt (.high rfl rfl) hn⟩

theorem mem_pair {t : Placement} : t ∈ pool.pair first n ↔ ∃ b a, pool.PlacedAt n b a ∧ t = pool.tile first b a := by
  unfold pair
  rw [List.mem_pair]
  constructor
  · rintro (rfl | rfl)
    · exact ⟨_, _, .low rfl rfl, rfl⟩
    · exact ⟨_, _, .high rfl rfl, rfl⟩
  · rintro ⟨b, a, hlands, rfl⟩
    cases hlands with
    | low hb ha => exact .inl (by rw [hb, ha])
    | high hb ha => exact .inr (by rw [hb, ha])

theorem controlPlacements_eq (first : Slot) (hn : n < pool.controlCount) :
    pool.controlPlacements first n = .ok (pool.pair first n) := by
  obtain ⟨⟨hlow, hrow⟩, hhigh, hrow'⟩ := pair_lt hn
  unfold controlPlacements
  dsimp only
  rw [if_neg (Nat.not_le.2 hn), second_eq, entry_eq_getD hlow, entry_eq_getD hrow, entry_eq_getD hhigh,
    entry_eq_getD hrow']
  rfl

theorem of_controlPlacements {ts : List Placement} (h : pool.controlPlacements first n = .ok ts) :
    n < pool.controlCount ∧ ts = pool.pair first n := by
  have hn : n < pool.controlCount := by
    by_contra hge
    rw [controlPlacements, if_pos (Nat.not_lt.1 hge)] at h
    cases h
  rw [controlPlacements_eq first hn] at h
  exact ⟨hn, (Except.ok.inj h).symm⟩

theorem controlRbs_eq (s : Slot) (hn : n < pool.controlCount) : pool.controlRbs s n = .ok (pool.rbsIn s n) := by
  rw [controlRbs, controlPlacements_eq _ hn]
  rfl

namespace Accepted

theorem tile_slot_inj (h : Accepted record pool) (hb : b < pool.control.offsets.length)
    (hb' : b' < pool.control.offsets.length) :
    (pool.tile first b a).slot = (pool.tile first b' a').slot ↔ b = b' := by
  have hlt := h.controlOffset_lt (mem_iff_getD.2 ⟨b, hb, rfl⟩)
  have hlt' := h.controlOffset_lt (mem_iff_getD.2 ⟨b', hb', rfl⟩)
  have := h.le_period
  unfold tile
  rw [Slot.add_right_inj_of_lt (by omega) (by omega), getD_inj h.controlOffsets_sorted.nodup hb hb']

theorem tile_rbStart_inj (h : Accepted record pool) (ha : a < pool.control.rbs.length)
    (ha' : a' < pool.control.rbs.length) :
    (pool.tile first b a).rbStart = (pool.tile first b' a').rbStart ↔ a = a' :=
  getD_inj h.controlRbs_sorted.nodup ha ha'

theorem pair_apart (h : Accepted record pool) (first : Slot) (hn : n < pool.controlCount) :
    ∃ t u, pool.pair first n = [t, u] ∧ t.rbCount = 1 ∧ u.rbCount = 1 ∧ t.rbStart ≠ u.rbStart ∧
      (1 < pool.control.offsets.length → t.slot ≠ u.slot) := by
  obtain ⟨⟨hlow, hrow⟩, hhigh, hrow'⟩ := pair_lt hn
  refine ⟨_, _, rfl, rfl, rfl, ?_, fun hl => ?_⟩
  · have := h.two_le_controlRbs
    rw [Ne, h.tile_rbStart_inj hrow hrow']
    omega
  · rw [Ne, h.tile_slot_inj hlow hhigh]
    exact ne_turned hl n

theorem resource_unique (h : Accepted record pool) (hm : m < pool.controlCount) (hn : n < pool.controlCount)
    {t u : Placement} (ht : t ∈ pool.pair first m) (hu : u ∈ pool.pair first n) (hslot : t.slot = u.slot)
    (hrb : t.rbStart = u.rbStart) : m = n := by
  obtain ⟨b, a, hlands, rfl⟩ := mem_pair.1 ht
  obtain ⟨b', a', hlands', rfl⟩ := mem_pair.1 hu
  obtain ⟨hb, ha⟩ := hlands.lt hm
  obtain ⟨hb', ha'⟩ := hlands'.lt hn
  obtain rfl := (h.tile_slot_inj hb hb').1 hslot
  obtain rfl := (h.tile_rbStart_inj ha ha').1 hrb
  exact Lands.unique hm hn hlands hlands'

/-! ## The PRBs of one slot -/

theorem nodup_rbsIn (h : Accepted record pool) (s : Slot) (hn : n < pool.controlCount) : (pool.rbsIn s n).Nodup := by
  obtain ⟨t, u, hpair, -, -, hne, -⟩ := h.pair_apart (pool.currentPeriod s) hn
  have hall : ((pool.pair (pool.currentPeriod s) n).map (·.rbStart)).Nodup := by simp [hpair, hne]
  exact hall.sublist (List.filter_sublist.map _)

theorem disjoint_rbsIn (h : Accepted record pool) (s : Slot) (hm : m < pool.controlCount)
    (hn : n < pool.controlCount) (hne : m ≠ n) : (pool.rbsIn s m).Disjoint (pool.rbsIn s n) := by
  intro rb hrb hrb'
  simp only [rbsIn, List.mem_map, List.mem_filter, decide_eq_true_eq] at hrb hrb'
  obtain ⟨t, ⟨ht, hslot⟩, hrb⟩ := hrb
  obtain ⟨u, ⟨hu, hslot'⟩, hrb'⟩ := hrb'
  exact hne (h.resource_unique hm hn ht hu (hslot.trans hslot'.symm) (hrb.trans hrb'.symm))

theorem exists_mem_rbsIn (h : Accepted record pool) (hs : pool.isControlSlot s = true) (rb : Nat) :
    (∃ n < pool.controlCount, rb ∈ pool.rbsIn s n) ↔
      rb ∈ (pool.controlOpportunities s).take (2 * (pool.control.rbs.length / 2)) := by
  obtain ⟨b, hb, hoffset⟩ := mem_iff_getD.1 ((isControlSlot_iff pool s).1 hs)
  have htile (a : Nat) : (pool.tile (pool.currentPeriod s) b a).slot = s := by
    rw [tile, hoffset, h.currentPeriod_add]
  rw [controlOpportunities, if_pos hs, mem_take_iff_getD (by omega)]
  simp only [rbsIn, List.mem_map, List.mem_filter, decide_eq_true_eq, mem_pair]
  constructor
  · rintro ⟨n, hn, _, ⟨⟨b', a, hlands, rfl⟩, -⟩, rfl⟩
    exact ⟨a, (Lands.lt hlands hn).2, rfl⟩
  · rintro ⟨a, ha, rfl⟩
    obtain ⟨n, hn, hlands⟩ := Lands.exists_of_lt hb ha
    exact ⟨n, hn, _, ⟨⟨b, a, hlands, rfl⟩, htile a⟩, rfl⟩

theorem rbsIn_perm (h : Accepted record pool) (hs : pool.isControlSlot s = true) :
    ((List.range pool.controlCount).flatMap (pool.rbsIn s)).Perm
      ((pool.controlOpportunities s).take (2 * (pool.control.rbs.length / 2))) := by
  have hrbs : (pool.controlOpportunities s).Nodup := by
    rw [controlOpportunities, if_pos hs]
    exact h.controlRbs_sorted.nodup
  have hnodup : ((List.range pool.controlCount).flatMap (pool.rbsIn s)).Nodup := by
    rw [List.nodup_flatMap]
    refine ⟨fun n hn => h.nodup_rbsIn s (List.mem_range.1 hn), ?_⟩
    refine List.nodup_range.pairwise_of_forall_ne fun m hm n hn hne => ?_
    exact h.disjoint_rbsIn s (List.mem_range.1 hm) (List.mem_range.1 hn) hne
  rw [List.perm_ext_iff_of_nodup hnodup (hrbs.sublist (List.take_sublist ..))]
  intro rb
  rw [← h.exists_mem_rbsIn hs, List.mem_flatMap]
  simp only [List.mem_range]

end Accepted

/-- The resources of a period share no slot and PRB, and in each control slot they have all the PRBs between them but
an odd last one. -/
theorem control_tiled (h : ofRecord record = .ok pool) :
    (∀ first n, n < pool.controlCount →
      ∃ t u, pool.controlPlacements first n = .ok [t, u] ∧ t.rbCount = 1 ∧ u.rbCount = 1 ∧ t.rbStart ≠ u.rbStart ∧
        (1 < pool.control.offsets.length → t.slot ≠ u.slot)) ∧
    (∀ first m n ts us, m ≠ n → pool.controlPlacements first m = .ok ts → pool.controlPlacements first n = .ok us →
      ∀ t ∈ ts, ∀ u ∈ us, ¬(t.slot = u.slot ∧ t.rbStart = u.rbStart)) ∧
    ∀ s, pool.isControlSlot s = true → ∃ rbs : Nat → List Nat,
      (∀ n < pool.controlCount, pool.controlRbs s n = .ok (rbs n)) ∧
      (∀ m < pool.controlCount, ∀ n < pool.controlCount, m ≠ n → (rbs m).Disjoint (rbs n)) ∧
      ((List.range pool.controlCount).flatMap rbs).Perm
        ((pool.controlOpportunities s).take (2 * (pool.control.rbs.length / 2))) := by
  have haccepted := accepted_of_ofRecord h
  refine ⟨fun first n hn => ?_, fun first m n ts us hne hts hus t ht u hu hsame => ?_, fun s hs => ?_⟩
  · rw [controlPlacements_eq first hn]
    obtain ⟨t, u, hpair, hrest⟩ := haccepted.pair_apart first hn
    exact ⟨t, u, congrArg Except.ok hpair, hrest⟩
  · obtain ⟨hm, rfl⟩ := of_controlPlacements hts
    obtain ⟨hn, rfl⟩ := of_controlPlacements hus
    exact hne (haccepted.resource_unique hm hn ht hu hsame.1 hsame.2)
  · exact ⟨pool.rbsIn s, fun n hn => controlRbs_eq s hn,
      fun m hm n hn hne => haccepted.disjoint_rbsIn s hm hn hne, haccepted.rbsIn_perm hs⟩

theorem control_tiled_cutPool : ∃ rbs : Nat → List Nat,
    (∀ n < 2, cutPool.controlRbs (.ofIndex 90) n = .ok (rbs n)) ∧
    (∀ m < 2, ∀ n < 2, m ≠ n → (rbs m).Disjoint (rbs n)) ∧ ((List.range 2).flatMap rbs).Perm [0, 1] :=
  (control_tiled cutPool_ofRecord).2.2 (.ofIndex 90) (by decide)

end ResourcePool

end Sidelink
