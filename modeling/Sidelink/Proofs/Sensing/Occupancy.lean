import Mathlib.Data.List.Induction
import Sidelink.Proofs.Scalar.Decibel
import Sidelink.Sensing.Occupancy

/-!
# Marked cells

A cell is marked at a threshold that its power reaches. Above the strongest power nothing is marked.
-/

namespace Sidelink

instance : Std.LawfulEqCmp cellOrder where
  eq_of_compare {a b} h := by
    simp only [cellOrder, compareLex, compareOn, Ordering.then_eq_eq, Nat.compare_eq_eq] at h
    exact Prod.ext h.1 h.2

theorem cellOrder_eq_iff {a b : Nat × Nat} : cellOrder a b = .eq ↔ a = b :=
  ⟨Std.LawfulEqCmp.eq_of_compare, fun h => h ▸ Std.ReflCmp.compare_self⟩

/-- The cell that uses leave, in this order. -/
def Cell.ofHits {α : Type} [Analysis α] (hits : List (Hit α)) : Option (Cell α) :=
  hits.foldl (fun cell hit => some (Cell.hit hit cell)) none

theorem Cell.ofHits_concat {α : Type} [Analysis α] (hits : List (Hit α)) (hit : Hit α) :
    Cell.ofHits (hits ++ [hit]) = some (Cell.hit hit (Cell.ofHits hits)) := by
  rw [Cell.ofHits, List.foldl_append]
  rfl

theorem Cell.ofHits_eq_none_iff {α : Type} [Analysis α] {hits : List (Hit α)} :
    Cell.ofHits hits = none ↔ hits = [] := by
  rcases List.eq_nil_or_concat hits with rfl | ⟨rest, hit, rfl⟩
  · simp [ofHits]
  · simp [ofHits_concat]

/-- The uses of one slot and sub-channel, in the order of the reports. -/
def usesOf {α : Type} (hits : List (Hit α)) (slot : Slot) (subchannel : Nat) : List (Hit α) :=
  hits.filter fun hit => hit.slot = slot ∧ hit.subchannel = subchannel

namespace Occupancy

variable {α : Type}

theorem values_eq (o : Occupancy α) : o.cells.values = o.cells.toList.map Prod.snd := by
  have hfold : o.cells.values = o.cells.foldr (fun _ c l => c :: l) [] := rfl
  rw [hfold, Std.TreeMap.foldr_eq_foldr_toList]
  induction o.cells.toList with
  | nil => rfl
  | cons cell rest ih => simp [ih]

variable [Analysis α]

theorem isMarked_iff {o : Occupancy α} {slot : Slot} {subchannel : Nat} {thresholdDbm : α} :
    o.isMarked slot subchannel thresholdDbm = true ↔
      ∃ p, o.powerDbm? slot subchannel = some p ∧ thresholdDbm ≤ p := by
  unfold isMarked
  cases o.powerDbm? slot subchannel <;> simp

theorem mem_powers {o : Occupancy α} {slot : Slot} {subchannel : Nat} {p : α}
    (h : o.powerDbm? slot subchannel = some p) : p ∈ o.cells.values.map fun c => mwToDbm c.powerMw := by
  unfold powerDbm? at h
  obtain ⟨c, hc, rfl⟩ := Option.map_eq_some_iff.1 h
  refine List.mem_map.2 ⟨c, ?_, rfl⟩
  rw [values_eq]
  exact List.mem_map.2 ⟨_, Std.TreeMap.mem_toList_iff_getElem?_eq_some.2 hc, rfl⟩

theorem powerDbm?_of_strongest_none {o : Occupancy α} (h : o.strongestDbm? = none) (slot : Slot) (subchannel : Nat) :
    o.powerDbm? slot subchannel = none := by
  cases hp : o.powerDbm? slot subchannel with
  | none => rfl
  | some p =>
    have hmem := mem_powers hp
    unfold strongestDbm? at h
    split at h
    · rename_i hnil
      rw [hnil] at hmem
      cases hmem
    · cases h

/-! ## Uses -/

theorem add_cell (o : Occupancy α) (hit : Hit α) (key : Nat × Nat) :
    (o.add hit).cells[key]? =
      if (hit.slot.index, hit.subchannel) = key then some (Cell.hit hit o.cells[key]?) else o.cells[key]? := by
  unfold add
  rw [Std.TreeMap.getElem?_insert]
  simp only [cellOrder_eq_iff]
  split
  · rename_i heq
    rw [heq]
  · rfl

theorem cells_ofHits (hits : List (Hit α)) (slot : Slot) (subchannel : Nat) :
    (ofHits hits).cells[(slot.index, subchannel)]? = Cell.ofHits (usesOf hits slot subchannel) := by
  induction hits using List.reverseRecOn with
  | nil => simp [ofHits, empty, usesOf, Cell.ofHits]
  | append_singleton hits hit ih =>
    have hkey : (hit.slot.index, hit.subchannel) = (slot.index, subchannel) ↔
        hit.slot = slot ∧ hit.subchannel = subchannel := by
      rw [Prod.mk.injEq, Slot.ext_index_iff]
    have hlast : ofHits (hits ++ [hit]) = (ofHits hits).add hit := by
      rw [ofHits, List.foldl_append]
      rfl
    rw [hlast, add_cell, usesOf, List.filter_append]
    by_cases hhit : hit.slot = slot ∧ hit.subchannel = subchannel
    · have hone : [hit].filter (fun hit => hit.slot = slot ∧ hit.subchannel = subchannel) = [hit] := by simp [hhit]
      rw [if_pos (hkey.2 hhit), hone, Cell.ofHits_concat, ih]
      rfl
    · have hnone : [hit].filter (fun hit => hit.slot = slot ∧ hit.subchannel = subchannel) = [] := by simp [hhit]
      rw [if_neg (mt hkey.1 hhit), hnone, List.append_nil, ih]
      rfl

theorem powerDbm?_isSome_iff {hits : List (Hit α)} {slot : Slot} {subchannel : Nat} :
    ((ofHits hits).powerDbm? slot subchannel).isSome ↔
      ∃ hit ∈ hits, hit.slot = slot ∧ hit.subchannel = subchannel := by
  rw [powerDbm?, Option.isSome_map, cells_ofHits, Option.isSome_iff_ne_none, Ne, Cell.ofHits_eq_none_iff, usesOf,
    List.filter_eq_nil_iff]
  simp

def Sound (I : Cell α → Prop) (o : Occupancy α) : Prop :=
  ∀ (key : Nat × Nat) (c : Cell α), o.cells[key]? = some c → I c

def Keeps (I : Cell α → Prop) (hit : Hit α) : Prop :=
  ∀ cell : Option (Cell α), (∀ c, cell = some c → I c) → I (Cell.hit hit cell)

theorem add_sound {I : Cell α → Prop} {o : Occupancy α} {hit : Hit α} (ho : Sound I o) (hkeeps : Keeps I hit) :
    Sound I (o.add hit) := by
  intro key c hc
  rw [add_cell] at hc
  split at hc
  · cases hc
    exact hkeeps _ (ho key)
  · exact ho key c hc

theorem ofHits_cell {I P : Cell α → Prop} {hits : List (Hit α)} {hit : Hit α} (hmem : hit ∈ hits)
    (hkeeps : ∀ hit' ∈ hits, Keeps I hit')
    (hfirst : ∀ cell, (∀ c, cell = some c → I c) → P (Cell.hit hit cell))
    (hlater : ∀ hit' ∈ hits, ∀ c, I c → P c → P (Cell.hit hit' (some c))) :
    ∃ c, (ofHits hits).cells[(hit.slot.index, hit.subchannel)]? = some c ∧ P c := by
  let Holds (o : Occupancy α) : Prop := ∃ c, o.cells[(hit.slot.index, hit.subchannel)]? = some c ∧ P c
  have hfold (rest : List (Hit α)) (hrest : ∀ hit' ∈ rest, hit' ∈ hits) (o : Occupancy α) (ho : Sound I o)
      (h : Holds o ∨ hit ∈ rest) : Holds (rest.foldl add o) := by
    induction rest generalizing o with
    | nil => simpa using h
    | cons next rest ih =>
      have hnext := hrest next (by simp)
      refine ih (fun hit' hhit' => hrest hit' (List.mem_cons_of_mem _ hhit')) _ (add_sound ho (hkeeps next hnext)) ?_
      rcases h with ⟨c, hc, hP⟩ | hhit
      · refine .inl ?_
        by_cases hkey : (next.slot.index, next.subchannel) = (hit.slot.index, hit.subchannel)
        · exact ⟨_, by rw [add_cell, if_pos hkey, hc], hlater next hnext c (ho _ c hc) hP⟩
        · exact ⟨c, by rw [add_cell, if_neg hkey, hc], hP⟩
      · rcases List.mem_cons.1 hhit with rfl | hhit
        · exact .inl ⟨_, by rw [add_cell, if_pos rfl], hfirst _ (ho _)⟩
        · exact .inr hhit
  exact hfold hits (fun _ => id) empty (by simp [Sound, empty]) (.inr hmem)

theorem eq_nil_of_strongest_none {hits : List (Hit α)} (h : (ofHits hits).strongestDbm? = none) : hits = [] := by
  refine List.eq_nil_iff_forall_not_mem.2 fun hit hmem => ?_
  have hused := powerDbm?_isSome_iff.2 ⟨hit, hmem, rfl, rfl⟩
  rw [powerDbm?_of_strongest_none h] at hused
  cases hused

section

variable [Scalar.LawfulOrder α]

theorem not_strongest_lt {o : Occupancy α} {p q : α} {slot : Slot} {subchannel : Nat} (h : o.strongestDbm? = some p)
    (hq : o.powerDbm? slot subchannel = some q) : ¬p < q := by
  have hmem := mem_powers hq
  unfold strongestDbm? at h
  split at h
  · cases h
  · rename_i first rest hpowers
    cases h
    rw [hpowers] at hmem
    exact Scalar.not_foldl_larger_lt first rest q hmem

theorem not_isMarked_of_exhausted {o : Occupancy α} {thresholdDbm : α}
    (h : ∀ p, o.strongestDbm? = some p → p < thresholdDbm) (slot : Slot) (subchannel : Nat) :
    o.isMarked slot subchannel thresholdDbm = false := by
  rw [← Bool.not_eq_true, isMarked_iff]
  rintro ⟨q, hq, hreach⟩
  cases hstrongest : o.strongestDbm? with
  | none => rw [powerDbm?_of_strongest_none hstrongest] at hq; cases hq
  | some p => exact not_strongest_lt hstrongest hq (Scalar.LawfulOrder.lt_of_lt_of_le (h p hstrongest) hreach)

end

/-! ## Powers that reach a threshold -/

theorem keeps_isPower {hit : Hit α} (hpower : IsPower hit.powerMw) : Keeps (IsPower ·.powerMw) hit := by
  intro cell hcell
  unfold Cell.hit
  split
  · exact hpower
  · rename_i c
    split
    · exact (hcell c rfl).larger hpower
    · exact (hcell c rfl).add hpower

variable [ExactDecibels α]

open ExactDecibels

theorem power_le_hit {hit : Hit α} (hpower : IsPower hit.powerMw) {cell : Option (Cell α)}
    (hcell : ∀ c, cell = some c → IsPower c.powerMw) : hit.powerMw ≤ (Cell.hit hit cell).powerMw := by
  unfold Cell.hit
  split
  · exact Scalar.le_refl (isNaN_power hpower)
  · rename_i c
    have hc := hcell c rfl
    split
    · exact Scalar.right_le_larger (isNaN_power hc) (isNaN_power hpower)
    · exact right_le_add hc hpower

theorem cell_le_hit {hit : Hit α} (hpower : IsPower hit.powerMw) {c : Cell α} (hc : IsPower c.powerMw) :
    c.powerMw ≤ (Cell.hit hit (some c)).powerMw := by
  unfold Cell.hit
  dsimp only
  split
  · exact Scalar.left_le_larger (isNaN_power hc)
  · exact left_le_add hc hpower

theorem isMarked_of_hit {hits : List (Hit α)} {hit : Hit α} {thresholdDbm : α}
    (hpowers : ∀ hit' ∈ hits, IsPower hit'.powerMw) (hmem : hit ∈ hits)
    (hreach : thresholdDbm ≤ mwToDbm hit.powerMw) :
    (ofHits hits).isMarked hit.slot hit.subchannel thresholdDbm = true := by
  have hhit := hpowers hit hmem
  obtain ⟨c, hcell, hpower, hle⟩ := ofHits_cell (I := (IsPower ·.powerMw))
    (P := fun c => IsPower c.powerMw ∧ hit.powerMw ≤ c.powerMw) hmem
    (fun hit' hhit' => keeps_isPower (hpowers hit' hhit'))
    (fun cell hcell => ⟨keeps_isPower hhit cell hcell, power_le_hit hhit hcell⟩)
    fun hit' hhit' c hc hle =>
      ⟨keeps_isPower (hpowers hit' hhit') (some c) fun _ heq => Option.some.inj heq ▸ hc,
        Scalar.LawfulOrder.le_trans hle.2 (cell_le_hit (hpowers hit' hhit') hc)⟩
  refine isMarked_iff.2 ⟨mwToDbm c.powerMw, by simp [powerDbm?, hcell], ?_⟩
  exact Scalar.LawfulOrder.le_trans hreach (mwToDbm_mono hhit hpower hle)

end Occupancy

end Sidelink
