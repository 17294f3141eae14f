import Sidelink.Proofs.Sensing.Coverage
import Sidelink.Proofs.Sensing.Powers

/-!
# Merging the powers of a cell

A cell keeps the power, one node and whether another one has come. While a node is alone, its largest power counts.
After that every use adds up, so that a node that comes back is counted again. Without that the power is the one that
the nodes bring together, whatever the order of their reports.
-/

namespace Sidelink

open Scalar Exact

variable {α : Type} [Analysis α] [PositivePowers α]

/-! ## The cell -/

open Uses

section

variable {hits : List (Hit α)} {hit : Hit α} {cell : Cell α}

/-- A cell after some uses. -/
structure Merges (hits : List (Hit α)) (cell : Cell α) : Prop where
  first : ∃ hit ∈ hits, hit.node = cell.node
  merged_iff : cell.merged = true ↔ ∃ hit ∈ hits, hit.node ≠ cell.node
  power : Is cell.powerMw (combined hits + recounted [] hits)

theorem Merges.start (h : hit.IsFinite) : Merges [hit] (Cell.hit hit none) where
  first := ⟨hit, by simp, rfl⟩
  merged_iff := by simp [Cell.hit]
  power := by
    have halone : ∀ other ∈ [hit], other.node = hit.node := by simp
    have hlargest : strongest hit.node [hit] = hit.value := by simp [strongest, h.1.le]
    rw [combined_of_alone halone, hlargest, recounted_of_alone halone, add_zero]
    exact h.2

theorem Merges.larger (h : Merges hits cell) (hhit : hit.IsFinite) (halone : ∀ other ∈ hits, other.node = hit.node) :
    Is (larger cell.powerMw hit.powerMw) (combined (hits ++ [hit]) + recounted [] (hits ++ [hit])) := by
  have hafter : combined (hits ++ [hit]) + recounted [] (hits ++ [hit]) =
      max (combined hits + recounted [] hits) hit.value := by
    have hcombined := combined_concat hits hit
    rw [combined_of_alone halone] at hcombined ⊢
    rw [recounted_concat, recounted_of_alone halone, List.nil_append, again_of_alone halone]
    simp only [add_zero]
    linarith
  rw [hafter]
  exact is_larger h.power hhit.2

theorem Merges.added (h : Merges hits cell) (hhit : hit.IsFinite) (hother : ∃ other ∈ hits, other.node ≠ hit.node) :
    Is (cell.powerMw + hit.powerMw) (combined (hits ++ [hit]) + recounted [] (hits ++ [hit])) := by
  have hafter : combined (hits ++ [hit]) + recounted [] (hits ++ [hit]) =
      combined hits + recounted [] hits + hit.value := by
    have hcombined := combined_concat hits hit
    have hboth := max_add_min (strongest hit.node hits) hit.value
    rw [recounted_concat, List.nil_append, again, if_pos hother, min_comm]
    linarith
  rw [hafter]
  exact is_add h.power hhit.2

theorem Merges.step (h : Merges hits cell) (hhit : hit.IsFinite) :
    Merges (hits ++ [hit]) (Cell.hit hit (some cell)) := by
  obtain ⟨first, hfirst, hnode⟩ := h.first
  unfold Cell.hit
  dsimp only
  split
  · rename_i hsame
    obtain ⟨hsame, hmerged⟩ : cell.node = hit.node ∧ cell.merged = false := by simpa using hsame
    have halone : ∀ other ∈ hits, other.node = cell.node := by
      have hnone := mt h.merged_iff.2 (by simp [hmerged])
      push Not at hnone
      exact hnone
    refine ⟨⟨hit, by simp, hsame.symm⟩, ?_, h.larger hhit fun other hmem => (halone other hmem).trans hsame⟩
    have hnone : ¬∃ other ∈ hits ++ [hit], other.node ≠ cell.node := by
      rintro ⟨other, hmem, hne⟩
      rcases List.mem_append.1 hmem with hmem | hmem
      · exact hne (halone other hmem)
      · exact hne (List.mem_singleton.1 hmem ▸ hsame.symm)
    simp only [hmerged, Bool.false_eq_true, hnone]
  · rename_i hdiffer
    have hother : ∃ other ∈ hits, other.node ≠ hit.node := by
      by_cases hsame : cell.node = hit.node
      · have hmerged : cell.merged = true := by simpa [hsame] using hdiffer
        exact hsame ▸ h.merged_iff.1 hmerged
      · exact ⟨first, hfirst, hnode ▸ hsame⟩
    refine ⟨⟨first, by simp [hfirst], hnode⟩, ?_, h.added hhit hother⟩
    simp only [true_iff]
    by_cases hsame : cell.node = hit.node
    · obtain ⟨other, hmem, hne⟩ := hother
      exact ⟨other, by simp [hmem], hsame ▸ hne⟩
    · exact ⟨hit, by simp, Ne.symm hsame⟩

theorem merges_ofHits (hfinite : ∀ hit ∈ hits, hit.IsFinite) (h : Cell.ofHits hits = some cell) :
    Merges hits cell := by
  induction hits using List.reverseRecOn generalizing cell with
  | nil => cases h
  | append_singleton hits hit ih =>
    have hhit := hfinite hit (by simp)
    rw [Cell.ofHits_concat] at h
    cases h
    cases hbefore : Cell.ofHits hits with
    | none =>
      rw [Cell.ofHits_eq_none_iff.1 hbefore]
      exact .start hhit
    | some before => exact (ih (fun other hmem => hfinite other (by simp [hmem])) hbefore).step hhit

end

/-! ## The map -/

/-- Each cell that is used has the largest powers of its nodes, and what was counted again. -/
structure Occupancy.Merged (o : Occupancy α) (hits : List (Hit α)) : Prop where
  none_iff (slot : Slot) (subchannel : Nat) :
    o.cells[(slot.index, subchannel)]? = none ↔ usesOf hits slot subchannel = []
  power {slot : Slot} {subchannel : Nat} {cell : Cell α} : o.cells[(slot.index, subchannel)]? = some cell →
    Is cell.powerMw (combined (usesOf hits slot subchannel) + recounted [] (usesOf hits slot subchannel))

theorem Occupancy.merged_ofHits {hits : List (Hit α)} (hfinite : ∀ hit ∈ hits, hit.IsFinite) :
    (Occupancy.ofHits hits).Merged hits where
  none_iff slot subchannel := by rw [cells_ofHits, Cell.ofHits_eq_none_iff]
  power {slot subchannel cell} h := by
    rw [cells_ofHits] at h
    exact (merges_ofHits (fun hit hmem => hfinite hit (List.mem_of_mem_filter hmem)) h).power

theorem Occupancy.Merged.power_of_perm {o o' : Occupancy α} {hits hits' : List (Hit α)} {slot : Slot} {subchannel : Nat}
    {cell cell' : Cell α} (h : o.Merged hits) (h' : o'.Merged hits') (hperm : hits.Perm hits')
    (hpos : ∀ hit ∈ hits, 0 < hit.value) (hreturns : ¬Returns (usesOf hits slot subchannel))
    (hreturns' : ¬Returns (usesOf hits' slot subchannel)) (hcell : o.cells[(slot.index, subchannel)]? = some cell)
    (hcell' : o'.cells[(slot.index, subchannel)]? = some cell') :
    ∃ power, Is cell.powerMw power ∧ Is cell'.powerMw power := by
  have huses : (usesOf hits slot subchannel).Perm (usesOf hits' slot subchannel) := hperm.filter _
  have hused : ∀ hit ∈ usesOf hits slot subchannel, 0 < hit.value := fun hit hmem =>
    hpos hit (List.mem_of_mem_filter hmem)
  have hpower := h.power hcell
  have hpower' := h'.power hcell'
  rw [recounted_of_not_returns hused hreturns, add_zero] at hpower
  rw [recounted_of_not_returns (fun hit hmem => hused hit (huses.mem_iff.2 hmem)) hreturns', add_zero,
    ← combined_perm huses] at hpower'
  exact ⟨_, hpower, hpower'⟩

section

variable {ε : Type} [OfFault ε] {h : History α} {p : Projection}

omit [PositivePowers α] in
theorem Sensed.powerMw_of_hits {s : Sensed α} {hits : List (Hit α)} (h : s.hits (ε := ε) p = .ok hits) :
    ∀ hit ∈ hits, hit.powerMw = dbmToMw s.rsrpDbm := by
  unfold Sensed.hits at h
  dsimp only at h
  split at h
  · cases h
    simp
  · obtain ⟨_, -, h⟩ := ok_of_bind h
    obtain ⟨_, -, h⟩ := ok_of_bind h
    obtain ⟨_, -, h⟩ := ok_of_bind h
    cases h
    intro hit hmem
    obtain ⟨_, -, rfl⟩ := List.mem_map.1 hmem
    rfl

/-- Every level that was heard is a finite number. -/
def History.IsFinite (h : History α) : Prop := ∀ s ∈ h.sensed, ∃ r, Is s.rsrpDbm r

theorem History.isFinite_of_hits (hfinite : h.IsFinite) {hits : List (Hit α)} (hhits : h.hits (ε := ε) p = .ok hits) :
    ∀ hit ∈ hits, hit.IsFinite := by
  obtain ⟨lists, hmap, rfl⟩ := ok_of_map hhits
  intro hit hmem
  obtain ⟨list, hlist, hhit⟩ := List.mem_flatten.1 hmem
  obtain ⟨s, hs, hlist⟩ := of_mem_mapM hmap list hlist
  obtain ⟨r, hr⟩ := hfinite s hs
  obtain ⟨power, hpos, hpower⟩ := PositivePowers.is_dbmToMw hr
  rw [Hit.IsFinite, Hit.value, Sensed.powerMw_of_hits hlist hit hhit, value_eq hpower]
  exact ⟨hpos, hpower⟩

omit [PositivePowers α] in
theorem History.hits_of_perm {h' : History α} (hperm : h.sensed.Perm h'.sensed) {hits : List (Hit α)}
    (hhits : h.hits (ε := ε) p = .ok hits) : ∃ hits', h'.hits (ε := ε) p = .ok hits' ∧ hits.Perm hits' := by
  obtain ⟨lists, hmap, rfl⟩ := ok_of_map hhits
  obtain ⟨lists', hmap', hlists⟩ := ok_of_mapM_perm hperm hmap
  refine ⟨lists'.flatten, ?_, hlists.flatten⟩
  rw [History.hits, hmap']
  rfl

/-- The power of a cell is the sum over its nodes of the largest power of each, and besides what a node that comes back
after another one is counted again. In any other order of the reports, the cells to which no node comes back have the
same power. The projection only fails for a report that is out of bounds. -/
theorem History.project_merges (hfinite : h.IsFinite) :
    (∀ o, h.project (ε := ε) p = .ok o → ∃ hits, h.hits (ε := ε) p = .ok hits ∧ o.Merged hits ∧
      (∀ slot subchannel, 0 ≤ recounted [] (usesOf hits slot subchannel) ∧
        (0 < recounted [] (usesOf hits slot subchannel) ↔ Returns (usesOf hits slot subchannel))) ∧
      ∀ h' : History α, h.sensed.Perm h'.sensed → ∃ hits' o', h'.hits (ε := ε) p = .ok hits' ∧
        h'.project (ε := ε) p = .ok o' ∧ ∀ slot subchannel,
          (o.cells[(slot.index, subchannel)]? = none ↔ o'.cells[(slot.index, subchannel)]? = none) ∧
          (¬Returns (usesOf hits slot subchannel) → ¬Returns (usesOf hits' slot subchannel) →
            ∀ cell cell', o.cells[(slot.index, subchannel)]? = some cell →
              o'.cells[(slot.index, subchannel)]? = some cell' →
                ∃ power, Is cell.powerMw power ∧ Is cell'.powerMw power)) ∧
    (0 < p.slotsPerMs → (∀ s ∈ h.sensed, s.InWords p) → ∃ o, h.project (ε := ε) p = .ok o) := by
  refine ⟨fun o hproject => ?_, fun hslots hwords => ⟨_, (h.project_gives p hslots).ok hwords⟩⟩
  obtain ⟨hits, hhits, rfl⟩ := ok_of_map hproject
  have hall := isFinite_of_hits hfinite hhits
  have hmerged := Occupancy.merged_ofHits hall
  refine ⟨hits, hhits, hmerged, fun slot subchannel => ?_, fun h' hperm => ?_⟩
  · have hused : ∀ hit ∈ usesOf hits slot subchannel, 0 < hit.value := fun hit hmem =>
      (hall hit (List.mem_of_mem_filter hmem)).1
    exact ⟨recounted_nonneg hused, recounted_pos_iff hused⟩
  · obtain ⟨hits', hhits', hhitsPerm⟩ := hits_of_perm hperm hhits
    have hmerged' : (Occupancy.ofHits hits').Merged hits' :=
      Occupancy.merged_ofHits fun hit hmem => hall hit (hhitsPerm.mem_iff.2 hmem)
    have hproject' : h'.project (ε := ε) p = .ok (Occupancy.ofHits hits') := by
      rw [History.project, hhits']
      rfl
    refine ⟨hits', _, hhits', hproject', fun slot subchannel => ⟨?_, fun hreturns hreturns' cell cell' => ?_⟩⟩
    · have huses : (usesOf hits slot subchannel).Perm (usesOf hits' slot subchannel) := hhitsPerm.filter _
      rw [hmerged.none_iff, hmerged'.none_iff]
      exact ⟨fun hnil => (hnil ▸ huses).nil_eq.symm, fun hnil => (hnil ▸ huses).eq_nil⟩
    · exact hmerged.power_of_perm hmerged' hhitsPerm (fun hit hmem => (hall hit hmem).1) hreturns hreturns'

end

/-- A report of a node. All nodes are heard alike. -/
def heardAlike (node : Nat) : Sensed Extended where
  node
  slot := .ofIndex 50
  receivedUs := 50000
  subchannel := 0
  rsrpDbm := .finite (-90)
  rriMs := 100
  counter := 5
  isRetransmission := false

def heardFrom (nodes : List Nat) : History Extended where
  sensed := nodes.map heardAlike

/-- The only use that is followed. -/
def usedBy (node : Nat) : Hit Extended := (heardAlike node).useAt (selecting 99) 1

theorem heardFrom_isFinite (nodes : List Nat) : (heardFrom nodes).IsFinite := by
  intro s hs
  obtain ⟨node, -, rfl⟩ := List.mem_map.1 hs
  exact ⟨_, -90, rfl, rfl⟩

theorem heardFrom_inWords (nodes : List Nat) : ∀ s ∈ (heardFrom nodes).sensed, s.InWords (selecting 99) := by
  intro s hs _
  obtain ⟨node, -, rfl⟩ := List.mem_map.1 hs
  show 100 < limit32 ∧ 1 * 100 < limit32
  decide

theorem heardAlike_uses (node : Nat) : (heardAlike node).uses (selecting 99) = [usedBy node] := by
  have hage : (selecting 99).now.since (heardAlike node).slot = 50 := by
    show (Slot.ofIndex 100).since (.ofIndex 50) = 50
    decide
  have hprocessed : (heardAlike node).Processed (selecting 99) := by
    unfold Sensed.Processed
    rw [hage]
    simp [heardAlike, selecting]
  have hfollowed : (heardAlike node).followed (selecting 99) = 1 := rfl
  have hinterval : (heardAlike node).interval (selecting 99) = 100 := rfl
  simp [Sensed.uses, hprocessed, hfollowed, hage, hinterval, usedBy]

theorem heardFrom_hits (nodes : List Nat) :
    (heardFrom nodes).hits (ε := Fault) (selecting 99) = .ok (nodes.map usedBy) := by
  have huses : (heardFrom nodes).uses (selecting 99) = nodes.map usedBy := by
    rw [History.uses, heardFrom, List.flatMap_map, List.map_eq_flatMap]
    exact List.flatMap_congr fun node _ => heardAlike_uses node
  rw [← huses]
  exact ((heardFrom nodes).hits_gives (selecting 99) (by decide)).ok (heardFrom_inWords nodes)

theorem heardFrom_project (nodes : List Nat) :
    (heardFrom nodes).project (ε := Fault) (selecting 99) = .ok (Occupancy.ofHits (nodes.map usedBy)) := by
  rw [History.project, heardFrom_hits]
  rfl

theorem usesOf_usedBy (nodes : List Nat) :
    usesOf (nodes.map usedBy) (Slot.ofIndex 50 + 100) 0 = nodes.map usedBy := by
  refine List.filter_eq_self.2 fun hit hmem => ?_
  obtain ⟨node, -, rfl⟩ := List.mem_map.1 hmem
  exact decide_eq_true ⟨rfl, rfl⟩

theorem Occupancy.Merged.exists_cell {o : Occupancy Extended} {node : Nat} {nodes : List Nat}
    (h : o.Merged ((node :: nodes).map usedBy)) :
    ∃ cell, o.cells[((Slot.ofIndex 50 + 100).index, 0)]? = some cell := by
  refine Option.ne_none_iff_exists'.1 fun hnone => ?_
  rw [h.none_iff, usesOf_usedBy] at hnone
  cases hnone

theorem History.project_merges_twoNodes : ∃ o o', (heardFrom [1, 2]).project (ε := Fault) (selecting 99) = .ok o ∧
    (heardFrom [2, 1]).project (ε := Fault) (selecting 99) = .ok o' ∧
    ∃ cell cell' power, o.cells[((Slot.ofIndex 50 + 100).index, 0)]? = some cell ∧
      o'.cells[((Slot.ofIndex 50 + 100).index, 0)]? = some cell' ∧
      Is cell.powerMw power ∧ Is cell'.powerMw power := by
  obtain ⟨hmerges, hprojects⟩ :=
    History.project_merges (ε := Fault) (p := selecting 99) (heardFrom_isFinite [1, 2])
  obtain ⟨o, ho⟩ := hprojects (by decide) (heardFrom_inWords [1, 2])
  obtain ⟨hits, hhits, hmerged, -, hperm⟩ := hmerges o ho
  obtain ⟨hits', o', hhits', ho', hsame⟩ := hperm (heardFrom [2, 1]) ((List.Perm.swap 2 1 []).map heardAlike)
  obtain rfl := Except.ok.inj ((heardFrom_hits [1, 2]).symm.trans hhits)
  obtain rfl := Except.ok.inj ((heardFrom_hits [2, 1]).symm.trans hhits')
  obtain ⟨hcells, hpowers⟩ := hsame (Slot.ofIndex 50 + 100) 0
  rw [usesOf_usedBy, usesOf_usedBy] at hpowers
  obtain ⟨cell, hcell⟩ := hmerged.exists_cell
  have hused : o.cells[((Slot.ofIndex 50 + 100).index, 0)]? ≠ none := hcell ▸ Option.some_ne_none cell
  obtain ⟨cell', hcell'⟩ := Option.ne_none_iff_exists'.1 (mt hcells.2 hused)
  obtain ⟨power, hpower⟩ := hpowers (not_returns_of_nodup (by decide)) (not_returns_of_nodup (by decide)) cell cell'
    hcell hcell'
  exact ⟨o, o', ho, ho', cell, cell', power, hcell, hcell', hpower⟩

/-- A node that comes back is counted again. -/
theorem History.returning_counted_again : ¬∀ (h : History Extended) (p : Projection) (o : Occupancy Extended)
    (hits : List (Hit Extended)), h.IsFinite → h.hits (ε := Fault) p = .ok hits → h.project (ε := Fault) p = .ok o →
      ∀ slot subchannel cell, o.cells[(slot.index, subchannel)]? = some cell →
        Is cell.powerMw (combined (usesOf hits slot subchannel)) := by
  intro h
  have hfinite := History.isFinite_of_hits (heardFrom_isFinite [1, 2, 1]) (heardFrom_hits [1, 2, 1])
  have hmerged := Occupancy.merged_ofHits hfinite
  obtain ⟨cell, hcell⟩ := hmerged.exists_cell
  have hpower := hmerged.power hcell
  have hclaimed := h _ _ _ _ (heardFrom_isFinite _) (heardFrom_hits [1, 2, 1]) (heardFrom_project _) _ _ _ hcell
  have hreturns : Returns ([1, 2, 1].map usedBy) :=
    ⟨[usedBy 1, usedBy 2], usedBy 1, List.prefix_rfl, ⟨usedBy 2, by simp, by decide⟩, by simp⟩
  have hmore := (recounted_pos_iff fun hit hmem => (hfinite hit hmem).1).2 hreturns
  have hequal := eq_of_is hpower hclaimed
  rw [usesOf_usedBy] at hequal
  linarith

end Sidelink
