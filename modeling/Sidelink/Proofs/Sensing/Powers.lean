import Mathlib.Algebra.BigOperators.Group.Finset.Piecewise
import Mathlib.Algebra.Order.BigOperators.Group.Finset
import Sidelink.Proofs.Scalar.Levels
import Sidelink.Sensing.Occupancy

/-!
# Powers of uses

The power that nodes bring to one slot and sub-channel together is the sum of the largest power of each. Some of it is
counted again when a node comes back after another one.
-/

namespace Sidelink

open Scalar Exact

variable {α : Type} [Analysis α] [PositivePowers α]

/-- The power of a use as a number. -/
noncomputable def Hit.value (hit : Hit α) : ℝ := Exact.value hit.powerMw

/-- A use with a power above zero. -/
def Hit.IsFinite (hit : Hit α) : Prop := 0 < hit.value ∧ Is hit.powerMw hit.value

namespace Uses

/-- The largest power that a node has among some uses, zero if it has none. -/
noncomputable def strongest (node : Nat) (hits : List (Hit α)) : ℝ :=
  ((hits.filter (·.node = node)).map Hit.value).foldl max 0

/-- The largest powers of all nodes together. -/
noncomputable def combined (hits : List (Hit α)) : ℝ :=
  ∑ node ∈ (hits.map Hit.node).toFinset, strongest node hits

open Classical in
/-- What a use counts again, after others: the smaller power of a node that was there before, and not alone. -/
noncomputable def again (before : List (Hit α)) (hit : Hit α) : ℝ :=
  if ∃ other ∈ before, other.node ≠ hit.node then min hit.value (strongest hit.node before) else 0

/-- What uses count again, one after another. -/
noncomputable def recounted (before : List (Hit α)) : List (Hit α) → ℝ
  | [] => 0
  | hit :: rest => again before hit + recounted (before ++ [hit]) rest

/-- A node comes back after another one. -/
def Returns (hits : List (Hit α)) : Prop :=
  ∃ before hit, before ++ [hit] <+: hits ∧ (∃ other ∈ before, other.node ≠ hit.node) ∧ hit.node ∈ before.map Hit.node

/-! ## One more use -/

variable {hits hits' : List (Hit α)} {hit : Hit α} {node : Nat}

theorem strongest_nonneg (node : Nat) (hits : List (Hit α)) : 0 ≤ strongest node hits := by
  unfold strongest
  generalize (hits.filter (·.node = node)).map Hit.value = powers
  induction powers using List.reverseRecOn with
  | nil => simp
  | append_singleton powers p ih => simp [ih]

theorem strongest_concat_self (hits : List (Hit α)) (hit : Hit α) :
    strongest hit.node (hits ++ [hit]) = max (strongest hit.node hits) hit.value := by
  simp [strongest]

theorem strongest_concat_of_ne (hits : List (Hit α)) (h : hit.node ≠ node) :
    strongest node (hits ++ [hit]) = strongest node hits := by
  simp [strongest, h]

theorem strongest_of_not_mem (h : node ∉ hits.map Hit.node) : strongest node hits = 0 := by
  have hnone : hits.filter (·.node = node) = [] := by
    rw [List.filter_eq_nil_iff]
    intro hit hmem heq
    exact h (List.mem_map.2 ⟨hit, hmem, of_decide_eq_true heq⟩)
  rw [strongest, hnone]
  rfl

theorem strongest_pos (hpos : ∀ hit ∈ hits, 0 < hit.value) (h : node ∈ hits.map Hit.node) :
    0 < strongest node hits := by
  induction hits using List.reverseRecOn with
  | nil => simp at h
  | append_singleton hits hit ih =>
    have hhit := hpos hit (by simp)
    by_cases hsame : hit.node = node
    · rw [← hsame, strongest_concat_self]
      exact lt_max_of_lt_right hhit
    · rw [strongest_concat_of_ne hits hsame]
      have hmem : node ∈ hits.map Hit.node := by simpa [Ne.symm hsame] using h
      exact ih (fun other hother => hpos other (by simp [hother])) hmem

theorem combined_eq (hits : List (Hit α)) {nodes : Finset Nat} (h : (hits.map Hit.node).toFinset ⊆ nodes) :
    combined hits = ∑ node ∈ nodes, strongest node hits :=
  Finset.sum_subset h fun _ _ hnot => strongest_of_not_mem (mt List.mem_toFinset.2 hnot)

theorem combined_concat (hits : List (Hit α)) (hit : Hit α) :
    combined (hits ++ [hit]) + strongest hit.node hits =
      combined hits + max (strongest hit.node hits) hit.value := by
  let nodes := ((hits ++ [hit]).map Hit.node).toFinset
  have hmem : hit.node ∈ nodes := by simp [nodes]
  have hsub : (hits.map Hit.node).toFinset ⊆ nodes := by
    intro node hnode
    simp only [nodes, List.map_append, List.toFinset_append]
    exact Finset.mem_union_left _ hnode
  have hothers : ∑ node ∈ nodes.erase hit.node, strongest node (hits ++ [hit]) =
      ∑ node ∈ nodes.erase hit.node, strongest node hits :=
    Finset.sum_congr rfl fun node hnode => strongest_concat_of_ne hits (Finset.ne_of_mem_erase hnode).symm
  have hbefore := Finset.add_sum_erase nodes (fun node => strongest node hits) hmem
  have hafter := Finset.add_sum_erase nodes (fun node => strongest node (hits ++ [hit])) hmem
  rw [combined_eq (hits ++ [hit]) (Finset.Subset.refl nodes), combined_eq hits hsub, ← hbefore, ← hafter, hothers,
    strongest_concat_self]
  ring

theorem combined_of_alone (h : ∀ hit ∈ hits, hit.node = node) : combined hits = strongest node hits := by
  have hsub : (hits.map Hit.node).toFinset ⊆ {node} := by
    intro other hother
    obtain ⟨hit, hmem, rfl⟩ := List.mem_map.1 (List.mem_toFinset.1 hother)
    exact Finset.mem_singleton.2 (h hit hmem)
  rw [combined_eq hits hsub, Finset.sum_singleton]

theorem combined_perm (h : hits.Perm hits') : combined hits = combined hits' := by
  have hstrongest (node : Nat) : strongest node hits = strongest node hits' :=
    ((h.filter _).map _).foldl_eq 0
  unfold combined
  rw [List.toFinset_eq_of_perm _ _ (h.map Hit.node)]
  exact Finset.sum_congr rfl fun node _ => hstrongest node

/-! ## What is counted again -/

theorem recounted_concat (before hits : List (Hit α)) (hit : Hit α) :
    recounted before (hits ++ [hit]) = recounted before hits + again (before ++ hits) hit := by
  induction hits generalizing before with
  | nil => simp [recounted]
  | cons next rest ih => simp [recounted, ih, add_assoc]

theorem again_of_alone (h : ∀ other ∈ hits, other.node = hit.node) : again hits hit = 0 :=
  if_neg fun ⟨other, hmem, hne⟩ => hne (h other hmem)

theorem again_nonneg (hits : List (Hit α)) (hpos : 0 < hit.value) : 0 ≤ again hits hit := by
  unfold again
  split
  · exact le_min hpos.le (strongest_nonneg _ _)
  · exact le_rfl

theorem again_pos_iff (hpos : ∀ other ∈ hits, 0 < other.value) (hhit : 0 < hit.value) :
    0 < again hits hit ↔ (∃ other ∈ hits, other.node ≠ hit.node) ∧ hit.node ∈ hits.map Hit.node := by
  unfold again
  split
  · rename_i hother
    simp only [hother, true_and, lt_min_iff, hhit]
    refine ⟨fun h => ?_, strongest_pos hpos⟩
    by_contra hnot
    exact h.ne' (strongest_of_not_mem hnot)
  · rename_i hnone
    simp [hnone]

theorem recounted_of_alone (h : ∀ hit ∈ hits, hit.node = node) : recounted [] hits = 0 := by
  induction hits using List.reverseRecOn with
  | nil => rfl
  | append_singleton hits hit ih =>
    have halone : ∀ other ∈ hits, other.node = hit.node := fun other hmem =>
      (h other (by simp [hmem])).trans (h hit (by simp)).symm
    rw [recounted_concat, ih fun other hmem => h other (by simp [hmem]), List.nil_append, again_of_alone halone,
      add_zero]

theorem recounted_nonneg (hpos : ∀ hit ∈ hits, 0 < hit.value) : 0 ≤ recounted [] hits := by
  induction hits using List.reverseRecOn with
  | nil => exact le_rfl
  | append_singleton hits hit ih =>
    rw [recounted_concat]
    exact add_nonneg (ih fun other hmem => hpos other (by simp [hmem])) (again_nonneg _ (hpos hit (by simp)))

omit [Analysis α] [PositivePowers α] in
theorem returns_concat_iff : Returns (hits ++ [hit]) ↔
    Returns hits ∨ (∃ other ∈ hits, other.node ≠ hit.node) ∧ hit.node ∈ hits.map Hit.node := by
  constructor
  · rintro ⟨before, back, hprefix, hback⟩
    rcases List.prefix_concat_iff.1 hprefix with heq | hearlier
    · obtain ⟨rfl, hlast⟩ := List.append_inj' heq rfl
      cases hlast
      exact .inr hback
    · exact .inl ⟨before, back, hearlier, hback⟩
  · rintro (⟨before, back, hprefix, hback⟩ | hback)
    · exact ⟨before, back, hprefix.trans (List.prefix_append ..), hback⟩
    · exact ⟨hits, hit, List.prefix_rfl, hback⟩

theorem recounted_pos_iff (hpos : ∀ hit ∈ hits, 0 < hit.value) : 0 < recounted [] hits ↔ Returns hits := by
  induction hits using List.reverseRecOn with
  | nil => simp [recounted, Returns]
  | append_singleton hits hit ih =>
    have hbefore : ∀ other ∈ hits, 0 < other.value := fun other hmem => hpos other (by simp [hmem])
    have hhit := hpos hit (by simp)
    have hsum := recounted_nonneg hbefore
    have hagain := again_nonneg hits hhit
    rw [recounted_concat, List.nil_append, returns_concat_iff, ← ih hbefore, ← again_pos_iff hbefore hhit]
    constructor
    · intro h
      by_contra hnone
      push Not at hnone
      linarith [hnone.1, hnone.2]
    · rintro (h | h) <;> linarith

omit [Analysis α] [PositivePowers α] in
theorem not_returns_of_nodup (h : (hits.map Hit.node).Nodup) : ¬Returns hits := by
  rintro ⟨before, hit, ⟨rest, rfl⟩, -, hback⟩
  rw [List.map_append, List.map_append] at h
  exact (List.nodup_append.1 (List.nodup_append.1 h).1).2.2 _ hback _ (by simp) rfl

theorem recounted_of_not_returns (hpos : ∀ hit ∈ hits, 0 < hit.value) (h : ¬Returns hits) : recounted [] hits = 0 :=
  le_antisymm (not_lt.1 (mt (recounted_pos_iff hpos).1 h)) (recounted_nonneg hpos)

end Uses

end Sidelink
