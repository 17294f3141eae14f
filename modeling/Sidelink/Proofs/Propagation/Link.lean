import Sidelink.Propagation.Link

/-!
# The ends of links

A table has links only between nodes for which one was evaluated, and none of a node that was forgotten since.
-/

namespace Sidelink

instance : Std.LawfulEqCmp NodePair.order where
  eq_of_compare {a b} h := by
    simp only [compareLex, Ordering.then_eq_eq, compareOn, Nat.compare_eq_eq] at h
    cases a
    cases b
    simpa using h

theorem NodePair.mentions_iff {p : NodePair} {id : Nat} : p.mentions id = true ↔ p.low = id ∨ p.high = id := by
  simp [mentions]

theorem NodePair.mentions_of {a b id : Nat} : (NodePair.of a b).mentions id = true ↔ a = id ∨ b = id := by
  rw [mentions_iff, NodePair.of]
  split
  · exact Iff.rfl
  · exact or_comm

namespace LinkTable

variable {α : Type} {t : LinkTable α} {ids : List Nat}

/-- No link mentions any but some nodes. -/
def Joins (t : LinkTable α) (ids : List Nat) : Prop :=
  ∀ pair ∈ t.links, ∀ id, pair.mentions id = true → id ∈ ids

theorem joins_ofParams (params : PropagationParams α) (ids : List Nat) : (ofParams params).Joins ids := by
  simp [Joins, ofParams]

theorem Joins.forget (h : t.Joins ids) (id : Nat) : (t.forget id).Joins (ids.filter (· ≠ id)) := by
  intro pair hpair other hother
  obtain ⟨hmem, hkept⟩ := Std.TreeMap.mem_filter.1 hpair
  rw [Std.TreeMap.getKey_eq, Bool.not_eq_true'] at hkept
  refine List.mem_filter.2 ⟨h pair hmem other hother, decide_eq_true ?_⟩
  rintro rfl
  rw [hother] at hkept
  cases hkept

section

variable [Analysis α] {γ : Type} [RandomSource γ] {a b : Nat}

theorem Joins.update (h : t.Joins ids) (ha : a ∈ ids) (hb : b ∈ ids) (posA posB : Point α) (g : γ) :
    (t.update a posA b posB g).2.1.Joins ids := by
  intro pair hpair id hid
  rcases Std.TreeMap.mem_insert.1 hpair with heq | hpair
  · rw [← Std.LawfulEqCmp.eq_of_compare heq, NodePair.mentions_of] at hid
    rcases hid with rfl | rfl
    · exact ha
    · exact hb
  · exact h pair hpair id hid

theorem Joins.loss (h : t.Joins ids) (ha : a ∈ ids) (hb : b ∈ ids) (posA posB : Point α) (g : γ) :
    (t.loss a posA b posB g).2.1.Joins ids := by
  unfold LinkTable.loss
  split
  · exact h
  · exact h.update ha hb posA posB g

theorem Joins.refresh (h : t.Joins ids) (position? : Nat → Option (Point α)) (g : γ) :
    (t.refresh position? g).1.Joins ids := by
  unfold LinkTable.refresh
  refine List.foldlRecOn (motive := fun s : LinkTable α × γ => s.1.Joins ids) t.links.keys _ h
    fun s hs pair hpair => ?_
  have hends := h pair (Std.TreeMap.mem_keys.1 hpair)
  have hlow := hends pair.low (NodePair.mentions_iff.2 (.inl rfl))
  have hhigh := hends pair.high (NodePair.mentions_iff.2 (.inr rfl))
  dsimp only
  split
  · exact hs.update hlow hhigh _ _ s.2
  · exact hs

end

end LinkTable

end Sidelink
