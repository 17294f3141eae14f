import Sidelink.Proofs.Selection.Draw
import Sidelink.Proofs.Slot

/-!
# Resources of retransmissions

A retransmission is in another slot than the first transmission, and near it wherever a candidate is. The distance that
decides takes the wrap of the ring from the frames alone. It is not always the shorter way, but it tells near slots from
all others.
-/

namespace Sidelink

/-- Slots at most so far apart, whichever of them comes first. -/
def Slot.Within (n : Nat) (a b : Slot) : Prop := a.since b ≤ n ∨ b.since a ≤ n

theorem Slot.gap_le_iff (a b : Slot) : gap a b 512 ≤ maxRetransmissionGap ↔ a.Within maxRetransmissionGap b := by
  have ha := a.frame_lt
  have hb := b.frame_lt
  have := a.subframe_le
  have := b.subframe_le
  simp only [gap, Within, since, index, maxRetransmissionGap]
  split <;> split <;> omega

variable {γ : Type} [RandomSource γ] {resources : List Resource} {initial : Resource} {g : γ}

theorem drawRetransmission_eq_none_iff :
    (drawRetransmission resources initial g).1 = none ↔ ∀ r ∈ resources, r.slot = initial.slot := by
  have hothers : (resources.filter fun c => c.slot ≠ initial.slot) = [] ↔ ∀ r ∈ resources, r.slot = initial.slot := by
    simp
  rw [← hothers]
  unfold drawRetransmission
  dsimp only
  split
  · exact choose_eq_none_iff
  · rename_i hnear
    refine choose_eq_none_iff.trans (iff_of_false hnear fun hnil => hnear ?_)
    rw [hnil]
    rfl

theorem near_of_drawRetransmission {c r : Resource} {g' : γ}
    (h : drawRetransmission resources initial g = (some c, g')) (hr : r ∈ resources) (hne : r.slot ≠ initial.slot)
    (hnear : r.slot.Within maxRetransmissionGap initial.slot) : c.slot.Within maxRetransmissionGap initial.slot := by
  have hother : r ∈ resources.filter fun c => c.slot ≠ initial.slot := List.mem_filter.2 ⟨hr, decide_eq_true hne⟩
  unfold drawRetransmission at h
  dsimp only at h
  split at h
  · rename_i hnone
    have hfar := List.filter_eq_nil_iff.1 hnone r hother
    rw [decide_eq_true_eq, Slot.gap_le_iff] at hfar
    exact absurd hnear hfar
  · have hc := (List.mem_filter.1 (mem_of_choose h)).2
    rwa [decide_eq_true_eq, Slot.gap_le_iff] at hc

/-- Nothing is drawn exactly where there is no other slot, and what is drawn is near the first transmission if anything
is. The frames tell what is near, in either direction and through the wrap. -/
theorem retransmission_near (resources : List Resource) (initial : Resource) (g : γ) :
    ((drawRetransmission resources initial g).1 = none ↔ ∀ r ∈ resources, r.slot = initial.slot) ∧
    (∀ c, (drawRetransmission resources initial g).1 = some c →
      c ∈ resources ∧ c.slot ≠ initial.slot ∧
      ((∃ r ∈ resources, r.slot ≠ initial.slot ∧ r.slot.Within 32 initial.slot) → c.slot.Within 32 initial.slot)) ∧
    ∀ a b : Slot, Slot.gap a b 512 ≤ 32 ↔ a.since b ≤ 32 ∨ b.since a ≤ 32 := by
  refine ⟨drawRetransmission_eq_none_iff, fun c hc => ?_, Slot.gap_le_iff⟩
  have hdraw : drawRetransmission resources initial g = (some c, _) := Prod.ext hc rfl
  refine ⟨mem_of_drawRetransmission hdraw, slot_ne_of_drawRetransmission hdraw, ?_⟩
  rintro ⟨r, hr, hne, hnear⟩
  exact near_of_drawRetransmission hdraw hr hne hnear

end Sidelink
