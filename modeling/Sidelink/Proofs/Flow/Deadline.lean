import Sidelink.Proofs.Flow.Budget
import Sidelink.Proofs.Numerology

/-!
# Deadlines

Packets come between two slots and reach their flow with the second of them. The slots that the budget of a packet
allows from there on end before its time is over.
-/

namespace Sidelink

variable {α : Type}

/-- A packet came less than a slot before the next one. -/
structure Packet.Fresh (n : Numerology) (pdbMs nextUs : Nat) (p : Packet) : Prop where
  budget : p.pdbMs = pdbMs
  generated : p.generatedUs ≤ nextUs
  recent : nextUs < p.generatedUs + n.slotUs

theorem Packet.Fresh.not_expired {n : Numerology} {pdbMs nextUs : Nat} {p : Packet} (h : p.Fresh n pdbMs nextUs)
    (hpos : 0 < pdbMs) : ¬p.generatedUs + p.pdbMs * 1000 < nextUs := by
  have := n.slotUs_le
  have := h.recent
  have := h.budget
  omega

/-- A first transmission comes inside the delay budget of its packet. -/
def Transmission.InBudget (t : Transmission) (pdbMs nowUs : Nat) : Prop :=
  t.isRetransmission = false → t.generatedUs ≤ nowUs ∧ nowUs - t.generatedUs < pdbMs * 1000

namespace Flow

/-- The first transmission of the queued packet comes while there is time, counted from the next slot on. -/
def Prompt (f : Flow α) (pdbMs nextUs : Nat) : Prop :=
  ∀ q, f.queued = some q → q.initialSent = false → q.packet.generatedUs ≤ nextUs ∧
    nextUs + q.initial.slot.since (f.params.numerology.slotAt nextUs) * f.params.numerology.slotUs <
      q.packet.generatedUs + pdbMs * 1000

variable {f f' : Flow α} {pdbMs nextUs nowUs : Nat}

theorem Prompt.of_same (h : f.Prompt pdbMs nextUs) (hparams : f'.params = f.params) (hqueued : f'.queued = f.queued) :
    f'.Prompt pdbMs nextUs := by
  intro q hq hunsent
  rw [hqueued] at hq
  rw [hparams]
  exact h q hq hunsent

theorem Prompt.sent {t : Transmission} (h : f.Prompt pdbMs nextUs)
    (hsent : Sent f (f.params.numerology.slotAt nextUs) t) : t.InBudget pdbMs nextUs := by
  intro ht
  cases hsent with
  | @first q hq hunsent hslot =>
    obtain ⟨hgenerated, hbefore⟩ := h q hq hunsent
    rw [hslot, Slot.since_self] at hbefore
    change q.packet.generatedUs ≤ nextUs ∧ nextUs - q.packet.generatedUs < pdbMs * 1000
    omega
  | second | owed => cases ht

section

variable {γ : Type} [RandomSource γ]

theorem Prompt.passed (h : f.Prompt pdbMs nextUs)
    (hpassed : Passed γ f (f.params.numerology.slotAt nextUs) nowUs f') :
    f'.Prompt pdbMs (nextUs + f.params.numerology.slotUs) := by
  intro q hq hunsent
  rw [hpassed.packets.1] at hq
  obtain ⟨hq₀, hslot⟩ := unsent_of_served hq hunsent
  obtain ⟨hgenerated, hbefore⟩ := h q hq₀ hunsent
  -- The packet has waited for one slot more, and there is one less to come.
  rw [Slot.since_next hslot, Nat.add_mul] at hbefore
  rw [hpassed.params, Numerology.slotAt_add]
  omega

variable [Analysis α] {p : Packet} {pool : ResourcePool} {g g' : γ} {d : Except FlowError Decision}

theorem Prompt.handed (h : f.Prompt pdbMs nextUs) (hpos : 0 < pdbMs) (hle : pdbMs ≤ 1000)
    (hp : p.Fresh f.params.numerology pdbMs nextUs)
    (hhanded : Handed f (f.params.numerology.slotAt nextUs) nowUs p pool g d f' g') : f'.Prompt pdbMs nextUs := by
  intro q hq hunsent
  rw [hhanded.params]
  rcases hhanded.queued hq with hq₀ | ⟨hintime, -⟩
  · exact h q hq₀ hunsent
  · have hsome := f.params.numerology.slotsInMs_pos hle hpos
    have hfirst : q.initial.slot.since (f.params.numerology.slotAt nextUs) + 1 ≤ f.params.numerology.slotsInMs pdbMs := by
      have := hintime.first
      rw [FlowParams.slotsInMs, hp.budget] at this
      omega
    have hspan := Nat.mul_le_mul_right f.params.numerology.slotUs hfirst
    rw [f.params.numerology.slotsInMs_mul_slotUs hle, Nat.add_mul] at hspan
    have hrecent := hp.recent
    rw [hintime.packet]
    exact ⟨hp.generated, by omega⟩

end

end Flow

end Sidelink
