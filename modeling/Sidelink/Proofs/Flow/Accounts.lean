import Sidelink.Proofs.Flow.Runs

/-!
# Accounts of a flow

Every packet that a flow takes in is waiting for its first transmission, sent or dropped. What is sent is counted, and
a first transmission uses an occasion of the reservation.
-/

namespace Sidelink.Flow

variable {α : Type}

/-- A packet that waits for its first transmission waits for the next occasion of the reservation. -/
def Served (f : Flow α) : Prop :=
  ∀ q, f.queued = some q → q.initialSent = false → ∃ r, f.reservation = some r ∧ r.resource = q.initial

theorem waiting_of_queued {f f' : Flow α} (h : f'.queued = f.queued) : f'.waiting = f.waiting := by
  unfold waiting
  rw [h]

theorem Served.congr {f f' : Flow α} (h : f.Served) (hqueued : f'.queued = f.queued)
    (hreservation : f'.reservation = f.reservation) : f'.Served := by
  intro q hq
  rw [hqueued] at hq
  rw [hreservation]
  exact h q hq

theorem served_of_none {f : Flow α} (h : f.queued = none) : f.Served := by
  intro q hq
  simp [h] at hq

theorem waiting_of_unsent {f : Flow α} {q : QueuedPacket} (h : f.queued = some q) (hunsent : q.initialSent = false) :
    f.waiting = 1 := by
  simp [waiting, h, hunsent]

theorem waiting_eq_zero {f : Flow α} (h : ¬∃ q, f.queued = some q ∧ q.initialSent = false) : f.waiting = 0 := by
  unfold waiting
  split
  · rename_i q hq
    exact if_pos (by simpa [hq] using h)
  · rfl

/-! ## A slot -/

theorem due_of_unsent {f : Flow α} {now : Slot} {q : QueuedPacket} (h : f.queued = some q)
    (hunsent : q.initialSent = false) (hslot : q.initial.slot = now) :
    f.due now = some (f.transmission q q.initial false) := by
  simp [due, queuedDue, h, QueuedPacket.due, hunsent, hslot]

theorem sentFirst_iff (f : Flow α) (now : Slot) :
    sentFirst (f.due now) = true ↔ ∃ q, f.queued = some q ∧ q.initialSent = false ∧ q.initial.slot = now := by
  constructor
  · intro h
    unfold sentFirst at h
    split at h
    · rename_i t ht
      cases due_sent ht with
      | first hq hunsent hslot => exact ⟨_, hq, hunsent, hslot⟩
      | second | owed => simp [transmission] at h
    · simp at h
  · rintro ⟨q, hq, hunsent, hslot⟩
    rw [due_of_unsent hq hunsent hslot]
    rfl

theorem served_queued (f : Flow α) (now : Slot) : (f.served now).queued = f.queued.bind (·.after now) := rfl

theorem unsent_of_served {f : Flow α} {now : Slot} {q : QueuedPacket} (h : (f.served now).queued = some q)
    (hunsent : q.initialSent = false) : f.queued = some q ∧ q.initial.slot ≠ now := by
  rw [served_queued, Option.bind_eq_some_iff] at h
  obtain ⟨q₀, hq₀, hafter⟩ := h
  have hwaits : ¬(q₀.initialSent = true ∨ q₀.initial.slot = now) := fun hdone => by
    simp [QueuedPacket.sent_of_after hdone hafter] at hunsent
  rw [not_or, Bool.not_eq_true] at hwaits
  rw [QueuedPacket.after_of_unsent hwaits.1 hwaits.2] at hafter
  cases hafter
  exact ⟨hq₀, hwaits.2⟩

theorem waiting_served (f : Flow α) (now : Slot) :
    (f.served now).waiting + (sentFirst (f.due now)).toNat = f.waiting := by
  by_cases hwaits : ∃ q, f.queued = some q ∧ q.initialSent = false
  · obtain ⟨q, hq, hunsent⟩ := hwaits
    rw [waiting_of_unsent hq hunsent]
    by_cases hslot : q.initial.slot = now
    · have hnone : (f.served now).waiting = 0 := by
        unfold waiting
        rw [served_queued, hq, Option.bind_some]
        split
        · rename_i q' hafter
          rw [if_pos (QueuedPacket.sent_of_after (.inr hslot) hafter)]
        · rfl
      rw [hnone, (sentFirst_iff f now).2 ⟨q, hq, hunsent, hslot⟩]
      rfl
    · have hkept : (f.served now).queued = some q := by
        rw [served_queued, hq, Option.bind_some, QueuedPacket.after_of_unsent hunsent hslot]
      have hnot : sentFirst (f.due now) = false := by
        rw [← Bool.not_eq_true, sentFirst_iff]
        rintro ⟨q', hq', -, hslot'⟩
        rw [hq] at hq'
        cases hq'
        exact hslot hslot'
      rw [waiting_of_unsent hkept hunsent, hnot]
      rfl
  · have hnot : sentFirst (f.due now) = false := by
      rw [← Bool.not_eq_true, sentFirst_iff]
      rintro ⟨q, hq, hunsent, -⟩
      exact hwaits ⟨q, hq, hunsent⟩
    rw [waiting_eq_zero hwaits, hnot, waiting_eq_zero]
    · rfl
    · rintro ⟨q, hq, hunsent⟩
      exact hwaits ⟨q, (unsent_of_served hq hunsent).1, hunsent⟩

/-! ## Balances -/

/-- The accounts of a flow before and after a call: the packets taken in, the first transmissions and all of them. -/
structure Balanced (f f' : Flow α) (taken first sent : Nat) : Prop where
  served : f'.Served
  packets : f'.stats.droppedPackets + f'.waiting + first = f.stats.droppedPackets + f.waiting + taken
  used : f'.stats.usedReservations = f.stats.usedReservations + first
  transmissions : f'.stats.transmissions = f.stats.transmissions + sent

theorem Balanced.of_eq {f f' : Flow α} (h : f.Served) (hqueued : f'.queued = f.queued)
    (hreservation : f'.reservation = f.reservation) (hstats : f'.stats = f.stats) : Balanced f f' 0 0 0 where
  served := h.congr hqueued hreservation
  packets := by rw [hstats, waiting_of_queued hqueued]
  used := by rw [hstats]; rfl
  transmissions := by rw [hstats]; rfl

theorem heard_balanced {f : Flow α} (h : f.Served) (history : History α) : Balanced f (f.heard history) 0 0 0 :=
  .of_eq h (awake_queued f) (awake_reservation f) (awake_stats f)

theorem Balanced.refl {f : Flow α} (h : f.Served) : Balanced f f 0 0 0 := .of_eq h rfl rfl rfl

theorem sense_balanced {f f' : Flow α} {r : Report α} (hserved : f.Served) (h : f.sense r = .ok f') :
    Balanced f f' 0 0 0 := by
  obtain ⟨history, -, rfl⟩ := sense_heard h
  exact heard_balanced hserved history

theorem teardown_balanced (f : Flow α) : Balanced f f.teardown 0 0 0 where
  served := served_of_none rfl
  packets := by rw [teardown_stats]; rfl
  used := by rw [teardown_stats]; rfl
  transmissions := by rw [teardown_stats]; rfl

section

variable {γ : Type} [RandomSource γ]

theorem Closed.counts {f f' : Flow α} {r : Reservation} {used : Bool} (h : Closed γ f r used f') :
    f'.queued = f.queued ∧ f'.stats.droppedPackets = f.stats.droppedPackets ∧
      f'.stats.usedReservations = f.stats.usedReservations + used.toNat ∧
      f'.stats.transmissions = f.stats.transmissions := by
  cases h <;> cases used <;> exact ⟨rfl, rfl, rfl, rfl⟩

theorem noted_stats (f : Flow α) (sent : Option Transmission) (now : Slot) (nowUs : Nat) :
    (f.noted sent now nowUs).stats =
      { f.stats with transmissions := f.stats.transmissions + sent.isSome.toNat } := by
  cases sent <;> rfl

theorem passed_balanced {f f' : Flow α} {now : Slot} {nowUs : Nat} (hserved : f.Served)
    (h : Passed γ f now nowUs f') :
    Balanced f f' 0 (sentFirst (f.due now)).toNat (f.due now).isSome.toNat := by
  have hwaiting := waiting_served f now
  cases h with
  | @occasion r f₁ hr hslot hclosed =>
    obtain ⟨hqueued, hdropped, hused, htransmissions⟩ := hclosed.counts
    refine ⟨fun q hq hunsent => ?_, ?_, ?_, ?_⟩
    · -- No packet waits any longer for the occasion that is over.
      rw [noted_queued, hqueued] at hq
      obtain ⟨hq₀, hne⟩ := unsent_of_served hq hunsent
      obtain ⟨r', hr', hresource⟩ := hserved q hq₀ hunsent
      rw [hr] at hr'
      cases hr'
      exact absurd (hresource ▸ hslot) hne
    · have hsame : (f₁.noted (f.due now) now nowUs).waiting = (f.served now).waiting :=
        waiting_of_queued (by rw [noted_queued, hqueued])
      rw [noted_stats, hsame]
      simp only [hdropped, served]
      simp only [served] at hwaiting
      omega
    · rw [noted_stats]
      exact hused
    · rw [noted_stats]
      simp only [htransmissions, served]
  | between hnot =>
    -- A first transmission would be the occasion of the reservation.
    have hfirst : sentFirst (f.due now) = false := by
      rw [← Bool.not_eq_true, sentFirst_iff]
      rintro ⟨q, hq, hunsent, hslot⟩
      obtain ⟨r, hr, hresource⟩ := hserved q hq hunsent
      exact hnot r hr (hresource ▸ hslot)
    rw [hfirst] at hwaiting ⊢
    refine ⟨fun q hq hunsent => ?_, ?_, ?_, ?_⟩
    · rw [noted_queued] at hq
      rw [noted_reservation]
      exact hserved q (unsent_of_served hq hunsent).1 hunsent
    · have hsame : ((f.served now).noted (f.due now) now nowUs).waiting = (f.served now).waiting :=
        waiting_of_queued (noted_queued ..)
      rw [noted_stats, hsame]
      simp only [served] at hwaiting ⊢
      simp only [Bool.toNat_false] at hwaiting ⊢
      omega
    · rw [noted_stats]; rfl
    · rw [noted_stats]; rfl

end

/-! ## A packet -/

theorem countSelection_counts (s : FlowStats) (set : CandidateSet α) (trigger : Option Trigger) :
    (countSelection s set trigger).droppedPackets = s.droppedPackets ∧
      (countSelection s set trigger).usedReservations = s.usedReservations ∧
      (countSelection s set trigger).transmissions = s.transmissions := by
  rcases trigger with _ | _ | _ | _ | _ <;> exact ⟨rfl, rfl, rfl⟩

theorem queue_balanced {f f' : Flow α} {q : QueuedPacket} {r : Reservation} (hunsent : q.initialSent = false)
    (hr : f'.reservation = some r) (hresource : r.resource = q.initial) (hqueued : f'.queued = f.queued)
    (hdropped : f'.stats.droppedPackets = f.stats.droppedPackets)
    (hused : f'.stats.usedReservations = f.stats.usedReservations)
    (htransmissions : f'.stats.transmissions = f.stats.transmissions) : Balanced f (f'.queue q) 1 0 0 where
  served := by
    intro q' hq' _
    rw [queue_queued] at hq'
    cases hq'
    exact ⟨r, by rw [queue_reservation, hr], hresource⟩
  packets := by
    rw [waiting_of_unsent (queue_queued f' q) hunsent, queue_stats, waiting_of_queued hqueued]
    simp only [hdropped]
  used := by rw [queue_stats]; exact hused
  transmissions := by rw [queue_stats]; exact htransmissions

section

variable [Analysis α] {γ : Type} [RandomSource γ]

/-- The packets that a call takes in. -/
def taken : Except FlowError Decision → Nat
  | .ok _ => 1
  | .error _ => 0

theorem handed_balanced {f f' : Flow α} {now : Slot} {nowUs : Nat} {p : Packet} {pool : ResourcePool} {g g' : γ}
    {d : Except FlowError Decision} (hserved : f.Served) (h : Handed f now nowUs p pool g d f' g') :
    Balanced f f' (taken d) 0 0 := by
  cases h with
  | dropped =>
    refine ⟨hserved.congr (refreshed_queued f nowUs) (refreshed_reservation f nowUs), ?_, rfl, rfl⟩
    have hwaiting := waiting_of_queued (refreshed_queued f nowUs)
    show f.stats.droppedPackets + 1 + (f.refreshed nowUs).waiting + 0 = _
    rw [hwaiting, taken]
    omega
  | reused hr =>
    refine queue_balanced rfl rfl rfl (refreshed_queued f nowUs) ?_ ?_ ?_ <;>
      exact congrArg _ (refreshed_stats f nowUs)
  | selected =>
    obtain ⟨hdropped, hused, htransmissions⟩ := countSelection_counts (f.selecting nowUs).stats _ _
    have hstats := selecting_stats f nowUs
    exact queue_balanced rfl rfl rfl (selecting_queued f nowUs) (hdropped.trans (congrArg _ hstats))
      (hused.trans (congrArg _ hstats)) (htransmissions.trans (congrArg _ hstats))
  | refused =>
    exact .of_eq hserved (selecting_queued f nowUs) (selecting_reservation f nowUs) (selecting_stats f nowUs)

theorem enqueue_balanced {f f' : Flow α} {now : Slot} {nowUs : Nat} {p : Packet} {pool : ResourcePool} {g g' : γ}
    {d : Except FlowError Decision} (hserved : f.Served) (h : f.enqueue now nowUs p pool g = (d, f', g')) :
    Balanced f f' (taken d) 0 0 :=
  handed_balanced hserved (enqueue_handed h)

theorem onSlot_balanced {f f' : Flow α} {now : Slot} {nowUs : Nat} {g g' : γ} {sent : Option Transmission}
    (hserved : f.Served) (h : f.onSlot now nowUs g = (sent, f', g')) :
    Balanced f f' 0 (sentFirst sent).toNat sent.isSome.toNat := by
  obtain ⟨rfl, hpassed⟩ := onSlot_passed h
  exact passed_balanced hserved hpassed

end

end Sidelink.Flow
