import Mathlib.Tactic.SplitIfs
import Sidelink.Flow.Basic
import Sidelink.Proofs.Selection.Draw
import Sidelink.Proofs.Slot

/-!
# Calls on a flow

A flow is used through four calls. For each of them it is said once what it changes, so that nothing later has to
open it again.
-/

namespace Sidelink

theorem Trigger.classify_eq_none {late large : Bool} : classify late large = none ↔ late = false ∧ large = false := by
  cases late <;> cases large <;> simp [classify]

/-! ## A waiting packet -/

namespace QueuedPacket

theorem due_of_unsent {q : QueuedPacket} (h : q.initialSent = false) (now : Slot) :
    q.due now = if q.initial.slot = now then some (q.initial, false) else none := by
  simp [due, h]

theorem due_of_sent {q : QueuedPacket} (h : q.initialSent = true) {now : Slot} {r : Resource} {again : Bool}
    (hdue : q.due now = some (r, again)) : again = true := by
  unfold due at hdue
  rw [if_pos h] at hdue
  split at hdue
  · simp only [Option.ite_none_right_eq_some, Option.some.injEq, Prod.mk.injEq] at hdue
    exact hdue.2.2.symm
  · simp at hdue

theorem after_cases {q q' : QueuedPacket} {now : Slot} (h : q.after now = some q') :
    (q' = q ∧ q.due now = none) ∨
      (q.initialSent = false ∧ q.initial.slot = now ∧ q' = { q with initialSent := true }) := by
  unfold after at h
  dsimp only at h
  split at h
  · rename_i r hdue
    have hsent : q.initialSent = true := by
      cases hunsent : q.initialSent with
      | true => rfl
      | false => simp [due_of_unsent hunsent] at hdue
    simp [hsent] at h
  · rename_i r hdue
    cases hsent : q.initialSent with
    | true => cases due_of_sent hsent hdue
    | false =>
      rw [due_of_unsent hsent, Option.ite_none_right_eq_some] at hdue
      split at h <;> cases h
      exact .inr ⟨rfl, hdue.1, rfl⟩
  · rename_i hdue
    split at h <;> cases h
    exact .inl ⟨rfl, hdue⟩

theorem after_kept {q q' : QueuedPacket} {now : Slot} (h : q.after now = some q') :
    q'.packet = q.packet ∧ q'.initial = q.initial ∧
      ∀ r, q'.retransmission = some r → q.retransmission = some r := by
  rcases after_cases h with ⟨rfl, -⟩ | ⟨-, -, rfl⟩ <;> simp

theorem after_of_unsent {q : QueuedPacket} {now : Slot} (h : q.initialSent = false) (hslot : q.initial.slot ≠ now) :
    q.after now = some q := by
  unfold after
  rw [due_of_unsent h, if_neg hslot]
  simp [h]

theorem after_of_sent {q : QueuedPacket} {r : Resource} {now : Slot} (h : q.initialSent = true)
    (hr : q.retransmission = some r) (hslot : r.slot ≠ now) : q.after now = some q := by
  unfold after due
  simp [h, hr, hslot]

theorem after_of_first {q : QueuedPacket} {r : Resource} {now : Slot} (h : q.initialSent = false)
    (hr : q.retransmission = some r) (hslot : q.initial.slot = now) :
    q.after now = some { q with initialSent := true } := by
  unfold after
  rw [due_of_unsent h, if_pos hslot]
  simp [hr]

theorem sent_of_after {q q' : QueuedPacket} {now : Slot} (h : q.initialSent = true ∨ q.initial.slot = now)
    (hafter : q.after now = some q') : q'.initialSent = true := by
  rcases after_cases hafter with ⟨rfl, hdue⟩ | ⟨-, -, rfl⟩
  · cases hsent : q'.initialSent with
    | true => rfl
    | false => simp_all [due_of_unsent]
  · rfl

end QueuedPacket

namespace Flow

variable {α : Type}

/-- The packets that wait for their first transmission, at most one. -/
def waiting (f : Flow α) : Nat :=
  match f.queued with
  | some q => if q.initialSent then 0 else 1
  | none => 0

/-! ## A message -/

@[simp] theorem awake_params (f : Flow α) : f.awake.params = f.params := by unfold awake; split <;> rfl
@[simp] theorem awake_history (f : Flow α) : f.awake.history = f.history := by unfold awake; split <;> rfl

@[simp] theorem awake_reservation (f : Flow α) : f.awake.reservation = f.reservation := by
  unfold awake; split <;> rfl
@[simp] theorem awake_queued (f : Flow α) : f.awake.queued = f.queued := by unfold awake; split <;> rfl
@[simp] theorem awake_owed (f : Flow α) : f.awake.owed = f.owed := by unfold awake; split <;> rfl
@[simp] theorem awake_stats (f : Flow α) : f.awake.stats = f.stats := by unfold awake; split <;> rfl

def heard (f : Flow α) (h : History α) : Flow α := { f.awake with history := h }

theorem heard_eq (f : Flow α) (history : History α) : ∃ phase, f.heard history = { f with history, phase } := by
  unfold heard awake
  split
  · exact ⟨.sensing, rfl⟩
  · exact ⟨f.phase, rfl⟩

theorem sense_eq (f : Flow α) (r : Report α) :
    f.sense r = (f.history.record (ε := FlowError) r f.params.subchannelSize).map f.heard := by
  unfold sense heard
  dsimp only
  rw [awake_params, awake_history]
  rfl

theorem sense_heard {f f' : Flow α} {r : Report α} (h : f.sense r = .ok f') :
    ∃ history, f.history.record (ε := FlowError) r f.params.subchannelSize = .ok history ∧ f' = f.heard history := by
  rw [sense_eq] at h
  cases hrecord : f.history.record (ε := FlowError) r f.params.subchannelSize with
  | error e => rw [hrecord] at h; cases h
  | ok history =>
    rw [hrecord] at h
    cases h
    exact ⟨history, rfl, rfl⟩

/-! ## An occasion -/

def countOccasion (s : FlowStats) (used : Bool) : FlowStats :=
  if used then { s with usedReservations := s.usedReservations + 1 }
  else { s with unutilizedReservations := s.unutilizedReservations + 1 }

section

variable [Analysis α] {γ : Type} [RandomSource γ]

variable (γ) in
/-- A reservation goes on after an occasion, is kept with a new counter, or is released. -/
inductive Closed (f : Flow α) (r : Reservation) (used : Bool) : Flow α → Prop where
  | runsOn : 1 < r.counter → Closed f r used { f with
      stats := countOccasion f.stats used
      reservation := some (r.advance (f.params.slotsInMs r.rriMs)) }
  | kept {counter : Nat} (g g' : γ) : r.counter ≤ 1 → f.params.dynamicScheduling = false →
      0 < f.params.slotsInMs r.rriMs → drawCounter r.rriMs g = (counter, g') → Closed f r used { f with
      stats := { countOccasion f.stats used with
        keptReservations := (countOccasion f.stats used).keptReservations + 1 }
      reservation := some { r.advance (f.params.slotsInMs r.rriMs) with counter } }
  | released : r.counter ≤ 1 → Closed f r used { f with
      stats := countOccasion f.stats used
      reservation := none
      counterExpired := true
      phase := .sensing }

theorem closeOccasion_closed (f : Flow α) (r : Reservation) (used : Bool) (g : γ) :
    Closed γ f r used (f.closeOccasion r used g).1 := by
  unfold closeOccasion
  dsimp only
  split
  · rename_i hnext
    exact .runsOn (by simp only [Reservation.advance] at hnext; omega)
  · rename_i hnext
    have hcounter : r.counter ≤ 1 := by simp only [Reservation.advance] at hnext; omega
    split
    · rename_i hcond
      simp only [Bool.and_eq_true, Bool.not_eq_true', decide_eq_true_eq] at hcond
      split
      · exact .kept _ _ hcounter hcond.1 hcond.2 rfl
      · exact .released hcounter
    · exact .released hcounter

end

section

variable {γ : Type} [RandomSource γ]

theorem Closed.kept_packets {f f' : Flow α} {r : Reservation} {used : Bool} (h : Closed γ f r used f') :
    f'.queued = f.queued ∧ f'.owed = f.owed := by
  cases h <;> exact ⟨rfl, rfl⟩

theorem Closed.advanced {f f' : Flow α} {r r' : Reservation} {used : Bool} (h : Closed γ f r used f')
    (hr' : f'.reservation = some r') :
    r'.rriMs = r.rriMs ∧ r'.resource = r.resource.shifted (f.params.slotsInMs r.rriMs) ∧
      r'.retransmission = r.retransmission.map (·.shifted (f.params.slotsInMs r.rriMs)) := by
  cases h <;> cases hr' <;> exact ⟨rfl, rfl, rfl⟩

theorem Closed.reservationSize {f f' : Flow α} {r r' : Reservation} {used : Bool} (h : Closed γ f r used f')
    (hr' : f'.reservation = some r') : r'.reservationSize = r.reservationSize := by
  cases h <;> cases hr' <;> rfl

end

/-! ## A slot -/

def served (f : Flow α) (now : Slot) : Flow α :=
  { f with queued := f.queued.bind (·.after now), owed := owedAfter f.owed now }

def noted (f : Flow α) (sent : Option Transmission) (now : Slot) (nowUs : Nat) : Flow α :=
  match sent with
  | some _ => { f with
      history := f.history.recordOwn now nowUs
      stats := { f.stats with transmissions := f.stats.transmissions + 1 } }
  | none => f

@[simp] theorem noted_params (f : Flow α) (sent : Option Transmission) (now : Slot) (nowUs : Nat) :
    (f.noted sent now nowUs).params = f.params := by cases sent <;> rfl
@[simp] theorem noted_reservation (f : Flow α) (sent : Option Transmission) (now : Slot) (nowUs : Nat) :
    (f.noted sent now nowUs).reservation = f.reservation := by cases sent <;> rfl
@[simp] theorem noted_queued (f : Flow α) (sent : Option Transmission) (now : Slot) (nowUs : Nat) :
    (f.noted sent now nowUs).queued = f.queued := by cases sent <;> rfl
@[simp] theorem noted_owed (f : Flow α) (sent : Option Transmission) (now : Slot) (nowUs : Nat) :
    (f.noted sent now nowUs).owed = f.owed := by cases sent <;> rfl

/-- What a slot sends: the first transmission of the queued packet, its second one, or one that is owed. -/
inductive Sent (f : Flow α) (now : Slot) : Transmission → Prop where
  | first {q : QueuedPacket} : f.queued = some q → q.initialSent = false → q.initial.slot = now →
      Sent f now (f.transmission q q.initial false)
  | second {q : QueuedPacket} {r : Resource} : f.queued = some q → q.initialSent = true → q.retransmission = some r →
      r.slot = now → Sent f now (f.transmission q r true)
  | owed {q : QueuedPacket} {r : Resource} : f.owed = some q → q.retransmission = some r → r.slot = now →
      Sent f now (f.transmission q r true)

theorem Sent.slot {f : Flow α} {now : Slot} {t : Transmission} (h : Sent f now t) : t.slot = now := by
  cases h with
  | first _ _ hslot | second _ _ _ hslot | owed _ _ hslot => exact hslot

theorem owed_sent {f : Flow α} {now : Slot} {t : Transmission} (h : f.owedDue now = some t) : Sent f now t := by
  simp only [owedDue, Option.bind_eq_some_iff, Option.ite_none_right_eq_some, Option.some.injEq] at h
  obtain ⟨q, hq, r, hr, hslot, rfl⟩ := h
  exact .owed hq hr hslot

theorem due_sent {f : Flow α} {now : Slot} {t : Transmission} (h : f.due now = some t) : Sent f now t := by
  rw [due, Option.or_eq_some_iff] at h
  rcases h with h | ⟨-, h⟩
  · simp only [queuedDue, Option.bind_eq_some_iff, Option.map_eq_some_iff] at h
    obtain ⟨q, hq, ⟨r, again⟩, hdue, rfl⟩ := h
    unfold QueuedPacket.due at hdue
    split at hdue
    · rename_i hsent
      split at hdue
      · rename_i r' hr
        obtain ⟨hslot, rfl, rfl⟩ : r'.slot = now ∧ r' = r ∧ true = again := by simpa using hdue
        exact .second hq hsent hr hslot
      · simp at hdue
    · rename_i hsent
      obtain ⟨hslot, rfl, rfl⟩ : q.initial.slot = now ∧ q.initial = r ∧ false = again := by simpa using hdue
      exact .first hq (by simpa using hsent) hslot
  · exact owed_sent h

def sentFirst : Option Transmission → Bool
  | some t => !t.isRetransmission
  | none => false

section

variable [Analysis α] {γ : Type} [RandomSource γ]

variable (γ) in
/-- A slot is an occasion of the reservation or it is not. -/
inductive Passed (f : Flow α) (now : Slot) (nowUs : Nat) : Flow α → Prop where
  | occasion {r : Reservation} {f' : Flow α} : f.reservation = some r → r.resource.slot = now →
      Closed γ (f.served now) r (sentFirst (f.due now)) f' → Passed f now nowUs (f'.noted (f.due now) now nowUs)
  | between : (∀ r, f.reservation = some r → r.resource.slot ≠ now) →
      Passed f now nowUs ((f.served now).noted (f.due now) now nowUs)

def settled (f : Flow α) (now : Slot) (g : γ) : Flow α × γ :=
  match f.reservation with
  | some r =>
    if r.resource.slot = now then (f.served now).closeOccasion r (sentFirst (f.due now)) g else (f.served now, g)
  | none => (f.served now, g)

theorem onSlot_eq (f : Flow α) (now : Slot) (nowUs : Nat) (g : γ) :
    f.onSlot now nowUs g =
      (f.due now, (f.settled now g).1.noted (f.due now) now nowUs, (f.settled now g).2) := by
  unfold onSlot settled
  cases f.due now <;> rfl

theorem onSlot_passed {f f' : Flow α} {now : Slot} {nowUs : Nat} {g g' : γ} {sent : Option Transmission}
    (h : f.onSlot now nowUs g = (sent, f', g')) : sent = f.due now ∧ Passed γ f now nowUs f' := by
  rw [onSlot_eq] at h
  obtain ⟨rfl, rfl, -⟩ : f.due now = sent ∧ (f.settled now g).1.noted (f.due now) now nowUs = f' ∧ _ := by
    simpa using h
  refine ⟨rfl, ?_⟩
  unfold settled
  split
  · rename_i r hr
    split
    · rename_i hslot
      exact .occasion hr hslot (closeOccasion_closed ..)
    · rename_i hslot
      refine .between fun r' hr' => ?_
      obtain rfl : r = r' := by simpa [hr] using hr'
      exact hslot
  · rename_i hr
    exact .between fun r' hr' => by simp [hr] at hr'

end

section

variable {γ : Type} [RandomSource γ]

theorem Passed.packets {f f' : Flow α} {now : Slot} {nowUs : Nat} (h : Passed γ f now nowUs f') :
    f'.queued = (f.served now).queued ∧ f'.owed = (f.served now).owed := by
  cases h with
  | occasion _ _ hclosed =>
    obtain ⟨hqueued, howed⟩ := hclosed.kept_packets
    rw [noted_queued, noted_owed]
    exact ⟨hqueued, howed⟩
  | between => exact ⟨noted_queued .., noted_owed ..⟩

end

/-! ## A packet -/

section

variable (f : Flow α) (q : QueuedPacket)

@[simp] theorem queue_params : (f.queue q).params = f.params := by
  unfold queue; dsimp only; split <;> (try split_ifs) <;> rfl
@[simp] theorem queue_history : (f.queue q).history = f.history := by
  unfold queue; dsimp only; split <;> (try split_ifs) <;> rfl
@[simp] theorem queue_reservation : (f.queue q).reservation = f.reservation := by
  unfold queue; dsimp only; split <;> (try split_ifs) <;> rfl
@[simp] theorem queue_phase : (f.queue q).phase = f.phase := by
  unfold queue; dsimp only; split <;> (try split_ifs) <;> rfl
@[simp] theorem queue_queued : (f.queue q).queued = some q := by
  unfold queue; dsimp only; split <;> (try split_ifs) <;> rfl

theorem queue_stats : (f.queue q).stats = { f.stats with droppedPackets := f.stats.droppedPackets + f.waiting } := by
  unfold queue waiting
  cases f.queued with
  | none => rfl
  | some old =>
    rcases old with ⟨_, _, retransmission, _ | _⟩
    · rfl
    · cases retransmission <;> rfl

end

def halfSent (f : Flow α) : Option QueuedPacket :=
  f.queued.filter fun q => q.initialSent && q.retransmission.isSome

theorem halfSent_eq_some {f : Flow α} {q : QueuedPacket} :
    f.halfSent = some q ↔ f.queued = some q ∧ q.initialSent = true ∧ q.retransmission.isSome = true := by
  simp [halfSent, Option.filter_eq_some_iff]

theorem owed_queue (f : Flow α) (q : QueuedPacket) : (f.queue q).owed = f.halfSent.or f.owed := by
  unfold queue halfSent
  cases f.queued with
  | none => rfl
  | some old =>
    rcases old with ⟨_, _, retransmission, _ | _⟩
    · rfl
    · cases retransmission <;> rfl

/-- The flow as it takes in a packet: awake, and with nothing that is older than the sensing window. -/
def refreshed (f : Flow α) (nowUs : Nat) : Flow α :=
  { f.awake with history := f.awake.history.prune nowUs f.awake.params.sensingWindowUs }

/-- The flow as it makes a reservation. Without one there the expired counter is taken. -/
def selecting (f : Flow α) (nowUs : Nat) : Flow α :=
  if (f.refreshed nowUs).reservation.isNone then { f.refreshed nowUs with counterExpired := false }
  else f.refreshed nowUs

section

variable (f : Flow α) (nowUs : Nat)

@[simp] theorem refreshed_params : (f.refreshed nowUs).params = f.params := by
  unfold refreshed awake; split <;> rfl
@[simp] theorem refreshed_history : (f.refreshed nowUs).history = f.history.prune nowUs f.params.sensingWindowUs := by
  unfold refreshed awake; split <;> rfl
@[simp] theorem refreshed_reservation : (f.refreshed nowUs).reservation = f.reservation := by
  unfold refreshed awake; split <;> rfl
@[simp] theorem refreshed_queued : (f.refreshed nowUs).queued = f.queued := by
  unfold refreshed awake; split <;> rfl
@[simp] theorem refreshed_owed : (f.refreshed nowUs).owed = f.owed := by
  unfold refreshed awake; split <;> rfl
@[simp] theorem refreshed_counterExpired : (f.refreshed nowUs).counterExpired = f.counterExpired := by
  unfold refreshed awake; split <;> rfl
@[simp] theorem refreshed_stats : (f.refreshed nowUs).stats = f.stats := by
  unfold refreshed awake; split <;> rfl

@[simp] theorem selecting_params : (f.selecting nowUs).params = f.params := by
  unfold selecting; split <;> simp
@[simp] theorem selecting_history : (f.selecting nowUs).history = (f.refreshed nowUs).history := by
  unfold selecting; split <;> rfl
@[simp] theorem selecting_reservation : (f.selecting nowUs).reservation = f.reservation := by
  unfold selecting; split <;> simp
@[simp] theorem selecting_queued : (f.selecting nowUs).queued = f.queued := by
  unfold selecting; split <;> simp
@[simp] theorem selecting_owed : (f.selecting nowUs).owed = f.owed := by
  unfold selecting; split <;> simp
@[simp] theorem selecting_stats : (f.selecting nowUs).stats = f.stats := by
  unfold selecting; split <;> simp

end

theorem eq_of_planWith_reuse {params : FlowParams α} {r r' : Reservation} {now : Slot} {p : Packet}
    (h : planWith params r now p = .reuse r') : r' = r := by
  unfold planWith at h
  dsimp only at h
  split at h
  · split at h <;> simp_all
  · split at h <;> simp_all
  · simp at h
  · split at h
    · simp at h
    · split at h <;> simp_all

/-- A reservation is used again only for a packet that it serves in time and that has room in it. -/
theorem of_planWith_reuse {params : FlowParams α} {r r' : Reservation} {now : Slot} {p : Packet}
    (h : planWith params r now p = .reuse r') :
    params.t1 ≤ r.resource.slot.since now ∧ r.resource.slot.since now < params.slotsInMs p.pdbMs ∧
      p.size ≤ r.reservationSize := by
  unfold planWith at h
  dsimp only at h
  split at h
  · split at h
    · rename_i htrigger
      rw [Trigger.classify_eq_none] at htrigger
      simpa [and_assoc] using htrigger
    · cases h
  · split at h
    · rename_i htrigger
      rw [Trigger.classify_eq_none] at htrigger
      simpa [and_assoc] using htrigger
    · cases h
  · cases h
  · split at h
    · cases h
    · rename_i hlate
      split at h
      · cases h
      · rename_i hlarge
        simp at hlate hlarge
        omega

theorem planWith_of_plan_reuse {f : Flow α} {now : Slot} {p : Packet} {r : Reservation}
    (h : f.plan now p = .reuse r) : f.reservation = some r ∧ planWith f.params r now p = .reuse r := by
  unfold plan at h
  split at h
  · rename_i r' hr
    obtain rfl := eq_of_planWith_reuse h
    exact ⟨hr, h⟩
  · simp at h

theorem planWith_of_plan_drop {f : Flow α} {now : Slot} {p : Packet} (h : f.plan now p = .drop) :
    ∃ r, f.reservation = some r ∧ planWith f.params r now p = .drop := by
  unfold plan at h
  split at h
  · rename_i r hr
    exact ⟨r, hr, h⟩
  · simp at h

def reserved (f : Flow α) (p : Packet) (trigger : Option Trigger) (c : Choice α) : Flow α :=
  { f with
    stats := countSelection f.stats c.set trigger
    reservation := some c.reservation
    phase := .reserved : Flow α }.queue ⟨p, c.reservation.resource, c.reservation.retransmission, false⟩

@[simp] theorem reserved_params (f : Flow α) (p : Packet) (trigger : Option Trigger) (c : Choice α) :
    (f.reserved p trigger c).params = f.params := queue_params ..
@[simp] theorem reserved_history (f : Flow α) (p : Packet) (trigger : Option Trigger) (c : Choice α) :
    (f.reserved p trigger c).history = f.history := queue_history ..
@[simp] theorem reserved_reservation (f : Flow α) (p : Packet) (trigger : Option Trigger) (c : Choice α) :
    (f.reserved p trigger c).reservation = some c.reservation := queue_reservation ..

theorem of_inOrder {P : Resource → Prop} (now : Slot) {chosen : Resource} {other : Option Resource}
    (hchosen : P chosen) (hother : ∀ x, other = some x → P x) :
    P (inOrder now chosen other).1 ∧ ∀ x, (inOrder now chosen other).2 = some x → P x := by
  cases other with
  | none => exact ⟨hchosen, fun x hx => by cases hx⟩
  | some other =>
    have hthere : P other := hother other rfl
    unfold inOrder
    dsimp only
    split_ifs
    · exact ⟨hthere, fun x hx => by cases hx; exact hchosen⟩
    · exact ⟨hchosen, fun x hx => by cases hx; exact hthere⟩

theorem inOrder_lt {now : Slot} {chosen x : Resource} {other : Option Resource}
    (hother : ∀ y, other = some y → y.slot ≠ chosen.slot) (hx : (inOrder now chosen other).2 = some x) :
    (inOrder now chosen other).1.slot.since now < x.slot.since now := by
  cases other with
  | none => cases hx
  | some y =>
    have hne : y.slot.since now ≠ chosen.slot.since now := fun h => hother y rfl (Slot.since_left_inj.1 h)
    unfold inOrder at hx ⊢
    dsimp only at hx ⊢
    split_ifs at hx ⊢ with hearlier
    · cases hx
      exact hearlier
    · cases hx
      dsimp only
      omega

theorem newCounter_between {γ : Type} [RandomSource γ] (params : FlowParams α) (rriMs : Nat) (g : γ) :
    1 ≤ (newCounter params rriMs g).1 ∧ (newCounter params rriMs g).1 ≤ 75 := by
  unfold newCounter
  split
  · simp
  · have := drawCounter_between rriMs g
    omega

theorem newCounter_of_single {γ : Type} [RandomSource γ] {params : FlowParams α} {rriMs : Nat}
    (h : params.dynamicScheduling = true ∨ rriMs = 0) (g : γ) : newCounter params rriMs g = (1, g) := by
  unfold newCounter
  rw [if_pos (by simpa using h)]

section

variable [Analysis α] {γ : Type} [RandomSource γ]

theorem mem_of_sizing {params : FlowParams α} {pool : ResourcePool} {p : Packet} {allocation : Allocation}
    (h : sizing params pool p = .ok allocation) : p.rriMs ∈ allowedIntervalsMs := by
  unfold sizing at h
  split at h
  · cases h
  · rename_i hallowed
    simpa using hallowed

/-- A packet is dropped, uses the reservation that is there, or gets a new one if one can be made. -/
inductive Handed (f : Flow α) (now : Slot) (nowUs : Nat) (p : Packet) (pool : ResourcePool) (g : γ) :
    Except FlowError Decision → Flow α → γ → Prop where
  | dropped {r : Reservation} : f.reservation = some r → planWith f.params r now p = .drop →
      Handed f now nowUs p pool g (.ok .dropped) { f.refreshed nowUs with
        stats := { f.stats with droppedPackets := f.stats.droppedPackets + 1 } } g
  | reused {r : Reservation} : f.reservation = some r → planWith f.params r now p = .reuse r →
      Handed f now nowUs p pool g (.ok (.scheduled r.resource.slot none))
        ({ f.refreshed nowUs with reservation := some { r with packetSize := p.size } : Flow α }.queue
          ⟨p, r.resource, r.retransmission, false⟩) g
  | selected {trigger : Option Trigger} {c : Choice α} {g' : γ} : f.plan now p = .reselect trigger →
      (f.refreshed nowUs).choose now nowUs p pool g = (.ok c, g') →
      Handed f now nowUs p pool g (.ok (.scheduled c.reservation.resource.slot trigger))
        ((f.selecting nowUs).reserved p trigger c) g'
  | refused {trigger : Option Trigger} {e : FlowError} {g' : γ} : f.plan now p = .reselect trigger →
      (f.refreshed nowUs).choose now nowUs p pool g = (.error e, g') →
      Handed f now nowUs p pool g (.error e) { f.selecting nowUs with
        phase := if f.reservation.isSome then .reserved else .sensing } g'

/-- A reservation to be made: the packet is sized, and a resource and perhaps a second one are drawn from the
candidates, for which the number of occasions counts. -/
inductive Chosen (f : Flow α) (now : Slot) (nowUs : Nat) (p : Packet) (pool : ResourcePool) (g : γ) :
    Choice α → γ → Prop where
  | drawn {allocation : Allocation} {counter : Nat} {set : CandidateSet α} {chosen : Resource}
      {other : Option Resource} {g₁ g₂ g₃ : γ} : sizing f.params pool p = .ok allocation →
      newCounter f.params p.rriMs g = (counter, g₁) →
      candidates pool f.history f.params ⟨now, nowUs, p.pdbMs, allocation.subchannels, p.rriMs, counter⟩ = .ok set →
      drawResource set.resources f.params.ranking f.history (f.params.slotsInMs 1) g₁ = (.ok chosen, g₂) →
      (if f.params.blindRetransmission then drawRetransmission set.resources chosen g₂ else (none, g₂)) =
        (other, g₃) →
      Chosen f now nowUs p pool g ⟨set, {
        resource := (inOrder now chosen other).1, retransmission := (inOrder now chosen other).2, counter
        rriMs := p.rriMs, packetSize := p.size, reservationSize := allocation.tbsBytes, traffic := p.traffic
        allocation }⟩ g₃

theorem choose_chosen {f : Flow α} {now : Slot} {nowUs : Nat} {p : Packet} {pool : ResourcePool} {choice : Choice α}
    {g g' : γ} (h : f.choose now nowUs p pool g = (.ok choice, g')) : Chosen f now nowUs p pool g choice g' := by
  unfold choose at h
  dsimp -iota only at h
  split at h
  · cases h
  · rename_i hsizing
    split at h
    rename_i hcounter
    split at h
    · cases h
    · rename_i hset
      split at h
      · cases h
      · rename_i hdraw
        split at h
        rename_i hother
        split at h
        rename_i resource retransmission horder
        cases h
        have hfirst := congrArg Prod.fst horder
        have hsecond := congrArg Prod.snd horder
        dsimp only at hfirst hsecond
        subst hfirst hsecond
        exact .drawn hsizing hcounter hset hdraw hother

theorem choose_drawn {f : Flow α} {now : Slot} {nowUs : Nat} {p : Packet} {pool : ResourcePool} {choice : Choice α}
    {g g' : γ} (h : f.choose now nowUs p pool g = (.ok choice, g')) :
    (∃ request : Request, request.now = now ∧ request.nowUs = nowUs ∧ request.pdbMs = p.pdbMs ∧
      candidates pool f.history f.params request = .ok choice.set) ∧
    choice.reservation.resource ∈ choice.set.resources ∧
      ∀ x, choice.reservation.retransmission = some x → x ∈ choice.set.resources := by
  cases choose_chosen h with
  | @drawn allocation counter set chosen other _ _ _ _ _ hset hdraw hother =>
    have hmem : ∀ x, other = some x → x ∈ set.resources := by
      rintro x rfl
      split at hother
      · exact mem_of_drawRetransmission hother
      · cases hother
    exact ⟨⟨_, rfl, rfl, rfl, hset⟩, of_inOrder now (mem_of_drawResource hdraw) hmem⟩

section

variable {f : Flow α} {now : Slot} {nowUs : Nat} {p : Packet} {pool : ResourcePool} {choice : Choice α} {g g' : γ}

theorem Chosen.candidates (h : Chosen f now nowUs p pool g choice g') :
    candidates pool f.history f.params ⟨now, nowUs, p.pdbMs, choice.reservation.allocation.subchannels,
      choice.reservation.rriMs, choice.reservation.counter⟩ = .ok choice.set := by
  cases h with
  | drawn _ _ hset => exact hset

theorem Chosen.sized (h : Chosen f now nowUs p pool g choice g') :
    sizing f.params pool p = .ok choice.reservation.allocation ∧ choice.reservation.rriMs = p.rriMs ∧
      choice.reservation.reservationSize = choice.reservation.allocation.tbsBytes := by
  cases h with
  | drawn hsizing => exact ⟨hsizing, rfl, rfl⟩

end

theorem Chosen.later {f : Flow α} {now : Slot} {nowUs : Nat} {p : Packet} {pool : ResourcePool} {choice : Choice α}
    {g g' : γ} {x : Resource} (h : Chosen f now nowUs p pool g choice g')
    (hx : choice.reservation.retransmission = some x) :
    choice.reservation.resource.slot.since now < x.slot.since now := by
  cases h with
  | drawn _ _ _ _ hother =>
    refine inOrder_lt ?_ hx
    rintro y rfl
    split at hother
    · exact slot_ne_of_drawRetransmission hother
    · cases hother

theorem choose_congr {f f' : Flow α} (hparams : f.params = f'.params) (hhistory : f.history = f'.history)
    (now : Slot) (nowUs : Nat) (p : Packet) (pool : ResourcePool) (g : γ) :
    f.choose now nowUs p pool g = f'.choose now nowUs p pool g := by
  unfold choose
  rw [hparams, hhistory]

theorem enqueue_eq (f : Flow α) (now : Slot) (nowUs : Nat) (p : Packet) (pool : ResourcePool) (g : γ) :
    f.enqueue now nowUs p pool g =
      match (f.refreshed nowUs).plan now p with
      | .drop => (.ok .dropped, { f.refreshed nowUs with stats := { (f.refreshed nowUs).stats with
          droppedPackets := (f.refreshed nowUs).stats.droppedPackets + 1 } }, g)
      | .reuse r => (.ok (.scheduled r.resource.slot none),
          { f.refreshed nowUs with reservation := some { r with packetSize := p.size } : Flow α }.queue
            ⟨p, r.resource, r.retransmission, false⟩, g)
      | .reselect trigger => (f.selecting nowUs).reselect now nowUs p trigger pool g := rfl

theorem enqueue_handed {f f' : Flow α} {now : Slot} {nowUs : Nat} {p : Packet} {pool : ResourcePool} {g g' : γ}
    {d : Except FlowError Decision} (h : f.enqueue now nowUs p pool g = (d, f', g')) :
    Handed f now nowUs p pool g d f' g' := by
  have hplan : (f.refreshed nowUs).plan now p = f.plan now p := by simp [plan]
  rw [enqueue_eq, hplan] at h
  cases hp : f.plan now p with
  | drop =>
    obtain ⟨r, hr, hdrop⟩ := planWith_of_plan_drop hp
    rw [hp, refreshed_stats] at h
    cases h
    exact .dropped hr hdrop
  | reuse r =>
    obtain ⟨hr, hreuse⟩ := planWith_of_plan_reuse hp
    rw [hp] at h
    cases h
    exact .reused hr hreuse
  | reselect trigger =>
    simp only [hp, reselect] at h
    have hchoose := choose_congr (f := { f.selecting nowUs with phase := .selecting })
      ((selecting_params f nowUs).trans (refreshed_params f nowUs).symm) (selecting_history f nowUs) now nowUs p pool g
    rw [hchoose] at h
    split at h
    · rename_i e g₁ hchoose
      have hheld : (f.selecting nowUs).reservation.isSome = f.reservation.isSome := by rw [selecting_reservation]
      rw [hheld] at h
      cases h
      exact .refused hp hchoose
    · rename_i c g₁ hchoose
      cases h
      exact .selected hp hchoose

theorem Handed.packets {f f' : Flow α} {now : Slot} {nowUs : Nat} {p : Packet} {pool : ResourcePool} {g g' : γ}
    {d : Except FlowError Decision} (h : Handed f now nowUs p pool g d f' g') :
    (f'.queued = f.queued ∧ f'.owed = f.owed) ∨
      ((∃ q, f'.queued = some q ∧ q.initialSent = false) ∧ f'.owed = f.halfSent.or f.owed) := by
  cases h with
  | dropped => exact .inl ⟨refreshed_queued f nowUs, refreshed_owed f nowUs⟩
  | refused => exact .inl ⟨selecting_queued f nowUs, selecting_owed f nowUs⟩
  | reused =>
    refine .inr ⟨⟨_, queue_queued .., rfl⟩, ?_⟩
    rw [owed_queue]
    unfold halfSent
    dsimp only
    rw [refreshed_queued, refreshed_owed]
  | selected =>
    refine .inr ⟨⟨_, queue_queued .., rfl⟩, ?_⟩
    rw [reserved, owed_queue]
    unfold halfSent
    dsimp only
    rw [selecting_queued, selecting_owed]

end

/-! ## The end -/

theorem teardown_stats (f : Flow α) :
    f.teardown.stats = { f.stats with droppedPackets := f.stats.droppedPackets + f.waiting } := by
  unfold teardown waiting
  cases f.queued with
  | none => rfl
  | some q => rcases q with ⟨_, _, _, _ | _⟩ <;> rfl

end Flow

end Sidelink
