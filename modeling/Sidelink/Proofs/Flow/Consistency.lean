import Sidelink.Proofs.Flow.Accounts
import Sidelink.Proofs.Pool.Accepted
import Sidelink.Proofs.Scalar.Rational

/-!
# The state of a flow

The phase, the reservation and the packets of a flow are changed by different calls, and by calls that fail. Between
two calls they always fit each other.
-/

namespace Sidelink

/-! ## Two resources of a packet -/

/-- The second resource, where there is one, is in another slot. -/
def Resource.Apart (first : Resource) (second : Option Resource) : Prop := ∀ x, second = some x → x.slot ≠ first.slot

theorem Resource.Apart.shifted {first : Resource} {second : Option Resource} (h : first.Apart second) (n : Nat) :
    (first.shifted n).Apart (second.map (·.shifted n)) := by
  intro x hx
  obtain ⟨y, hy, rfl⟩ := Option.map_eq_some_iff.1 hx
  intro hslot
  exact h y hy ((Slot.add_left_inj n).1 hslot)

/-- A reservation has an interval that may be advertised and at least one occasion left. It has just one if there is
no interval, or if reservations are made for one packet only. -/
structure Reservation.Sound (dynamicScheduling : Bool) (r : Reservation) : Prop where
  interval : r.rriMs ∈ allowedIntervalsMs
  counter_pos : 1 ≤ r.counter
  counter_le : r.counter ≤ 75
  single : dynamicScheduling = true ∨ r.rriMs = 0 → r.counter = 1
  apart : r.resource.Apart r.retransmission

theorem Reservation.Sound.advance {dynamicScheduling : Bool} {r : Reservation} {counter : Nat}
    (h : r.Sound dynamicScheduling) (intervalSlots : Nat) (hpos : 1 ≤ counter) (hle : counter ≤ 75)
    (hsingle : dynamicScheduling = true ∨ r.rriMs = 0 → counter = 1) :
    { r.advance intervalSlots with counter : Reservation }.Sound dynamicScheduling :=
  ⟨h.interval, hpos, hle, hsingle, h.apart.shifted intervalSlots⟩

namespace QueuedPacket

theorem waits_of_after {q q' : QueuedPacket} {now : Slot} (h : q.after now = some q') (hsent : q'.initialSent = true) :
    q'.retransmission.isSome = true := by
  unfold after at h
  dsimp only at h
  split at h <;> split at h <;> cases h <;> simp_all [Option.isSome_iff_ne_none]

theorem apart_of_after {q q' : QueuedPacket} {now : Slot} (h : q.after now = some q')
    (hapart : q.initial.Apart q.retransmission) : q'.initial.Apart q'.retransmission := by
  obtain ⟨-, hinitial, hretransmission⟩ := after_kept h
  intro x hx
  rw [hinitial]
  exact hapart x (hretransmission x hx)

end QueuedPacket

namespace Flow

variable {α : Type}

/-- The fields of a flow fit each other. -/
structure Consistent (f : Flow α) : Prop where
  phase : f.phase = .idle ∨ f.phase = .sensing ∨ f.phase = .reserved
  reserved_iff : f.phase = .reserved ↔ f.reservation.isSome = true
  /-- A flow that was never used, or has ended, has nothing left. -/
  idle : f.phase = .idle → f.reservation = none ∧ f.queued = none ∧ f.owed = none ∧ f.history = {}
  reservation : ∀ r, f.reservation = some r → r.Sound f.params.dynamicScheduling
  /-- A packet that waits for its first transmission has the next occasion of the reservation. -/
  unsent : ∀ q, f.queued = some q → q.initialSent = false →
    ∃ r, f.reservation = some r ∧ r.resource = q.initial ∧ r.retransmission = q.retransmission
  /-- A packet that was sent is there for its second transmission only. -/
  sent : ∀ q, f.queued = some q → q.initialSent = true → q.retransmission.isSome = true
  queued_apart : ∀ q, f.queued = some q → q.initial.Apart q.retransmission
  owed : ∀ q, f.owed = some q → q.initialSent = true ∧ q.retransmission.isSome = true ∧
    q.initial.Apart q.retransmission

theorem consistent_new (params : FlowParams α) : ({ params } : Flow α).Consistent := by
  constructor <;> simp

theorem teardown_consistent (f : Flow α) : f.teardown.Consistent := by
  constructor <;> simp [teardown]

theorem slotsInMs_zero (params : FlowParams α) : params.slotsInMs 0 = 0 := by
  simp [FlowParams.slotsInMs, Numerology.slotsInMs]

theorem Chosen.sound {γ : Type} [Analysis α] [RandomSource γ] {f : Flow α} {now : Slot} {nowUs : Nat} {p : Packet}
    {pool : ResourcePool} {choice : Choice α} {g g' : γ} (h : Chosen f now nowUs p pool g choice g') :
    choice.reservation.Sound f.params.dynamicScheduling := by
  have hapart : choice.reservation.resource.Apart choice.reservation.retransmission := by
    intro x hx hslot
    have hlt := h.later hx
    rw [hslot] at hlt
    exact absurd hlt (Nat.lt_irrefl _)
  cases h with
  | @drawn allocation counter set chosen other _ _ _ hsizing hcounter =>
    have hbetween := newCounter_between f.params p.rriMs g
    rw [hcounter] at hbetween
    refine ⟨mem_of_sizing hsizing, hbetween.1, hbetween.2, ?_, hapart⟩
    intro hsingle
    rw [newCounter_of_single hsingle] at hcounter
    cases hcounter
    rfl

namespace Consistent

variable {f f' : Flow α}

theorem of_same (h : f.Consistent) (hparams : f'.params = f.params) (hreservation : f'.reservation = f.reservation)
    (hqueued : f'.queued = f.queued) (howed : f'.owed = f.owed)
    (hphase : f'.phase = if f.reservation.isSome then .reserved else .sensing) : f'.Consistent := by
  constructor
  case phase => rw [hphase]; split <;> simp
  case reserved_iff => rw [hphase, hreservation]; split <;> simp_all
  case idle => rw [hphase]; split <;> simp
  case reservation => rw [hreservation, hparams]; exact h.reservation
  case unsent => rw [hreservation, hqueued]; exact h.unsent
  case sent => rw [hqueued]; exact h.sent
  case queued_apart => rw [hqueued]; exact h.queued_apart
  case owed => rw [howed]; exact h.owed

theorem awake_phase (h : f.Consistent) : f.awake.phase = if f.reservation.isSome then .reserved else .sensing := by
  have hreserved := h.reserved_iff
  unfold awake
  rcases h.phase with hphase | hphase | hphase <;> simp_all

theorem heard (h : f.Consistent) (history : History α) : (f.heard history).Consistent :=
  h.of_same (awake_params f) (awake_reservation f) (awake_queued f) (awake_owed f) h.awake_phase

/-! ## A packet -/

theorem queue {r : Reservation} {p : Packet} (h : f.Consistent) (hr : f'.reservation = some r)
    (hsound : r.Sound f'.params.dynamicScheduling) (hphase : f'.phase = .reserved) (hqueued : f'.queued = f.queued)
    (howed : f'.owed = f.owed) : (f'.queue ⟨p, r.resource, r.retransmission, false⟩).Consistent := by
  constructor
  case phase => simp [hphase]
  case reserved_iff => simp [hphase, hr]
  case idle => simp [hphase]
  case reservation =>
    intro r' hr'
    rw [queue_reservation, hr] at hr'
    cases hr'
    rw [queue_params]
    exact hsound
  case unsent =>
    intro q hq _
    rw [queue_queued] at hq
    cases hq
    exact ⟨r, by rw [queue_reservation, hr], rfl, rfl⟩
  case sent =>
    intro q hq hsent
    rw [queue_queued] at hq
    cases hq
    cases hsent
  case queued_apart =>
    intro q hq
    rw [queue_queued] at hq
    cases hq
    exact hsound.apart
  case owed =>
    intro q hq
    rw [owed_queue, Option.or_eq_some_iff, halfSent_eq_some, hqueued, howed] at hq
    rcases hq with ⟨hold, hsent, hagain⟩ | ⟨-, hold⟩
    · exact ⟨hsent, hagain, h.queued_apart q hold⟩
    · exact h.owed q hold

theorem served (h : f.Consistent) (now : Slot) : (f.served now).Consistent := by
  have hqueued (q) (hq : (f.served now).queued = some q) : ∃ q₀, f.queued = some q₀ ∧ q₀.after now = some q :=
    Option.bind_eq_some_iff.1 hq
  constructor
  case phase => exact h.phase
  case reserved_iff => exact h.reserved_iff
  case idle =>
    intro hidle
    obtain ⟨hreservation, hnone, hnotOwed, hhistory⟩ := h.idle hidle
    exact ⟨hreservation, by rw [served_queued, hnone]; rfl, by simp [Flow.served, owedAfter, hnotOwed], hhistory⟩
  case reservation => exact h.reservation
  case unsent =>
    intro q hq hunsent
    exact h.unsent q (unsent_of_served hq hunsent).1 hunsent
  case sent =>
    intro q hq hsent
    obtain ⟨q₀, -, hafter⟩ := hqueued q hq
    exact QueuedPacket.waits_of_after hafter hsent
  case queued_apart =>
    intro q hq
    obtain ⟨q₀, hq₀, hafter⟩ := hqueued q hq
    exact QueuedPacket.apart_of_after hafter (h.queued_apart q₀ hq₀)
  case owed =>
    intro q hq
    exact h.owed q (Option.filter_eq_some_iff.1 hq).1

theorem due_of_idle (h : f.Consistent) (hidle : f.phase = .idle) (now : Slot) : f.due now = none := by
  obtain ⟨-, hqueued, howed, -⟩ := h.idle hidle
  simp [due, queuedDue, owedDue, hqueued, howed]

theorem noted (h : f.Consistent) {sent : Option Transmission} (hawake : f.phase = .idle → sent = none) (now : Slot)
    (nowUs : Nat) : (f.noted sent now nowUs).Consistent := by
  cases sent with
  | none => exact h
  | some t =>
    have hidle : f.phase ≠ .idle := by
      intro hidle
      cases hawake hidle
    exact ⟨h.phase, h.reserved_iff, fun hphase => absurd hphase hidle, h.reservation, h.unsent, h.sent,
      h.queued_apart, h.owed⟩

section

variable {γ : Type} [RandomSource γ]

theorem closed {r : Reservation} {used : Bool} (h : f.Consistent) (hr : f.reservation = some r)
    (hsent : ∀ q, f.queued = some q → q.initialSent = true) (hclosed : Closed γ f r used f') : f'.Consistent := by
  have hsound := h.reservation r hr
  have hreserved : f.phase = .reserved := h.reserved_iff.2 (by rw [hr]; rfl)
  -- A packet that still waits for the occasion that is over would have no reservation.
  have hnone : ∀ q, f.queued = some q → q.initialSent ≠ false := by
    intro q hq
    simp [hsent q hq]
  cases hclosed with
  | runsOn hmore =>
    refine ⟨h.phase, by simp [hreserved], by simp [hreserved], ?_, fun q hq hunsent => absurd hunsent (hnone q hq),
      h.sent, h.queued_apart, h.owed⟩
    rintro r' ⟨⟩
    have hle := hsound.counter_le
    apply hsound.advance _ (by omega) (by omega)
    intro hsingle
    have := hsound.single hsingle
    omega
  | @kept counter g g' hlast hdynamic hinterval hdraw =>
    refine ⟨h.phase, by simp [hreserved], by simp [hreserved], ?_, fun q hq hunsent => absurd hunsent (hnone q hq),
      h.sent, h.queued_apart, h.owed⟩
    rintro r' ⟨⟩
    have hbetween := drawCounter_between r.rriMs g
    rw [hdraw] at hbetween
    apply hsound.advance _ (by omega) (by omega)
    rintro (hsingle | hsingle)
    · rw [hdynamic] at hsingle
      cases hsingle
    · rw [hsingle, slotsInMs_zero] at hinterval
      exact absurd hinterval (Nat.lt_irrefl 0)
  | released =>
    exact ⟨by simp, by simp, by simp, by simp, fun q hq hunsent => absurd hunsent (hnone q hq), h.sent,
      h.queued_apart, h.owed⟩

theorem passed {now : Slot} {nowUs : Nat} (h : f.Consistent) (hpassed : Passed γ f now nowUs f') : f'.Consistent := by
  have hserved := h.served now
  cases hpassed with
  | @occasion r f₁ hr hslot hclosed =>
    have hsent : ∀ q, (f.served now).queued = some q → q.initialSent = true := by
      intro q hq
      cases hunsent : q.initialSent with
      | true => rfl
      | false =>
        obtain ⟨hq₀, hne⟩ := unsent_of_served hq hunsent
        obtain ⟨r', hr', hresource, -⟩ := h.unsent q hq₀ hunsent
        rw [hr] at hr'
        cases hr'
        exact absurd (hresource ▸ hslot) hne
    have hconsistent := hserved.closed hr hsent hclosed
    apply hconsistent.noted
    intro hidle
    have hreserved : (f.served now).phase = .reserved := h.reserved_iff.2 (by rw [hr]; rfl)
    cases hclosed <;> simp_all
  | between =>
    apply hserved.noted
    exact fun hidle => h.due_of_idle hidle now

end

section

variable [Analysis α] {γ : Type} [RandomSource γ]

theorem handed {now : Slot} {nowUs : Nat} {p : Packet} {pool : ResourcePool} {g g' : γ}
    {d : Except FlowError Decision} (h : f.Consistent) (hhanded : Handed f now nowUs p pool g d f' g') :
    f'.Consistent := by
  have hrefreshed : (f.refreshed nowUs).Consistent := h.heard _
  cases hhanded with
  | dropped =>
    exact h.of_same (refreshed_params f nowUs) (refreshed_reservation f nowUs) (refreshed_queued f nowUs)
      (refreshed_owed f nowUs) h.awake_phase
  | @reused r hr =>
    have hphase : (f.refreshed nowUs).phase = .reserved :=
      hrefreshed.reserved_iff.2 (by rw [refreshed_reservation, hr]; rfl)
    have hsound := h.reservation r hr
    rw [← refreshed_params f nowUs] at hsound
    exact hrefreshed.queue (r := { r with packetSize := p.size }) rfl
      ⟨hsound.interval, hsound.counter_pos, hsound.counter_le, hsound.single, hsound.apart⟩ hphase rfl rfl
  | selected _ hchoose =>
    have hsound := (choose_chosen hchoose).sound
    rw [refreshed_params, ← selecting_params f nowUs] at hsound
    exact h.queue rfl hsound rfl (selecting_queued f nowUs) (selecting_owed f nowUs)
  | refused =>
    exact h.of_same (selecting_params f nowUs) (selecting_reservation f nowUs) (selecting_queued f nowUs)
      (selecting_owed f nowUs) rfl

theorem step {c : Call α} (h : f.Consistent) (hstep : Step γ f c f') : f'.Consistent := by
  cases hstep with
  | sense hsense =>
    obtain ⟨history, -, rfl⟩ := sense_heard hsense
    exact h.heard history
  | enqueue g => exact h.handed (enqueue_handed rfl)
  | onSlot g => exact h.passed (onSlot_passed rfl).2
  | teardown => exact teardown_consistent f

end

end Consistent

/-- However a flow is used, its fields fit each other after every call. -/
theorem consistent_of_run {γ : Type} [Analysis α] [RandomSource γ] {params : FlowParams α} {f : Flow α}
    {calls : List (Call α)} (h : Run γ { params } calls f) : f.Consistent :=
  h.keeps (fun _ _ _ _ hconsistent hstep => hconsistent.step hstep) (consistent_new params)

/-! ## A packet between its two transmissions -/

/-- Every packet is sent twice, and an aperiodic one always gets a reservation of its own. -/
def sentTwice : FlowParams ℚ :=
  { FlowParams.standard with blindRetransmission := true, aperiodicStrategy := .aggressive }

def urgentPacket (n pdbMs : Nat) : Packet where
  id := n
  size := 200
  traffic := .aperiodic
  pdbMs := pdbMs
  rriMs := 100
  generatedUs := n * 1000

def urgentCall (n pdbMs : Nat) : Call ℚ := .enqueue (.ofIndex n) (n * 1000) (urgentPacket n pdbMs) narrowPool

def slotCall (n : Nat) : Call ℚ := .onSlot (.ofIndex n) (n * 1000)

def arrived (f : Flow ℚ) (n pdbMs : Nat) (words : List UInt32) : Flow ℚ :=
  (f.enqueue (.ofIndex n) (n * 1000) (urgentPacket n pdbMs) narrowPool (⟨words⟩ : Script)).2.1

def passed (f : Flow ℚ) (n : Nat) : Flow ℚ := (f.onSlot (.ofIndex n) (n * 1000) (⟨[]⟩ : Script)).2.1

theorem step_arrived (f : Flow ℚ) (n pdbMs : Nat) (words : List UInt32) :
    Step Script f (urgentCall n pdbMs) (f.arrived n pdbMs words) := .enqueue _

theorem step_passed (f : Flow ℚ) (n : Nat) : Step Script f (slotCall n) (f.passed n) := .onSlot _

/-- The first transmission is in slot 3 and the second in slot 8. -/
def urgentFlow : Flow ℚ := ({ params := sentTwice } : Flow ℚ).arrived 1 8 [0, 0, 0xD0000000]

def sentOnce : Flow ℚ := urgentFlow.passed 3

theorem run_urgentFlow : Run Script { params := sentTwice } [urgentCall 1 8] urgentFlow :=
  Run.none.snoc (step_arrived ..)

theorem run_sentOnce : Run Script { params := sentTwice } [urgentCall 1 8, slotCall 3] sentOnce :=
  run_urgentFlow.snoc (step_passed ..)

theorem consistent_sentOnce : sentOnce.halfSent.map (·.packet.id) = some 1 ∧ sentOnce.Consistent :=
  ⟨by decide +kernel, consistent_of_run run_sentOnce⟩

end Flow

end Sidelink
