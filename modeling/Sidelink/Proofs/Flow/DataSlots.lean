import Sidelink.Proofs.Flow.Runs
import Sidelink.Proofs.Pool.Accepted
import Sidelink.Proofs.Scalar.Rational
import Sidelink.Proofs.Selection.Candidates

/-!
# Slots that are sent in

A reservation is made in data slots. Each occasion after the first lies one interval after the one before it, wherever
on the ring that is, and a packet is sent at the occasion that was next when it came.
-/

namespace Sidelink

/-! ## Shifts on the ring -/

namespace Resource

@[simp] theorem shifted_slot (r : Resource) (n : Nat) : (r.shifted n).slot = r.slot + n := rfl

@[simp] theorem shifted_zero (r : Resource) : r.shifted 0 = r := by
  simp [shifted]

@[simp] theorem shifted_shifted (r : Resource) (m n : Nat) : (r.shifted m).shifted n = r.shifted (m + n) := by
  simp [shifted, Slot.add_add]

end Resource

namespace ResourcePool

theorem start_lt_of_ofRecord {record : PoolRecord} {pool : ResourcePool} (h : ofRecord record = .ok pool) :
    pool.start < ringLength :=
  (accepted_of_ofRecord h).start_lt

theorem periodOffset_add {pool : ResourcePool} (hstart : pool.start < ringLength) (hring : pool.period ∣ ringLength)
    {slots : Nat} (hslots : pool.period ∣ slots) (s : Slot) :
    pool.periodOffset (s + slots) = pool.periodOffset s := by
  unfold periodOffset
  rw [Slot.index_later, Nat.mod_mod_of_dvd _ hring, Nat.mod_mod_of_dvd _ hring]
  obtain ⟨c, hc⟩ := hring
  obtain ⟨d, rfl⟩ := hslots
  have hturns : (s.index + pool.period * d) % 10240 + ringLength - pool.start +
      ringLength * ((s.index + pool.period * d) / 10240) = s.index + ringLength - pool.start + pool.period * d := by
    simp only [ringLength] at hstart ⊢
    omega
  calc ((s.index + pool.period * d) % 10240 + ringLength - pool.start) % pool.period
      = ((s.index + pool.period * d) % 10240 + ringLength - pool.start +
          pool.period * (c * ((s.index + pool.period * d) / 10240))) % pool.period :=
        (Nat.add_mul_mod_self_left ..).symm
    _ = (s.index + ringLength - pool.start + pool.period * d) % pool.period := by
        rw [← Nat.mul_assoc, ← hc, hturns]
    _ = (s.index + ringLength - pool.start) % pool.period := Nat.add_mul_mod_self_left ..

theorem isDataSlot_add {pool : ResourcePool} (hstart : pool.start < ringLength) (hring : pool.period ∣ ringLength)
    {slots : Nat} (hslots : pool.period ∣ slots) (s : Slot) : pool.isDataSlot (s + slots) = pool.isDataSlot s := by
  rw [isDataSlot, periodOffset_add hstart hring hslots, isDataSlot]

end ResourcePool

namespace Flow

variable {α : Type}

/-! ## Tallies -/

def occasions (f : Flow α) : Nat := f.stats.usedReservations + f.stats.unutilizedReservations

theorem countSelection_selections (s : FlowStats) (set : CandidateSet α) (trigger : Option Trigger) :
    (countSelection s set trigger).selections = s.selections + 1 := by
  rcases trigger with _ | _ | _ | _ | _ <;> rfl

section

variable {γ : Type} [RandomSource γ] {f f' : Flow α}

theorem Closed.tally {r : Reservation} {used : Bool} (h : Closed γ f r used f') :
    f'.stats.selections = f.stats.selections ∧ f'.occasions = f.occasions + 1 := by
  unfold Flow.occasions
  cases h <;> cases used <;> simp [countOccasion, Nat.add_right_comm, Nat.add_assoc]

theorem noted_tally (f : Flow α) (sent : Option Transmission) (now : Slot) (nowUs : Nat) :
    (f.noted sent now nowUs).stats.selections = f.stats.selections ∧
      (f.noted sent now nowUs).occasions = f.occasions := by
  cases sent <;> exact ⟨rfl, rfl⟩

end

/-! ## The origin of a reservation -/

/-- A call that takes its resources from a pool, if from any. -/
def Call.On (pool : ResourcePool) : Call α → Prop
  | .enqueue _ _ _ p => p = pool
  | _ => True

section

variable [Analysis α] (γ : Type) [RandomSource γ]

/-- A flow that has made a reservation with the last of its calls. -/
structure Made (pool : ResourcePool) (f₀ : Flow α) (calls : List (Call α)) (made : Flow α) (r : Reservation) :
    Prop where
  reached : ∃ earlier before now nowUs p, calls = earlier ++ [.enqueue now nowUs p pool] ∧
    Run γ f₀ earlier before ∧ Step γ before (.enqueue now nowUs p pool) made ∧
    made.stats.selections = before.stats.selections + 1
  reservation : made.reservation = some r

/-- A flow that has been through so many occasions in some calls and has made no reservation in them. -/
structure Elapsed (f : Flow α) (calls : List (Call α)) (f' : Flow α) (n : Nat) : Prop where
  run : Run γ f calls f'
  selections : f'.stats.selections = f.stats.selections
  occasions : f'.occasions = f.occasions + n

/-- The reservation of a flow is one that was made, so many occasions later. -/
def Continues (pool : ResourcePool) (f₀ : Flow α) (calls : List (Call α)) (f : Flow α) (r : Reservation) : Prop :=
  ∃ earlier later made r₀ n, calls = earlier ++ later ∧ Made γ pool f₀ earlier made r₀ ∧ Elapsed γ made later f n ∧
    r.rriMs = r₀.rriMs ∧ r.reservationSize = r₀.reservationSize ∧
    r.resource = r₀.resource.shifted (n * f₀.params.slotsInMs r₀.rriMs) ∧
    r.retransmission = r₀.retransmission.map (·.shifted (n * f₀.params.slotsInMs r₀.rriMs))

/-- A packet has room in a reservation, or the reservation was made for it with the last of some calls. -/
def Suits (pool : ResourcePool) (calls : List (Call α)) (r : Reservation) (p : Packet) : Prop :=
  p.size ≤ r.reservationSize ∨ ∃ now nowUs, calls.getLast? = some (.enqueue now nowUs p pool)

/-- A packet of a flow was queued for an occasion of a reservation that was made. -/
def Queued (pool : ResourcePool) (f₀ : Flow α) (calls : List (Call α)) (f : Flow α) (q : QueuedPacket) : Prop :=
  ∃ earlier later rest made taken r₀ n, calls = earlier ++ later ++ rest ∧ Made γ pool f₀ earlier made r₀ ∧
    Elapsed γ made later taken n ∧ Run γ taken rest f ∧ taken.queued.map (·.packet) = some q.packet ∧
    Suits pool earlier r₀ q.packet ∧ q.initial = r₀.resource.shifted (n * f₀.params.slotsInMs r₀.rriMs) ∧
    ∀ x, q.retransmission = some x →
      ∃ x₀, r₀.retransmission = some x₀ ∧ x = x₀.shifted (n * f₀.params.slotsInMs r₀.rriMs)

/-- Everything that a flow still has to send comes from a reservation that was made. -/
structure Tracked (pool : ResourcePool) (f₀ : Flow α) (calls : List (Call α)) (f : Flow α) : Prop where
  run : Run γ f₀ calls f
  reservation : ∀ r, f.reservation = some r → Continues γ pool f₀ calls f r
  queued : ∀ q, f.queued = some q → Queued γ pool f₀ calls f q
  owed : ∀ q, f.owed = some q → Queued γ pool f₀ calls f q

variable {γ} {pool : ResourcePool} {f₀ f f' : Flow α} {calls : List (Call α)} {c : Call α}

theorem Elapsed.refl (f : Flow α) : Elapsed γ f [] f 0 := ⟨.none, rfl, rfl⟩

theorem Elapsed.step {n m : Nat} (h : Elapsed γ f₀ calls f n) (hstep : Step γ f c f')
    (hselections : f'.stats.selections = f.stats.selections) (hoccasions : f'.occasions = f.occasions + m) :
    Elapsed γ f₀ (calls ++ [c]) f' (n + m) :=
  ⟨.snoc h.run hstep, hselections.trans h.selections, by rw [hoccasions, h.occasions, Nat.add_assoc]⟩

theorem Queued.step {q q' : QueuedPacket} (h : Queued γ pool f₀ calls f q) (hstep : Step γ f c f')
    (hpacket : q'.packet = q.packet) (hinitial : q'.initial = q.initial)
    (hretransmission : ∀ x, q'.retransmission = some x → q.retransmission = some x) :
    Queued γ pool f₀ (calls ++ [c]) f' q' := by
  obtain ⟨earlier, later, rest, made, taken, r₀, n, rfl, hmade, helapsed, hrun, htaken, hsuits, hi, hr⟩ := h
  exact ⟨earlier, later, rest ++ [c], made, taken, r₀, n, by simp, hmade, helapsed, .snoc hrun hstep,
    hpacket ▸ htaken, hpacket ▸ hsuits, hinitial.trans hi, fun x hx => hr x (hretransmission x hx)⟩

theorem Continues.step {r r' : Reservation} (h : Continues γ pool f₀ calls f r) (hstep : Step γ f c f')
    (hselections : f'.stats.selections = f.stats.selections) (hoccasions : f'.occasions = f.occasions)
    (hrri : r'.rriMs = r.rriMs) (hsize : r'.reservationSize = r.reservationSize) (hresource : r'.resource = r.resource)
    (hretransmission : r'.retransmission = r.retransmission) : Continues γ pool f₀ (calls ++ [c]) f' r' := by
  obtain ⟨earlier, later, made, r₀, n, rfl, hmade, helapsed, hr, hs, hres, hretx⟩ := h
  exact ⟨earlier, later ++ [c], made, r₀, n, by simp, hmade,
    helapsed.step (m := 0) hstep hselections hoccasions, hrri.trans hr, hsize.trans hs, hresource.trans hres,
    hretransmission.trans hretx⟩

theorem Continues.advance {r r' : Reservation} (h : Continues γ pool f₀ calls f r) (hstep : Step γ f c f')
    (hselections : f'.stats.selections = f.stats.selections) (hoccasions : f'.occasions = f.occasions + 1)
    (hrri : r'.rriMs = r.rriMs) (hsize : r'.reservationSize = r.reservationSize)
    (hresource : r'.resource = r.resource.shifted (f₀.params.slotsInMs r.rriMs))
    (hretransmission : r'.retransmission = r.retransmission.map (·.shifted (f₀.params.slotsInMs r.rriMs))) :
    Continues γ pool f₀ (calls ++ [c]) f' r' := by
  obtain ⟨earlier, later, made, r₀, n, rfl, hmade, helapsed, hr, hs, hres, hretx⟩ := h
  refine ⟨earlier, later ++ [c], made, r₀, n + 1, by simp, hmade, helapsed.step hstep hselections hoccasions,
    hrri.trans hr, hsize.trans hs, ?_, ?_⟩
  · rw [hresource, hres, Resource.shifted_shifted, hr, Nat.succ_mul]
  · rw [hretransmission, hretx, Option.map_map, hr]
    congr 1
    funext x
    rw [Function.comp_apply, Resource.shifted_shifted, Nat.succ_mul]

theorem Continues.queued {r : Reservation} {q : QueuedPacket} (h : Continues γ pool f₀ calls f r)
    (hqueued : f.queued = some q) (hinitial : q.initial = r.resource)
    (hretransmission : q.retransmission = r.retransmission)
    (hsuits : q.packet.size ≤ r.reservationSize ∨
      Made γ pool f₀ calls f r ∧ ∃ now nowUs, calls.getLast? = some (.enqueue now nowUs q.packet pool)) :
    Queued γ pool f₀ calls f q := by
  rcases hsuits with hfits | ⟨hmade, hlast⟩
  · obtain ⟨earlier, later, made, r₀, n, rfl, hmade, helapsed, -, hs, hres, hretx⟩ := h
    refine ⟨earlier, later, [], made, f, r₀, n, by simp, hmade, helapsed, .none, by simp [hqueued], .inl (hs ▸ hfits),
      hinitial.trans hres, fun x hx => ?_⟩
    rw [hretransmission, hretx, Option.map_eq_some_iff] at hx
    obtain ⟨x₀, hx₀, rfl⟩ := hx
    exact ⟨x₀, hx₀, rfl⟩
  · refine ⟨calls, [], [], f, f, r, 0, by simp, hmade, .refl f, .none, by simp [hqueued], .inr hlast, by simpa, ?_⟩
    intro x hx
    exact ⟨x, hretransmission ▸ hx, by simp⟩

/-! ## Calls -/

theorem Handed.occasions {now : Slot} {nowUs : Nat} {p : Packet} {g g' : γ} {d : Except FlowError Decision}
    (h : Handed f now nowUs p pool g d f' g') : f'.occasions = f.occasions := by
  unfold Flow.occasions
  cases h with
  | dropped => rfl
  | reused => rw [queue_stats, refreshed_stats]
  | @selected trigger c =>
    rw [reserved, queue_stats, selecting_stats]
    rcases trigger with _ | _ | _ | _ | _ <;> rfl
  | refused => rw [selecting_stats]

theorem Handed.reservation {now : Slot} {nowUs : Nat} {p : Packet} {pool : ResourcePool} {g g' : γ}
    {d : Except FlowError Decision} (h : Handed f now nowUs p pool g d f' g') :
    (f'.stats.selections = f.stats.selections ∧ ∃ size : Reservation → Nat,
      f'.reservation = f.reservation.map fun r => { r with packetSize := size r }) ∨
    (f'.stats.selections = f.stats.selections + 1 ∧ ∃ choice,
      (f.refreshed nowUs).choose now nowUs p pool g = (.ok choice, g') ∧
        f'.reservation = some choice.reservation) := by
  have hsame : f.reservation = f.reservation.map fun r => { r with packetSize := r.packetSize } :=
    Option.map_id'.symm
  cases h with
  | dropped => exact .inl ⟨rfl, _, (refreshed_reservation f nowUs).trans hsame⟩
  | reused hr =>
    refine .inl ⟨by rw [queue_stats, refreshed_stats], fun _ => p.size, ?_⟩
    rw [queue_reservation, hr]
    rfl
  | selected _ hchoose =>
    refine .inr ⟨?_, _, hchoose, reserved_reservation ..⟩
    rw [reserved, queue_stats, countSelection_selections, selecting_stats]
  | refused => exact .inl ⟨by rw [selecting_stats], _, (selecting_reservation f nowUs).trans hsame⟩

theorem Tracked.kept (h : Tracked γ pool f₀ calls f) (hstep : Step γ f c f')
    (hselections : f'.stats.selections = f.stats.selections) (hoccasions : f'.occasions = f.occasions)
    (hreservation : f'.reservation = f.reservation) (hqueued : f'.queued = f.queued) (howed : f'.owed = f.owed) :
    Tracked γ pool f₀ (calls ++ [c]) f' where
  run := .snoc h.run hstep
  reservation r hr := (h.reservation r (hreservation ▸ hr)).step hstep hselections hoccasions rfl rfl rfl rfl
  queued q hq := (h.queued q (hqueued ▸ hq)).step hstep rfl rfl fun _ hx => hx
  owed q hq := (h.owed q (howed ▸ hq)).step hstep rfl rfl fun _ hx => hx

theorem Tracked.sense {r : Report α} (h : Tracked γ pool f₀ calls f) (hsense : f.sense r = .ok f') :
    Tracked γ pool f₀ (calls ++ [.sense r]) f' := by
  have hstep : Step γ f (.sense r) f' := .sense hsense
  obtain ⟨history, -, rfl⟩ := sense_heard hsense
  refine h.kept hstep ?_ ?_ (awake_reservation f) (awake_queued f) (awake_owed f)
  · exact congrArg _ (awake_stats f)
  · exact congrArg (fun s : FlowStats => s.usedReservations + s.unutilizedReservations) (awake_stats f)

theorem Tracked.teardown (h : Tracked γ pool f₀ calls f) : Tracked γ pool f₀ (calls ++ [.teardown]) f.teardown where
  run := .snoc h.run .teardown
  reservation _ hr := by cases hr
  queued _ hq := by cases hq
  owed _ hq := by cases hq

theorem Tracked.queue {f₁ : Flow α} {q : QueuedPacket} {r : Reservation} (h : Tracked γ pool f₀ calls f)
    (hstep : Step γ f c (f₁.queue q)) (hr : f₁.reservation = some r)
    (hon : Continues γ pool f₀ (calls ++ [c]) (f₁.queue q) r) (hinitial : q.initial = r.resource)
    (hretransmission : q.retransmission = r.retransmission)
    (hsuits : q.packet.size ≤ r.reservationSize ∨ Made γ pool f₀ (calls ++ [c]) (f₁.queue q) r ∧
      ∃ now nowUs, (calls ++ [c]).getLast? = some (.enqueue now nowUs q.packet pool))
    (hqueued : f₁.queued = f.queued) (howed : f₁.owed = f.owed) : Tracked γ pool f₀ (calls ++ [c]) (f₁.queue q) where
  run := .snoc h.run hstep
  reservation r' hr' := by
    rw [queue_reservation, hr] at hr'
    cases hr'
    exact hon
  queued q' hq' := by
    rw [queue_queued] at hq'
    cases hq'
    exact hon.queued (queue_queued f₁ q) hinitial hretransmission hsuits
  owed q' hq' := by
    rw [owed_queue, Option.or_eq_some_iff, halfSent_eq_some, hqueued, howed] at hq'
    rcases hq' with ⟨hgave, -⟩ | ⟨-, hkept⟩
    · exact (h.queued q' hgave).step hstep rfl rfl fun _ hx => hx
    · exact (h.owed q' hkept).step hstep rfl rfl fun _ hx => hx

theorem Tracked.handed {now : Slot} {nowUs : Nat} {p : Packet} {g g' : γ} {d : Except FlowError Decision}
    (h : Tracked γ pool f₀ calls f) (hstep : Step γ f (.enqueue now nowUs p pool) f')
    (hhanded : Handed f now nowUs p pool g d f' g') :
    Tracked γ pool f₀ (calls ++ [.enqueue now nowUs p pool]) f' := by
  have hoccasions := hhanded.occasions
  cases hhanded with
  | dropped =>
    exact h.kept hstep rfl rfl (refreshed_reservation f nowUs) (refreshed_queued f nowUs) (refreshed_owed f nowUs)
  | @reused r hr hreuse =>
    have hon : Continues γ pool f₀ _ _ { r with packetSize := p.size } :=
      (h.reservation r hr).step hstep (by rw [queue_stats, refreshed_stats]) hoccasions rfl rfl rfl rfl
    have hfits := (of_planWith_reuse hreuse).2.2
    exact h.queue hstep rfl hon rfl rfl (.inl hfits) (refreshed_queued f nowUs) (refreshed_owed f nowUs)
  | @selected trigger choice =>
    have hmade : Made γ pool f₀ (calls ++ [.enqueue now nowUs p pool])
        ((f.selecting nowUs).reserved p trigger choice) choice.reservation := by
      refine ⟨⟨calls, f, now, nowUs, p, rfl, h.run, hstep, ?_⟩, reserved_reservation ..⟩
      rw [reserved, queue_stats, countSelection_selections, selecting_stats]
    have hon : Continues γ pool f₀ (calls ++ [.enqueue now nowUs p pool])
        ((f.selecting nowUs).reserved p trigger choice) choice.reservation :=
      ⟨_, [], _, _, 0, by simp, hmade, .refl _, rfl, rfl, by simp, by simp⟩
    exact h.queue hstep rfl hon rfl rfl (.inr ⟨hmade, now, nowUs, by simp⟩) (selecting_queued f nowUs)
      (selecting_owed f nowUs)
  | refused =>
    exact h.kept hstep (by rw [selecting_stats]) hoccasions (selecting_reservation f nowUs) (selecting_queued f nowUs)
      (selecting_owed f nowUs)

theorem Tracked.served {now : Slot} (h : Tracked γ pool f₀ calls f) (hstep : Step γ f c f')
    (hqueued : f'.queued = (f.served now).queued) (howed : f'.owed = (f.served now).owed)
    (hreservation : ∀ r, f'.reservation = some r → Continues γ pool f₀ (calls ++ [c]) f' r) :
    Tracked γ pool f₀ (calls ++ [c]) f' where
  run := .snoc h.run hstep
  reservation := hreservation
  queued q hq := by
    rw [hqueued] at hq
    obtain ⟨q₀, hq₀, hafter⟩ := Option.bind_eq_some_iff.1 hq
    obtain ⟨hpacket, hinitial, hretransmission⟩ := QueuedPacket.after_kept hafter
    exact (h.queued q₀ hq₀).step hstep hpacket hinitial hretransmission
  owed q hq := by
    rw [howed] at hq
    exact (h.owed q (Option.filter_eq_some_iff.1 hq).1).step hstep rfl rfl fun _ hx => hx

theorem Tracked.passed {now : Slot} {nowUs : Nat} (h : Tracked γ pool f₀ calls f)
    (hstep : Step γ f (.onSlot now nowUs) f') (hpassed : Passed γ f now nowUs f') :
    Tracked γ pool f₀ (calls ++ [.onSlot now nowUs]) f' := by
  have hparams : f.params = f₀.params := h.run.params
  cases hpassed with
  | @occasion r f₁ hr hslot hclosed =>
    obtain ⟨hselections, hoccasions⟩ := hclosed.tally
    obtain ⟨hnotedSelections, hnotedOccasions⟩ := noted_tally f₁ (f.due now) now nowUs
    obtain ⟨hqueued, howed⟩ := hclosed.kept_packets
    refine h.served hstep (by rw [noted_queued, hqueued]) (by rw [noted_owed, howed]) ?_
    intro r' hr'
    rw [noted_reservation] at hr'
    obtain ⟨hrri, hresource, hretransmission⟩ := hclosed.advanced hr'
    have hinterval : (f.served now).params.slotsInMs r.rriMs = f₀.params.slotsInMs r.rriMs := by rw [← hparams]; rfl
    rw [hinterval] at hresource hretransmission
    exact (h.reservation r hr).advance hstep (hnotedSelections.trans hselections)
      (hnotedOccasions.trans hoccasions) hrri (hclosed.reservationSize hr') hresource hretransmission
  | between =>
    obtain ⟨hselections, hoccasions⟩ := noted_tally (f.served now) (f.due now) now nowUs
    refine h.served hstep (noted_queued ..) (noted_owed ..) ?_
    intro r' hr'
    rw [noted_reservation] at hr'
    exact (h.reservation r' hr').step hstep hselections hoccasions rfl rfl rfl rfl

theorem Tracked.step (h : Tracked γ pool f₀ calls f) (hon : c.On pool) (hstep : Step γ f c f') :
    Tracked γ pool f₀ (calls ++ [c]) f' := by
  cases c with
  | sense r =>
    cases hstep with
    | sense hsense => exact h.sense hsense
  | enqueue now nowUs p used =>
    obtain rfl : used = pool := hon
    obtain ⟨_, _, _, hhanded⟩ := hstep.handed
    exact h.handed hstep hhanded
  | onSlot now nowUs => exact h.passed hstep hstep.passed
  | teardown =>
    cases hstep
    exact h.teardown

theorem Run.tracked {params : FlowParams α} (h : Run γ { params } calls f) (hon : ∀ c ∈ calls, c.On pool) :
    Tracked γ pool { params } calls f := by
  induction h with
  | none =>
    refine ⟨.none, fun r hr => ?_, fun q hq => ?_, fun q hq => ?_⟩
    · cases hr
    · cases hq
    · cases hq
  | snoc hrun hstep ih => exact (ih fun c hc => hon c (by simp [hc])).step (hon _ (by simp)) hstep

/-! ## Data slots -/

theorem Made.isDataSlot {made : Flow α} {r : Reservation} (h : Made γ pool f₀ calls made r) :
    pool.isDataSlot r.resource.slot = true ∧ ∀ x, r.retransmission = some x → pool.isDataSlot x.slot = true := by
  obtain ⟨⟨earlier, before, now, nowUs, p, rfl, -, hstep, hselections⟩, hr⟩ := h
  obtain ⟨_, _, _, hhanded⟩ := hstep.handed
  -- Only a selection counts as one.
  cases hhanded with
  | dropped => simp at hselections
  | reused => simp [queue_stats] at hselections
  | @selected _ choice _ _ hchoose =>
    rw [reserved_reservation] at hr
    cases hr
    obtain ⟨⟨request, -, -, -, hset⟩, hresource, hretransmission⟩ := choose_drawn hchoose
    have hdata : ∀ x ∈ choice.set.resources, pool.isDataSlot x.slot = true := fun x hx =>
      (mem_dataSlots.1 (Candidates.selectable_of_candidates hset hx).slot).2
    exact ⟨hdata _ hresource, fun x hx => hdata x (hretransmission x hx)⟩
  | refused => simp at hselections

theorem Sent.origin {now : Slot} {t : Transmission} (h : Tracked γ pool f₀ calls f) (hsent : Sent f now t) :
    ∃ q, Queued γ pool f₀ calls f q ∧ t.packet = q.packet.id ∧
      (t.isRetransmission = false ∧ t.slot = q.initial.slot ∨
        t.isRetransmission = true ∧ ∃ x, q.retransmission = some x ∧ t.slot = x.slot) := by
  cases hsent with
  | first hq => exact ⟨_, h.queued _ hq, rfl, .inl ⟨rfl, rfl⟩⟩
  | second hq _ hx => exact ⟨_, h.queued _ hq, rfl, .inr ⟨rfl, _, hx, rfl⟩⟩
  | owed hq hx => exact ⟨_, h.owed _ hq, rfl, .inr ⟨rfl, _, hx, rfl⟩⟩

/-- A transmission is sent on an occasion of a reservation that was made. It is so many intervals after the slot that
was drawn for the first occasion, or for its retransmission, and that is a data slot. -/
structure OnOccasion (γ : Type) [RandomSource γ] (pool : ResourcePool) (f₀ : Flow α) (calls : List (Call α))
    (f : Flow α) (t : Transmission) (first : Slot) (n intervalSlots : Nat) : Prop where
  origin : ∃ earlier later rest made taken r, calls = earlier ++ later ++ rest ∧ Made γ pool f₀ earlier made r ∧
    Elapsed γ made later taken n ∧ Run γ taken rest f ∧ taken.queued.map (·.packet.id) = some t.packet ∧
    (if t.isRetransmission then r.retransmission.map (·.slot) = some first else r.resource.slot = first) ∧
    intervalSlots = f₀.params.slotsInMs r.rriMs
  slot : t.slot = first + n * intervalSlots
  drawn : pool.isDataSlot first = true

theorem Queued.onOccasion {q : QueuedPacket} {t : Transmission} (h : Queued γ pool f₀ calls f q)
    (hpacket : t.packet = q.packet.id)
    (hslot : t.isRetransmission = false ∧ t.slot = q.initial.slot ∨
      t.isRetransmission = true ∧ ∃ x, q.retransmission = some x ∧ t.slot = x.slot) :
    ∃ first n intervalSlots, OnOccasion γ pool f₀ calls f t first n intervalSlots := by
  obtain ⟨earlier, later, rest, made, taken, r, n, hcalls, hmade, helapsed, hrun, htaken, -, hinitial,
    hretransmission⟩ := h
  have hid : taken.queued.map (·.packet.id) = some t.packet := by
    rw [hpacket, ← Option.map_some (f := Packet.id), ← htaken, Option.map_map]
    rfl
  obtain ⟨hresource, hsecond⟩ := hmade.isDataSlot
  rcases hslot with ⟨hfirst, hslot⟩ | ⟨hagain, x, hx, hslot⟩
  · refine ⟨r.resource.slot, n, f₀.params.slotsInMs r.rriMs,
      ⟨earlier, later, rest, made, taken, r, hcalls, hmade, helapsed, hrun, hid, by simp [hfirst], rfl⟩, ?_,
      hresource⟩
    rw [hslot, hinitial, Resource.shifted_slot]
  · obtain ⟨x₀, hx₀, rfl⟩ := hretransmission x hx
    exact ⟨x₀.slot, n, f₀.params.slotsInMs r.rriMs,
      ⟨earlier, later, rest, made, taken, r, hcalls, hmade, helapsed, hrun, hid, by simp [hagain, hx₀], rfl⟩, hslot,
      hsecond x₀ hx₀⟩

/-- What a flow sends with a pool lies a whole number of intervals after a data slot of that pool. On the first
occasion of a reservation it is in a data slot itself, and so it is on every occasion if the interval and the ring
are whole numbers of periods. -/
theorem sent_in_data_slots {record : PoolRecord} {params : FlowParams α} {f₁ : Flow α} {now : Slot} {nowUs : Nat}
    {g g' : γ} {t : Transmission} (hpool : ResourcePool.ofRecord record = .ok pool)
    (hrun : Run γ { params } calls f) (hon : ∀ c ∈ calls, c.On pool)
    (hsent : f.onSlot now nowUs g = (some t, f₁, g')) :
    ∃ first n intervalSlots, OnOccasion γ pool { params } calls f t first n intervalSlots ∧
      (n = 0 → pool.isDataSlot t.slot = true) ∧
      (pool.period ∣ intervalSlots → pool.period ∣ ringLength → pool.isDataSlot t.slot = true) := by
  have hdue : Sent f now t := due_sent (onSlot_passed hsent).1.symm
  obtain ⟨q, hq, hpacket, hslot⟩ := hdue.origin (hrun.tracked hon)
  obtain ⟨first, n, intervalSlots, hoccasion⟩ := hq.onOccasion hpacket hslot
  refine ⟨first, n, intervalSlots, hoccasion, fun hn => ?_, fun hinterval hring => ?_⟩
  · rw [hoccasion.slot, hn, Nat.zero_mul, Slot.add_zero]
    exact hoccasion.drawn
  · rw [hoccasion.slot, ResourcePool.isDataSlot_add (ResourcePool.start_lt_of_ofRecord hpool) hring
      (Dvd.dvd.mul_left hinterval n)]
    exact hoccasion.drawn

end

/-! ## A reservation that leaves the data slots -/

/-- The packet of slot `n` of a source that has one every hundred milliseconds. -/
def hundredthPacket (n : Nat) : Packet where
  id := n
  size := 200
  traffic := .periodic
  pdbMs := 3
  rriMs := 100
  generatedUs := n * 1000

def firstQueued : Flow ℚ :=
  (Flow.enqueue { params := .standard } (.ofIndex 18) 18000 (hundredthPacket 18) narrowPool Zeros.zeros).2.1

def firstSent : Flow ℚ := (firstQueued.onSlot (.ofIndex 20) 20000 Zeros.zeros).2.1

def secondQueued : Flow ℚ :=
  (firstSent.enqueue (.ofIndex 118) 118000 (hundredthPacket 118) narrowPool Zeros.zeros).2.1

def hundredthCalls : List (Call ℚ) :=
  [.enqueue (.ofIndex 18) 18000 (hundredthPacket 18) narrowPool, .onSlot (.ofIndex 20) 20000,
    .enqueue (.ofIndex 118) 118000 (hundredthPacket 118) narrowPool]

theorem run_hundredthCalls : Run Zeros { params := .standard } hundredthCalls secondQueued := by
  have hfirst : Step Zeros _ _ firstQueued := Step.enqueue Zeros.zeros
  have hsent : Step Zeros _ _ firstSent := Step.onSlot Zeros.zeros
  have hsecond : Step Zeros _ _ secondQueued := Step.enqueue Zeros.zeros
  exact ((Run.none.snoc hfirst).snoc hsent).snoc hsecond

theorem hundredthCalls_on : ∀ c ∈ hundredthCalls, c.On narrowPool := by
  simp [hundredthCalls, Call.On]

theorem secondQueued_sends : ∃ t f g, secondQueued.onSlot (.ofIndex 120) 120000 Zeros.zeros = (some t, f, g) ∧
    narrowPool.isDataSlot t.slot = false := by
  have hsent : (secondQueued.onSlot (.ofIndex 120) 120000 Zeros.zeros).1.map (fun t => narrowPool.isDataSlot t.slot) =
      some false := by decide +kernel
  obtain ⟨t, ht, hdata⟩ := Option.map_eq_some_iff.1 hsent
  exact ⟨t, _, _, Prod.ext ht rfl, hdata⟩

/-- In a pool with forty subframes to a period an interval of a hundred leads from a data slot to one without. -/
theorem sent_outside_data_slots : ¬∀ (record : PoolRecord) (pool : ResourcePool) (params : FlowParams ℚ)
    (calls : List (Call ℚ)) (f : Flow ℚ) (now : Slot) (nowUs : Nat) (g : Zeros) (t : Transmission) (f₁ : Flow ℚ)
    (g' : Zeros), ResourcePool.ofRecord record = .ok pool → Run Zeros { params } calls f → (∀ c ∈ calls, c.On pool) →
    f.onSlot now nowUs g = (some t, f₁, g') → pool.isDataSlot t.slot = true := by
  intro h
  obtain ⟨t, f, g, hsent, hdata⟩ := secondQueued_sends
  have hin := h narrowRecord narrowPool _ _ _ _ _ _ t f g narrowPool_ofRecord run_hundredthCalls
    hundredthCalls_on hsent
  rw [hdata] at hin
  cases hin

theorem sent_in_data_slots_narrowPool : ∃ t first n intervalSlots,
    OnOccasion Zeros narrowPool { params := .standard } hundredthCalls secondQueued t first n intervalSlots := by
  obtain ⟨t, f, g, hsent, -⟩ := secondQueued_sends
  obtain ⟨first, n, intervalSlots, hoccasion, -⟩ :=
    sent_in_data_slots narrowPool_ofRecord run_hundredthCalls hundredthCalls_on hsent
  exact ⟨t, first, n, intervalSlots, hoccasion⟩

end Flow

end Sidelink
