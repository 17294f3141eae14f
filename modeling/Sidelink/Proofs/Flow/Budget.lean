import Sidelink.Proofs.Flow.DataSlots
import Sidelink.Proofs.Flow.Owed

/-!
# Delay budgets

A reservation is made inside the budget of its packet, both resources of it. A later packet uses it if its next
occasion comes in time. The second resource is not looked at then, and trails the first by a gap that suited another
packet.
-/

namespace Sidelink

/-- What is left of a packet later on. -/
structure QueuedPacket.LeftOf (q q₀ : QueuedPacket) : Prop where
  packet : q.packet = q₀.packet
  initial : q.initial = q₀.initial
  sent : q₀.initialSent = true → q.initialSent = true
  retransmission : ∀ x, q.retransmission = some x → q₀.retransmission = some x

theorem QueuedPacket.LeftOf.refl (q : QueuedPacket) : q.LeftOf q := ⟨rfl, rfl, id, fun _ => id⟩

theorem QueuedPacket.LeftOf.trans {q₂ q₁ q₀ : QueuedPacket} (h : q₂.LeftOf q₁) (h' : q₁.LeftOf q₀) : q₂.LeftOf q₀ :=
  ⟨h.packet.trans h'.packet, h.initial.trans h'.initial, h.sent ∘ h'.sent,
    fun x hx => h'.retransmission x (h.retransmission x hx)⟩

namespace Flow

variable {α : Type}

/-- A call that takes in no packet of this name. -/
def Call.Other (id : Nat) : Call α → Prop
  | .enqueue _ _ p _ => p.id ≠ id
  | _ => True

theorem Passed.held {γ : Type} [RandomSource γ] {f f' : Flow α} {now : Slot} {nowUs : Nat} {q : QueuedPacket}
    (h : Passed γ f now nowUs f') (hq : f'.Holds q) : ∃ q₀, f.Holds q₀ ∧ q.LeftOf q₀ := by
  obtain ⟨hqueued, howed⟩ := h.packets
  rcases hq with hq | hq
  · rw [hqueued, served_queued, Option.bind_eq_some_iff] at hq
    obtain ⟨q₀, hq₀, hafter⟩ := hq
    obtain ⟨hpacket, hinitial, hretransmission⟩ := QueuedPacket.after_kept hafter
    refine ⟨q₀, .inl hq₀, hpacket, hinitial, ?_, hretransmission⟩
    exact fun hsent => QueuedPacket.sent_of_after (.inl hsent) hafter
  · rw [howed] at hq
    exact ⟨q, .inr (Option.filter_eq_some_iff.1 hq).1, .refl q⟩

section

variable [Analysis α] {γ : Type} [RandomSource γ] {f f' : Flow α} {now : Slot} {nowUs : Nat} {p : Packet}
  {pool : ResourcePool} {g g' : γ}

/-! ## A new reservation -/

theorem since_le_of_choose {choice : Choice α} {x : Resource}
    (h : f.choose now nowUs p pool g = (.ok choice, g')) (hx : x ∈ choice.set.resources) :
    x.slot.since now ≤ f.params.t2 p.pdbMs := by
  have hselectable := Candidates.selectable_of_candidates (choose_chosen h).candidates hx
  obtain ⟨⟨d, -, hd, hslot⟩, -⟩ := mem_dataSlots.1 hselectable.slot
  rw [hslot, Slot.since_add]
  exact (Nat.mod_le ..).trans hd

theorem first_of_choose {choice : Choice α} (h : f.choose now nowUs p pool g = (.ok choice, g')) :
    choice.reservation.resource.slot.since now < max (f.params.slotsInMs p.pdbMs) 1 := by
  have hle := since_le_of_choose h (choose_drawn h).2.1
  unfold FlowParams.t2 at hle
  omega

theorem second_of_choose {choice : Choice α} {x : Resource} (h : f.choose now nowUs p pool g = (.ok choice, g'))
    (hx : choice.reservation.retransmission = some x) :
    choice.reservation.resource.slot.since now < x.slot.since now ∧ x.slot.since now < f.params.slotsInMs p.pdbMs := by
  have hle := since_le_of_choose h ((choose_drawn h).2.2 x hx)
  have hlater := (choose_chosen h).later hx
  unfold FlowParams.t2 at hle
  omega

/-! ## A packet -/

/-- A packet as it is queued. Its first transmission is in time. So is its second one, unless it comes with a
reservation that was there. -/
structure InTime (f : Flow α) (now : Slot) (p : Packet) (q : QueuedPacket) : Prop where
  packet : q.packet = p
  first : q.initial.slot.since now < max (f.params.slotsInMs p.pdbMs) 1
  second : ∀ x, q.retransmission = some x → x.slot.since now < f.params.slotsInMs p.pdbMs ∨
    ∃ r, f.reservation = some r ∧ r.resource = q.initial ∧ r.retransmission = some x

theorem Handed.queued {d : Except FlowError Decision} {q : QueuedPacket} (h : Handed f now nowUs p pool g d f' g')
    (hq : f'.queued = some q) :
    f.queued = some q ∨ InTime f now p q ∧ ∃ trigger, d = .ok (.scheduled q.initial.slot trigger) := by
  cases h with
  | dropped => exact .inl ((refreshed_queued f nowUs).symm.trans hq)
  | refused => exact .inl ((selecting_queued f nowUs).symm.trans hq)
  | @reused r hr hreuse =>
    right
    rw [queue_queued] at hq
    cases hq
    obtain ⟨-, hlate, -⟩ := of_planWith_reuse hreuse
    exact ⟨⟨rfl, lt_max_of_lt_left hlate, fun x hx => .inr ⟨r, hr, rfl, hx⟩⟩, _, rfl⟩
  | selected _ hchoose =>
    right
    rw [reserved, queue_queued] at hq
    cases hq
    have hfirst := first_of_choose hchoose
    have hsecond {x} := second_of_choose (x := x) hchoose
    rw [refreshed_params] at hfirst hsecond
    exact ⟨⟨rfl, hfirst, fun x hx => .inl (hsecond hx).2⟩, _, rfl⟩

theorem Handed.held {d : Except FlowError Decision} {q : QueuedPacket} (h : Handed f now nowUs p pool g d f' g')
    (hq : f'.Holds q) : f.Holds q ∨ InTime f now p q ∧ ∃ trigger, d = .ok (.scheduled q.initial.slot trigger) := by
  rcases hq with hq | hq
  · exact (h.queued hq).imp_left .inl
  · left
    rcases h.packets with ⟨-, howed⟩ | ⟨-, howed⟩
    · exact .inr (howed.symm.trans hq)
    · rw [howed, Option.or_eq_some_iff, halfSent_eq_some] at hq
      exact hq.imp And.left And.right

theorem Step.held {c : Call α} {q : QueuedPacket} (h : Step γ f c f') (hq : f'.Holds q) :
    (∃ q₀, f.Holds q₀ ∧ q.LeftOf q₀) ∨ ∃ now nowUs p pool, c = .enqueue now nowUs p pool ∧ InTime f now p q := by
  cases c with
  | sense report =>
    cases h with
    | sense hsense =>
      obtain ⟨history, -, rfl⟩ := sense_heard hsense
      exact .inl ⟨q, hq.imp (awake_queued f).symm.trans (awake_owed f).symm.trans, .refl q⟩
  | enqueue now nowUs p pool =>
    obtain ⟨_, _, _, hhanded⟩ := h.handed
    rcases hhanded.held hq with hq | ⟨hnew, -⟩
    · exact .inl ⟨q, hq, .refl q⟩
    · exact .inr ⟨now, nowUs, p, pool, rfl, hnew⟩
  | onSlot now nowUs => exact .inl (h.passed.held hq)
  | teardown =>
    cases h
    rcases hq with hq | hq <;> cases hq

theorem Run.held {calls : List (Call α)} {q : QueuedPacket} (h : Run γ f calls f')
    (hother : ∀ c ∈ calls, c.Other q.packet.id) (hq : f'.Holds q) : ∃ q₀, f.Holds q₀ ∧ q.LeftOf q₀ := by
  induction h generalizing q with
  | none => exact ⟨q, hq, .refl q⟩
  | @snoc calls a b c hrun hstep ih =>
    rcases hstep.held hq with ⟨q₁, hq₁, hleft⟩ | ⟨now, nowUs, p, pool, rfl, hnew⟩
    · have hother₁ : ∀ c ∈ calls, c.Other q₁.packet.id := by
        intro c hc
        rw [← hleft.packet]
        exact hother c (by simp [hc])
      obtain ⟨q₀, hq₀, hleft₀⟩ := ih hother₁ hq₁
      exact ⟨q₀, hq₀, hleft.trans hleft₀⟩
    · have hne : p.id ≠ q.packet.id := hother (.enqueue now nowUs p pool) (by simp)
      exact absurd (congrArg Packet.id hnew.packet.symm) hne

/-! ## The gap of a reservation -/

theorem Step.reservation {c : Call α} {r' : Reservation} (h : Step γ f c f') (hr' : f'.reservation = some r') :
    (∃ r n, f.reservation = some r ∧ r'.resource = r.resource.shifted n ∧
      r'.retransmission = r.retransmission.map (·.shifted n)) ∨
    ∃ now nowUs p pool, ∃ g g' : γ, ∃ choice, c = .enqueue now nowUs p pool ∧
      (f.refreshed nowUs).choose now nowUs p pool g = (.ok choice, g') ∧ r' = choice.reservation := by
  have hsame {r : Reservation} (hr : f.reservation = some r) (hresource : r'.resource = r.resource)
      (hretransmission : r'.retransmission = r.retransmission) : ∃ r n, f.reservation = some r ∧
        r'.resource = r.resource.shifted n ∧ r'.retransmission = r.retransmission.map (·.shifted n) :=
    ⟨r, 0, hr, by simpa, by simpa using hretransmission⟩
  cases c with
  | sense report =>
    cases h with
    | sense hsense =>
      obtain ⟨history, -, rfl⟩ := sense_heard hsense
      exact .inl (hsame ((awake_reservation f).symm.trans hr') rfl rfl)
  | enqueue now nowUs p pool =>
    obtain ⟨g, d, g', hhanded⟩ := h.handed
    rcases hhanded.reservation with ⟨-, size, hreservation⟩ | ⟨-, choice, hchoose, hreservation⟩
    · rw [hreservation, Option.map_eq_some_iff] at hr'
      obtain ⟨r, hr, rfl⟩ := hr'
      exact .inl (hsame hr rfl rfl)
    · rw [hreservation] at hr'
      exact .inr ⟨now, nowUs, p, pool, g, g', choice, rfl, hchoose, (Option.some.inj hr').symm⟩
  | onSlot now nowUs =>
    left
    cases h.passed with
    | occasion hr _ hclosed =>
      rw [noted_reservation] at hr'
      obtain ⟨-, hresource, hretransmission⟩ := hclosed.advanced hr'
      exact ⟨_, _, hr, hresource, hretransmission⟩
    | between =>
      rw [noted_reservation] at hr'
      exact hsame hr' rfl rfl
  | teardown =>
    cases h
    cases hr'

theorem Run.gap_lt {params : FlowParams α} {calls : List (Call α)} {r : Reservation} {x : Resource}
    (h : Run γ { params } calls f) (hr : f.reservation = some r) (hx : r.retransmission = some x) :
    ∃ now nowUs p pool, Call.enqueue now nowUs p pool ∈ calls ∧
      x.slot.since r.resource.slot < params.slotsInMs p.pdbMs := by
  induction h generalizing r x with
  | none => cases hr
  | @snoc calls a b c hrun hstep ih =>
    rcases hstep.reservation hr with ⟨r₀, n, hr₀, hresource, hretransmission⟩ |
      ⟨now, nowUs, p, pool, g, g', choice, rfl, hchoose, rfl⟩
    · rw [hretransmission, Option.map_eq_some_iff] at hx
      obtain ⟨y, hy, rfl⟩ := hx
      obtain ⟨now, nowUs, p, pool, hcall, hgap⟩ := ih hr₀ hy
      refine ⟨now, nowUs, p, pool, List.mem_append_left _ hcall, ?_⟩
      rwa [hresource, Resource.shifted_slot, Resource.shifted_slot, Slot.add_since_add]
    · obtain ⟨hlater, hlate⟩ := second_of_choose hchoose hx
      refine ⟨now, nowUs, p, pool, by simp, ?_⟩
      have hparams : a.params = params := hrun.params
      rw [refreshed_params, hparams] at hlate
      rw [Slot.since_sub hlater.le]
      omega

/-! ## Runs -/

/-- A packet that was scheduled is sent inside its delay budget. A second transmission may be sent later, if it comes
with a reservation that was there, and then it trails the first one by less than the budget of another packet. -/
theorem sent_in_budget {params : FlowParams α} {before calls : List (Call α)} {f₁ f₂ f₃ : Flow α} {first s : Slot}
    {trigger : Option Trigger} {sUs : Nat} {g₂ g₃ : γ} {t : Transmission} (hbefore : Run γ { params } before f)
    (hpacket : f.enqueue now nowUs p pool g = (.ok (.scheduled first trigger), f₁, g'))
    (hnew : ∀ q, f.Holds q → q.packet.id ≠ p.id) (hrun : Run γ f₁ calls f₂) (hother : ∀ c ∈ calls, c.Other p.id)
    (hsent : f₂.onSlot s sUs g₂ = (some t, f₃, g₃)) (ht : t.packet = p.id) :
    first.since now < max (params.slotsInMs p.pdbMs) 1 ∧ (t.isRetransmission = false → s = first) ∧
      (t.isRetransmission = true → s.since now < params.slotsInMs p.pdbMs ∨
        ∃ r, f.reservation = some r ∧ r.resource.slot = first ∧ r.retransmission = some t.resource ∧
          ∃ now₀ nowUs₀ p₀ pool₀, Call.enqueue now₀ nowUs₀ p₀ pool₀ ∈ before ∧
            s.since first < params.slotsInMs p₀.pdbMs) := by
  have hdue : Sent f₂ s t := due_sent (onSlot_passed hsent).1.symm
  obtain ⟨rfl, q, hq, hpart, hresource⟩ := hdue.held
  have hid : q.packet.id = p.id := (congrArg Transmission.packet hpart).symm.trans ht
  obtain ⟨q₁, hq₁, hleft⟩ := hrun.held (by rwa [hid]) hq
  rcases (enqueue_handed hpacket).held hq₁ with hold | ⟨hintime, _, hd⟩
  · exact absurd (hleft.packet ▸ hid) (hnew q₁ hold)
  · cases hd
    have hparams : f.params = params := hbefore.params
    have hfirst := hintime.first
    rw [hparams] at hfirst
    refine ⟨hfirst, ?_, ?_⟩
    · intro hagain
      rw [if_neg (by simp [hagain])] at hresource
      rw [← hresource, hleft.initial]
    · intro hagain
      rw [if_pos hagain] at hresource
      have hsecond := hleft.retransmission _ hresource
      rcases hintime.second _ hsecond with hlate | ⟨r, hr, hsame, hx⟩
      · rw [hparams] at hlate
        exact .inl hlate
      · obtain ⟨now₀, nowUs₀, p₀, pool₀, hcall, hgap⟩ := hbefore.gap_lt hr hx
        rw [hsame] at hgap
        exact .inr ⟨r, hr, by rw [hsame], hx, now₀, nowUs₀, p₀, pool₀, hcall, hgap⟩

end

/-! ## A packet that comes early in the interval -/

/-- A packet of a source that has one every twenty milliseconds. -/
def frequentPacket (n : Nat) : Packet := { urgentPacket n 8 with traffic := .periodic, rriMs := 20 }

def frequentCall (n : Nat) : Call ℚ := .enqueue (.ofIndex n) (n * 1000) (frequentPacket n) narrowPool

def arrivedOften (f : Flow ℚ) (n : Nat) (words : List UInt32) : Flow ℚ :=
  (f.enqueue (.ofIndex n) (n * 1000) (frequentPacket n) narrowPool (⟨words⟩ : Script)).2.1

def passedThrough (f : Flow ℚ) (first n : Nat) : Flow ℚ := (List.range' first n).foldl passed f

def slotCalls (first n : Nat) : List (Call ℚ) := (List.range' first n).map slotCall

theorem run_passedThrough (f : Flow ℚ) (first n : Nat) :
    Run Script f (slotCalls first n) (f.passedThrough first n) := by
  induction n generalizing f first with
  | zero => exact .none
  | succ n ih =>
    have hfirst : Run Script f [slotCall first] (f.passed first) := Run.none.snoc (step_passed ..)
    exact hfirst.append (ih (f.passed first) (first + 1))

theorem slotCalls_other (id first n : Nat) : ∀ c ∈ slotCalls first n, c.Other id := by
  intro c hc
  obtain ⟨m, -, rfl⟩ := List.mem_map.1 hc
  trivial

/-- A reservation for the slots 3 and 8, and again for 23 and 28. -/
def betweenTwo : Flow ℚ := (({ params := sentTwice } : Flow ℚ).arrivedOften 1 [0, 0, 0xD0000000]).passedThrough 1 16

def firstCalls : List (Call ℚ) := frequentCall 1 :: slotCalls 1 16

theorem run_betweenTwo : Run Script { params := sentTwice } firstCalls betweenTwo := by
  have hfirst : Run Script { params := sentTwice } [frequentCall 1] _ :=
    Run.none.snoc (.enqueue ⟨[0, 0, 0xD0000000]⟩)
  exact hfirst.append (run_passedThrough ..)

/-- A packet comes in slot 17, earlier before the next occasion than the one before it. -/
def earlyQueued : Flow ℚ := betweenTwo.arrivedOften 17 []

theorem earlyQueued_scheduled : ∃ g, betweenTwo.enqueue (.ofIndex 17) 17000 (frequentPacket 17) narrowPool
    (⟨[]⟩ : Script) = (.ok (.scheduled (.ofIndex 23) none), earlyQueued, g) := by
  have hdecision : (betweenTwo.enqueue (.ofIndex 17) 17000 (frequentPacket 17) narrowPool (⟨[]⟩ : Script)).1 =
      .ok (.scheduled (.ofIndex 23) none) := by decide +kernel
  exact ⟨_, Prod.ext hdecision rfl⟩

theorem earlyQueued_sends : ∃ t f g, (earlyQueued.passedThrough 17 11).onSlot (.ofIndex 28) 28000 (⟨[]⟩ : Script) =
    (some t, f, g) ∧ t.packet = 17 ∧ t.isRetransmission = true := by
  have hsent : ((earlyQueued.passedThrough 17 11).onSlot (.ofIndex 28) 28000 (⟨[]⟩ : Script)).1.map
      (fun t => (t.packet, t.isRetransmission)) = some (17, true) := by decide +kernel
  rcases hcall : (earlyQueued.passedThrough 17 11).onSlot (.ofIndex 28) 28000 (⟨[]⟩ : Script) with ⟨sent, f, g⟩
  rw [hcall] at hsent
  obtain ⟨t, rfl, hpacket⟩ := Option.map_eq_some_iff.1 hsent
  exact ⟨t, f, g, rfl, congrArg Prod.fst hpacket, congrArg Prod.snd hpacket⟩

theorem betweenTwo_holds_none (q : QueuedPacket) : ¬betweenTwo.Holds q := by
  have hqueued : betweenTwo.queued = none := by decide +kernel
  have howed : betweenTwo.owed = none := by decide +kernel
  simp [Holds, hqueued, howed]

theorem sent_in_budget_earlyQueued : (Slot.ofIndex 23).since (.ofIndex 17) < 8 ∧
    ∃ r, betweenTwo.reservation = some r ∧ r.resource.slot = .ofIndex 23 ∧
      ∃ now nowUs p pool, Call.enqueue now nowUs p pool ∈ firstCalls ∧
        (Slot.ofIndex 28).since (.ofIndex 23) < sentTwice.slotsInMs p.pdbMs := by
  obtain ⟨g, hscheduled⟩ := earlyQueued_scheduled
  obtain ⟨t, f, g', hsent, ht, hagain⟩ := earlyQueued_sends
  obtain ⟨hfirst, -, hsecond⟩ := sent_in_budget run_betweenTwo hscheduled
    (fun q hq => absurd hq (betweenTwo_holds_none q)) (run_passedThrough earlyQueued 17 11) (slotCalls_other 17 17 11) hsent ht
  rcases hsecond hagain with hlate | ⟨r, hr, hslot, -, hgap⟩
  · exact absurd hlate (by decide)
  · exact ⟨hfirst, r, hr, hslot, hgap⟩

/-- The second transmission of a packet that uses a reservation of another one can come after its budget. -/
theorem second_sent_late : ¬∀ (params : FlowParams ℚ) (before calls : List (Call ℚ)) (f f₁ f₂ f₃ : Flow ℚ)
    (now first s : Slot) (nowUs sUs : Nat) (p : Packet) (pool : ResourcePool) (trigger : Option Trigger)
    (g g₁ g₂ g₃ : Script) (t : Transmission), Run Script { params } before f →
    f.enqueue now nowUs p pool g = (.ok (.scheduled first trigger), f₁, g₁) →
    (∀ q, f.Holds q → q.packet.id ≠ p.id) → Run Script f₁ calls f₂ → (∀ c ∈ calls, c.Other p.id) →
    Consecutive (before ++ [.enqueue now nowUs p pool] ++ calls ++ [.onSlot s sUs]) →
    f₂.onSlot s sUs g₂ = (some t, f₃, g₃) → t.packet = p.id → s.since now < params.slotsInMs p.pdbMs := by
  intro h
  obtain ⟨g, hscheduled⟩ := earlyQueued_scheduled
  obtain ⟨t, f, g', hsent, ht, -⟩ := earlyQueued_sends
  have hlate := h sentTwice firstCalls (slotCalls 17 11) betweenTwo earlyQueued _ f (.ofIndex 17) _ (.ofIndex 28) 17000
    28000 (frequentPacket 17) narrowPool _ _ g _ g' t run_betweenTwo hscheduled
    (fun q hq => absurd hq (betweenTwo_holds_none q)) (run_passedThrough ..) (slotCalls_other 17 17 11) (by decide +kernel)
    hsent ht
  exact absurd hlate (by decide)

end Flow

end Sidelink
