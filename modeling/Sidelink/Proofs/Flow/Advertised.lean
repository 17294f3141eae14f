import Sidelink.Proofs.Flow.Budget

/-!
# What is advertised

A transmission advertises the reservation that is there when it is sent. Its resource was fixed earlier, when its
packet was queued, and between the two transmissions of a packet there may be a new reservation.
-/

namespace Sidelink

/-- The retransmission of an occasion comes before the next occasion. -/
def Reservation.Tight {α : Type} (params : FlowParams α) (r : Reservation) : Prop :=
  0 < r.rriMs → ∀ x, r.retransmission = some x → x.slot.since r.resource.slot < params.slotsInMs r.rriMs

theorem Reservation.Tight.advance {α : Type} {params : FlowParams α} {r r' : Reservation} {n : Nat}
    (h : r.Tight params) (hrri : r'.rriMs = r.rriMs) (hresource : r'.resource = r.resource.shifted n)
    (hretransmission : r'.retransmission = r.retransmission.map (·.shifted n)) : r'.Tight params := by
  intro hpos x hx
  rw [hretransmission, Option.map_eq_some_iff] at hx
  obtain ⟨y, hy, rfl⟩ := hx
  rw [hresource, hrri, Resource.shifted_slot, Resource.shifted_slot, Slot.add_since_add]
  exact h (hrri ▸ hpos) y hy

namespace Flow

variable {α : Type}

theorem interval_le {ms : Nat} (h : ms ∈ allowedIntervalsMs) : ms ≤ 1000 :=
  (by decide : ∀ n ∈ allowedIntervalsMs, n ≤ 1000) ms h

theorem slotsInMs_lt (params : FlowParams α) {ms : Nat} (h : ms ∈ allowedIntervalsMs) :
    params.slotsInMs ms < 10240 := by
  have hms := interval_le h
  have hindex := params.numerology.index_le
  unfold FlowParams.slotsInMs Numerology.slotsInMs
  calc (ms <<< params.numerology.index) % limit32
      ≤ ms <<< params.numerology.index := Nat.mod_le ..
    _ = ms * 2 ^ params.numerology.index := Nat.shiftLeft_eq ..
    _ ≤ 1000 * 2 ^ 2 := Nat.mul_le_mul hms (Nat.pow_le_pow_right (by omega) hindex)
    _ < 10240 := by omega

/-- A packet has to be sent before the next occasion of a reservation that is made for it. -/
def Call.Timely (params : FlowParams α) : Call α → Prop
  | .enqueue _ _ p _ => 0 < p.rriMs → params.slotsInMs p.pdbMs ≤ params.slotsInMs p.rriMs
  | _ => True

/-- The reservation goes on one interval after the two resources of a packet. -/
def Follows (f : Flow α) (q : QueuedPacket) (x : Resource) : Prop :=
  ∀ r, f.reservation = some r → x.slot.since q.initial.slot < f.params.slotsInMs r.rriMs ∧
    r.resource = q.initial.shifted (f.params.slotsInMs r.rriMs) ∧
    r.retransmission = some (x.shifted (f.params.slotsInMs r.rriMs))

theorem Follows.slot_ne {f : Flow α} {q : QueuedPacket} {x : Resource} {r : Reservation} {now : Slot}
    (h : f.Follows q x) (hconsistent : f.Consistent) (hr : f.reservation = some r)
    (hnow : now.since q.initial.slot ≤ x.slot.since q.initial.slot) : r.resource.slot ≠ now := by
  rintro rfl
  obtain ⟨hgap, hresource, -⟩ := h r hr
  have hinterval := slotsInMs_lt f.params (hconsistent.reservation r hr).interval
  rw [hresource, Resource.shifted_slot, Slot.since_add, Nat.mod_eq_of_lt hinterval] at hnow
  omega

/-! ## A slot -/

section

variable {γ : Type} [RandomSource γ] {f f' : Flow α}

theorem Passed.selections {now : Slot} {nowUs : Nat} (h : Passed γ f now nowUs f') :
    f'.stats.selections = f.stats.selections := by
  cases h with
  | occasion _ _ hclosed => rw [(noted_tally ..).1, hclosed.tally.1]; rfl
  | between => rw [(noted_tally ..).1]; rfl

theorem Passed.reservation {now : Slot} {nowUs : Nat} {r : Reservation} (h : Passed γ f now nowUs f')
    (hr : f.reservation = some r) (hcounter : 2 ≤ r.counter) :
    f'.reservation =
      some (if r.resource.slot = now then r.advance (f.params.slotsInMs r.rriMs) else r) := by
  cases h with
  | @occasion r' _ hr' hslot hclosed =>
    rw [hr] at hr'
    cases hr'
    rw [noted_reservation, if_pos hslot]
    cases hclosed with
    | runsOn => rfl
    | kept _ _ hlast | released hlast => omega
  | between hslot =>
    rw [noted_reservation, if_neg (hslot r hr)]
    exact hr

theorem transmission_held {q : QueuedPacket} {x : Resource} {again : Bool}
    (h : 0 < (f.transmission q x again).rriMs) :
    ∃ r, f.reservation = some r ∧ (f.transmission q x again).rriMs = r.rriMs ∧
      (f.transmission q x again).counter = r.counter := by
  unfold transmission at h ⊢
  cases hr : f.reservation with
  | none => simp [hr] at h
  | some r =>
    cases hdynamic : f.params.dynamicScheduling with
    | true => simp [hr, hdynamic] at h
    | false => exact ⟨r, rfl, by simp, by simp⟩

theorem Closed.tight {r r' : Reservation} {used : Bool} (h : Closed γ f r used f') (htight : r.Tight f.params)
    (hr' : f'.reservation = some r') : r'.Tight f'.params := by
  obtain ⟨hrri, hresource, hretransmission⟩ := h.advanced hr'
  rw [h.params]
  exact htight.advance hrri hresource hretransmission

theorem Closed.interval_pos {r r' : Reservation} {used : Bool} (h : Closed γ f r used f')
    (hsound : r.Sound f.params.dynamicScheduling) (hr' : f'.reservation = some r') : 0 < r.rriMs := by
  apply Nat.pos_of_ne_zero
  intro hzero
  have hsingle := hsound.single (.inr hzero)
  cases h with
  | runsOn hmore => omega
  | kept _ _ _ _ hinterval =>
    rw [hzero, slotsInMs_zero] at hinterval
    exact absurd hinterval (Nat.lt_irrefl 0)
  | released => cases hr'

theorem Passed.follows {q : QueuedPacket} {x : Resource} {nowUs : Nat} (h : Passed γ f q.initial.slot nowUs f')
    (hconsistent : f.Consistent) (htight : ∀ r, f.reservation = some r → r.Tight f.params)
    (hq : f.queued = some { q with initialSent := false }) (hx : q.retransmission = some x) : f'.Follows q x := by
  obtain ⟨r, hr, hresource, hretransmission⟩ := hconsistent.unsent _ hq rfl
  dsimp only at hresource hretransmission
  rw [hx] at hretransmission
  cases h with
  | occasion hr' hnext hclosed =>
    rw [hr] at hr'
    cases hr'
    intro r' hr'
    rw [noted_reservation] at hr'
    obtain ⟨hrri, hresource', hretransmission'⟩ := hclosed.advanced hr'
    have hpos := hclosed.interval_pos (hconsistent.reservation r hr) hr'
    have hgap := htight r hr hpos x hretransmission
    rw [hresource] at hgap hresource'
    rw [hretransmission] at hretransmission'
    rw [noted_params, hclosed.params, hrri]
    exact ⟨hgap, hresource', hretransmission'⟩
  | between hnext => exact absurd (congrArg Resource.slot hresource) (hnext r hr)

end

/-! ## A packet -/

section

variable [Analysis α] {γ : Type} [RandomSource γ] {f f' : Flow α}

theorem tight_of_choose {now : Slot} {nowUs : Nat} {p : Packet} {pool : ResourcePool} {choice : Choice α} {g g' : γ}
    (h : f.choose now nowUs p pool g = (.ok choice, g'))
    (htimely : 0 < p.rriMs → f.params.slotsInMs p.pdbMs ≤ f.params.slotsInMs p.rriMs) :
    choice.reservation.Tight f.params := by
  intro hpos x hx
  obtain ⟨hlater, hlate⟩ := second_of_choose h hx
  rw [(choose_chosen h).sized.2.1] at hpos ⊢
  have := htimely hpos
  rw [Slot.since_sub hlater.le]
  omega

/-! ## Selections -/

theorem Step.selections_le {c : Call α} (h : Step γ f c f') : f.stats.selections ≤ f'.stats.selections := by
  cases c with
  | sense report =>
    cases h with
    | sense hsense =>
      obtain ⟨_, -, rfl⟩ := sense_heard hsense
      exact (congrArg FlowStats.selections (awake_stats f)).ge
  | enqueue now nowUs p pool =>
    obtain ⟨_, _, _, hhanded⟩ := h.handed
    rcases hhanded.reservation with ⟨hsame, -⟩ | ⟨hmore, -⟩ <;> omega
  | onSlot now nowUs => exact h.passed.selections.ge
  | teardown =>
    cases h
    rw [teardown_stats]

theorem Run.selections_le {calls : List (Call α)} (h : Run γ f calls f') :
    f.stats.selections ≤ f'.stats.selections :=
  h.keeps (P := fun a => f.stats.selections ≤ a.stats.selections)
    (fun _ _ _ _ ha hstep => ha.trans hstep.selections_le) le_rfl

/-! ## Between the two transmissions of a packet -/

variable (γ) in
/-- A packet was sent for the first time in some call, which left the flow `b`. -/
def Started (f₀ : Flow α) (calls : List (Call α)) (f : Flow α) (q : QueuedPacket) (b : Flow α) : Prop :=
  ∃ earlier nowUs later a, calls = earlier ++ .onSlot q.initial.slot nowUs :: later ∧ Run γ f₀ earlier a ∧
    a.queued = some { q with initialSent := false } ∧ Step γ a (.onSlot q.initial.slot nowUs) b ∧ Run γ b later f

variable (γ) in
def Superseded (f₀ : Flow α) (calls : List (Call α)) (f : Flow α) (q : QueuedPacket) : Prop :=
  ∃ b, Started γ f₀ calls f q b ∧ b.stats.selections < f.stats.selections

variable (γ) in
/-- A packet was sent once, and the slot of its second transmission is not over. -/
structure Underway (f₀ : Flow α) (calls : List (Call α)) (f : Flow α) (q : QueuedPacket) (x : Resource) : Prop where
  sent : ∃ b, Started γ f₀ calls f q b ∧ (f.stats.selections = b.stats.selections → f.Follows q x)
  behind : ∃ last, (slots calls).getLast? = some last ∧ last.since q.initial.slot < x.slot.since q.initial.slot

variable {f₀ b : Flow α} {calls : List (Call α)} {c : Call α} {q : QueuedPacket} {x : Resource}

theorem Started.snoc (h : Started γ f₀ calls f q b) (hstep : Step γ f c f') :
    Started γ f₀ (calls ++ [c]) f' q b := by
  obtain ⟨earlier, nowUs, later, a, rfl, hbefore, hq, hslot, hlater⟩ := h
  exact ⟨earlier, nowUs, later ++ [c], a, by simp, hbefore, hq, hslot, hlater.snoc hstep⟩

theorem Started.selections_le (h : Started γ f₀ calls f q b) : b.stats.selections ≤ f.stats.selections := by
  obtain ⟨_, _, _, _, -, -, -, -, hlater⟩ := h
  exact hlater.selections_le

theorem Underway.step (h : Underway γ f₀ calls f q x) (hstep : Step γ f c f')
    (hbehind : ∃ last, (slots (calls ++ [c])).getLast? = some last ∧
      last.since q.initial.slot < x.slot.since q.initial.slot)
    (hfollows : f'.stats.selections = f.stats.selections → f.Follows q x → f'.Follows q x) :
    Underway γ f₀ (calls ++ [c]) f' q x := by
  obtain ⟨b, hsent, hfollowed⟩ := h.sent
  refine ⟨⟨b, hsent.snoc hstep, ?_⟩, hbehind⟩
  intro hsame
  have hle := hsent.selections_le
  have hle' := hstep.selections_le
  exact hfollows (by omega) (hfollowed (by omega))

theorem Underway.rest (h : Underway γ f₀ calls f q x) (hstep : Step γ f c f') (hslot : c.slot? = none)
    (hreservation : f'.stats.selections = f.stats.selections → ∃ size : Reservation → Nat,
      f'.reservation = f.reservation.map fun r => { r with packetSize := size r }) :
    Underway γ f₀ (calls ++ [c]) f' q x := by
  apply h.step hstep
  · rw [slots_snoc, hslot]
    simpa using h.behind
  · intro hsame hfollows r' hr'
    obtain ⟨size, hreservation⟩ := hreservation hsame
    rw [hreservation, Option.map_eq_some_iff] at hr'
    obtain ⟨r, hr, rfl⟩ := hr'
    rw [hstep.params]
    exact hfollows r hr

theorem Underway.passed {now : Slot} {nowUs : Nat} (h : Underway γ f₀ calls f q x) (hconsistent : f.Consistent)
    (hstep : Step γ f (.onSlot now nowUs) f') (hslots : Consecutive (calls ++ [.onSlot now nowUs]))
    (hslot : x.slot ≠ now) : Underway γ f₀ (calls ++ [.onSlot now nowUs]) f' q x := by
  obtain ⟨last, hlast, hbehind⟩ := h.behind
  -- The slots go on one by one, so the second transmission cannot be passed without being due.
  have hnow : now.since q.initial.slot < x.slot.since q.initial.slot := by
    have hturn := Slot.since_lt x.slot q.initial.slot
    have hne : x.slot.since q.initial.slot ≠ now.since q.initial.slot := fun heq => hslot (Slot.since_left_inj.1 heq)
    rw [hslots.eq_next hlast, Slot.next_since (by omega)] at hne ⊢
    omega
  apply h.step hstep
  · exact ⟨now, by simp [slots_snoc, Call.slot?], hnow⟩
  · intro _ hfollows
    cases hstep.passed with
    | occasion hr hnext => exact absurd hnext (hfollows.slot_ne hconsistent hr hnow.le)
    | between =>
      intro r hr
      rw [noted_reservation] at hr
      rw [noted_params]
      exact hfollows r hr

theorem Underway.begin {now : Slot} {nowUs : Nat} (hrun : Run γ f₀ calls f) (hconsistent : f.Consistent)
    (htight : ∀ r, f.reservation = some r → r.Tight f.params) (hstep : Step γ f (.onSlot now nowUs) f')
    (hq : f.queued = some { q with initialSent := false }) (hx : q.retransmission = some x)
    (hslot : q.initial.slot = now) : Underway γ f₀ (calls ++ [.onSlot now nowUs]) f' q x := by
  subst hslot
  have hbehind : 0 < x.slot.since q.initial.slot := by
    apply Nat.pos_of_ne_zero
    rw [Ne, Slot.since_eq_zero]
    exact hconsistent.queued_apart _ hq x hx
  constructor
  · refine ⟨f', ⟨calls, nowUs, [], f, rfl, hrun, hq, hstep, .none⟩, fun _ => ?_⟩
    exact hstep.passed.follows hconsistent htight hq hx
  · exact ⟨q.initial.slot, by simp [slots_snoc, Call.slot?], by rwa [Slot.since_self]⟩

/-! ## Runs -/

variable (γ) in
/-- Every packet that was sent once is followed by the reservation it was sent on, unless there is a new one. -/
structure Advertising (f₀ : Flow α) (calls : List (Call α)) (f : Flow α) : Prop where
  run : Run γ f₀ calls f
  consistent : f.Consistent
  tight : ∀ r, f.reservation = some r → r.Tight f.params
  underway : ∀ q x, f.Holds q → q.initialSent = true → q.retransmission = some x → Underway γ f₀ calls f q x

theorem Advertising.sense {r : Report α} (h : Advertising γ f₀ calls f) (hsense : f.sense r = .ok f') :
    Advertising γ f₀ (calls ++ [.sense r]) f' := by
  have hstep : Step γ f (.sense r) f' := .sense hsense
  have hconsistent := h.consistent.step hstep
  obtain ⟨history, -, rfl⟩ := sense_heard hsense
  refine ⟨h.run.snoc hstep, hconsistent, ?_, ?_⟩
  · intro r' hr'
    rw [hstep.params]
    exact h.tight r' ((awake_reservation f).symm.trans hr')
  · intro q x hq hsent hx
    have hq₀ : f.Holds q := hq.imp (awake_queued f).symm.trans (awake_owed f).symm.trans
    apply (h.underway q x hq₀ hsent hx).rest hstep rfl
    exact fun _ => ⟨(·.packetSize), (awake_reservation f).trans Option.map_id'.symm⟩

theorem Advertising.handed {now : Slot} {nowUs : Nat} {p : Packet} {pool : ResourcePool} {g g' : γ}
    {d : Except FlowError Decision} (h : Advertising γ f₀ calls f)
    (hstep : Step γ f (.enqueue now nowUs p pool) f') (hhanded : Handed f now nowUs p pool g d f' g')
    (htimely : 0 < p.rriMs → f.params.slotsInMs p.pdbMs ≤ f.params.slotsInMs p.rriMs) :
    Advertising γ f₀ (calls ++ [.enqueue now nowUs p pool]) f' := by
  refine ⟨h.run.snoc hstep, h.consistent.step hstep, ?_, ?_⟩
  · intro r' hr'
    rw [hstep.params]
    rcases hhanded.reservation with ⟨-, size, hsame⟩ | ⟨-, choice, hchoose, hnew⟩
    · rw [hsame, Option.map_eq_some_iff] at hr'
      obtain ⟨r, hr, rfl⟩ := hr'
      exact h.tight r hr
    · rw [hnew] at hr'
      cases hr'
      rw [← refreshed_params f nowUs] at htimely ⊢
      exact tight_of_choose hchoose htimely
  · intro q x hq hsent hx
    apply (h.underway q x (hhanded.holds hq hsent) hsent hx).rest hstep rfl
    intro hsame
    rcases hhanded.reservation with ⟨-, hreservation⟩ | ⟨hmore, -⟩
    · exact hreservation
    · omega

theorem Advertising.passed {now : Slot} {nowUs : Nat} (h : Advertising γ f₀ calls f)
    (hstep : Step γ f (.onSlot now nowUs) f') (hslots : Consecutive (calls ++ [.onSlot now nowUs])) :
    Advertising γ f₀ (calls ++ [.onSlot now nowUs]) f' := by
  refine ⟨h.run.snoc hstep, h.consistent.step hstep, ?_, ?_⟩
  · intro r' hr'
    cases hstep.passed with
    | occasion hr _ hclosed =>
      rw [noted_reservation] at hr'
      rw [noted_params]
      exact hclosed.tight (h.tight _ hr) hr'
    | between =>
      rw [noted_reservation] at hr'
      rw [noted_params]
      exact h.tight r' hr'
  · intro q x hq hsent hx
    rcases hstep.passed.holds hq hx hsent with ⟨hq₀, hslot⟩ | ⟨hq₀, hslot⟩
    · exact (h.underway q x hq₀ hsent hx).passed h.consistent hstep hslots hslot
    · exact .begin h.run h.consistent h.tight hstep hq₀ hx hslot

theorem Advertising.step (h : Advertising γ f₀ calls f) (htimely : c.Timely f.params)
    (hslots : Consecutive (calls ++ [c])) (hstep : Step γ f c f') : Advertising γ f₀ (calls ++ [c]) f' := by
  cases c with
  | sense r =>
    cases hstep with
    | sense hsense => exact h.sense hsense
  | enqueue now nowUs p pool =>
    obtain ⟨_, _, _, hhanded⟩ := hstep.handed
    exact h.handed hstep hhanded htimely
  | onSlot now nowUs => exact h.passed hstep hslots
  | teardown =>
    refine ⟨h.run.snoc hstep, h.consistent.step hstep, ?_, ?_⟩ <;> cases hstep
    · intro r hr
      cases hr
    · rintro q x (hq | hq) <;> cases hq

theorem Run.advertising {params : FlowParams α} (h : Run γ { params } calls f)
    (htimely : ∀ c ∈ calls, c.Timely params) (hslots : Consecutive calls) :
    Advertising γ { params } calls f := by
  induction h with
  | none =>
    refine ⟨.none, consistent_new params, fun r hr => ?_, ?_⟩
    · cases hr
    · rintro q x (hq | hq) <;> cases hq
  | snoc hrun hstep ih =>
    apply (ih (fun c hc => htimely c (by simp [hc])) hslots.of_append).step _ hslots hstep
    rw [hrun.params]
    exact htimely _ (by simp)

theorem Advertising.follows (h : Advertising γ f₀ calls f) (hq : f.Holds q) (hsent : q.initialSent = true)
    (hx : q.retransmission = some x) : f.Follows q x ∨ Superseded γ f₀ calls f q := by
  obtain ⟨b, hb, hfollows⟩ := (h.underway q x hq hsent hx).sent
  rcases hb.selections_le.eq_or_lt with hsame | hmore
  · exact .inl (hfollows hsame.symm)
  · exact .inr ⟨b, hb, hmore⟩

theorem Advertising.first_held {now : Slot} {nowUs : Nat} (h : Advertising γ f₀ calls f)
    (hpassed : Passed γ f now nowUs f') (hq : f.queued = some q) (hunsent : q.initialSent = false)
    (hslot : q.initial.slot = now) (hinterval : 0 < (f.transmission q q.initial false).rriMs)
    (hcounter : 2 ≤ (f.transmission q q.initial false).counter) :
    ∃ r, f'.reservation = some r ∧
      r.resource = q.initial.shifted (f.params.slotsInMs (f.transmission q q.initial false).rriMs) := by
  obtain ⟨r, hr, hrri, hleft⟩ := transmission_held hinterval
  obtain ⟨r', hr', hresource, -⟩ := h.consistent.unsent q hq hunsent
  rw [hr] at hr'
  cases hr'
  refine ⟨_, hpassed.reservation hr (hleft ▸ hcounter), ?_⟩
  rw [if_pos (hresource ▸ hslot), hrri, ← hresource]
  rfl

theorem Advertising.second_held {nowUs : Nat} (h : Advertising γ f₀ calls f) (hpassed : Passed γ f x.slot nowUs f')
    (hq : f.Holds q) (hsent : q.initialSent = true) (hx : q.retransmission = some x)
    (hinterval : 0 < (f.transmission q x true).rriMs) (hcounter : 2 ≤ (f.transmission q x true).counter) :
    ∃ r, f'.reservation = some r ∧
      (r.retransmission = some (x.shifted (f.params.slotsInMs (f.transmission q x true).rriMs)) ∨
        Superseded γ f₀ calls f q) := by
  obtain ⟨r, hr, hrri, hleft⟩ := transmission_held hinterval
  refine ⟨_, hpassed.reservation hr (hleft ▸ hcounter), ?_⟩
  rcases h.follows hq hsent hx with hfollows | hnew
  · left
    rw [if_neg (hfollows.slot_ne h.consistent hr le_rfl), hrri]
    exact (hfollows r hr).2.2
  · exact .inr hnew

/-- What is advertised with more than one occasion to come is there after the slot. A first transmission advertises
its own next occasion, and so does a second one unless there is a new reservation since the first. -/
theorem advertised_reservation_held {params : FlowParams α} {now : Slot} {nowUs : Nat} {g g' : γ} {t : Transmission}
    (hrun : Run γ { params } calls f) (htimely : ∀ c ∈ calls, c.Timely params) (hslots : Consecutive calls)
    (hsent : f.onSlot now nowUs g = (some t, f', g')) (hinterval : 0 < t.rriMs) (hcounter : 2 ≤ t.counter) :
    ∃ r, f'.reservation = some r ∧
      (t.isRetransmission = false → r.resource = t.resource.shifted (params.slotsInMs t.rriMs)) ∧
      (t.isRetransmission = true →
        r.retransmission = some (t.resource.shifted (params.slotsInMs t.rriMs)) ∨
          ∃ q, q.packet.id = t.packet ∧ q.retransmission = some t.resource ∧
            Superseded γ { params } calls f q) := by
  have h := hrun.advertising htimely hslots
  obtain ⟨hdue, hpassed⟩ := onSlot_passed hsent
  have hparams : params = f.params := hrun.params.symm
  cases due_sent hdue.symm with
  | first hq hunsent hslot =>
    obtain ⟨r, hr, hheld⟩ := h.first_held hpassed hq hunsent hslot hinterval hcounter
    exact ⟨r, hr, fun _ => hparams ▸ hheld, nofun⟩
  | @second q x hq hq₁ hx hslot =>
    subst hslot
    obtain ⟨r, hr, hheld⟩ := h.second_held hpassed (.inl hq) hq₁ hx hinterval hcounter
    exact ⟨r, hr, nofun, fun _ => hheld.imp (hparams ▸ ·) fun hnew => ⟨q, rfl, hx, hnew⟩⟩
  | @owed q x hq hx hslot =>
    subst hslot
    obtain ⟨r, hr, hheld⟩ := h.second_held hpassed (.inr hq) (h.consistent.owed q hq).1 hx hinterval hcounter
    exact ⟨r, hr, nofun, fun _ => hheld.imp (hparams ▸ ·) fun hnew => ⟨q, rfl, hx, hnew⟩⟩

end

/-! ## A second transmission after a new reservation -/

def secondDue : Flow ℚ := (((sentOnce.passed 4).passed 5).passed 6).passed 7

def onceCalls : List (Call ℚ) := [urgentCall 1 8, slotCall 3, slotCall 4, slotCall 5, slotCall 6, slotCall 7]

theorem run_secondDue : Run Script { params := sentTwice } onceCalls secondDue :=
  (((run_sentOnce.snoc (step_passed ..)).snoc (step_passed ..)).snoc (step_passed ..)).snoc (step_passed ..)

theorem secondDue_sends : ∃ g, secondDue.onSlot (.ofIndex 8) 8000 (⟨[]⟩ : Script) =
    (some (secondDue.transmission urgentQueued ⟨.ofIndex 8, 0, 1⟩ true), secondDue.passed 8, g) := by
  have hsent : (secondDue.onSlot (.ofIndex 8) 8000 (⟨[]⟩ : Script)).1 =
      some (secondDue.transmission urgentQueued ⟨.ofIndex 8, 0, 1⟩ true) := by decide +kernel
  exact ⟨_, Prod.ext hsent rfl⟩

theorem advertised_secondDue : ∃ r, (secondDue.passed 8).reservation = some r ∧
    (r.retransmission = some ⟨.ofIndex 108, 0, 1⟩ ∨
      ∃ q, q.packet.id = 1 ∧ q.retransmission = some ⟨.ofIndex 8, 0, 1⟩ ∧
        Superseded Script { params := sentTwice } onceCalls secondDue q) := by
  obtain ⟨g, hsent⟩ := secondDue_sends
  obtain ⟨r, hr, -, hsecond⟩ := advertised_reservation_held run_secondDue
    (by simp [onceCalls, urgentCall, slotCall, Call.Timely, urgentPacket]; decide) (by decide) hsent
    (by decide +kernel) (by decide +kernel)
  have hnext : (⟨.ofIndex 8, 0, 1⟩ : Resource).shifted
      (sentTwice.slotsInMs (secondDue.transmission urgentQueued ⟨.ofIndex 8, 0, 1⟩ true).rriMs) =
        ⟨.ofIndex 108, 0, 1⟩ := by decide +kernel
  rw [← hnext]
  exact ⟨r, hr, hsecond rfl⟩

/-- A packet that gave way to a newer one with a reservation of its own advertises that one as its next occasion. -/
theorem advertised_not_held : ¬∀ (params : FlowParams ℚ) (calls : List (Call ℚ)) (f f' : Flow ℚ) (now : Slot)
    (nowUs : Nat) (g g' : Script) (t : Transmission), Run Script { params } calls f →
    (∀ c ∈ calls, c.Timely params) → Consecutive (calls ++ [.onSlot now nowUs]) →
    f.onSlot now nowUs g = (some t, f', g') → 0 < t.rriMs → 2 ≤ t.counter →
    ∃ r, f'.reservation = some r ∧
      if t.isRetransmission then r.retransmission = some (t.resource.shifted (params.slotsInMs t.rriMs))
      else r.resource = t.resource.shifted (params.slotsInMs t.rriMs) := by
  intro h
  let second : QueuedPacket := ⟨urgentPacket 4 4, ⟨.ofIndex 6, 0, 1⟩, some ⟨.ofIndex 7, 0, 1⟩, true⟩
  have hsent : (thirdQueued.onSlot (.ofIndex 7) 7000 (⟨[]⟩ : Script)).1 =
      some (thirdQueued.transmission second ⟨.ofIndex 7, 0, 1⟩ true) := by decide +kernel
  obtain ⟨r, hr, hsecond⟩ := h sentTwice _ thirdQueued (thirdQueued.passed 7) _ 7000 _ _ _
    (run_sentOnce.append run_thirdQueued)
    (by simp [urgentCall, slotCall, Call.Timely, urgentPacket]; decide) (by decide) (Prod.ext hsent rfl)
    (by decide +kernel) (by decide +kernel)
  have hheld : (thirdQueued.passed 7).reservation.bind (·.retransmission) = some ⟨.ofIndex 10, 0, 1⟩ := by
    decide +kernel
  rw [hr, Option.bind_some] at hheld
  have hnext : r.retransmission = some _ := hsecond
  rw [hheld] at hnext
  exact absurd hnext (by decide +kernel)

end Flow

end Sidelink
