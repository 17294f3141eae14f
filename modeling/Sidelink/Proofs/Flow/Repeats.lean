import Sidelink.Proofs.Flow.Deadline

/-!
# Repeats

A packet is sent a second time within the span that its budget allows, counted from the first time. A packet that is
left for its second transmission alone is never kept beyond the slot of it.
-/

namespace Sidelink

variable {α : Type}

/-- The second resource comes after the first, and less than so many slots later. -/
def Resource.Follows (span : Nat) (first : Resource) (second : Option Resource) : Prop :=
  ∀ x, second = some x → x.slot ≠ first.slot ∧ x.slot.since first.slot < span

theorem Resource.Follows.shifted {span : Nat} {first : Resource} {second : Option Resource}
    (h : first.Follows span second) (n : Nat) : (first.shifted n).Follows span (second.map (·.shifted n)) := by
  intro x hx
  obtain ⟨y, hy, rfl⟩ := Option.map_eq_some_iff.1 hx
  obtain ⟨hne, hlt⟩ := h y hy
  simp only [shifted_slot, Slot.add_since_add]
  exact ⟨fun hslot => hne ((Slot.add_left_inj n).1 hslot), hlt⟩

namespace Flow

variable {f f' : Flow α} {span : Nat} {now : Slot} {nowUs nextUs lastUs id : Nat} {q : QueuedPacket} {p : Packet}
  {x : Resource}

/-- Second transmissions come soon after the first ones, and those to come do so before the span is over, counted from
the next slot on. -/
structure Near (span : Nat) (now : Slot) (f : Flow α) : Prop where
  reservation : ∀ r, f.reservation = some r → r.resource.Follows span r.retransmission
  queued : ∀ q, f.queued = some q → q.initialSent = false → q.initial.Follows span q.retransmission
  owed : ∀ q, f.owed = some q → q.initialSent = true
  left : ∀ q, f.Holds q → q.initialSent = true → ∀ x, q.retransmission = some x → x.slot.since now + 1 < span

theorem near_new (span : Nat) (now : Slot) (params : FlowParams α) : Near span now { params } := by
  constructor <;> simp [Holds]

theorem Near.of_same (h : Near span now f) (hreservation : f'.reservation = f.reservation)
    (hqueued : f'.queued = f.queued) (howed : f'.owed = f.owed) : Near span now f' := by
  constructor
  case reservation => rw [hreservation]; exact h.reservation
  case queued => rw [hqueued]; exact h.queued
  case owed => rw [howed]; exact h.owed
  case left =>
    intro q hq
    rw [Holds, hqueued, howed] at hq
    exact h.left q hq

/-- The names of the packets that a flow holds. -/
def ids (f : Flow α) : List Nat := (f.queued.toList ++ f.owed.toList).map (·.packet.id)

theorem mem_ids_of_holds (h : f.Holds q) : q.packet.id ∈ f.ids := by
  refine List.mem_map_of_mem (List.mem_append.2 ?_)
  rw [Option.mem_toList, Option.mem_toList]
  exact h

/-- A packet was sent. What may be left of it is its second transmission, before some time. -/
def Spent (f : Flow α) (id nextUs lastUs : Nat) : Prop :=
  ∀ q, f.Holds q → q.packet.id = id → q.initialSent = true ∧ ∀ x, q.retransmission = some x →
    nextUs + x.slot.since (f.params.numerology.slotAt nextUs) * f.params.numerology.slotUs < lastUs

theorem Spent.of_same (h : f.Spent id nextUs lastUs) (hparams : f'.params = f.params) (hqueued : f'.queued = f.queued)
    (howed : f'.owed = f.owed) : f'.Spent id nextUs lastUs := by
  intro q hq
  rw [Holds, hqueued, howed] at hq
  rw [hparams]
  exact h q hq

theorem Spent.sent {t : Transmission} (h : f.Spent t.packet nextUs lastUs)
    (hsent : Sent f (f.params.numerology.slotAt nextUs) t) : nextUs < lastUs := by
  have hlast {q : QueuedPacket} {x : Resource} (hq : f.Holds q) (hid : q.packet.id = t.packet)
      (hx : q.retransmission = some x) (hslot : x.slot = f.params.numerology.slotAt nextUs) : nextUs < lastUs := by
    have hlt := (h q hq hid).2 x hx
    rwa [hslot, Slot.since_self, Nat.zero_mul] at hlt
  cases hsent with
  | first hq hunsent =>
    obtain ⟨hsent, -⟩ := h _ (.inl hq) rfl
    rw [hunsent] at hsent
    cases hsent
  | second hq _ hx hslot => exact hlast (.inl hq) rfl hx hslot
  | owed hq hx hslot => exact hlast (.inr hq) rfl hx hslot

/-! ## A packet -/

section

variable [Analysis α] {γ : Type} [RandomSource γ] {pool : ResourcePool} {g g' : γ} {d : Except FlowError Decision}

theorem Handed.holds_sent (h : Handed f now nowUs p pool g d f' g') (hq : f'.Holds q) (hsent : q.initialSent = true) :
    f.Holds q := by
  rcases h.packets with ⟨hqueued, howed⟩ | ⟨⟨q', hq', hunsent⟩, howed⟩
  · rwa [Holds, hqueued, howed] at hq
  · rcases hq with hq | hq
    · rw [hq'] at hq
      cases hq
      rw [hunsent] at hsent
      cases hsent
    · rw [howed, Option.or_eq_some_iff, halfSent_eq_some] at hq
      exact hq.imp And.left And.right

theorem Handed.ids (h : Handed f now nowUs p pool g d f' g') : f'.ids.Sublist (p.id :: f.ids) := by
  rcases h.packets with ⟨hqueued, howed⟩ | ⟨⟨q, hq, hunsent⟩, howed⟩
  · rw [Flow.ids, hqueued, howed]
    exact List.sublist_cons_self ..
  · have hrest : ((f.halfSent.or f.owed).toList.map (·.packet.id)).Sublist f.ids := by
      rw [Flow.ids, List.map_append]
      cases hhalf : f.halfSent with
      | none => exact List.sublist_append_right ..
      | some old =>
        rw [(halfSent_eq_some.1 hhalf).1]
        exact List.sublist_append_left [old.packet.id] _
    have hid : q.packet.id = p.id ∨ f.queued = some q :=
      (h.queued hq).elim .inr fun hnew => .inl (by rw [hnew.1.packet])
    rw [Flow.ids, hq, howed, List.map_append]
    rcases hid with hid | hold
    · rw [Option.toList_some, List.map_singleton, hid]
      exact hrest.cons_cons _
    · -- What waits for its first transmission is not kept as half sent.
      have hnone : f.halfSent = none := by simp [halfSent, hold, Option.filter, hunsent]
      rw [hnone, Option.none_or, ← List.map_append, ← hold]
      exact List.sublist_cons_self ..

theorem Near.handed (h : Near span now f) (hspan : f.params.slotsInMs p.pdbMs = span)
    (hhanded : Handed f now nowUs p pool g d f' g') : Near span now f' := by
  have hreservation : ∀ r, f'.reservation = some r → r.resource.Follows span r.retransmission := by
    intro r hr
    rcases hhanded.reservation with ⟨-, size, hsame⟩ | ⟨-, choice, hchoose, hnew⟩
    · rw [hsame, Option.map_eq_some_iff] at hr
      obtain ⟨r', hr', rfl⟩ := hr
      exact h.reservation r' hr'
    · rw [hnew] at hr
      cases hr
      intro x hx
      obtain ⟨hlater, hlate⟩ := second_of_choose hchoose hx
      rw [refreshed_params, hspan] at hlate
      refine ⟨fun hslot => ?_, ?_⟩
      · rw [hslot] at hlater
        exact Nat.lt_irrefl _ hlater
      · rw [Slot.since_sub hlater.le]
        omega
  constructor
  case reservation => exact hreservation
  case queued =>
    intro q hq hunsent
    cases hhanded with
    | dropped => exact h.queued q ((refreshed_queued f nowUs).symm.trans hq) hunsent
    | refused => exact h.queued q ((selecting_queued f nowUs).symm.trans hq) hunsent
    | reused hr =>
      rw [queue_queued] at hq
      cases hq
      exact h.reservation _ hr
    | selected =>
      rw [reserved, queue_queued] at hq
      cases hq
      exact hreservation _ (reserved_reservation ..)
  case owed =>
    intro q hq
    rcases hhanded.packets with ⟨-, howed⟩ | ⟨-, howed⟩
    · exact h.owed q (howed ▸ hq)
    · rw [howed, Option.or_eq_some_iff, halfSent_eq_some] at hq
      rcases hq with ⟨-, hsent, -⟩ | ⟨-, hq⟩
      · exact hsent
      · exact h.owed q hq
  case left => exact fun q hq hsent => h.left q (hhanded.holds_sent hq hsent) hsent

theorem Spent.handed (h : f.Spent id nextUs lastUs) (hne : p.id ≠ id)
    (hhanded : Handed f now nowUs p pool g d f' g') : f'.Spent id nextUs lastUs := by
  intro q hq hid
  rw [hhanded.params]
  rcases hhanded.held hq with hq | ⟨hnew, -⟩
  · exact h q hq hid
  · rw [hnew.packet] at hid
    exact absurd hid hne

end

/-! ## A slot -/

section

variable {γ : Type} [RandomSource γ]

theorem Passed.left (h : Passed γ f now nowUs f') (hq : f'.Holds q) (hsent : q.initialSent = true)
    (hx : q.retransmission = some x) : ∃ q₀, f.Holds q₀ ∧ q₀.packet = q.packet ∧ q₀.retransmission = some x ∧
      (q₀.initialSent = true ∧ x.slot ≠ now ∨
        f.queued = some q₀ ∧ q₀.initialSent = false ∧ q₀.initial.slot = now) := by
  obtain ⟨hqueued, howed⟩ := h.packets
  rcases hq with hq | hq
  · rw [hqueued, served_queued, Option.bind_eq_some_iff] at hq
    obtain ⟨q₀, hq₀, hafter⟩ := hq
    rcases QueuedPacket.after_cases hafter with ⟨rfl, hdue⟩ | ⟨hunsent, hslot, rfl⟩
    · refine ⟨q, .inl hq₀, rfl, hx, .inl ⟨hsent, fun hslot => ?_⟩⟩
      simp [QueuedPacket.due, hsent, hx, hslot] at hdue
    · exact ⟨q₀, .inl hq₀, rfl, hx, .inr ⟨hq₀, hunsent, hslot⟩⟩
  · rw [howed] at hq
    obtain ⟨hq, hkept⟩ := Option.filter_eq_some_iff.1 hq
    rw [hx] at hkept
    exact ⟨q, .inr hq, rfl, hx, .inl ⟨hsent, by simpa using hkept⟩⟩

theorem Passed.ids (h : Passed γ f now nowUs f') : f'.ids.Sublist f.ids := by
  obtain ⟨hqueued, howed⟩ := h.packets
  have hfirst : (f'.queued.toList.map (·.packet.id)).Sublist (f.queued.toList.map (·.packet.id)) := by
    rw [hqueued, served_queued]
    cases f.queued with
    | none => exact .refl _
    | some q =>
      rw [Option.bind_some]
      cases hafter : q.after now with
      | none => exact List.nil_sublist _
      | some q' => simp [(QueuedPacket.after_kept hafter).1]
  have hsecond : (f'.owed.toList.map (·.packet.id)).Sublist (f.owed.toList.map (·.packet.id)) := by
    cases hkept : f'.owed with
    | none => exact List.nil_sublist _
    | some q =>
      rw [howed] at hkept
      rw [(Option.filter_eq_some_iff.1 hkept).1]
  rw [Flow.ids, Flow.ids, List.map_append, List.map_append]
  exact hfirst.append hsecond

theorem Near.passed (h : Near span now f) (hpassed : Passed γ f now nowUs f') : Near span now.next f' := by
  constructor
  case reservation =>
    intro r hr
    cases hpassed with
    | occasion hr₀ _ hclosed =>
      rw [noted_reservation] at hr
      obtain ⟨-, hresource, hretransmission⟩ := hclosed.advanced hr
      rw [hresource, hretransmission]
      exact (h.reservation _ hr₀).shifted _
    | between =>
      rw [noted_reservation] at hr
      exact h.reservation r hr
  case queued =>
    intro q hq hunsent
    rw [hpassed.packets.1] at hq
    exact h.queued q (unsent_of_served hq hunsent).1 hunsent
  case owed =>
    intro q hq
    rw [hpassed.packets.2] at hq
    exact h.owed q (Option.filter_eq_some_iff.1 hq).1
  case left =>
    intro q hq hsent x hx
    obtain ⟨q₀, hq₀, -, hx₀, ⟨hsent₀, hslot⟩ | ⟨hqueued, hunsent, hslot⟩⟩ := hpassed.left hq hsent hx
    · have hlt := h.left q₀ hq₀ hsent₀ x hx₀
      rw [Slot.since_next hslot] at hlt
      omega
    · obtain ⟨hne, hlt⟩ := h.queued q₀ hqueued hunsent x hx₀
      rw [hslot] at hne hlt
      rwa [Slot.since_next hne] at hlt

theorem Spent.passed (h : f.Spent id nextUs lastUs)
    (hpassed : Passed γ f (f.params.numerology.slotAt nextUs) nowUs f') :
    f'.Spent id (nextUs + f.params.numerology.slotUs) lastUs := by
  intro q hq hid
  obtain ⟨q', hq', hleft⟩ := hpassed.held hq
  have hsent := hleft.sent (h q' hq' (hleft.packet ▸ hid)).1
  refine ⟨hsent, fun x hx => ?_⟩
  obtain ⟨q₀, hq₀, hpacket, hx₀, ⟨-, hslot⟩ | ⟨-, hunsent, -⟩⟩ := hpassed.left hq hsent hx
  · have hlt := (h q₀ hq₀ (hpacket ▸ hid)).2 x hx₀
    rw [Slot.since_next hslot, Nat.add_mul] at hlt
    rw [hpassed.params, Numerology.slotAt_add]
    omega
  · rw [(h q₀ hq₀ (hpacket ▸ hid)).1] at hunsent
    cases hunsent

theorem Near.spent {t : Transmission} (h : Near span (f.params.numerology.slotAt nextUs) f) (hids : f.ids.Nodup)
    (hsent : Sent f (f.params.numerology.slotAt nextUs) t)
    (hpassed : Passed γ f (f.params.numerology.slotAt nextUs) nowUs f') :
    f'.Spent t.packet (nextUs + f.params.numerology.slotUs) (nextUs + span * f.params.numerology.slotUs) := by
  intro q hq hid
  have hsent' : q.initialSent = true := by
    cases hunsent : q.initialSent with
    | true => rfl
    | false =>
      have howed {q' : QueuedPacket} (hq' : f'.owed = some q') : q'.initialSent = true :=
        (h.passed hpassed).owed q' hq'
      rcases hq with hq | hq
      · rw [hpassed.packets.1] at hq
        obtain ⟨hqueued, hslot⟩ := unsent_of_served hq hunsent
        -- A packet that still waits was not due, and it is not the one that is owed.
        cases hsent with
        | first hq' _ hslot' => rw [hqueued] at hq'; cases hq'; exact absurd hslot' hslot
        | second hq' hsent' => rw [hqueued] at hq'; cases hq'; rw [hunsent] at hsent'; exact hsent'
        | owed hq' =>
          simp [Flow.ids, hqueued, hq'] at hids
          exact absurd hid hids
      · rw [howed hq] at hunsent
        cases hunsent
  refine ⟨hsent', fun x hx => ?_⟩
  have hlt := (h.passed hpassed).left q hq hsent' x hx
  have hspan := Nat.mul_le_mul_right f.params.numerology.slotUs hlt
  rw [hpassed.params, Numerology.slotAt_add]
  simp only [Nat.succ_eq_add_one, Nat.add_mul] at hspan
  have hpos := f.params.numerology.slotUs_pos
  omega

end

end Flow

end Sidelink
