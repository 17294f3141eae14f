import Sidelink.Proofs.Flow.Budget
import Sidelink.Proofs.Flow.Ledger
import Sidelink.Proofs.Flow.Occasions

/-!
# Announced transmissions

A packet that is scheduled is told the slot of its first transmission. From then on it waits in the queue, past the
transmissions that are still owed to packets before it, and in that slot it goes before them.
-/

namespace Sidelink.Flow

variable {α : Type}

/-- A call that neither takes in a packet nor ends the flow. -/
def Call.Quiet : Call α → Prop
  | .sense _ | .onSlot .. => True
  | .enqueue .. | .teardown => False

section

variable [Analysis α] {γ : Type} [RandomSource γ] {f f' : Flow α} {now : Slot} {nowUs : Nat} {p : Packet}
  {pool : ResourcePool} {g g' : γ} {q : QueuedPacket}

/-! ## The announcement -/

theorem le_since_of_choose {choice : Choice α} {x : Resource} (h : f.choose now nowUs p pool g = (.ok choice, g'))
    (hx : x ∈ choice.set.resources) (hturn : f.params.slotsInMs p.pdbMs ≤ 10240) : f.params.t1 ≤ x.slot.since now := by
  have hselectable := Candidates.selectable_of_candidates (choose_chosen h).candidates hx
  obtain ⟨⟨d, hlow, hhigh, hslot⟩, -⟩ := mem_dataSlots.1 hselectable.slot
  have hd : d < 10240 := by
    simp only [FlowParams.t2] at hhigh
    omega
  rwa [hslot, Slot.since_add, Nat.mod_eq_of_lt hd]

/-- A packet as it waits for a first transmission that was announced. -/
structure Announced (f : Flow α) (now : Slot) (p : Packet) (first : Slot) (q : QueuedPacket) : Prop where
  packet : q.packet = p
  unsent : q.initialSent = false
  slot : q.initial.slot = first
  after : f.params.t1 ≤ first.since now
  before : first.since now ≤ f.params.slotsInMs p.pdbMs - 1

theorem Handed.announced {first : Slot} {trigger : Option Trigger}
    (h : Handed f now nowUs p pool g (.ok (.scheduled first trigger)) f' g')
    (hturn : f.params.slotsInMs p.pdbMs ≤ 10240) : ∃ q, f'.queued = some q ∧ Announced f now p first q := by
  cases h with
  | @reused r hr hreuse =>
    obtain ⟨hafter, hlate, -⟩ := of_planWith_reuse hreuse
    exact ⟨_, queue_queued .., rfl, rfl, rfl, hafter, Nat.le_sub_one_of_lt hlate⟩
  | @selected _ choice _ _ hchoose =>
    have hmem := (choose_drawn hchoose).2.1
    have hafter := le_since_of_choose hchoose hmem (by rwa [refreshed_params])
    have hlate := since_le_of_choose hchoose hmem
    rw [refreshed_params] at hafter hlate
    exact ⟨_, queue_queued .., rfl, rfl, rfl, hafter, hlate⟩

/-! ## The wait -/

theorem Exchange.waits {c : Call α} {reply : Reply} (h : Exchange γ f c reply f') (hquiet : c.Quiet)
    (hslot : c.slot? ≠ some q.initial.slot) (hq : f.queued = some q) (hunsent : q.initialSent = false) :
    f'.queued = some q ∧ reply.sendsFirst = false := by
  cases h with
  | sense hsense =>
    obtain ⟨history, -, rfl⟩ := sense_heard hsense
    exact ⟨(awake_queued f).trans hq, rfl⟩
  | @onSlot now nowUs g =>
    have hlater : q.initial.slot ≠ now := fun heq => hslot (congrArg some heq.symm)
    rcases hcall : f.onSlot now nowUs g with ⟨sent, after, g₁⟩
    obtain ⟨rfl, hpassed⟩ := onSlot_passed hcall
    constructor
    · rw [hpassed.packets.1, served_queued, hq]
      exact QueuedPacket.after_of_unsent hunsent hlater
    · rw [Reply.sendsFirst, ← Bool.not_eq_true, sentFirst_iff]
      rintro ⟨q', hq', -, hnow⟩
      rw [hq] at hq'
      cases hq'
      exact hlater hnow
  | enqueue => exact hquiet.elim
  | teardown => exact hquiet.elim

theorem Recorded.waits {log : List (Call α × Reply)} {n : Nat} (h : Recorded γ f log f')
    (hquiet : ∀ entry ∈ log, entry.1.Quiet) (hslots : slots (log.map Prod.fst) = (List.range n).map (now + ·))
    (hn : n ≤ q.initial.slot.since now) (hq : f.queued = some q) (hunsent : q.initialSent = false) :
    f'.queued = some q ∧ ∀ entry ∈ log, entry.2.sendsFirst = false := by
  induction h generalizing n with
  | none => exact ⟨hq, by simp⟩
  | @snoc log a b c reply hrecorded hexchange ih =>
    have hbefore : ∀ entry ∈ log, entry.1.Quiet := fun entry hmem => hquiet entry (by simp [hmem])
    rw [List.map_append, List.map_singleton] at hslots
    -- The log has come to some slots in order, and the last call to one more or to none.
    obtain ⟨m, hm, hslots', hlater⟩ : ∃ m, m ≤ q.initial.slot.since now ∧
        slots (log.map Prod.fst) = (List.range m).map (now + ·) ∧ c.slot? ≠ some q.initial.slot := by
      cases hc : c.slot? with
      | none =>
        rw [slots_snoc, hc, Option.toList_none, List.append_nil] at hslots
        exact ⟨n, hn, hslots, by simp⟩
      | some s =>
        obtain ⟨m, rfl, hslots', rfl⟩ := slots_snoc_eq_range hc hslots
        refine ⟨m, by omega, hslots', fun heq => ?_⟩
        have hturn := Slot.since_lt q.initial.slot now
        rw [← Option.some.inj heq, Slot.since_add] at hn
        have := Nat.mod_le m 10240
        omega
    obtain ⟨hqueued, hreplies⟩ := ih hbefore hslots' hm
    obtain ⟨hqueued', hreply⟩ := hexchange.waits (hquiet (c, reply) (by simp)) hlater hqueued hunsent
    refine ⟨hqueued', fun entry hmem => ?_⟩
    rcases List.mem_append.1 hmem with hmem | hmem
    · exact hreplies entry hmem
    · rw [List.mem_singleton.1 hmem]
      exact hreply

/-- A packet that is scheduled is inside its selection window at the slot that was announced. If nothing but messages
come from then on and every slot in its order, no packet is sent for the first time before that slot, and this one is
sent in it. -/
theorem scheduled_sent {first : Slot} {trigger : Option Trigger} {f₁ : Flow α}
    (hscheduled : f.enqueue now nowUs p pool g = (.ok (.scheduled first trigger), f₁, g'))
    (hturn : f.params.slotsInMs p.pdbMs ≤ 10240) :
    (f.params.t1 ≤ first.since now ∧ first.since now ≤ f.params.slotsInMs p.pdbMs - 1) ∧
    ∀ log f₂, Recorded γ f₁ log f₂ → (∀ entry ∈ log, entry.1.Quiet) → ∀ n ≤ first.since now,
      slots (log.map Prod.fst) = (List.range n).map (now + ·) →
        (∀ entry ∈ log, entry.2.sendsFirst = false) ∧
        (n = first.since now → ∀ (firstUs : Nat) (g₂ : γ), ∃ t f₃ g₃, f₂.onSlot first firstUs g₂ = (some t, f₃, g₃) ∧
          t.isRetransmission = false ∧ t.packet = p.id ∧ t.slot = first ∧ t.resource.slot = first ∧ t.size = p.size ∧
            t.generatedUs = p.generatedUs) := by
  obtain ⟨q, hq, hannounced⟩ := (enqueue_handed hscheduled).announced hturn
  refine ⟨⟨hannounced.after, hannounced.before⟩, fun log f₂ hrecorded hquiet n hn hslots => ?_⟩
  rw [← hannounced.slot] at hn
  obtain ⟨hqueued, hreplies⟩ := hrecorded.waits hquiet hslots hn hq hannounced.unsent
  refine ⟨hreplies, fun _ firstUs g₂ => ?_⟩
  have hdue := due_of_unsent hqueued hannounced.unsent hannounced.slot
  refine ⟨_, _, _, by rw [onSlot_eq, hdue], rfl, ?_⟩
  rw [← hannounced.packet, ← hannounced.slot]
  exact ⟨rfl, rfl, rfl, rfl, rfl⟩

end

/-! ## A packet that comes while another one is owed -/

def secondAnnounced : Flow ℚ := sentOnce.arrived 4 4 []

def announcedLog : List (Call ℚ × Reply) :=
  [(slotCall 4, .sent (secondAnnounced.onSlot (.ofIndex 4) 4000 (⟨[]⟩ : Script)).1),
    (slotCall 5, .sent ((secondAnnounced.passed 4).onSlot (.ofIndex 5) 5000 (⟨[]⟩ : Script)).1)]

theorem recorded_announcedLog :
    Recorded Script secondAnnounced announcedLog ((secondAnnounced.passed 4).passed 5) := by
  have hfourth : Exchange Script _ _ _ (secondAnnounced.passed 4) := .onSlot (⟨[]⟩ : Script)
  have hfifth : Exchange Script _ _ _ ((secondAnnounced.passed 4).passed 5) := .onSlot (⟨[]⟩ : Script)
  exact (Recorded.none.snoc hfourth).snoc hfifth

theorem scheduled_sent_secondAnnounced : secondAnnounced.owed ≠ none ∧ ∃ t f g,
    ((secondAnnounced.passed 4).passed 5).onSlot (.ofIndex 6) 6000 (⟨[]⟩ : Script) = (some t, f, g) ∧
      t.isRetransmission = false ∧ t.packet = 4 := by
  have hdecision : (sentOnce.enqueue (.ofIndex 4) 4000 (urgentPacket 4 4) narrowPool (⟨[]⟩ : Script)).1 =
      .ok (.scheduled (.ofIndex 6) (some .latency)) := by decide +kernel
  have hscheduled : sentOnce.enqueue (.ofIndex 4) 4000 (urgentPacket 4 4) narrowPool (⟨[]⟩ : Script) =
      (.ok (.scheduled (.ofIndex 6) (some .latency)), secondAnnounced, _) := Prod.ext hdecision rfl
  obtain ⟨-, hlater⟩ := scheduled_sent hscheduled (by decide +kernel)
  obtain ⟨-, hsent⟩ := hlater announcedLog _ recorded_announcedLog (by simp [announcedLog, slotCall, Call.Quiet]) 2
    (by decide) (by decide)
  obtain ⟨t, f, g, ht, hfirst, hpacket, -⟩ := hsent (by decide) 6000 (⟨[]⟩ : Script)
  exact ⟨by decide +kernel, t, f, g, ht, hfirst, hpacket⟩

end Sidelink.Flow
