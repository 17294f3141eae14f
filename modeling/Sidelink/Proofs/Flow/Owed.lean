import Sidelink.Proofs.Flow.Accounts
import Sidelink.Proofs.Flow.Consistency

/-!
# Second transmissions

A packet that was sent once waits for its second transmission in the queue, or owed after it gave way to a newer one.
There is room for one packet that is owed.
-/

namespace Sidelink.Flow

variable {α : Type}

def Holds (f : Flow α) (q : QueuedPacket) : Prop := f.queued = some q ∨ f.owed = some q

theorem Sent.held {f : Flow α} {now : Slot} {t : Transmission} (h : Sent f now t) :
    t.resource.slot = now ∧ ∃ q, f.Holds q ∧ t = f.transmission q t.resource t.isRetransmission ∧
      if t.isRetransmission then q.retransmission = some t.resource else q.initial = t.resource := by
  cases h with
  | first hq _ hslot => exact ⟨hslot, _, .inl hq, rfl, rfl⟩
  | second hq _ hx hslot => exact ⟨hslot, _, .inl hq, rfl, hx⟩
  | owed hq hx hslot => exact ⟨hslot, _, .inr hq, rfl, hx⟩

/-! ## The packets that were there before -/

section

variable {γ : Type} [RandomSource γ] {f f' : Flow α} {q : QueuedPacket}

theorem Passed.holds {now : Slot} {nowUs : Nat} {x : Resource} (h : Passed γ f now nowUs f')
    (hq : f'.Holds q) (hx : q.retransmission = some x) (hsent : q.initialSent = true) :
    (f.Holds q ∧ x.slot ≠ now) ∨
      (f.queued = some { q with initialSent := false } ∧ q.initial.slot = now) := by
  obtain ⟨hqueued, howed⟩ := h.packets
  rcases hq with hq | hq
  · rw [hqueued, served_queued, Option.bind_eq_some_iff] at hq
    obtain ⟨q₀, hq₀, hafter⟩ := hq
    rcases QueuedPacket.after_cases hafter with ⟨rfl, hdue⟩ | ⟨hunsent, hslot, rfl⟩
    · left
      refine ⟨.inl hq₀, ?_⟩
      rintro rfl
      simp [QueuedPacket.due, hsent, hx] at hdue
    · right
      rw [← hunsent]
      exact ⟨hq₀, hslot⟩
  · rw [howed] at hq
    obtain ⟨hq₀, hslot⟩ := Option.filter_eq_some_iff.1 hq
    exact .inl ⟨.inr hq₀, by simpa [hx] using hslot⟩

theorem Handed.holds [Analysis α] {now : Slot} {nowUs : Nat} {p : Packet} {pool : ResourcePool} {g g' : γ}
    {d : Except FlowError Decision} (h : Handed f now nowUs p pool g d f' g') (hq : f'.Holds q)
    (hsent : q.initialSent = true) : f.Holds q := by
  rcases h.packets with ⟨hqueued, howed⟩ | ⟨⟨q', hqueued, hunsent⟩, howed⟩
  · exact hq.imp hqueued.symm.trans howed.symm.trans
  · rcases hq with hq | hq
    · rw [hqueued] at hq
      cases hq
      rw [hunsent] at hsent
      cases hsent
    · rw [howed, Option.or_eq_some_iff, halfSent_eq_some] at hq
      exact hq.imp And.left And.right

end

/-! ## Calls -/

/-- A call that neither comes to a slot nor ends the flow. -/
def Call.Before (s : Slot) : Call α → Prop
  | .onSlot now _ => now ≠ s
  | .teardown => False
  | _ => True

section

variable {γ : Type} [RandomSource γ]

variable [Analysis α]

variable (γ) in
/-- A packet was owed when the one in the queue gave way too, and took its place. -/
def Displaced (f : Flow α) (calls : List (Call α)) (f' : Flow α) (q : QueuedPacket) : Prop :=
  ∃ earlier now nowUs p pool later a b other, calls = earlier ++ .enqueue now nowUs p pool :: later ∧
    Run γ f earlier a ∧ Step γ a (.enqueue now nowUs p pool) b ∧ Run γ b later f' ∧
    a.owed = some q ∧ a.halfSent = some other ∧ b.owed = some other

variable {f f' f'' : Flow α} {calls : List (Call α)} {c : Call α} {q : QueuedPacket}

theorem Displaced.snoc (h : Displaced γ f calls f' q) (hstep : Step γ f' c f'') :
    Displaced γ f (calls ++ [c]) f'' q := by
  obtain ⟨earlier, now, nowUs, p, pool, later, a, b, other, rfl, hbefore, henqueue, hlater, hrest⟩ := h
  exact ⟨earlier, now, nowUs, p, pool, later ++ [c], a, b, other, by simp, hbefore, henqueue, hlater.snoc hstep,
    hrest⟩

theorem Step.holds {r : Resource} (h : f.Holds q) (hsent : q.initialSent = true) (hr : q.retransmission = some r)
    (hbefore : c.Before r.slot) (hstep : Step γ f c f') :
    f'.Holds q ∨ (f.owed = some q ∧ ∃ other, f.halfSent = some other ∧ f'.owed = some other ∧
      ∃ now nowUs p pool, c = .enqueue now nowUs p pool) := by
  cases c with
  | sense report =>
    cases hstep with
    | sense hsense =>
      obtain ⟨history, -, rfl⟩ := sense_heard hsense
      exact .inl (h.imp (awake_queued f).trans (awake_owed f).trans)
  | enqueue now nowUs p pool =>
    obtain ⟨g, d, g', hhanded⟩ := hstep.handed
    rcases hhanded.packets with ⟨hqueued, howed⟩ | ⟨-, howed⟩
    · exact .inl (h.imp hqueued.trans howed.trans)
    · rcases h with hq | hq
      · left
        right
        rw [howed, halfSent_eq_some.2 ⟨hq, hsent, by rw [hr]; rfl⟩]
        rfl
      · cases hother : f.halfSent with
        | none =>
          left
          right
          rw [howed, hother]
          exact hq
        | some other =>
          right
          exact ⟨hq, other, rfl, by rw [howed, hother]; rfl, now, nowUs, p, pool, rfl⟩
  | onSlot now nowUs =>
    have hslot : r.slot ≠ now := fun hslot => hbefore hslot.symm
    obtain ⟨hqueued, howed⟩ := hstep.passed.packets
    left
    rcases h with hq | hq
    · left
      rw [hqueued, served_queued, hq]
      exact QueuedPacket.after_of_sent hsent hr hslot
    · right
      rw [howed]
      exact Option.filter_eq_some_iff.2 ⟨hq, by simpa [hr] using hslot⟩
  | teardown => exact hbefore.elim

theorem Run.holds {r : Resource} (h : Run γ f calls f') (hq : f.Holds q) (hsent : q.initialSent = true)
    (hr : q.retransmission = some r) (hbefore : ∀ c ∈ calls, c.Before r.slot) :
    f'.Holds q ∨ Displaced γ f calls f' q := by
  induction h with
  | none => exact .inl hq
  | @snoc calls a b c hrun hstep ih =>
    have hc : c.Before r.slot := hbefore c (by simp)
    rcases ih fun c hc => hbefore c (by simp [hc]) with hheld | hlost
    · rcases hstep.holds hheld hsent hr hc with hheld | ⟨howed, other, hgives, htakes, now, nowUs, p, pool, rfl⟩
      · exact .inl hheld
      · exact .inr ⟨calls, now, nowUs, p, pool, [], a, b, other, rfl, hrun, hstep, .none, howed, hgives, htakes⟩
    · exact .inr (hlost.snoc hstep)

/-! ## The slot of a second transmission -/

omit [Analysis α] in
theorem Holds.due {r : Resource} (h : f.Holds q) (hsent : q.initialSent = true) (hr : q.retransmission = some r) :
    f.due r.slot = (f.queuedDue r.slot).or (some (f.transmission q r true)) := by
  rcases h with hq | hq
  · have hdue : f.queuedDue r.slot = some (f.transmission q r true) := by
      simp [queuedDue, hq, QueuedPacket.due, hsent, hr]
    rw [Flow.due, hdue]
    rfl
  · have howed : f.owedDue r.slot = some (f.transmission q r true) := by
      simp [owedDue, hq, hr]
    rw [Flow.due, howed]

theorem sent_of_first {now : Slot} {nowUs : Nat} {g g' : γ} {t : Transmission} (hq : f.queued = some q)
    (hsent : f.onSlot now nowUs g = (some t, f', g')) (ht : t.isRetransmission = false) :
    q.initialSent = false ∧ q.initial.slot = now := by
  have hdue : Sent f now t := due_sent (onSlot_passed hsent).1.symm
  cases hdue with
  | first hq' hunsent hslot =>
    rw [hq] at hq'
    cases hq'
    exact ⟨hunsent, hslot⟩
  | second | owed => cases ht

/-- A packet that was sent once is sent again in the slot of its second transmission, or the queued packet is sent
there, unless it was owed and another packet took its place. -/
theorem second_sent_unless_displaced {f₁ f₂ : Flow α} {now : Slot} {nowUs : Nat} {g g' : γ} {t : Transmission}
    {r : Resource} (hq : f.queued = some q) (hr : q.retransmission = some r)
    (hsent : f.onSlot now nowUs g = (some t, f₁, g')) (ht : t.isRetransmission = false) (hrun : Run γ f₁ calls f₂)
    (hbefore : ∀ c ∈ calls, c.Before r.slot) (nowUs₂ : Nat) (g₂ : γ) :
    (∃ t₂, (f₂.onSlot r.slot nowUs₂ g₂).1 = some t₂ ∧
      (t₂ = f₂.transmission q r true ∨ f₂.queuedDue r.slot = some t₂)) ∨
      Displaced γ f₁ calls f₂ { q with initialSent := true } := by
  obtain ⟨hunsent, hslot⟩ := sent_of_first hq hsent ht
  have hheld : f₁.Holds { q with initialSent := true } := by
    left
    rw [(onSlot_passed hsent).2.packets.1, served_queued, hq]
    exact QueuedPacket.after_of_first hunsent hr hslot
  rcases hrun.holds hheld rfl hr hbefore with hheld | hlost
  · left
    rw [onSlot_eq, hheld.due rfl hr]
    cases hother : f₂.queuedDue r.slot with
    | none => exact ⟨_, rfl, .inl rfl⟩
    | some other => exact ⟨other, rfl, .inr rfl⟩
  · exact .inr hlost

end

/-! ## A third packet -/

def urgentQueued : QueuedPacket where
  packet := urgentPacket 1 8
  initial := ⟨.ofIndex 3, 0, 1⟩
  retransmission := some ⟨.ofIndex 8, 0, 1⟩
  initialSent := false

theorem urgentFlow_queued : urgentFlow.queued = some urgentQueued := by decide +kernel

theorem urgentFlow_sends : ∃ g, urgentFlow.onSlot (.ofIndex 3) 3000 (⟨[]⟩ : Script) =
    (some (urgentFlow.transmission urgentQueued urgentQueued.initial false), sentOnce, g) := by
  have hsent : (urgentFlow.onSlot (.ofIndex 3) 3000 (⟨[]⟩ : Script)).1 =
      some (urgentFlow.transmission urgentQueued urgentQueued.initial false) := by decide +kernel
  exact ⟨_, Prod.ext hsent rfl⟩

/-- The second packet is sent in slots 6 and 7, while the first one is owed. -/
def bothHalfSent : Flow ℚ := (((sentOnce.arrived 4 4 []).passed 4).passed 5).passed 6

theorem run_bothHalfSent :
    Run Script sentOnce [urgentCall 4 4, slotCall 4, slotCall 5, slotCall 6] bothHalfSent :=
  (((Run.none.snoc (step_arrived ..)).snoc (step_passed ..)).snoc (step_passed ..)).snoc (step_passed ..)

theorem second_sent_bothHalfSent :
    (∃ t, ((bothHalfSent.passed 7).onSlot (.ofIndex 8) 8000 (⟨[]⟩ : Script)).1 = some t ∧
      (t = (bothHalfSent.passed 7).transmission urgentQueued ⟨.ofIndex 8, 0, 1⟩ true ∨
        (bothHalfSent.passed 7).queuedDue (.ofIndex 8) = some t)) ∨
      Displaced Script sentOnce [urgentCall 4 4, slotCall 4, slotCall 5, slotCall 6, slotCall 7]
        (bothHalfSent.passed 7) { urgentQueued with initialSent := true } := by
  obtain ⟨g, hsent⟩ := urgentFlow_sends
  exact second_sent_unless_displaced urgentFlow_queued rfl hsent rfl (run_bothHalfSent.snoc (step_passed ..))
    (by simp [urgentCall, slotCall, Call.Before, Slot.ofIndex]) 8000 ⟨[]⟩

def thirdQueued : Flow ℚ := bothHalfSent.arrived 7 4 []

theorem run_thirdQueued :
    Run Script sentOnce [urgentCall 4 4, slotCall 4, slotCall 5, slotCall 6, urgentCall 7 4] thirdQueued :=
  run_bothHalfSent.snoc (step_arrived ..)

/-- A third packet takes the place of the second one while the first is still owed, and the first is forgotten. -/
theorem second_forgotten : ¬∀ (params : FlowParams ℚ) (before calls : List (Call ℚ)) (f f₁ f₂ : Flow ℚ)
    (now : Slot) (nowUs nowUs₂ : Nat) (g g' g₂ : Script) (t : Transmission) (q : QueuedPacket) (r : Resource),
    Run Script { params } before f → f.queued = some q → q.retransmission = some r →
    f.onSlot now nowUs g = (some t, f₁, g') → t.isRetransmission = false → Run Script f₁ calls f₂ →
    (∀ c ∈ calls, c.Before r.slot) →
    Consecutive (before ++ [.onSlot now nowUs] ++ calls ++ [.onSlot r.slot nowUs₂]) →
    ∃ t₂, (f₂.onSlot r.slot nowUs₂ g₂).1 = some t₂ := by
  intro h
  obtain ⟨g, hsent⟩ := urgentFlow_sends
  obtain ⟨t₂, ht₂⟩ := h sentTwice _ _ _ _ _ _ _ 8000 _ _ ⟨[]⟩ _ _ ⟨.ofIndex 8, 0, 1⟩ run_urgentFlow urgentFlow_queued rfl
    hsent rfl (run_thirdQueued.snoc (step_passed thirdQueued 7))
    (by simp [urgentCall, slotCall, Call.Before, Slot.ofIndex]) (by decide)
  have hnone : ((thirdQueued.passed 7).onSlot (.ofIndex 8) 8000 (⟨[]⟩ : Script)).1 = none := by decide +kernel
  rw [hnone] at ht₂
  cases ht₂

end Sidelink.Flow
