import Sidelink.Proofs.Flow.Announced

/-!
# The next transmission

Two packets can wait for a slot at once, the one in the queue and one that is owed its second transmission. The next
transmission is in the earlier of the two slots, and a flow names that of the queue.
-/

namespace Sidelink

namespace QueuedPacket

variable {q : QueuedPacket} {now : Slot}

theorem due_eq_none_iff (h : q.initialSent = true → q.retransmission.isSome = true) :
    q.due now = none ↔ q.nextSlot ≠ now := by
  cases hsent : q.initialSent with
  | false => simp [due, nextSlot, hsent]
  | true =>
    obtain ⟨r, hr⟩ := Option.isSome_iff_exists.1 (h hsent)
    simp [due, nextSlot, hsent, hr]

theorem after_of_idle (h : q.initialSent = true → q.retransmission.isSome = true) (hslot : q.nextSlot ≠ now) :
    q.after now = some q := by
  cases hsent : q.initialSent with
  | false => exact after_of_unsent hsent (by simpa [nextSlot, hsent] using hslot)
  | true =>
    obtain ⟨r, hr⟩ := Option.isSome_iff_exists.1 (h hsent)
    exact after_of_sent hsent hr (by simpa [nextSlot, hsent, hr] using hslot)

end QueuedPacket

namespace Flow

variable {α : Type}

/-! ## One slot -/

/-- A packet is sent in the slot if nothing comes between. -/
inductive Waits (f : Flow α) (s : Slot) : Prop where
  | queued {q : QueuedPacket} (hq : f.queued = some q) (hslot : q.nextSlot = s)
  | owed {q : QueuedPacket} {r : Resource} (hq : f.owed = some q) (hr : q.retransmission = some r) (hslot : r.slot = s)

theorem Waits.congr {f f' : Flow α} {s : Slot} (h : f.Waits s) (hqueued : f'.queued = f.queued)
    (howed : f'.owed = f.owed) : f'.Waits s := by
  cases h with
  | queued hq hslot => exact .queued (hqueued.trans hq) hslot
  | owed hq hr hslot => exact .owed (howed.trans hq) hr hslot

theorem Consistent.due_eq_none_iff {f : Flow α} (h : f.Consistent) {s : Slot} : f.due s = none ↔ ¬f.Waits s := by
  rw [due, Option.or_eq_none_iff]
  constructor
  · rintro ⟨hqueued, howed⟩ hwaits
    cases hwaits with
    | @queued q hq hslot =>
      have hnone : q.due s = none := by simpa [queuedDue, hq] using hqueued
      exact (QueuedPacket.due_eq_none_iff (h.sent q hq)).1 hnone hslot
    | owed hq hr hslot => simp [owedDue, hq, hr, hslot] at howed
  · intro hidle
    constructor
    · simp only [queuedDue, Option.bind_eq_none_iff, Option.map_eq_none_iff]
      intro q hq
      exact (QueuedPacket.due_eq_none_iff (h.sent q hq)).2 fun hslot => hidle (.queued hq hslot)
    · simp only [owedDue, Option.bind_eq_none_iff, ite_eq_right_iff, reduceCtorEq, imp_false]
      intro q hq r hr hslot
      exact hidle (.owed hq hr hslot)

theorem Passed.packets_of_idle {γ : Type} [RandomSource γ] {f f' : Flow α} {now : Slot} {nowUs : Nat}
    (h : Passed γ f now nowUs f') (hconsistent : f.Consistent) (hidle : ¬f.Waits now) :
    f'.queued = f.queued ∧ f'.owed = f.owed := by
  obtain ⟨hqueued, howed⟩ := h.packets
  constructor
  · rw [hqueued, served_queued]
    cases hq : f.queued with
    | none => rfl
    | some q => exact QueuedPacket.after_of_idle (hconsistent.sent q hq) fun hslot => hidle (.queued hq hslot)
  · rw [howed]
    change owedAfter f.owed now = f.owed
    cases hq : f.owed with
    | none => rfl
    | some q =>
      obtain ⟨r, hr⟩ := Option.isSome_iff_exists.1 (hconsistent.owed q hq).2.1
      have hslot : r.slot ≠ now := fun hslot => hidle (.owed hq hr hslot)
      simp [owedAfter, hr, hslot]

/-! ## Slots in a row -/

def Reply.sent? : Reply → Option Transmission
  | .sent t => t
  | _ => none

/-- What was sent in the course of a log, in its order. -/
def emitted (log : List (Call α × Reply)) : List Transmission := log.filterMap (·.2.sent?)

theorem emitted_snoc (log : List (Call α × Reply)) (c : Call α) (reply : Reply) :
    emitted (log ++ [(c, reply)]) = emitted log ++ reply.sent?.toList := by
  unfold emitted
  rw [List.filterMap_append]
  cases hsent : reply.sent? <;> simp [hsent]

section

variable [Analysis α] {γ : Type} [RandomSource γ] {f f' : Flow α}

/-- What is in wait is the same, and the fields fit each other. -/
structure Rests (f f' : Flow α) : Prop where
  queued : f'.queued = f.queued
  owed : f'.owed = f.owed
  consistent : f'.Consistent

theorem Exchange.rests {c : Call α} {reply : Reply} (h : Exchange γ f c reply f') (hconsistent : f.Consistent)
    (hquiet : c.Quiet) (hidle : ∀ s, c.slot? = some s → ¬f.Waits s) : reply.sent? = none ∧ Rests f f' := by
  cases h with
  | sense hsense =>
    obtain ⟨history, -, rfl⟩ := sense_heard hsense
    exact ⟨rfl, awake_queued f, awake_owed f, hconsistent.heard history⟩
  | @onSlot now nowUs g =>
    rcases hcall : f.onSlot now nowUs g with ⟨sent, after, g'⟩
    obtain ⟨rfl, hpassed⟩ := onSlot_passed hcall
    have hnot : ¬f.Waits now := hidle now rfl
    obtain ⟨hqueued, howed⟩ := hpassed.packets_of_idle hconsistent hnot
    exact ⟨hconsistent.due_eq_none_iff.2 hnot, hqueued, howed, hconsistent.passed hpassed⟩
  | enqueue => exact hquiet.elim
  | teardown => exact hquiet.elim

omit [Analysis α] in
theorem slots_snoc_cases {calls : List (Call α)} {c : Call α} {start : Slot} {n : Nat}
    (h : slots (calls ++ [c]) = (List.range n).map (start + ·)) :
    (c.slot? = none ∧ slots calls = (List.range n).map (start + ·)) ∨
      ∃ m, n = m + 1 ∧ c.slot? = some (start + m) ∧ slots calls = (List.range m).map (start + ·) := by
  cases hc : c.slot? with
  | none =>
    rw [slots_snoc, hc, Option.toList_none, List.append_nil] at h
    exact .inl ⟨rfl, h⟩
  | some s =>
    obtain ⟨m, rfl, hslots, rfl⟩ := slots_snoc_eq_range hc h
    exact .inr ⟨m, rfl, rfl, hslots⟩

variable {log : List (Call α × Reply)} {start : Slot} {n : Nat}

theorem Recorded.rests (h : Recorded γ f log f') (hconsistent : f.Consistent)
    (hquiet : ∀ entry ∈ log, entry.1.Quiet) (hslots : slots (log.map Prod.fst) = (List.range n).map (start + ·))
    (hidle : ∀ i < n, ¬f.Waits (start + i)) : emitted log = [] ∧ Rests f f' := by
  induction h generalizing n with
  | none => exact ⟨rfl, rfl, rfl, hconsistent⟩
  | @snoc log a b c reply hrecorded hexchange ih =>
    have hbefore : ∀ entry ∈ log, entry.1.Quiet := fun entry hmem => hquiet entry (by simp [hmem])
    rw [List.map_append, List.map_singleton] at hslots
    obtain ⟨m, hm, hslots', hlast⟩ : ∃ m ≤ n, slots (log.map Prod.fst) = (List.range m).map (start + ·) ∧
        ∀ s, c.slot? = some s → ¬f.Waits s := by
      rcases slots_snoc_cases hslots with ⟨hc, hslots'⟩ | ⟨m, rfl, hc, hslots'⟩
      · exact ⟨n, le_rfl, hslots', by simp [hc]⟩
      · refine ⟨m, m.le_succ, hslots', fun s hs => ?_⟩
        rw [hc] at hs
        cases hs
        exact hidle m m.lt_succ_self
    obtain ⟨hemitted, hrests⟩ := ih hbefore hslots' fun i hi => hidle i (by omega)
    obtain ⟨hreply, hrests'⟩ := hexchange.rests hrests.consistent (hquiet (c, reply) (by simp)) fun s hs hwaits =>
      hlast s hs (hwaits.congr hrests.queued.symm hrests.owed.symm)
    rw [emitted_snoc, hemitted, hreply]
    exact ⟨rfl, hrests'.queued.trans hrests.queued, hrests'.owed.trans hrests.owed, hrests'.consistent⟩

theorem Recorded.first_emitted {m : Nat} (h : Recorded γ f log f') (hconsistent : f.Consistent)
    (hquiet : ∀ entry ∈ log, entry.1.Quiet) (hslots : slots (log.map Prod.fst) = (List.range n).map (start + ·))
    (hm : m < n) (hidle : ∀ i < m, ¬f.Waits (start + i)) (hwaits : f.Waits (start + m)) :
    ∃ a t, Rests f a ∧ Sent a (start + m) t ∧ (emitted log).head? = some t := by
  induction h generalizing n with
  | none =>
    have hn : n = 0 := by simpa [slots] using (congrArg List.length hslots).symm
    omega
  | @snoc log a b c reply hrecorded hexchange ih =>
    have hbefore : ∀ entry ∈ log, entry.1.Quiet := fun entry hmem => hquiet entry (by simp [hmem])
    rw [List.map_append, List.map_singleton] at hslots
    rw [emitted_snoc, List.head?_append]
    rcases slots_snoc_cases hslots with ⟨-, hslots'⟩ | ⟨k, rfl, hc, hslots'⟩
    · obtain ⟨a', t, hrests, hsent, hhead⟩ := ih hbefore hslots' hm
      exact ⟨a', t, hrests, hsent, by rw [hhead]; rfl⟩
    · rcases Nat.lt_succ_iff_lt_or_eq.1 hm with hlt | rfl
      · obtain ⟨a', t, hrests, hsent, hhead⟩ := ih hbefore hslots' hlt
        exact ⟨a', t, hrests, hsent, by rw [hhead]; rfl⟩
      · -- Nothing was sent before, and the last call comes to the slot that is waited for.
        obtain ⟨hemitted, hrests⟩ := hrecorded.rests hconsistent hbefore hslots' hidle
        cases hexchange with
        | @onSlot now nowUs g =>
          cases hc
          obtain ⟨t, ht⟩ := Option.ne_none_iff_exists'.1 fun hnone =>
            hrests.consistent.due_eq_none_iff.1 hnone (hwaits.congr hrests.queued hrests.owed)
          refine ⟨a, t, hrests, due_sent ht, ?_⟩
          rw [hemitted, onSlot_eq, ht]
          rfl
        | sense | enqueue | teardown => cases hc

/-! ## The slot that is named -/

/-- The packet that is owed is sent before the slot. -/
structure Overtaken (f : Flow α) (start s : Slot) (q : QueuedPacket) (r : Resource) : Prop where
  owed : f.owed = some q
  retransmission : q.retransmission = some r
  earlier : r.slot.since start < s.since start

omit [Analysis α] in
theorem waits_of_pendingSlot {s : Slot} (h : f.pendingSlot = some s) : f.Waits s := by
  unfold pendingSlot at h
  split at h
  · rename_i q hq
    exact .queued hq (Option.some.inj h)
  · simp only [Option.map_eq_some_iff, Option.bind_eq_some_iff] at h
    obtain ⟨r, ⟨q, hq, hr⟩, hslot⟩ := h
    exact .owed hq hr hslot

omit [Analysis α] in
theorem not_waits_of_pendingSlot (h : f.pendingSlot = none) (s : Slot) : ¬f.Waits s := by
  intro hwaits
  unfold pendingSlot at h
  cases hwaits with
  | queued hq => simp [hq] at h
  | @owed q r hq hr =>
    split at h
    · cases h
    · simp [hq, hr] at h

omit [Analysis α] in
theorem Waits.of_pendingSlot {s s' : Slot} (h : f.Waits s') (hs : f.pendingSlot = some s) :
    s' = s ∨ ∃ q r, f.owed = some q ∧ q.retransmission = some r ∧ r.slot = s' := by
  cases h with
  | queued hq hslot =>
    rw [pendingSlot, hq] at hs
    exact .inl (hslot.symm.trans (Option.some.inj hs))
  | owed hq hr hslot => exact .inr ⟨_, _, hq, hr, hslot⟩

/-- Of the slots that are waited for the nearest one decides what is sent first. -/
theorem Recorded.head_emitted {s : Slot} (h : Recorded γ f log f') (hconsistent : f.Consistent)
    (hquiet : ∀ entry ∈ log, entry.1.Quiet) (hslots : slots (log.map Prod.fst) = (List.range n).map (start + ·))
    (hwaits : f.Waits s) (hnearest : ∀ s', f.Waits s' → s.since start ≤ s'.since start) :
    if s.since start < n then ∃ a t, Rests f a ∧ Sent a s t ∧ (emitted log).head? = some t else emitted log = [] := by
  have hturn := Slot.since_lt s start
  have hidle (i : ℕ) (hi : i < s.since start) : ¬f.Waits (start + i) := by
    intro hwaits'
    have hle := hnearest _ hwaits'
    rw [Slot.since_add, Nat.mod_eq_of_lt (by omega)] at hle
    omega
  have hs : start + s.since start = s := Slot.add_since s start
  split
  · rename_i hreached
    rw [← hs] at hwaits
    have hfirst := h.first_emitted hconsistent hquiet hslots hreached hidle hwaits
    rwa [hs] at hfirst
  · rename_i hreached
    exact (h.rests hconsistent hquiet hslots fun i hi => hidle i (by omega)).1

omit [Analysis α] [RandomSource γ] in
theorem Overtaken.sent {a : Flow α} {s : Slot} {q : QueuedPacket} {r : Resource} {t : Transmission}
    (h : f.Overtaken start s q r) (hs : f.pendingSlot = some s) (hrests : Rests f a) (hsent : Sent a r.slot t) :
    t = a.transmission q r true := by
  have hne {q' : QueuedPacket} (hq' : a.queued = some q') (hslot : q'.nextSlot = r.slot) : False := by
    rw [pendingSlot, hrests.queued.symm.trans hq'] at hs
    have hlt := h.earlier
    rw [← Option.some.inj hs, hslot] at hlt
    exact Nat.lt_irrefl _ hlt
  cases hsent with
  | first hq' hunsent hslot => exact (hne hq' (by simp [QueuedPacket.nextSlot, hunsent, hslot])).elim
  | second hq' hsent' hr' hslot => exact (hne hq' (by simp [QueuedPacket.nextSlot, hsent', hr', hslot])).elim
  | owed hq' hr' =>
    rw [hrests.owed, h.owed] at hq'
    cases hq'
    rw [h.retransmission] at hr'
    cases hr'
    rfl

/-- If nothing but messages come from now on and every slot in its order, nothing is sent without a slot that is
named, and the first transmission is in the slot that is named, if there is one. A packet that is owed and has an
earlier slot comes before it. -/
theorem pendingSlot_first {params : FlowParams α} {before : List (Call α)} (hrun : Run γ { params } before f)
    (hrecorded : Recorded γ f log f') (hquiet : ∀ entry ∈ log, entry.1.Quiet)
    (hslots : slots (log.map Prod.fst) = (List.range n).map (start + ·)) :
    (f.pendingSlot = none → emitted log = []) ∧
    ∀ s, f.pendingSlot = some s →
      ((∀ q r, ¬f.Overtaken start s q r) →
        (emitted log).head?.map (·.slot) = if s.since start < n then some s else none) ∧
      ∀ q r, f.Overtaken start s q r →
        (emitted log).head?.map (fun t => (t.packet, t.slot, t.isRetransmission)) =
          if r.slot.since start < n then some (q.packet.id, r.slot, true) else none := by
  have hconsistent := consistent_of_run hrun
  refine ⟨fun hnone => ?_, fun s hs => ⟨fun hclear => ?_, fun q r hovertaken => ?_⟩⟩
  · exact (hrecorded.rests hconsistent hquiet hslots fun i _ => not_waits_of_pendingSlot hnone _).1
  · have hhead := hrecorded.head_emitted hconsistent hquiet hslots (waits_of_pendingSlot hs) fun s' hwaits => by
      rcases hwaits.of_pendingSlot hs with rfl | ⟨q, r, hq, hr, rfl⟩
      · exact le_rfl
      · exact Nat.le_of_not_lt fun hlt => hclear q r ⟨hq, hr, hlt⟩
    split at hhead
    · rename_i hreached
      obtain ⟨a, t, -, hsent, hhead⟩ := hhead
      rw [if_pos hreached, hhead, Option.map_some, hsent.slot]
    · rename_i hreached
      rw [if_neg hreached, hhead]
      rfl
  · have hwaits : f.Waits r.slot := .owed hovertaken.owed hovertaken.retransmission rfl
    have hhead := hrecorded.head_emitted hconsistent hquiet hslots hwaits fun s' hwaits' => by
      rcases hwaits'.of_pendingSlot hs with rfl | ⟨q', r', hq', hr', rfl⟩
      · exact hovertaken.earlier.le
      · rw [hovertaken.owed] at hq'
        cases hq'
        rw [hovertaken.retransmission] at hr'
        cases hr'
        exact le_rfl
    split at hhead
    · rename_i hreached
      obtain ⟨a, t, hrests, hsent, hhead⟩ := hhead
      rw [if_pos hreached, hhead, Option.map_some, hovertaken.sent hs hrests hsent]
      rfl
    · rename_i hreached
      rw [if_neg hreached, hhead]
      rfl

end

/-! ## A packet that comes while another one is owed -/

/-- Every slot comes after the one before it, and a packet comes just before the slot that it arrives in. -/
def InTurn (next : Slot) : List (Call α) → Prop
  | [] => True
  | .onSlot now _ :: rest => now = next ∧ InTurn next.next rest
  | .enqueue now _ _ _ :: rest => now = next ∧ InTurn next rest
  | .sense _ :: rest | .teardown :: rest => InTurn next rest

def slotLog (f : Flow ℚ) (first : Nat) : Nat → List (Call ℚ × Reply)
  | 0 => []
  | n + 1 => slotLog f first n ++
      [(slotCall (first + n), .sent ((f.passedThrough first n).onSlot (.ofIndex (first + n)) ((first + n) * 1000)
        (⟨[]⟩ : Script)).1)]

theorem recorded_slotLog (f : Flow ℚ) (first n : Nat) :
    Recorded Script f (slotLog f first n) (f.passedThrough first n) := by
  induction n with
  | zero => exact .none
  | succ n ih =>
    have hlast : f.passedThrough first (n + 1) = (f.passedThrough first n).passed (first + n) := by
      unfold passedThrough
      rw [List.range'_1_concat, List.foldl_append]
      rfl
    rw [hlast]
    exact ih.snoc (.onSlot _)

/-- The first packet is owed its second transmission in slot 8 when another one comes that is to be sent in slot 14. -/
def overtakenFlow : Flow ℚ := (urgentFlow.passedThrough 1 3).arrived 4 20 [0, 0x80000000, 0x80000000]

def overtakenCalls : List (Call ℚ) := urgentCall 1 8 :: slotCalls 1 3 ++ [urgentCall 4 20]

theorem run_overtakenFlow : Run Script { params := sentTwice } overtakenCalls overtakenFlow :=
  (run_urgentFlow.append (run_passedThrough ..)).snoc (step_arrived ..)

theorem overtakenFlow_pendingSlot : overtakenFlow.pendingSlot = some (.ofIndex 14) := by decide +kernel

theorem overtakenFlow_overtaken : overtakenFlow.Overtaken (.ofIndex 4) (.ofIndex 14)
    { urgentQueued with initialSent := true } ⟨.ofIndex 8, 0, 1⟩ :=
  ⟨by decide +kernel, rfl, by decide⟩

theorem slotLog_quiet (f : Flow ℚ) (first n : Nat) : ∀ entry ∈ slotLog f first n, entry.1.Quiet := by
  induction n with
  | zero => nofun
  | succ n ih =>
    intro entry hmem
    rcases List.mem_append.1 hmem with hmem | hmem
    · exact ih entry hmem
    · rw [List.mem_singleton.1 hmem]
      trivial

theorem slotLog_slots : slots ((slotLog overtakenFlow 4 5).map Prod.fst) =
    (List.range 5).map (Slot.ofIndex 4 + ·) := by decide +kernel

theorem pendingSlot_first_overtakenFlow :
    (emitted (slotLog overtakenFlow 4 5)).head?.map (fun t => (t.packet, t.slot, t.isRetransmission)) =
      some (1, .ofIndex 8, true) := by
  obtain ⟨-, hnamed⟩ := pendingSlot_first run_overtakenFlow (recorded_slotLog overtakenFlow 4 5)
    (slotLog_quiet overtakenFlow 4 5) slotLog_slots
  have hfirst := (hnamed _ overtakenFlow_pendingSlot).2 _ _ overtakenFlow_overtaken
  rwa [if_pos (by decide)] at hfirst

/-- A packet that is owed its second transmission is sent before the slot that is named. -/
theorem pendingSlot_not_first : ¬∀ (params : FlowParams ℚ) (first : Slot) (before : List (Call ℚ)) (f f' : Flow ℚ)
    (log : List (Call ℚ × Reply)) (n : Nat) (s : Slot) (t : Transmission), 1 ≤ params.t1 → InTurn first before →
    Run Script { params } before f → Recorded Script f log f' → (∀ entry ∈ log, entry.1.Quiet) →
    slots (log.map Prod.fst) = (List.range n).map (first + (slots before).length + ·) → f.pendingSlot = some s →
    (emitted log).head? = some t → t.slot = s := by
  intro h
  have hturn : InTurn (.ofIndex 1) overtakenCalls := ⟨rfl, rfl, rfl, rfl, rfl, trivial⟩
  have hsent : (emitted (slotLog overtakenFlow 4 5)).head?.map (·.slot) = some (.ofIndex 8) := by decide +kernel
  obtain ⟨t, ht, hslot⟩ := Option.map_eq_some_iff.1 hsent
  have hnamed := h sentTwice (.ofIndex 1) overtakenCalls overtakenFlow _ _ 5 _ t (by decide) hturn run_overtakenFlow
    (recorded_slotLog overtakenFlow 4 5) (slotLog_quiet overtakenFlow 4 5) slotLog_slots overtakenFlow_pendingSlot ht
  rw [hslot] at hnamed
  exact absurd hnamed (by decide)

end Flow

end Sidelink
