import Sidelink.Proofs.Flow.Repeats
import Sidelink.Proofs.Simulation.Pipeline

/-!
# Repeats in a run

No node sends a packet again after the span that the delay budget of the run allows, counted from the first time. So all
receptions of a packet come soon after each other.
-/

namespace Sidelink

variable {α γ : Type}

/-- The packet of a transmission, as receivers know it. -/
def OnAir.key (a : OnAir α) : BlockKey := ⟨a.node, a.tx.packet⟩

/-! ## A node -/

/-- The names of the packets at a node. -/
def Node.ids (n : Node α) : List Nat := n.arrivals.map (·.id) ++ n.flow.ids

/-- The node has sent a packet. What may be left of it is its second transmission, before some time. -/
def Node.Spent (n : Node α) (id nextUs lastUs : Nat) : Prop :=
  id ∉ n.arrivals.map (·.id) ∧ n.flow.Spent id nextUs lastUs

/-- The packets of a node have different names that were given out, and of those that it sent at some times only a
second transmission is left. -/
structure Node.Tidy (span nextUs nextPacket : Nat) (past : List (BlockKey × Nat)) (n : Node α) : Prop where
  near : n.flow.Near span (n.flow.params.numerology.slotAt nextUs)
  distinct : n.ids.Nodup
  below : ∀ id ∈ n.ids, id < nextPacket
  spent : ∀ x ∈ past, x.1.transmitter = n.id →
    n.Spent x.1.packet nextUs (x.2 + span * n.flow.params.numerology.slotUs)

namespace Node

variable {span nextUs nextPacket nowUs : Nat} {past : List (BlockKey × Nat)} {n n' : Node α}

theorem Tidy.congr (h : n.Tidy span nextUs nextPacket past) (hid : n'.id = n.id) (harrivals : n'.arrivals = n.arrivals)
    (hparams : n'.flow.params = n.flow.params) (hreservation : n'.flow.reservation = n.flow.reservation)
    (hqueued : n'.flow.queued = n.flow.queued) (howed : n'.flow.owed = n.flow.owed) :
    n'.Tidy span nextUs nextPacket past := by
  have hids : n'.ids = n.ids := by rw [ids, ids, Flow.ids, Flow.ids, harrivals, hqueued, howed]
  constructor
  case near =>
    rw [hparams]
    exact h.near.of_same hreservation hqueued howed
  case distinct =>
    rw [hids]
    exact h.distinct
  case below =>
    rw [hids]
    exact h.below
  case spent =>
    rw [hid, hparams]
    intro x hx hsender
    obtain ⟨hnew, hspent⟩ := h.spent x hx hsender
    exact ⟨harrivals ▸ hnew, hspent.of_same hparams hqueued howed⟩

theorem Tidy.later (h : n.Tidy span nextUs nextPacket past) : n.Tidy span nextUs (nextPacket + 1) past :=
  { h with below := fun id hid => Nat.lt_succ_of_lt (h.below id hid) }

theorem Tidy.arrived (h : n.Tidy span nextUs nextPacket past) {arrivals : List Packet} {p : Packet}
    (harrivals : arrivals.Sublist n.arrivals) (hp : p.id = nextPacket) (hpast : ∀ x ∈ past, x.1.packet < nextPacket) :
    Tidy span nextUs (nextPacket + 1) past { n with arrivals := arrivals ++ [p] } := by
  have hsub := harrivals.map (·.id)
  have hids : ({ n with arrivals := arrivals ++ [p] } : Node α).ids.Perm
      (nextPacket :: (arrivals.map (·.id) ++ n.flow.ids)) := by
    simp only [ids, List.map_append, List.map_singleton, hp, List.append_assoc]
    exact List.perm_middle
  have hrest : (arrivals.map (·.id) ++ n.flow.ids).Sublist n.ids := hsub.append (.refl _)
  constructor
  case near => exact h.near
  case distinct =>
    rw [hids.nodup_iff, List.nodup_cons]
    exact ⟨fun hmem => Nat.lt_irrefl _ (h.below _ (hrest.mem hmem)), h.distinct.sublist hrest⟩
  case below =>
    intro id hid
    rcases List.mem_cons.1 (hids.mem_iff.1 hid) with rfl | hid
    · exact Nat.lt_succ_self _
    · exact Nat.lt_succ_of_lt (h.below id (hrest.mem hid))
  case spent =>
    intro x hx hsender
    obtain ⟨hnew, hspent⟩ := h.spent x hx hsender
    refine ⟨fun hmem => ?_, hspent⟩
    rw [List.map_append, List.mem_append, List.map_singleton, List.mem_singleton, hp] at hmem
    rcases hmem with hmem | hmem
    · exact hnew (hsub.mem hmem)
    · have hlt := hpast x hx
      rw [hmem] at hlt
      exact Nat.lt_irrefl _ hlt

section

variable [RandomSource γ] {flow : Flow α}

theorem Tidy.delivered [Analysis α] {p : Packet} {rest : List Packet} {pool : ResourcePool} {g g' : γ}
    {d : Except FlowError Decision} (h : n.Tidy span nextUs nextPacket past) (harrivals : n.arrivals = p :: rest)
    (hspan : n.flow.params.slotsInMs p.pdbMs = span)
    (hhanded : n.flow.Handed (n.flow.params.numerology.slotAt nextUs) nowUs p pool g d flow g') :
    Tidy span nextUs nextPacket past { n with arrivals := rest, flow } := by
  have hids : ({ n with arrivals := rest, flow } : Node α).ids.Sublist (rest.map (·.id) ++ p.id :: n.flow.ids) :=
    (List.Sublist.refl _).append hhanded.ids
  have hperm : (rest.map (·.id) ++ p.id :: n.flow.ids).Perm n.ids := by
    rw [ids, harrivals, List.map_cons]
    exact List.perm_middle
  constructor
  case near =>
    rw [hhanded.params]
    exact h.near.handed hspan hhanded
  case distinct => exact (hperm.nodup_iff.2 h.distinct).sublist hids
  case below => exact fun id hid => h.below id (hperm.mem_iff.1 (hids.mem hid))
  case spent =>
    intro x hx hsender
    obtain ⟨hnew, hspent⟩ := h.spent x hx hsender
    rw [harrivals, List.map_cons, List.mem_cons, not_or] at hnew
    rw [hhanded.params]
    exact ⟨hnew.2, hspent.handed (Ne.symm hnew.1) hhanded⟩

theorem Tidy.passed {sent : List (BlockKey × Nat)} (h : n.Tidy span nextUs nextPacket past)
    (harrivals : n.arrivals = [])
    (hsent : ∀ x ∈ sent, x.1.transmitter = n.id → x.2 = nextUs ∧
      ∃ t, n.flow.Sent (n.flow.params.numerology.slotAt nextUs) t ∧ t.packet = x.1.packet)
    (hpassed : n.flow.Passed γ (n.flow.params.numerology.slotAt nextUs) nowUs flow) :
    Tidy span (nextUs + n.flow.params.numerology.slotUs) nextPacket (past ++ sent) { n with flow } := by
  have hids : ({ n with flow } : Node α).ids.Sublist n.ids := (List.Sublist.refl _).append hpassed.ids
  have hdistinct := h.distinct
  rw [ids, harrivals, List.map_nil, List.nil_append] at hdistinct
  constructor
  case near =>
    rw [hpassed.params, Numerology.slotAt_add]
    exact h.near.passed hpassed
  case distinct => exact h.distinct.sublist hids
  case below => exact fun id hid => h.below id (hids.mem hid)
  case spent =>
    intro x hx hsender
    rw [hpassed.params]
    rcases List.mem_append.1 hx with hx | hx
    · obtain ⟨hnew, hspent⟩ := h.spent x hx hsender
      exact ⟨hnew, hspent.passed hpassed⟩
    · obtain ⟨htime, t, ht, hpacket⟩ := hsent x hx hsender
      rw [← hpacket, htime]
      exact ⟨by simp [harrivals], h.near.spent hdistinct ht hpassed⟩

end

end Node

/-! ## A slot -/

section

variable [Analysis α] [RandomSource γ] {s : Setup α} {now : Slot} {nowUs : Nat} {n n' : Node α}
  {sent : Option (OnAir α)}

variable (γ) in
/-- What a slot makes of a node, and what the node sends in it. -/
def Node.Served (s : Setup α) (now : Slot) (nowUs : Nat) (n : Node α) (sent : Option (OnAir α)) (n' : Node α) : Prop :=
  ∃ (shared : Shared α γ) (r r' : AtNode α γ),
    stepEach (AtNode.deliver s now nowUs) n.arrivals ⟨n, shared⟩ = (.ok (), r) ∧ r.send now nowUs = (sent, r') ∧
      r'.node = n'

theorem Node.Served.id (h : n.Served γ s now nowUs sent n') : n'.id = n.id ∧ ∀ a ∈ sent, a.node = n.id := by
  obtain ⟨shared, r, r', hdelivered, hsend, rfl⟩ := h
  obtain ⟨tx, flow, g, -, hnode, rfl, -⟩ := AtNode.of_send hsend
  have hid : r.node.id = n.id := stepEach_ok (P := fun _ r => r.node.id = n.id)
    (fun _ _ _ _ hr hstep => (AtNode.deliver_id hstep).trans hr) rfl hdelivered
  refine ⟨by rw [hnode, ← hid], fun a ha => ?_⟩
  obtain ⟨t, -, rfl⟩ := Option.map_eq_some_iff.1 ha
  exact hid

namespace World

variable {w₀ w w' : World α γ} {id : Nat} {rest : List Nat}

/-- The world in the middle of a slot, with the nodes that are still to be served. -/
structure Halfway (w₀ : World α γ) (now : Slot) (rest : List Nat) (w : World α γ) : Prop where
  distinct : rest.Nodup
  same : w.setup = w₀.setup ∧ w.nowUs = w₀.nowUs ∧ w.nextPacket = w₀.nextPacket
  waiting : ∀ n ∈ w.nodes, n.id ∈ rest → n ∈ w₀.nodes
  served : ∀ n' ∈ w.nodes, n'.id ∉ rest → ∃ n ∈ w₀.nodes, ∃ sent, n.Served γ w₀.setup now w₀.nowUs sent n' ∧
    ∀ a ∈ w.onAir, a.node = n.id → sent = some a
  senders : (w.onAir.map (·.node)).Nodup
  ahead : ∀ a ∈ w.onAir, a.node ∉ rest

theorem Halfway.serveAt (h : Halfway w₀ now (id :: rest) w) (hok : serveAt now id w = (.ok (), w')) :
    Halfway w₀ now rest w' := by
  obtain ⟨hid, hdistinct⟩ := List.nodup_cons.1 h.distinct
  obtain ⟨hsetup, hnow, hnext⟩ := h.same
  have hover {a : OnAir α} (ha : a ∈ w.onAir) : a.node ≠ id ∧ a.node ∉ rest := by
    simpa using h.ahead a ha
  rcases of_serveAt hok with ⟨hnone, rfl⟩ | ⟨n, r, r', sent, hn, hdelivered, hsend, rfl⟩
  · refine ⟨hdistinct, h.same, fun n hn hrest => h.waiting n hn (.tail _ hrest), fun n hn hrest => ?_, h.senders,
      fun a ha => (hover ha).2⟩
    refine h.served n hn fun hmem => ?_
    rcases List.mem_cons.1 hmem with rfl | hmem
    · simpa using List.find?_eq_none.1 hnone n hn
    · exact hrest hmem
  · obtain ⟨hmem, rfl⟩ := mem_of_node? hn
    have hserved : n.Served γ w₀.setup now w₀.nowUs sent r'.node := by
      rw [← hsetup, ← hnow]
      exact ⟨_, _, _, hdelivered, hsend, rfl⟩
    obtain ⟨hsame, hsender⟩ := hserved.id
    constructor
    case distinct => exact hdistinct
    case same => exact ⟨hsetup, hnow, hnext⟩
    case waiting =>
      intro m hm hrest
      rcases of_mem_setNode hm with rfl | ⟨hm, -⟩
      · exact absurd (hsame ▸ hrest) hid
      · exact h.waiting m hm (.tail _ hrest)
    case served =>
      intro m hm hrest
      rcases of_mem_setNode hm with rfl | ⟨hm, hne⟩
      · refine ⟨n, h.waiting n hmem (by simp), sent, hserved, fun a ha heq => ?_⟩
        rcases List.mem_append.1 ha with ha | ha
        · exact absurd heq (hover ha).1
        · exact Option.mem_toList.1 ha
      · rw [hsame] at hne
        obtain ⟨m₀, hm₀, sent₀, hserved₀, honAir₀⟩ := h.served m hm (by simp [hne, hrest])
        refine ⟨m₀, hm₀, sent₀, hserved₀, fun a ha heq => ?_⟩
        rcases List.mem_append.1 ha with ha | ha
        · exact honAir₀ a ha heq
        · have := hsender a (Option.mem_toList.1 ha)
          rw [heq, ← hserved₀.id.1] at this
          exact absurd this hne
    case senders =>
      rw [List.map_append, List.nodup_append]
      refine ⟨h.senders, ?_, ?_⟩
      · cases sent <;> simp
      · intro i hi j hj
        obtain ⟨a, ha, rfl⟩ := List.mem_map.1 hi
        obtain ⟨b, hb, rfl⟩ := List.mem_map.1 hj
        rw [hsender b (Option.mem_toList.1 hb)]
        exact (hover ha).1
    case ahead =>
      intro a ha
      rcases List.mem_append.1 ha with ha | ha
      · exact (hover ha).2
      · rw [hsender a (Option.mem_toList.1 ha)]
        exact hid

/-- In a slot every node is served once, and what is on the air after it was sent by the nodes, at most one by each. -/
theorem served_of_serveAll (hdistinct : (w.nodes.map (·.id)).Nodup) (honAir : w.onAir = [])
    (hok : w.serveAll = (.ok (), w')) :
    ∃ now, Slot.ofTime (α := α) w.nowUs w.setup.numerology.slotMs = .ok now ∧ w'.nextPacket = w.nextPacket ∧
      (w'.onAir.map (·.node)).Nodup ∧ ∀ n' ∈ w'.nodes, ∃ n ∈ w.nodes, ∃ sent,
        n.Served γ w.setup now w.nowUs sent n' ∧ ∀ a ∈ w'.onAir, a.node = n.id → sent = some a := by
  obtain ⟨now, w₁, hnow, hserved, rfl⟩ := of_serveAll hok
  have hbefore : Halfway w now (w.nodes.map (·.id)) w := by
    refine ⟨hdistinct, ⟨rfl, rfl, rfl⟩, fun n hn _ => hn, fun n hn hout => ?_, by simp [honAir], by simp [honAir]⟩
    exact absurd (List.mem_map_of_mem hn) hout
  have hafter := stepEach_ok (P := Halfway w now) (fun _ _ _ _ hw hstep => hw.serveAt hstep) hbefore hserved
  exact ⟨now, hnow, hafter.same.2.2, hafter.senders, fun n hn => hafter.served n hn (by simp)⟩

end World

/-! ### Packets in a slot -/

variable {a : Agenda Event} {nextUs nextPacket : Nat} {past : List (BlockKey × Nat)}

/-- The slots that the delay budget of a run spans. -/
def Setup.span (s : Setup α) : Nat := s.numerology.slotsInMs s.config.traffic.pdbMs

theorem AtNode.deliver_tidy {r r' : AtNode α γ} {p : Packet} {rest : List Packet}
    (h : r.node.Tidy s.span nextUs nextPacket past) (hr : r.node.Punctual s a nextUs) (hbudget : s.Budgeted)
    (harrivals : r.node.arrivals = p :: rest)
    (hok : r.deliver s (s.numerology.slotAt nextUs) nextUs p = (.ok (), r')) :
    r'.node.Tidy s.span nextUs nextPacket past := by
  have hp := hr.arrivals p (by rw [harrivals]; exact List.mem_cons_self)
  have hspan : r.node.flow.params.slotsInMs p.pdbMs = s.span := by
    rw [FlowParams.slotsInMs, hr.numerology, hp.budget, Setup.span]
  unfold deliver at hok
  rw [if_neg (hp.not_expired hbudget.1), show r.node.arrivals.drop 1 = rest by rw [harrivals]; rfl] at hok
  obtain ⟨decision, flow, g, henqueue, hnode, -⟩ := of_handOver hok
  have hhanded := Flow.enqueue_handed henqueue
  dsimp only at hhanded
  rw [← hr.numerology] at hhanded
  rw [hnode]
  exact h.delivered harrivals hspan hhanded

theorem Node.Tidy.served {added : List (BlockKey × Nat)} (h : n.Tidy s.span nextUs nextPacket past)
    (hn : n.Punctual s a nextUs) (hbudget : s.Budgeted)
    (hserved : n.Served γ s (s.numerology.slotAt nextUs) nextUs sent n')
    (hadded : ∀ x ∈ added, x.1.transmitter = n.id → x.2 = nextUs ∧ ∃ o, sent = some o ∧ o.key = x.1) :
    n'.Tidy s.span (nextUs + s.numerology.slotUs) nextPacket (past ++ added) ∧
      ∀ o ∈ sent, o.tx.packet < nextPacket ∧
        ∀ x ∈ past, x.1 = o.key → nextUs < x.2 + s.span * s.numerology.slotUs := by
  obtain ⟨shared, r, r', hdelivered, hsend, rfl⟩ := hserved
  obtain ⟨htidy, hr, hnone, hid⟩ := stepEach_ok
    (P := fun rest r => r.node.Tidy s.span nextUs nextPacket past ∧ r.node.Punctual s a nextUs ∧
      r.node.arrivals = rest ∧ r.node.id = n.id)
    (fun p rest r r' hr hstep => by
      obtain ⟨htidy, hpunctual, harrivals, hid⟩ := hr
      obtain ⟨hpunctual', harrivals', hid', -⟩ := AtNode.deliver_punctual hpunctual hbudget harrivals hstep
      exact ⟨AtNode.deliver_tidy htidy hpunctual hbudget harrivals hstep, hpunctual', harrivals', hid'.trans hid⟩)
    ⟨h, hn, rfl, rfl⟩ hdelivered
  obtain ⟨tx, flow, g, honSlot, hnode, rfl, -⟩ := AtNode.of_send hsend
  rw [← hr.numerology] at honSlot
  obtain ⟨rfl, hpassed⟩ := Flow.onSlot_passed honSlot
  rw [hnode, ← hr.numerology]
  constructor
  · refine htidy.passed hnone (fun x hx hsender => ?_) hpassed
    obtain ⟨htime, o, ho, hkey⟩ := hadded x hx (hsender.trans hid)
    obtain ⟨t, ht, rfl⟩ := Option.map_eq_some_iff.1 ho
    exact ⟨htime, t, Flow.due_sent ht, by rw [← hkey]; rfl⟩
  · intro o ho
    obtain ⟨t, ht, rfl⟩ := Option.map_eq_some_iff.1 ho
    obtain ⟨-, q, hq, hpart, -⟩ := (Flow.due_sent ht).held
    have hid : t.packet ∈ r.node.ids := by
      rw [← show q.packet.id = t.packet from (congrArg Transmission.packet hpart).symm]
      exact List.mem_append_right _ (Flow.mem_ids_of_holds hq)
    refine ⟨htidy.below _ hid, fun x hx hkey => ?_⟩
    obtain ⟨-, hspent⟩ := htidy.spent x hx (by rw [hkey]; rfl)
    rw [hkey] at hspent
    exact hspent.sent (Flow.due_sent ht)

end

/-! ## Events -/

namespace World

/-- The nodes are tidy, and what they sent of one packet was sent soon after each other. -/
structure Tidy (span slotUs nextUs : Nat) (past : List (BlockKey × Nat)) (w : World α γ) : Prop where
  nodes : ∀ n ∈ w.nodes, n.Tidy span nextUs w.nextPacket past
  earlier : ∀ x ∈ past, x.1.packet < w.nextPacket ∧ x.2 < nextUs
  close : ∀ x ∈ past, ∀ y ∈ past, x.1 = y.1 → y.2 < x.2 + span * slotUs
  senders : (w.onAir.map (·.node)).Nodup

variable {span slotUs nextUs : Nat} {past : List (BlockKey × Nat)} {w w' : World α γ} {n : Node α}

theorem Tidy.congr (h : w.Tidy span slotUs nextUs past) (hnodes : w'.nodes = w.nodes)
    (hnext : w'.nextPacket = w.nextPacket) (honAir : (w'.onAir.map (·.node)).Nodup) :
    w'.Tidy span slotUs nextUs past := by
  refine ⟨?_, ?_, h.close, honAir⟩
  · rw [hnodes, hnext]
    exact h.nodes
  · rw [hnext]
    exact h.earlier

theorem Tidy.setNode (h : w.Tidy span slotUs nextUs past) (hn : n.Tidy span nextUs w.nextPacket past) :
    (w.setNode n).Tidy span slotUs nextUs past := by
  refine ⟨fun m hm => ?_, h.earlier, h.close, h.senders⟩
  rcases of_mem_setNode hm with rfl | ⟨hm, -⟩
  · exact hn
  · exact h.nodes m hm

theorem removeNode_tidy (id : Nat) (h : w.Tidy span slotUs nextUs past) :
    (w.removeNode id).2.Tidy span slotUs nextUs past := by
  unfold removeNode
  split
  · exact h
  · refine ⟨fun m hm => h.nodes m (List.mem_filter.1 hm).1, h.earlier, h.close, ?_⟩
    exact h.senders.sublist (List.filter_sublist.map _)

theorem arrive_tidy (size : Nat) (h : w.Tidy span slotUs nextUs past) (hn : n.Tidy span nextUs w.nextPacket past) :
    (w.arrive n size).Tidy span slotUs nextUs past := by
  let waiting := if arrivalCapacity ≤ n.arrivals.length then n.arrivals.drop 1 else n.arrivals
  have hwaiting : waiting.Sublist n.arrivals := by
    unfold waiting
    split
    · exact List.drop_sublist ..
    · exact .refl _
  refine ⟨fun m hm => ?_, fun x hx => ?_, h.close, h.senders⟩
  · rcases of_mem_setNode hm with rfl | ⟨hm, -⟩
    · exact hn.arrived hwaiting rfl fun x hx => (h.earlier x hx).1
    · exact (h.nodes m hm).later
  · obtain ⟨hpacket, htime⟩ := h.earlier x hx
    exact ⟨Nat.lt_succ_of_lt hpacket, htime⟩

section

variable [Analysis α] [RandomSource γ]

theorem moveAll_tidy (h : w.Tidy span slotUs nextUs past) : w.moveAll.Tidy span slotUs nextUs past := by
  refine moveAll_keeps h (fun w place h => ⟨fun m hm => ?_, h.earlier, h.close, h.senders⟩)
    (fun _ id h => removeNode_tidy id h) fun _ _ _ h => h.congr rfl rfl h.senders
  obtain ⟨n, hn, rfl⟩ := List.mem_map.1 hm
  exact (h.nodes n hn).congr rfl rfl rfl rfl rfl rfl

theorem generate_tidy (h : w.Tidy span slotUs nextUs past) (hn : n ∈ w.nodes) :
    (w.generate n).Tidy span slotUs nextUs past := by
  unfold generate
  split
  · rcases n.generator.onTimer w.nowUs n.position n.velocity w.shared.source with ⟨size, generator, g⟩
    have hn' : Node.Tidy span nextUs w.nextPacket past { n with generator } :=
      (h.nodes n hn).congr rfl rfl rfl rfl rfl rfl
    have hset : Tidy span slotUs nextUs past
        { w.setNode { n with generator } with shared := { w.shared with source := g } } :=
      (h.setNode hn').congr rfl rfl h.senders
    cases size with
    | none => exact hset
    | some size => exact arrive_tidy size hset hn'
  · exact h

theorem fireTimer_tidy {id : Nat} (h : w.Tidy span slotUs nextUs past) (hok : w.fireTimer id = (.ok (), w')) :
    w'.Tidy span slotUs nextUs past := by
  obtain ⟨-, rfl⟩ | ⟨n, n', hn, hn', hrearm⟩ := of_fireTimer hok
  · exact h
  · have hgenerated := generate_tidy h (mem_of_node? hn).1
    obtain ⟨delay, g, -, rfl⟩ := of_rearm hrearm
    have htimer : Node.Tidy span nextUs (w.generate n).nextPacket past
        { n' with timer := (w.generate n).agenda.nextTicket } :=
      (hgenerated.nodes n' (mem_of_node? hn').1).congr rfl rfl rfl rfl rfl rfl
    exact (hgenerated.setNode htimer).congr rfl rfl hgenerated.senders

theorem receiveAt_tidy (onAir : List (OnAir α)) (id : Nat) (w : World α γ) (h : w.Tidy span slotUs nextUs past) :
    (receiveAt onAir id w).2.Tidy span slotUs nextUs past := by
  rcases receiveAt_received onAir id w with hsame | ⟨n, r, hn, hr, hset⟩
  · rw [hsame]
    exact h
  · rw [hset]
    obtain ⟨history, phase, blocks, hnode⟩ := hr.node
    have hn' : r.node.Tidy span nextUs w.nextPacket past := by
      rw [hnode]
      exact (h.nodes n (mem_of_node? hn).1).congr rfl rfl rfl rfl rfl rfl
    exact (h.setNode hn').congr rfl rfl h.senders

theorem receiveAll_tidy (h : w.Tidy span slotUs nextUs past) : w.receiveAll.2.Tidy span slotUs nextUs past := by
  unfold receiveAll
  split
  · exact h
  · exact stepEach_keeps (receiveAt_tidy _) _ _ (h.congr rfl rfl .nil)

/-- What a slot puts on the air, with its time. -/
def sentBy (w : World α γ) (timeUs : Nat) : List (BlockKey × Nat) := w.onAir.map fun a => (a.key, timeUs)

theorem Tidy.serveAll [Scalar.LawfulSlots α] {s : Setup α} {m : Moment} {agenda : Agenda Event}
    (h : w.Tidy s.span s.numerology.slotUs nextUs past) (hw : w.Punctual s nextUs)
    (hdistinct : (w.nodes.map (·.id)).Nodup) (hbudget : s.Budgeted) (honAir : w.onAir = [])
    (hpop : w.agenda.pop = some ((m, .mac), agenda)) (hok : World.serveAll { w with agenda } = (.ok (), w')) :
    w'.Tidy s.span s.numerology.slotUs (nextUs + s.numerology.slotUs) (past ++ w'.sentBy m.time) := by
  obtain ⟨htime, hnow, -⟩ := hw.agenda.pop_slot hpop
  obtain ⟨now, hslot, hnext, hsenders, hserved⟩ := served_of_serveAll (w := { w with agenda }) hdistinct honAir hok
  simp only [nowUs, hw.setup, hnow] at hslot hserved
  obtain ⟨rfl, -⟩ := Slot.of_ofTime hslot
  have hpresent := serveAll_onAir (w := { w with agenda }) (by rw [honAir]; rfl) hok
  have hspan : 0 < s.span * s.numerology.slotUs :=
    Nat.mul_pos (Numerology.slotsInMs_pos _ hbudget.2 hbudget.1) (Numerology.slotUs_pos _)
  have hmem {x : BlockKey × Nat} (hx : x ∈ w'.sentBy m.time) : ∃ o ∈ w'.onAir, o.key = x.1 ∧ x.2 = nextUs := by
    obtain ⟨o, ho, rfl⟩ := List.mem_map.1 hx
    exact ⟨o, ho, rfl, htime⟩
  have hnode {n : Node α} {sent : Option (OnAir α)} {n' : Node α} (hn : n ∈ w.nodes)
      (hn' : n.Served γ s (s.numerology.slotAt nextUs) nextUs sent n')
      (hsent : ∀ a ∈ w'.onAir, a.node = n.id → sent = some a) :=
    (h.nodes n hn).served (hw.nodes n hn) hbudget hn' fun x (hx : x ∈ w'.sentBy m.time) hsender => by
      obtain ⟨o, ho, hkey, hxtime⟩ := hmem hx
      exact ⟨hxtime, o, hsent o ho (by rw [← hsender, ← hkey]; rfl), hkey⟩
  -- What was sent before is followed by what is sent now within the span.
  have hsent {y : BlockKey × Nat} (hy : y ∈ w'.sentBy m.time) : y.1.packet < w.nextPacket ∧
      ∀ x ∈ past, x.1 = y.1 → y.2 < x.2 + s.span * s.numerology.slotUs := by
    obtain ⟨o, ho, hykey, hytime⟩ := hmem hy
    have hthere : o.node ∈ w'.nodes.map (·.id) := by
      rw [← hpresent] at ho
      exact of_decide_eq_true (List.mem_filter.1 ho).2
    obtain ⟨n', hn', hid⟩ := List.mem_map.1 hthere
    obtain ⟨n, hn, sent, hnserved, hsent⟩ := hserved n' hn'
    rw [hytime, ← hykey]
    exact (hnode hn hnserved hsent).2 o (hsent o ho (hid.symm.trans hnserved.id.1))
  constructor
  case nodes =>
    intro n' hn'
    obtain ⟨n, hn, sent, hnserved, hsent⟩ := hserved n' hn'
    rw [hnext]
    exact (hnode hn hnserved hsent).1
  case earlier =>
    intro x hx
    rw [hnext]
    rcases List.mem_append.1 hx with hx | hx
    · obtain ⟨hpacket, htime⟩ := h.earlier x hx
      exact ⟨hpacket, by omega⟩
    · obtain ⟨-, -, -, hxtime⟩ := hmem hx
      have := s.numerology.slotUs_pos
      exact ⟨(hsent hx).1, by omega⟩
  case close =>
    intro x hx y hy hkey
    rcases List.mem_append.1 hx with hx | hx
    · rcases List.mem_append.1 hy with hy | hy
      · exact h.close x hx y hy hkey
      · exact (hsent hy).2 x hx hkey
    · obtain ⟨-, -, -, hxtime⟩ := hmem hx
      rcases List.mem_append.1 hy with hy | hy
      · have := (h.earlier y hy).2
        omega
      · obtain ⟨-, -, -, hytime⟩ := hmem hy
        omega
  case senders => exact hsenders

end

/-! ## Runs -/

section

variable [Analysis α] [RandomSource γ]

/-- What the slots of a run put on the air, with their times. -/
def sentIn (turns : List (Turn α γ)) : List (BlockKey × Nat) :=
  (turnsOf .mac turns).flatMap fun t => (handle .mac t.before).2.sentBy t.moment.time

theorem sent_of_paced {s : Setup α} {turns receptions : List (Turn α γ)} {t : Turn α γ} {a : OnAir α}
    (h : Paced s (turnsOf .mac turns) receptions) (ht : t ∈ receptions) (ha : a ∈ t.before.onAir) :
    ∃ timeUs, (a.key, timeUs) ∈ sentIn turns ∧ t.moment.time = timeUs + s.numerology.slotUs := by
  obtain ⟨i, hi⟩ := List.mem_iff_getElem?.1 ht
  cases i with
  | zero =>
    rw [h.first t hi] at ha
    cases ha
  | succ n =>
    have hlt := (List.getElem?_eq_some_iff.1 hi).1
    have heven := h.even
    have hsome : n < (turnsOf .mac turns).length := by omega
    have hu := List.getElem?_eq_getElem hsome
    generalize (turnsOf .mac turns)[n] = u at hu
    rw [h.evaluated n u t hu hi] at ha
    refine ⟨u.moment.time, List.mem_flatMap.2 ⟨u, List.mem_of_getElem? hu, ?_⟩, ?_⟩
    · exact List.mem_map.2 ⟨a, (List.mem_filter.1 ha).1, rfl⟩
    · rw [h.reception _ t hi, (h.slot n u hu).1, Nat.succ_mul]

variable [Scalar.LawfulSlots α] [Scalar.PositiveSlots α] {config : Config α} {scene : Scene α}
  {trace : Trace α} {sourceOfSeed : Nat → γ} {endUs : Nat} {w₀ : World α γ} {turns : List (Turn α γ)}
  {r : Stepped (SimulationError α) (World α γ)}

theorem punctual_of_course (hscene : scene.validate = .ok ())
    (hstart : start config scene trace sourceOfSeed = .ok w₀) (hend : endUs < limit64)
    (hcourse : Course endUs w₀ turns (.ok (), w)) :
    w.Punctual w₀.setup ((turnsOf .mac turns).length * w₀.setup.numerology.slotUs) := by
  obtain ⟨nextUs, hpunctual⟩ := punctual_of_reached hscene hstart (hcourse.reached rfl)
  have hslots := hpunctual.agenda.slots
  rw [← Agenda.timesOf_eq, ((awaits_of_course hscene hstart hend hcourse).2 w rfl).slot,
    List.singleton_perm_singleton] at hslots
  rwa [hslots]

omit [Scalar.LawfulSlots α] [Scalar.PositiveSlots α] in
theorem start_tidy (hstart : start config scene trace sourceOfSeed = .ok w₀) (span slotUs : Nat) :
    w₀.Tidy span slotUs 0 [] := by
  obtain ⟨-, -, -, -, params, generators, nodes, agenda, g, g', -, hplaced, hnodes, -⟩ := of_start hstart
  obtain ⟨-, hfresh⟩ := placeNodes_fresh params generators scene.nodes {} g
  rw [hplaced] at hfresh
  refine ⟨fun n hn => ?_, by simp, by simp, ?_⟩
  · rw [hnodes, List.mem_mergeSort] at hn
    obtain ⟨hflow, harrivals⟩ := hfresh n hn
    have hids : n.ids = [] := by simp [Node.ids, Flow.ids, hflow, harrivals]
    exact ⟨by rw [hflow]; exact Flow.near_new .., by simp [hids], by simp [hids], by simp⟩
  · have honAir := ((start_awaits hstart).reception rfl).2
    rw [honAir]
    exact .nil

theorem tidy_of_course (hscene : scene.validate = .ok ())
    (hstart : start config scene trace sourceOfSeed = .ok w₀) (hend : endUs < limit64)
    (hcourse : Course endUs w₀ turns r) : ∀ w, r = (.ok (), w) →
      w.Tidy w₀.setup.span w₀.setup.numerology.slotUs ((turnsOf .mac turns).length * w₀.setup.numerology.slotUs)
        (sentIn turns) := by
  induction hcourse with
  | start =>
    rintro w ⟨⟩
    rw [turnsOf, List.filter_nil, List.length_nil, Nat.zero_mul]
    exact start_tidy hstart ..
  | @turn turns w m e agenda hcourse hpop hbefore ih =>
    intro w' hok
    have htidy := ih w rfl
    have hpunctual := punctual_of_course hscene hstart hend hcourse
    have hkept (hmac : e ≠ .mac) : sentIn (turns ++ [⟨m, e, { w with agenda }⟩]) = sentIn turns := by
      rw [sentIn, turnsOf_snoc, if_neg hmac, sentIn]
    have hpopped : Tidy w₀.setup.span w₀.setup.numerology.slotUs _ (sentIn turns) { w with agenda } :=
      htidy.congr rfl rfl htidy.senders
    cases e with
    | mac =>
      have hawaits := (awaits_of_course hscene hstart hend hcourse).2 w rfl
      obtain ⟨-, -, -, honAir, -⟩ := hawaits.pop_slot hpunctual.agenda.ordered hpunctual.agenda.phases hpop
      have hdistinct := (accounted_of_reached hscene hstart (hcourse.reached rfl)).distinct
      have hserved := htidy.serveAll hpunctual hdistinct (budget_of_start hstart) honAir hpop hok
      rw [sentIn, turnsOf_snoc, if_pos rfl, List.length_append, List.length_singleton, Nat.succ_mul,
        List.flatMap_append, List.flatMap_singleton, ← sentIn]
      rwa [hok]
    | reception =>
      rw [hkept (by simp), turnsOf_snoc, if_neg (by simp)]
      have hreceived := receiveAll_tidy hpopped
      rwa [show receiveAll _ = _ from hok] at hreceived
    | mobility =>
      cases hok
      rw [hkept (by simp), turnsOf_snoc, if_neg (by simp)]
      exact moveAll_tidy hpopped
    | traffic id =>
      rw [hkept (by simp), turnsOf_snoc, if_neg (by simp)]
      exact fireTimer_tidy hpopped hok
    | report =>
      cases hok
      rw [hkept (by simp), turnsOf_snoc, if_neg (by simp)]
      exact hpopped.congr rfl rfl hpopped.senders

/-- No node sends twice in one slot. -/
theorem senders_of_course (hscene : scene.validate = .ok ())
    (hstart : start config scene trace sourceOfSeed = .ok w₀) (hend : endUs < limit64)
    (hcourse : Course endUs w₀ turns r) : ∀ t ∈ turns, (t.before.onAir.map (·.node)).Nodup := by
  induction hcourse with
  | start => simp
  | turn hcourse _ _ ih =>
    intro t ht
    rcases List.mem_append.1 ht with ht | ht
    · exact ih t ht
    · rw [List.mem_singleton.1 ht]
      exact (tidy_of_course hscene hstart hend hcourse _ rfl).senders

/-- The receptions of one packet come within its delay budget, counted from any of them. -/
theorem soon_of_course (hscene : scene.validate = .ok ())
    (hstart : start config scene trace sourceOfSeed = .ok w₀) (hend : endUs < limit64)
    (hcourse : Course endUs w₀ turns r) {t u : Turn α γ} {a b : OnAir α} (ht : t ∈ turnsOf .reception turns)
    (hu : u ∈ turnsOf .reception turns) (ha : a ∈ t.before.onAir) (hb : b ∈ u.before.onAir) (hkey : a.key = b.key) :
    u.moment.time < t.moment.time + config.traffic.pdbMs * 1000 := by
  cases hcourse with
  | start => cases ht
  | @turn turns w m e agenda hcourse hpop hbefore =>
    have hall := (awaits_of_course hscene hstart hend (hcourse.turn hpop hbefore)).1
    have hfirst := (awaits_of_course hscene hstart hend hcourse).1
    -- Whatever the last turn is, the receptions follow the slots before it.
    have hpaced : Paced w₀.setup (turnsOf .mac turns) (turnsOf .reception (turns ++ [⟨m, e, { w with agenda }⟩])) := by
      by_cases he : e = .mac
      · rwa [turnsOf_snoc, if_neg (by simp [he])]
      · rwa [turnsOf_snoc .mac, if_neg he] at hall
    obtain ⟨x, hx, htx⟩ := sent_of_paced hpaced ht ha
    obtain ⟨y, hy, huy⟩ := sent_of_paced hpaced hu hb
    have hclose := (tidy_of_course hscene hstart hend hcourse _ rfl).close _ hx _ hy hkey
    obtain ⟨hpos, hle⟩ := budget_of_start hstart
    rw [Setup.span, Numerology.slotsInMs_mul_slotUs _ hle, (of_start hstart).2.1] at hclose
    dsimp only at hclose
    omega

end

end World

end Sidelink
