import Sidelink.Proofs.Fault
import Sidelink.Proofs.Flow.Accounts
import Sidelink.Simulation.Run

/-!
# The books of a node

What a step at one node changes, and what that does to the counts of packets, in the flow and the arrivals of the node
and in the statistics of the run.
-/

namespace Sidelink

variable {α γ : Type}

/-- The packets of a node that wait for their first transmission. -/
def Node.pending (n : Node α) : Nat := n.arrivals.length + n.flow.waiting

/-! ## Statistics -/

/-- A part of the statistics that no account reads may have changed. -/
structure RunStats.SameCounts (s s' : RunStats α) : Prop where
  generated : s'.generated = s.generated
  expired : s'.expired = s.expired
  transmissions : s'.transmissions = s.transmissions
  retransmissions : s'.retransmissions = s.retransmissions
  departed : s'.departedFlows = s.departedFlows

namespace RunStats

theorem SameCounts.refl (s : RunStats α) : SameCounts s s := ⟨rfl, rfl, rfl, rfl, rfl⟩

theorem SameCounts.trans {s s' s'' : RunStats α} (h : SameCounts s s') (h' : SameCounts s' s'') :
    SameCounts s s'' where
  generated := h'.generated.trans h.generated
  expired := h'.expired.trans h.expired
  transmissions := h'.transmissions.trans h.transmissions
  retransmissions := h'.retransmissions.trans h.retransmissions
  departed := h'.departed.trans h.departed

theorem count_same (s : RunStats α) (o : ReceptionOutcome) : SameCounts s (s.count o) := by
  cases o <;> exact ⟨rfl, rfl, rfl, rfl, rfl⟩

theorem uncount_same (s : RunStats α) (o : ReceptionOutcome) : SameCounts s (s.uncount o) := by
  cases o <;> exact ⟨rfl, rfl, rfl, rfl, rfl⟩

section

variable [Scalar α] {ε : Type} [OfFault ε]

theorem inBin_same {s s' : RunStats α} {distanceM : α} {change : DistanceBin → DistanceBin}
    (h : s.inBin (ε := ε) distanceM change = .ok s') : SameCounts s s' := by
  unfold inBin at h
  cases hindex : binIndex? (ε := ε) s.binM distanceM with
  | error e => rw [hindex] at h; cases h
  | ok index =>
    rw [hindex] at h
    cases index <;> cases h <;> exact ⟨rfl, rfl, rfl, rfl, rfl⟩

theorem recordReception_same {s s' : RunStats α} {distanceM : α} {outcome : ReceptionOutcome}
    (h : s.recordReception (ε := ε) distanceM outcome = .ok s') : SameCounts s s' :=
  (count_same s outcome).trans (inBin_same h)

theorem recordRecovery_same {s s' : RunStats α} {distanceM : α} {earlier : ReceptionOutcome}
    (h : s.recordRecovery (ε := ε) distanceM earlier = .ok s') : SameCounts s s' := by
  unfold recordRecovery at h
  split at h
  · cases h
    exact .refl s
  · exact ((uncount_same s earlier).trans (count_same _ .success)).trans (inBin_same h)

end

end RunStats

/-! ## Steps at a node -/

namespace AtNode

/-- The packets of a node that are accounted for, and those that have left the run. -/
def accounted (r : AtNode α γ) : Nat :=
  r.shared.stats.transmissions + r.shared.stats.expired + r.node.flow.stats.droppedPackets + r.node.pending

/-- A step at a node loses no packet and counts none twice. -/
structure Balanced (r r' : AtNode α γ) : Prop where
  id : r'.node.id = r.node.id
  served : r'.node.flow.Served
  departed : r'.shared.stats.departedFlows = r.shared.stats.departedFlows
  packets : r'.accounted + r.shared.stats.generated = r.accounted + r'.shared.stats.generated
  sent : r'.node.flow.stats.transmissions + (r.shared.stats.transmissions + r.shared.stats.retransmissions) =
    r.node.flow.stats.transmissions + (r'.shared.stats.transmissions + r'.shared.stats.retransmissions)
  used : r'.node.flow.stats.usedReservations + r.shared.stats.transmissions =
    r.node.flow.stats.usedReservations + r'.shared.stats.transmissions

namespace Balanced

variable {r r' r'' : AtNode α γ}

theorem refl (h : r.node.flow.Served) : Balanced r r := ⟨rfl, h, rfl, rfl, rfl, rfl⟩

theorem trans (h : Balanced r r') (h' : Balanced r' r'') : Balanced r r'' where
  id := h'.id.trans h.id
  served := h'.served
  departed := h'.departed.trans h.departed
  packets := by have := h.packets; have := h'.packets; omega
  sent := by have := h.sent; have := h'.sent; omega
  used := by have := h.used; have := h'.used; omega

end Balanced

theorem Balanced.of_same {r r' : AtNode α γ} (hid : r'.node.id = r.node.id)
    (harrivals : r'.node.arrivals = r.node.arrivals) (hflow : Flow.Balanced r.node.flow r'.node.flow 0 0 0)
    (hstats : RunStats.SameCounts r.shared.stats r'.shared.stats) : Balanced r r' where
  id := hid
  served := hflow.served
  departed := hstats.departed
  packets := by
    have hpackets := hflow.packets
    simp only [accounted, Node.pending, harrivals, hstats.generated, hstats.expired, hstats.transmissions]
    omega
  sent := by rw [hflow.transmissions, hstats.transmissions, hstats.retransmissions]; rfl
  used := by rw [hflow.used, hstats.transmissions]; rfl

/-! ### Reception -/

/-- Reception at a node changes what its flow has heard and what it keeps of packets, and counts nothing that an
account reads. It evaluates no link. -/
structure Received (r r' : AtNode α γ) : Prop where
  node : ∃ history phase blocks, r'.node = { r.node with flow := { r.node.flow with history, phase }, blocks }
  stats : RunStats.SameCounts r.shared.stats r'.shared.stats
  links : r'.shared.links = r.shared.links

namespace Received

variable {r r' r'' : AtNode α γ}

theorem of_node (hnode : r'.node = r.node) (hstats : RunStats.SameCounts r.shared.stats r'.shared.stats)
    (hlinks : r'.shared.links = r.shared.links) : Received r r' := ⟨⟨_, _, _, hnode⟩, hstats, hlinks⟩

theorem refl (r : AtNode α γ) : Received r r := .of_node rfl (.refl _) rfl

theorem trans (h : Received r r') (h' : Received r' r'') : Received r r'' := by
  obtain ⟨_, _, _, hnode⟩ := h.node
  obtain ⟨history, phase, blocks, hnode'⟩ := h'.node
  refine ⟨⟨history, phase, blocks, ?_⟩, h.stats.trans h'.stats, h'.links.trans h.links⟩
  rw [hnode', hnode]

theorem balanced (h : Received r r') (hserved : r.node.flow.Served) : Balanced r r' := by
  obtain ⟨history, phase, blocks, hnode⟩ := h.node
  apply Balanced.of_same _ _ _ h.stats
  · rw [hnode]
  · rw [hnode]
  · rw [hnode]
    exact .of_eq hserved rfl rfl rfl

end Received

section

variable {r r' : AtNode α γ}

theorem withSource_received (r : AtNode α γ) (g : γ) : Received r (r.withSource g) := .of_node rfl (.refl _) rfl

theorem withStats_received {s : RunStats α} (h : RunStats.SameCounts r.shared.stats s) : Received r (r.withStats s) :=
  .of_node rfl h rfl

theorem setBlock_received (r : AtNode α γ) (key : BlockKey) (b : BlockState α) : Received r (r.setBlock key b) :=
  ⟨⟨_, _, _, rfl⟩, .refl _, rfl⟩

theorem forgetBlocks_received (r : AtNode α γ) (nowUs : Nat) : Received r (r.forgetBlocks nowUs) :=
  ⟨⟨_, _, _, rfl⟩, .refl _, rfl⟩

variable [Analysis α]

theorem of_hear {a : OnAir α} {nowUs rbs : Nat} {signalMw : α} (h : r.hear a nowUs rbs signalMw = .ok r') :
    ∃ report flow, reportOf a nowUs rbs signalMw = .ok report ∧ r.node.flow.sense report = .ok flow ∧
      r' = { r with node := { r.node with flow } } := by
  unfold hear at h
  obtain ⟨report, hreport, h⟩ := ok_of_bind h
  obtain ⟨flow, hflow, h⟩ := ok_of_bind h
  cases h
  exact ⟨report, flow, hreport, ok_of_mapError hflow, rfl⟩

theorem hear_received {a : OnAir α} {nowUs rbs : Nat} {signalMw : α} (h : r.hear a nowUs rbs signalMw = .ok r') :
    Received r r' := by
  obtain ⟨report, flow, -, hsense, rfl⟩ := of_hear h
  obtain ⟨history, -, rfl⟩ := Flow.sense_heard hsense
  obtain ⟨phase, hheard⟩ := r.node.flow.heard_eq history
  exact ⟨⟨history, phase, r.node.blocks, by rw [hheard]⟩, .refl _, rfl⟩

theorem settle_received {key : BlockKey} {earlier : Option ReceptionOutcome} {outcome : ReceptionOutcome}
    {nowUs : Nat} {counted : Bool} {distanceM : α} {result : Stepped (SimulationError α) (AtNode α γ)}
    (h : r.settle key earlier outcome nowUs counted distanceM = result) : Received r result.2 := by
  subst h
  unfold settle
  dsimp only
  have hblock (b : BlockState α) := setBlock_received r key b
  split
  · split
    · split
      · rename_i hcount
        exact (hblock _).trans (withStats_received (RunStats.recordReception_same hcount))
      · exact hblock _
    · exact hblock _
  · split
    · split
      · split
        · rename_i hcount
          exact (hblock _).trans (withStats_received (RunStats.recordRecovery_same hcount))
        · exact hblock _
      · exact hblock _
    · exact .refl r

variable [RandomSource γ]

theorem decodeData_received (s : Setup α) (r : AtNode α γ) (a : OnAir α) (key : BlockKey) (nowUs rbs : Nat)
    (los : Bool) (failure : ReceptionOutcome) (sinr : α) :
    Received r (decodeData s r a key nowUs rbs los failure sinr).2 := by
  unfold decodeData
  dsimp only
  have hfirst := setBlock_received r key (r.node.blocks.getD key ⟨[], failure, nowUs⟩)
  split
  · exact hfirst
  · exact (hfirst.trans (setBlock_received ..)).trans (withSource_received ..)

theorem listen_received {s : Setup α} {heard : List (Heard α)} {i : Nat} {a : OnAir α} {key : BlockKey} {nowUs : Nat}
    {los : Bool} {signalMw : α} {result : Except (SimulationError α) (Attempt α) × AtNode α γ}
    (h : listen s r heard i a key nowUs los signalMw = result) : Received r result.2 := by
  subst h
  unfold listen
  dsimp only
  split
  · exact .refl r
  · rename_i lost g _
    have hsource := withSource_received r g
    split
    · exact hsource.trans (withStats_received ⟨rfl, rfl, rfl, rfl, rfl⟩)
    · split
      · exact hsource
      · rename_i hhear
        exact (hsource.trans (hear_received hhear)).trans (decodeData_received s ..)

theorem receive_received (s : Setup α) (r : AtNode α γ) (heard : List (Heard α)) (nowUs : Nat)
    (transmitting countedHere : Bool) (entry : Heard α × Nat) :
    Received r (receive s heard nowUs transmitting countedHere entry r).2 := by
  unfold receive
  dsimp -iota only
  split
  split
  · exact .refl r
  · split
    · exact .refl r
    · split
      rename_i attempt r₁ hattempt
      have hlistened : Received r r₁ := by
        split at hattempt
        · cases hattempt
          exact .refl r
        · exact listen_received hattempt
      split
      · exact hlistened
      · split
        · rename_i hsettle
          exact hlistened.trans (settle_received hsettle)
        · rename_i hsettle
          have hsettled := hlistened.trans (settle_received hsettle)
          split
          · exact hsettled.trans (.of_node rfl (.refl _) rfl)
          · exact hsettled

end

section

variable [Analysis α] [RandomSource γ] {r r' : AtNode α γ}

/-! ### Sending -/

theorem of_handOver {s : Setup α} {now : Slot} {nowUs : Nat} {p : Packet}
    (h : r.handOver s now nowUs p = (.ok (), r')) :
    ∃ decision flow g, r.node.flow.enqueue now nowUs p s.pool r.shared.source = (.ok decision, flow, g) ∧
      r'.node = { r.node with flow } ∧ r'.shared.stats = r.shared.stats ∧ r'.shared.links = r.shared.links := by
  rcases henqueue : r.node.flow.enqueue now nowUs p s.pool r.shared.source with ⟨decision, flow, g⟩
  unfold handOver at h
  simp only [henqueue] at h
  split at h
  · cases h
  · split at h
    · split at h <;> cases h <;> exact ⟨_, _, _, rfl, rfl, rfl, rfl⟩
    · cases h
      exact ⟨_, _, _, rfl, rfl, rfl, rfl⟩
  · cases h
    exact ⟨_, _, _, rfl, rfl, rfl, rfl⟩

theorem of_deliver {s : Setup α} {now : Slot} {nowUs : Nat} {p : Packet}
    (h : r.deliver s now nowUs p = (.ok (), r')) :
    (∃ flow arrivals, r'.node = { r.node with flow, arrivals }) ∧ r'.shared.links = r.shared.links := by
  unfold deliver at h
  dsimp only at h
  split at h
  · cases h
    exact ⟨⟨_, _, rfl⟩, rfl⟩
  · obtain ⟨decision, flow, g, -, hnode, -, hlinks⟩ := of_handOver h
    exact ⟨⟨_, _, hnode⟩, hlinks⟩

theorem deliver_id {s : Setup α} {now : Slot} {nowUs : Nat} {p : Packet} (h : r.deliver s now nowUs p = (.ok (), r')) :
    r'.node.id = r.node.id := by
  obtain ⟨⟨flow, arrivals, hnode⟩, -⟩ := of_deliver h
  rw [hnode]

theorem deliver_balanced {s : Setup α} {now : Slot} {nowUs : Nat} {p : Packet} {rest : List Packet}
    (h : r.node.flow.Served) (harrivals : r.node.arrivals = p :: rest)
    (hok : r.deliver s now nowUs p = (.ok (), r')) : Balanced r r' ∧ r'.node.arrivals = rest := by
  unfold deliver at hok
  dsimp only at hok
  have hdrop : r.node.arrivals.drop 1 = rest := by rw [harrivals]; rfl
  rw [hdrop] at hok
  split at hok
  · cases hok
    refine ⟨⟨rfl, h, rfl, ?_, rfl, rfl⟩, rfl⟩
    simp only [accounted, Node.pending, withStats, harrivals, List.length_cons]
    omega
  · obtain ⟨decision, flow, g, henqueue, hnode, hstats, -⟩ := of_handOver hok
    have hflow := Flow.enqueue_balanced h henqueue
    have hpackets := hflow.packets
    rw [Flow.taken] at hpackets
    refine ⟨?_, by rw [hnode]⟩
    constructor
    case id => rw [hnode]
    case served => rw [hnode]; exact hflow.served
    case departed => rw [hstats]
    case packets =>
      simp only [accounted, Node.pending, hnode, hstats, harrivals, List.length_cons]
      omega
    case sent => simp only [hnode, hstats, hflow.transmissions]; omega
    case used => simp only [hnode, hstats, hflow.used]; omega

theorem of_send {now : Slot} {nowUs : Nat} {sent : Option (OnAir α)} (h : r.send now nowUs = (sent, r')) :
    ∃ tx flow g, r.node.flow.onSlot now nowUs r.shared.source = (tx, flow, g) ∧ r'.node = { r.node with flow } ∧
      sent = tx.map (⟨r.node.id, r.node.position, r.node.txPowerDbm, ·⟩) ∧
      r'.shared.stats = { r.shared.stats with
        transmissions := r.shared.stats.transmissions + (Flow.sentFirst tx).toNat
        retransmissions := r.shared.stats.retransmissions + (tx.any (·.isRetransmission)).toNat } ∧
      r'.shared.links = r.shared.links := by
  rcases honSlot : r.node.flow.onSlot now nowUs r.shared.source with ⟨tx, flow, g⟩
  unfold send at h
  simp only [honSlot] at h
  refine ⟨tx, flow, g, rfl, ?_⟩
  cases tx with
  | none =>
    cases h
    exact ⟨rfl, rfl, rfl, rfl⟩
  | some t =>
    cases hagain : t.isRetransmission <;> simp only [hagain] at h <;> cases h <;>
      simp [withSource, withStats, Flow.sentFirst, hagain]

theorem send_balanced {now : Slot} {nowUs : Nat} {sent : Option (OnAir α)} (h : r.node.flow.Served)
    (hsend : r.send now nowUs = (sent, r')) : Balanced r r' := by
  obtain ⟨tx, flow, g, honSlot, hnode, -, hstats, -⟩ := of_send hsend
  have hflow := Flow.onSlot_balanced h honSlot
  have hpackets := hflow.packets
  have hparts : (Flow.sentFirst tx).toNat + (tx.any (·.isRetransmission)).toNat = tx.isSome.toNat := by
    cases tx with
    | none => rfl
    | some t => cases hagain : t.isRetransmission <;> simp [Flow.sentFirst, hagain]
  constructor
  case id => rw [hnode]
  case served => rw [hnode]; exact hflow.served
  case departed => rw [hstats]
  case packets =>
    simp only [accounted, Node.pending, hnode, hstats]
    omega
  case sent =>
    simp only [hnode, hstats, hflow.transmissions]
    omega
  case used =>
    simp only [hnode, hstats, hflow.used]
    omega

end

end AtNode

namespace World

variable [Analysis α] [RandomSource γ]

/-- Nodes are moved, then some are taken out, and at last the links are evaluated anew. -/
theorem of_moveAll {P : World α γ → Prop} {w : World α γ} (h : P w)
    (hmoved : ∀ (w : World α γ) (place : Node α → Point α), P w →
      P { w with nodes := w.nodes.map fun n => { n with position := place n } })
    (hremoved : ∀ (w : World α γ) (id : Nat), P w → P (w.removeNode id).2) :
    ∃ w' position? g, P w' ∧ w.moveAll = { w' with
      agenda := (w'.agenda.scheduleIn w'.setup.mobilityUs .mobility .mobility).2
      shared := { w'.shared with links := (w'.shared.links.refresh position? w'.shared.source).1, source := g } } := by
  have hall (ids : List Nat) (w : World α γ) (h : P w) : P (ids.foldl (fun w id => (w.removeNode id).2) w) := by
    induction ids generalizing w with
    | nil => exact h
    | cons id rest ih => exact ih _ (hremoved w id h)
  let seconds : α := Scalar.ofNat w.setup.config.simulation.mobilityIntervalMs / 1000.0
  let departed := (w.nodes.filter fun n => (moved? w.setup seconds n).isNone).map (·.id)
  let place (n : Node α) : Point α := (moved? w.setup seconds n).getD n.position
  let left : World α γ := departed.foldl (fun w id => (w.removeNode id).2)
    { w with nodes := w.nodes.map fun n => { n with position := place n } }
  exact ⟨left, fun id => (left.node? id).map (·.position), _, hall departed _ (hmoved w place h), rfl⟩

theorem moveAll_keeps {P : World α γ → Prop} {w : World α γ} (h : P w)
    (hmoved : ∀ (w : World α γ) (place : Node α → Point α), P w →
      P { w with nodes := w.nodes.map fun n => { n with position := place n } })
    (hremoved : ∀ (w : World α γ) (id : Nat), P w → P (w.removeNode id).2)
    (hlinked : ∀ (w : World α γ) links g, P w → P { w with
      agenda := (w.agenda.scheduleIn w.setup.mobilityUs .mobility .mobility).2
      shared := { w.shared with links, source := g } }) : P w.moveAll := by
  obtain ⟨w', position?, g, hw, heq⟩ := of_moveAll h hmoved hremoved
  rw [heq]
  exact hlinked w' _ g hw

theorem heardAt_stats (n : Node α) (onAir : List (OnAir α)) (s : Shared α γ) :
    (heardAt n onAir s).2.stats = s.stats := by
  induction onAir generalizing s with
  | nil => rfl
  | cons a rest ih =>
    unfold heardAt
    split
    · exact ih s
    · exact ih _

theorem receiveAt_received (onAir : List (OnAir α)) (id : Nat) (w : World α γ) :
    (receiveAt onAir id w).2 = w ∨ ∃ n r, w.node? id = some n ∧
      AtNode.Received ⟨n, (heardAt n onAir w.shared).2⟩ r ∧
      (receiveAt onAir id w).2 = { w.setNode r.node with shared := r.shared } := by
  unfold receiveAt
  dsimp -iota only
  split
  · exact .inl rfl
  · rename_i n hn
    split
    rename_i heard shared hheard
    have hsteps := stepEach_keeps (P := AtNode.Received ⟨n, shared⟩)
      (fun entry r hr => hr.trans (AtNode.receive_received w.setup r heard w.nowUs
        (onAir.any fun a => a.node = id) (w.setup.region.isInside .rx n.position) entry)) heard.zipIdx _ (.refl _)
    right
    refine ⟨n, ?_⟩
    rw [hheard]
    split
    · rename_i hend
      rw [hend] at hsteps
      exact ⟨_, hn, hsteps, rfl⟩
    · rename_i hend
      rw [hend] at hsteps
      exact ⟨_, hn, hsteps.trans (AtNode.forgetBlocks_received ..), rfl⟩

theorem of_rearm {w w' : World α γ} {n : Node α} (h : w.rearm n = (.ok (), w')) :
    ∃ delay g, n.generator.nextDelayUs (ε := SimulationError α) w.shared.source = .ok (delay, g) ∧
      w' = { w.setNode { n with timer := w.agenda.nextTicket } with
        agenda := (w.agenda.scheduleIn delay .traffic (.traffic n.id)).2
        shared := { w.shared with source := g } } := by
  unfold rearm at h
  split at h
  · cases h
  · rename_i delay g hdelay
    cases h
    exact ⟨delay, g, hdelay, rfl⟩

theorem of_serveAt {now : Slot} {id : Nat} {w w' : World α γ} (h : serveAt now id w = (.ok (), w')) :
    (w.node? id = none ∧ w' = w) ∨ ∃ n r r' sent, w.node? id = some n ∧
      stepEach (AtNode.deliver w.setup now w.nowUs) n.arrivals ⟨n, w.shared⟩ = (.ok (), r) ∧
      r.send now w.nowUs = (sent, r') ∧
      w' = { w.setNode r'.node with shared := r'.shared, onAir := w.onAir ++ sent.toList } := by
  unfold serveAt at h
  dsimp -iota only at h
  split at h
  · cases h
    exact .inl ⟨‹_›, rfl⟩
  · rename_i n hn
    right
    split at h
    · cases h
    · rename_i r hdelivered
      rcases hsend : r.send now w.nowUs with ⟨sent, r'⟩
      rw [hsend] at h
      cases h
      exact ⟨n, r, r', sent, hn, hdelivered, hsend, rfl⟩

theorem of_serveAll {w w' : World α γ} (h : w.serveAll = (.ok (), w')) :
    ∃ now w₁, Slot.ofTime (α := α) w.nowUs w.setup.numerology.slotMs = .ok now ∧
      stepEach (serveAt now) (w.nodes.map (·.id)) w = (.ok (), w₁) ∧
      w' = { w₁ with agenda := ((w₁.agenda.scheduleIn w₁.setup.numerology.slotUs .reception .reception).2.scheduleIn
        w₁.setup.numerology.slotUs .mac .mac).2 } := by
  unfold serveAll at h
  split at h
  · cases h
  · rename_i now hnow
    split at h
    · cases h
    · rename_i w₁ hserved
      cases h
      exact ⟨now, w₁, hnow, hserved, rfl⟩

end World

end Sidelink
