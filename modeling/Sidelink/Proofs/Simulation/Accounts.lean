import Sidelink.Proofs.Pool.Accepted
import Sidelink.Proofs.Scalar.Rational
import Sidelink.Proofs.Scene.Rules
import Sidelink.Proofs.Simulation.Books
import Sidelink.Proofs.Simulation.Runs

/-!
# The books of a run

No packet is lost or counted twice. A packet that was generated waits at a node, was sent, or was counted as expired
or dropped, and this holds whichever nodes have departed.
-/

namespace Sidelink

variable {α γ : Type}

/-- What each step keeps, given what is still to be done, is kept by all of them if none fails. -/
theorem stepEach_ok {ε σ β : Type} {step : β → σ → Stepped ε σ} {P : List β → σ → Prop}
    (hstep : ∀ x rest s s', P (x :: rest) s → step x s = (.ok (), s') → P rest s') {xs : List β} {s s' : σ}
    (h : P xs s) (hok : stepEach step xs s = (.ok (), s')) : P [] s' := by
  induction xs generalizing s with
  | nil => cases hok; exact h
  | cons x rest ih =>
    unfold stepEach at hok
    split at hok
    · rename_i hx
      exact ih (hstep x rest s _ h hx) hok
    · cases hok

/-! ## A slot at a node -/

theorem AtNode.of_serve [Analysis α] [RandomSource γ] {s : Setup α} {now : Slot} {nowUs : Nat} {n : Node α}
    {shared : Shared α γ} {r r' : AtNode α γ} {sent : Option (OnAir α)}
    (hdelivered : stepEach (deliver s now nowUs) n.arrivals ⟨n, shared⟩ = (.ok (), r))
    (hsend : r.send now nowUs = (sent, r')) :
    (∃ flow arrivals, r'.node = { n with flow, arrivals }) ∧ r'.shared.links = shared.links := by
  obtain ⟨tx, flow, g, -, hnode, -, -, hlinks⟩ := of_send hsend
  obtain ⟨⟨_, arrivals, hr⟩, hlinks'⟩ := stepEach_ok
    (P := fun _ r => (∃ flow arrivals, r.node = { n with flow, arrivals }) ∧ r.shared.links = shared.links)
    (fun p _ r r' hr hok => by
      obtain ⟨⟨_, _, hr⟩, hlinks⟩ := hr
      obtain ⟨⟨flow, arrivals, hr'⟩, hlinks'⟩ := of_deliver hok
      exact ⟨⟨flow, arrivals, by rw [hr', hr]⟩, hlinks'.trans hlinks⟩)
    ⟨⟨_, _, rfl⟩, rfl⟩ hdelivered
  exact ⟨⟨flow, arrivals, by rw [hnode, hr]⟩, hlinks.trans hlinks'⟩

/-! ## Sums over nodes -/

def Node.sum (count : Node α → Nat) (nodes : List (Node α)) : Nat := (nodes.map count).sum

namespace Node

variable (count : Node α → Nat)

theorem sum_cons (n : Node α) (rest : List (Node α)) :
    Node.sum count (n :: rest) = count n + Node.sum count rest := by
  simp [Node.sum]

theorem sum_zero {nodes : List (Node α)} (h : ∀ n ∈ nodes, count n = 0) : Node.sum count nodes = 0 := by
  induction nodes with
  | nil => rfl
  | cons n rest ih =>
    rw [sum_cons, h n (by simp), ih fun m hm => h m (by simp [hm])]

theorem sum_replaced {nodes : List (Node α)} {n n' : Node α} (hdistinct : (nodes.map (·.id)).Nodup) (hn : n ∈ nodes)
    (hid : n'.id = n.id) :
    Node.sum count (nodes.map fun m => if m.id = n'.id then n' else m) + count n =
      Node.sum count nodes + count n' := by
  induction nodes with
  | nil => simp at hn
  | cons m rest ih =>
    rw [List.map_cons, List.nodup_cons] at hdistinct
    rw [List.map_cons, sum_cons, sum_cons]
    rcases List.mem_cons.1 hn with rfl | hrest
    · have hsame : (rest.map fun m => if m.id = n'.id then n' else m) = rest := by
        refine (List.map_congr_left fun m hm => if_neg fun heq => hdistinct.1 ?_).trans (List.map_id _)
        exact List.mem_map.2 ⟨m, hm, heq.trans hid⟩
      rw [hsame, if_pos hid.symm]
      omega
    · have hne : m.id ≠ n'.id := fun heq =>
        hdistinct.1 (List.mem_map.2 ⟨n, hrest, by rw [heq, hid]⟩)
      have := ih hdistinct.2 hrest
      rw [if_neg hne]
      omega

theorem sum_removed {nodes : List (Node α)} {n : Node α} (hdistinct : (nodes.map (·.id)).Nodup) (hn : n ∈ nodes) :
    Node.sum count (nodes.filter fun m => m.id ≠ n.id) + count n = Node.sum count nodes := by
  induction nodes with
  | nil => simp at hn
  | cons m rest ih =>
    rw [List.map_cons, List.nodup_cons] at hdistinct
    rw [sum_cons]
    rcases List.mem_cons.1 hn with rfl | hrest
    · have hsame : (rest.filter fun m => m.id ≠ n.id) = rest := by
        refine List.filter_eq_self.2 fun m hm => decide_eq_true fun heq => hdistinct.1 ?_
        exact List.mem_map.2 ⟨m, hm, heq⟩
      rw [List.filter_cons_of_neg (by simp), hsame]
      omega
    · have hne : m.id ≠ n.id := fun heq => hdistinct.1 (List.mem_map.2 ⟨n, hrest, heq.symm⟩)
      have := ih hdistinct.2 hrest
      rw [List.filter_cons_of_pos (by simpa using hne), sum_cons]
      omega

end Node

/-- A counter of a flow that is added up when counters are merged. -/
def FlowStats.Additive (count : FlowStats → Nat) : Prop := ∀ s t, count (s.merge t) = count s + count t

namespace World

theorem flowStats_count (count : FlowStats → Nat) (h : FlowStats.Additive count) (w : World α γ) :
    count w.flowStats = count w.shared.stats.departedFlows + Node.sum (fun n => count n.flow.stats) w.nodes := by
  have hfold (nodes : List (Node α)) (s : FlowStats) :
      count (nodes.foldl (fun s n => s.merge n.flow.stats) s) =
        count s + Node.sum (fun n => count n.flow.stats) nodes := by
    induction nodes generalizing s with
    | nil => rfl
    | cons n rest ih =>
      rw [List.foldl_cons, ih, Node.sum_cons, h]
      omega
  exact hfold w.nodes _

/-- The books of a run. -/
structure Accounted (w : World α γ) : Prop where
  distinct : (w.nodes.map (·.id)).Nodup
  served : ∀ n ∈ w.nodes, n.flow.Served
  packets : w.shared.stats.generated = w.shared.stats.transmissions + w.shared.stats.expired +
    w.flowStats.droppedPackets + Node.sum Node.pending w.nodes
  sent : w.flowStats.transmissions = w.shared.stats.transmissions + w.shared.stats.retransmissions
  used : w.flowStats.usedReservations = w.shared.stats.transmissions

theorem Accounted.congr {w w' : World α γ} (h : Accounted w) (hnodes : w'.nodes = w.nodes)
    (hstats : w'.shared.stats = w.shared.stats) : Accounted w' := by
  have hflow : w'.flowStats = w.flowStats := by rw [flowStats, hnodes, hstats]; rfl
  obtain ⟨hdistinct, hserved, hpackets, hsent, hused⟩ := h
  constructor
  · rwa [hnodes]
  · rwa [hnodes]
  · rwa [hstats, hflow, hnodes]
  · rwa [hstats, hflow]
  · rwa [hstats, hflow]

/-! ## A step at a node -/

theorem setNode_ids (w : World α γ) (n : Node α) : (w.setNode n).nodes.map (·.id) = w.nodes.map (·.id) := by
  unfold setNode
  rw [List.map_map]
  refine List.map_congr_left fun m _ => ?_
  simp only [Function.comp]
  split <;> simp_all

theorem Accounted.at_node {w w' : World α γ} {n : Node α} {r : AtNode α γ} (h : Accounted w) (hn : n ∈ w.nodes)
    (hr : AtNode.Balanced ⟨n, w.shared⟩ r) (hnodes : w'.nodes = (w.setNode r.node).nodes)
    (hstats : w'.shared.stats = r.shared.stats) : Accounted w' := by
  have hsum (count : Node α → Nat) :
      Node.sum count w'.nodes + count n = Node.sum count w.nodes + count r.node := by
    rw [hnodes]
    exact Node.sum_replaced count h.distinct hn hr.id
  have hflow (count : FlowStats → Nat) (hcount : FlowStats.Additive count) :
      count w'.flowStats + count n.flow.stats = count w.flowStats + count r.node.flow.stats := by
    have hnodesum := hsum fun n => count n.flow.stats
    have hdeparted : w'.shared.stats.departedFlows = w.shared.stats.departedFlows := by rw [hstats]; exact hr.departed
    rw [flowStats_count count hcount, flowStats_count count hcount, hdeparted]
    omega
  constructor
  · rw [hnodes, setNode_ids]
    exact h.distinct
  · rw [hnodes]
    intro m hm
    obtain ⟨m', hm', rfl⟩ := List.mem_map.1 hm
    split
    · exact hr.served
    · exact h.served m' hm'
  · have hpackets := hr.packets
    have hdropped := hflow FlowStats.droppedPackets fun _ _ => rfl
    have hpending := hsum Node.pending
    have := h.packets
    simp only [AtNode.accounted] at hpackets
    rw [hstats]
    omega
  · have hsent := hr.sent
    have htransmissions := hflow FlowStats.transmissions fun _ _ => rfl
    have := h.sent
    simp only at hsent
    rw [hstats]
    omega
  · have hused := hr.used
    have hreservations := hflow FlowStats.usedReservations fun _ _ => rfl
    have := h.used
    simp only at hused
    rw [hstats]
    omega

theorem mem_of_node? {w : World α γ} {id : Nat} {n : Node α} (h : w.node? id = some n) : n ∈ w.nodes ∧ n.id = id :=
  ⟨List.mem_of_find?_eq_some h, by simpa using List.find?_some h⟩

theorem of_mem_setNode {w : World α γ} {m n : Node α} (h : m ∈ (w.setNode n).nodes) :
    m = n ∨ m ∈ w.nodes ∧ m.id ≠ n.id := by
  obtain ⟨m', hm', rfl⟩ := List.mem_map.1 h
  split
  · exact .inl rfl
  · exact .inr ⟨hm', ‹_›⟩

theorem node?_setNode {w : World α γ} {n n' : Node α} (h : w.node? n'.id = some n) :
    (w.setNode n').node? n'.id = some n' := by
  have hid := (mem_of_node? h).2
  unfold setNode node?
  rw [List.find?_map]
  have hsame : ((fun m : Node α => decide (m.id = n'.id)) ∘ fun m => if m.id = n'.id then n' else m) =
      fun m => decide (m.id = n'.id) := by
    funext m
    simp only [Function.comp]
    split <;> simp_all
  rw [hsame, show w.nodes.find? (fun m => decide (m.id = n'.id)) = some n from h, Option.map_some, if_pos hid]

/-! ### Movement -/

theorem Accounted.without {w w' : World α γ} {n : Node α} (h : Accounted w) (hn : n ∈ w.nodes)
    (hnodes : w'.nodes = w.nodes.filter fun m => m.id ≠ n.id)
    (hstats : RunStats.SameCounts { w.shared.stats with
      departedFlows := w.shared.stats.departedFlows.merge n.flow.teardown.stats
      expired := w.shared.stats.expired + n.arrivals.length } w'.shared.stats) : Accounted w' := by
  obtain ⟨hgenerated, hexpired, htransmissions, hretransmissions, hdeparted⟩ := hstats
  have hsum (count : Node α → Nat) : Node.sum count w'.nodes + count n = Node.sum count w.nodes := by
    rw [hnodes]
    exact Node.sum_removed count h.distinct hn
  have hend := Flow.teardown_balanced n.flow
  have hflow (count : FlowStats → Nat) (hcount : FlowStats.Additive count) :
      count w'.flowStats + count n.flow.stats = count w.flowStats + count n.flow.teardown.stats := by
    have hnodesum := hsum fun n => count n.flow.stats
    rw [flowStats_count count hcount, flowStats_count count hcount, hdeparted, hcount]
    omega
  constructor
  · rw [hnodes]
    exact h.distinct.sublist (List.filter_sublist.map _)
  · intro m hm
    rw [hnodes] at hm
    exact h.served m (List.mem_filter.1 hm).1
  · have hdropped := hflow FlowStats.droppedPackets fun _ _ => rfl
    have hpending := hsum Node.pending
    have hpackets := hend.packets
    have hnone : n.flow.teardown.waiting = 0 := rfl
    have := h.packets
    simp only [Node.pending] at hpending
    rw [hgenerated, hexpired, htransmissions]
    simp only
    omega
  · have hsent := hflow FlowStats.transmissions fun _ _ => rfl
    have := hend.transmissions
    have := h.sent
    rw [htransmissions, hretransmissions]
    simp only
    omega
  · have hused := hflow FlowStats.usedReservations fun _ _ => rfl
    have := hend.used
    have := h.used
    rw [htransmissions]
    simp only
    omega

theorem removeNode_accounted (id : Nat) {w : World α γ} (h : Accounted w) : Accounted (w.removeNode id).2 := by
  unfold removeNode
  split
  · exact h
  · rename_i n hn
    obtain ⟨hmem, rfl⟩ := mem_of_node? hn
    exact h.without hmem rfl ⟨rfl, rfl, rfl, rfl, rfl⟩

theorem Accounted.moved {w w' : World α γ} (h : Accounted w) (place : Node α → Point α)
    (hnodes : w'.nodes = w.nodes.map fun n => { n with position := place n })
    (hstats : w'.shared.stats = w.shared.stats) : Accounted w' := by
  have hflow : w'.flowStats = w.flowStats := by rw [flowStats, hnodes, hstats, List.foldl_map]; rfl
  have hpending : Node.sum Node.pending w'.nodes = Node.sum Node.pending w.nodes := by
    rw [Node.sum, hnodes, List.map_map]
    rfl
  constructor
  · rw [hnodes, List.map_map]
    exact h.distinct
  · rw [hnodes]
    intro m hm
    obtain ⟨n, hn, rfl⟩ := List.mem_map.1 hm
    exact h.served n hn
  · rw [hstats, hflow, hpending]
    exact h.packets
  · rw [hstats, hflow]
    exact h.sent
  · rw [hstats, hflow]
    exact h.used

/-! ### Packets on their way in -/

theorem arrive_accounted {w : World α γ} {n : Node α} (size : Nat) (h : Accounted w) (hn : n ∈ w.nodes) :
    Accounted (w.arrive n size) := by
  unfold arrive
  dsimp only
  refine h.at_node hn (r := ⟨{ n with arrivals := _ }, { w.shared with stats := _ }⟩) ?_ rfl rfl
  refine ⟨rfl, h.served n hn, rfl, ?_, rfl, rfl⟩
  simp only [AtNode.accounted, Node.pending, List.length_append, List.length_singleton]
  by_cases hfull : arrivalCapacity ≤ n.arrivals.length
  · have hsome : 16 ≤ n.arrivals.length := hfull
    simp only [if_pos hfull, List.length_drop]
    omega
  · simp only [if_neg hfull]
    omega

section

variable [Analysis α] [RandomSource γ]

theorem moveAll_accounted {w : World α γ} (h : Accounted w) : Accounted w.moveAll :=
  moveAll_keeps h (fun _ place h => h.moved place rfl rfl) (fun _ id h => removeNode_accounted id h)
    (fun _ _ _ h => h.congr rfl rfl)

/-- What a generator leaves as it is, and what it changes of a node. -/
structure Generated (w w' : World α γ) : Prop where
  agenda : w'.agenda = w.agenda
  onAir : w'.onAir = w.onAir
  links : w'.shared.links = w.shared.links
  ids : w'.nodes.map (·.id) = w.nodes.map (·.id)
  nodes : ∀ n' ∈ w'.nodes, ∃ n ∈ w.nodes, ∃ generator arrivals, n' = { n with generator, arrivals }

theorem generate_generated {w : World α γ} {n : Node α} (hn : n ∈ w.nodes) : Generated w (w.generate n) := by
  have hset (generator : Generator α) {m : Node α} (hm : m ∈ (w.setNode { n with generator }).nodes) :
      ∃ m₀ ∈ w.nodes, ∃ generator arrivals, m = { m₀ with generator, arrivals } := by
    rcases of_mem_setNode hm with rfl | ⟨hm, -⟩
    · exact ⟨n, hn, _, _, rfl⟩
    · exact ⟨m, hm, _, _, rfl⟩
  unfold generate
  split
  · rcases n.generator.onTimer w.nowUs n.position n.velocity w.shared.source with ⟨_ | size, generator, g⟩
    · exact ⟨rfl, rfl, rfl, setNode_ids .., fun m hm => hset generator hm⟩
    · refine ⟨rfl, rfl, rfl, (setNode_ids ..).trans (setNode_ids ..), fun m hm => ?_⟩
      rcases of_mem_setNode hm with rfl | ⟨hm, -⟩
      · exact ⟨n, hn, _, _, rfl⟩
      · exact hset generator hm
  · exact ⟨rfl, rfl, rfl, rfl, fun m hm => ⟨m, hm, _, _, rfl⟩⟩

theorem of_fireTimer {w w' : World α γ} {id : Nat} (hok : w.fireTimer id = (.ok (), w')) :
    (w.node? id = none ∧ w' = w) ∨ ∃ n n', w.node? id = some n ∧ (w.generate n).node? id = some n' ∧
      (w.generate n).rearm n' = (.ok (), w') := by
  unfold fireTimer at hok
  dsimp -iota only at hok
  split at hok
  · cases hok
    exact .inl ⟨‹_›, rfl⟩
  · rename_i n hn
    obtain ⟨hmem, rfl⟩ := mem_of_node? hn
    split at hok
    · rename_i hnone
      obtain ⟨n', hn', hid⟩ := List.mem_map.1 ((generate_generated hmem).ids ▸ List.mem_map_of_mem hmem)
      exact absurd hid (by simpa using List.find?_eq_none.1 hnone n' hn')
    · rename_i n' hn'
      exact .inr ⟨n, n', hn, hn', hok⟩

theorem generate_accounted {w : World α γ} {id : Nat} {n : Node α} (h : Accounted w) (hn : w.node? id = some n) :
    Accounted (w.generate n) := by
  obtain ⟨hmem, rfl⟩ := mem_of_node? hn
  unfold generate
  split
  · rcases hon : n.generator.onTimer w.nowUs n.position n.velocity w.shared.source with ⟨size, generator, g⟩
    dsimp only
    let n' : Node α := { n with generator }
    let w' : World α γ := { w.setNode n' with shared := { w.shared with source := g } }
    have haccounted : Accounted w' :=
      h.at_node hmem (r := ⟨n', w.shared⟩) (.of_same rfl rfl (.refl (h.served n hmem)) (.refl _)) rfl rfl
    have hset : (w.setNode n').node? n'.id = some n' := node?_setNode hn
    have hmem' : n' ∈ w'.nodes := (mem_of_node? hset).1
    cases size with
    | none => exact haccounted
    | some size => exact arrive_accounted size haccounted hmem'
  · exact h

theorem rearm_accounted {w : World α γ} {n : Node α} (h : Accounted w) (hn : n ∈ w.nodes) :
    Accounted (w.rearm n).2 := by
  unfold rearm
  split
  · exact h
  · refine h.at_node hn (r := ⟨{ n with timer := _ }, w.shared⟩) ?_ rfl rfl
    exact .of_same rfl rfl (.refl (h.served n hn)) (.refl _)

theorem fireTimer_accounted (id : Nat) (w : World α γ) (h : Accounted w) : Accounted (w.fireTimer id).2 := by
  unfold fireTimer
  dsimp -iota only
  split
  · exact h
  · rename_i n hn
    have hgenerated := generate_accounted h hn
    split
    · exact hgenerated
    · rename_i n' hn'
      exact rearm_accounted hgenerated (mem_of_node? hn').1

/-! ### Reception -/

theorem receiveAt_accounted (onAir : List (OnAir α)) (id : Nat) (w : World α γ) (h : Accounted w) :
    Accounted (receiveAt onAir id w).2 := by
  rcases receiveAt_received onAir id w with hsame | ⟨n, r, hn, hr, hset⟩
  · rw [hsame]
    exact h
  · rw [hset]
    obtain ⟨hmem, -⟩ := mem_of_node? hn
    have hheard : AtNode.Balanced ⟨n, w.shared⟩ ⟨n, (heardAt n onAir w.shared).2⟩ :=
      .of_same rfl rfl (.refl (h.served n hmem)) (by rw [heardAt_stats]; exact .refl _)
    exact h.at_node hmem (hheard.trans (hr.balanced (h.served n hmem))) rfl rfl

theorem receiveAll_accounted (w : World α γ) (h : Accounted w) : Accounted w.receiveAll.2 := by
  unfold receiveAll
  split
  · exact h
  · exact stepEach_keeps (receiveAt_accounted _) _ _ (h.congr rfl rfl)

/-! ### Packets on their way out -/

theorem serveAt_accounted {now : Slot} {id : Nat} {w w' : World α γ} (h : Accounted w)
    (hok : serveAt now id w = (.ok (), w')) : Accounted w' := by
  rcases of_serveAt hok with ⟨-, rfl⟩ | ⟨n, r, r', sent, hn, hdelivered, hsend, rfl⟩
  · exact h
  · obtain ⟨hmem, -⟩ := mem_of_node? hn
    -- What is left of the arrivals is what is still to be delivered.
    obtain ⟨hr, -⟩ := stepEach_ok (P := fun rest r => AtNode.Balanced ⟨n, w.shared⟩ r ∧ r.node.arrivals = rest)
      (fun p rest r r' hr hstep => by
        obtain ⟨hbalanced, hrest⟩ := AtNode.deliver_balanced hr.1.served hr.2 hstep
        exact ⟨hr.1.trans hbalanced, hrest⟩)
      ⟨.refl (h.served n hmem), rfl⟩ hdelivered
    exact h.at_node hmem (hr.trans (AtNode.send_balanced hr.served hsend)) rfl rfl

theorem serveAll_accounted {w w' : World α γ} (h : Accounted w) (hok : w.serveAll = (.ok (), w')) : Accounted w' := by
  obtain ⟨now, w₁, -, hserved, rfl⟩ := of_serveAll hok
  have hall := stepEach_ok (P := fun _ w => Accounted w) (fun _ _ _ _ hw hstep => serveAt_accounted hw hstep) h hserved
  exact hall.congr rfl rfl

/-! ## Events -/

theorem handle_accounted {w w' : World α γ} {e : Event} (h : Accounted w) (hok : handle e w = (.ok (), w')) :
    Accounted w' := by
  cases e with
  | reception =>
    have hall := receiveAll_accounted w h
    rwa [show w.receiveAll = _ from hok] at hall
  | mobility => cases hok; exact moveAll_accounted h
  | traffic id =>
    have hfired := fireTimer_accounted id w h
    rwa [show w.fireTimer id = _ from hok] at hfired
  | mac => exact serveAll_accounted h hok
  | report => cases hok; exact h.congr rfl rfl

end

/-! ## The beginning -/

theorem placeNodes_fresh [RandomSource γ] (params : FlowParams α) (generators : List (Nat × Generator α))
    (specs : List (NodeSpec α)) (agenda : Agenda Event) (g : γ) :
    ((placeNodes params generators specs agenda g).1.map (·.id)).Sublist (specs.map (·.id)) ∧
      ∀ n ∈ (placeNodes params generators specs agenda g).1, n.flow = { params } ∧ n.arrivals = [] := by
  induction specs generalizing agenda g with
  | nil => exact ⟨.slnil, fun n hn => by cases hn⟩
  | cons spec rest ih =>
    unfold placeNodes
    split
    · obtain ⟨hids, hfresh⟩ := ih agenda g
      exact ⟨hids.cons _, hfresh⟩
    · dsimp only
      obtain ⟨hids, hfresh⟩ := ih _ _
      refine ⟨hids.cons_cons _, fun n hn => ?_⟩
      rcases List.mem_cons.1 hn with rfl | hrest
      · exact ⟨rfl, rfl⟩
      · exact hfresh n hrest

theorem of_start [Scalar α] [RandomSource γ] {config : Config α} {scene : Scene α} {trace : Trace α}
    {sourceOfSeed : Nat → γ} {w : World α γ} (h : start config scene trace sourceOfSeed = .ok w) :
    config.validate = .ok () ∧ w.setup.config = config ∧ config.numerology = .ok w.setup.numerology ∧
      w.shared.stats = { binM := config.simulation.prrBinM } ∧
      ∃ params generators nodes agenda, ∃ g g' : γ, config.flowParams = .ok params ∧
        placeNodes params generators scene.nodes {} g = (nodes, agenda, g') ∧
        w.nodes = nodes.mergeSort (fun a b => a.id ≤ b.id) ∧
        w.agenda = ((((agenda.scheduleAt 0 .reception .reception).2.scheduleAt 0 .mac .mac).2.scheduleAt
          w.setup.mobilityUs .mobility .mobility).2.scheduleAt w.setup.reportUs .report .report).2 := by
  unfold start at h
  obtain ⟨_, hvalidate, h⟩ := ok_of_bind h
  obtain ⟨params, hparams, h⟩ := ok_of_bind h
  obtain ⟨numerology, hnumerology, h⟩ := ok_of_bind h
  obtain ⟨_, -, h⟩ := ok_of_bind h
  obtain ⟨_, -, h⟩ := ok_of_bind h
  obtain ⟨_, -, h⟩ := ok_of_bind h
  obtain ⟨⟨generators, g⟩, -, h⟩ := ok_of_bind h
  rcases hplaced : placeNodes params generators scene.nodes {} g with ⟨nodes, agenda, g'⟩
  simp only [hplaced] at h
  obtain ⟨_, -, h⟩ := ok_of_bind h
  obtain ⟨_, -, h⟩ := ok_of_bind h
  cases h
  exact ⟨ok_of_mapError hvalidate, rfl, ok_of_mapError hnumerology, rfl, params, generators, nodes, agenda, g, g',
    ok_of_mapError hparams, hplaced, rfl, rfl⟩

theorem start_accounted [Scalar α] [RandomSource γ] {config : Config α} {scene : Scene α} {trace : Trace α}
    {sourceOfSeed : Nat → γ} {w : World α γ} (hscene : scene.validate = .ok ())
    (h : start config scene trace sourceOfSeed = .ok w) : Accounted w := by
  obtain ⟨-, -, -, hstats, params, generators, nodes, agenda, g, g', -, hplaced, hnodes, -⟩ := of_start h
  obtain ⟨hids, hfresh⟩ := placeNodes_fresh params generators scene.nodes {} g
  rw [hplaced] at hids hfresh
  have hperm := List.mergeSort_perm nodes fun a b => a.id ≤ b.id
  rw [← hnodes] at hperm
  replace hfresh : ∀ n ∈ w.nodes, n.flow = { params } ∧ n.arrivals = [] := fun n hn => hfresh n (hperm.mem_iff.1 hn)
  have hnone (n : Node α) (hn : n ∈ w.nodes) : n.pending = 0 := by
    rw [Node.pending, (hfresh n hn).1, (hfresh n hn).2]
    rfl
  have hflow (count : FlowStats → Nat) (hcount : FlowStats.Additive count) (hzero : count {} = 0) :
      count w.flowStats = 0 := by
    have hsum := Node.sum_zero (fun n => count n.flow.stats) fun n hn => by rw [(hfresh n hn).1]; exact hzero
    rw [flowStats_count count hcount, hsum, hstats]
    exact hzero
  constructor
  · exact (hperm.map _).nodup_iff.2 ((Scene.accepted_of_validate hscene).distinct.sublist hids)
  · intro n hn
    rw [(hfresh n hn).1]
    exact Flow.served_of_none rfl
  · rw [Node.sum_zero Node.pending hnone, hflow FlowStats.droppedPackets (fun _ _ => rfl) rfl, hstats]
    rfl
  · rw [hflow FlowStats.transmissions (fun _ _ => rfl) rfl, hstats]
    rfl
  · rw [hflow FlowStats.usedReservations (fun _ _ => rfl) rfl, hstats]

/-! ## Runs -/

theorem accounted_of_reached [Analysis α] [RandomSource γ] {config : Config α} {scene : Scene α} {trace : Trace α}
    {sourceOfSeed : Nat → γ} {endUs : Nat} {w₀ w : World α γ} (hscene : scene.validate = .ok ())
    (hstart : start config scene trace sourceOfSeed = .ok w₀) (hreached : Reached endUs w₀ w) : Accounted w :=
  hreached.keeps (fun w _ agenda _ hw hhandle => handle_accounted (w := { w with agenda }) (hw.congr rfl rfl) hhandle)
    (start_accounted hscene hstart)

/-- In every state of a run no packet is lost or counted twice, and what the flows count is what the run counts. -/
theorem packets_accounted [Analysis α] [RandomSource γ] {config : Config α} {scene : Scene α} {trace : Trace α}
    {sourceOfSeed : Nat → γ} {endUs : Nat} {w₀ w : World α γ} (hscene : scene.validate = .ok ())
    (hstart : start config scene trace sourceOfSeed = .ok w₀) (hreached : Reached endUs w₀ w) :
    w.shared.stats.generated = w.shared.stats.transmissions + w.shared.stats.expired + w.flowStats.droppedPackets +
        (w.nodes.map fun n => n.arrivals.length + n.flow.waiting).sum ∧
      w.flowStats.transmissions = w.shared.stats.transmissions + w.shared.stats.retransmissions ∧
      w.flowStats.usedReservations = w.shared.stats.transmissions := by
  have haccounted := accounted_of_reached hscene hstart hreached
  exact ⟨haccounted.packets, haccounted.sent, haccounted.used⟩

def loneScene : Scene ℚ where
  topLeft := ⟨0, 0⟩
  bottomRight := ⟨100, 100⟩
  nodes := [⟨7, ⟨50, 50⟩, ⟨0, 0⟩, 23⟩]
  pool := narrowRecord
  propagation := .ofScenario .highway
  regions := {}

theorem loneScene_valid : loneScene.validate = .ok () := by
  have hok : loneScene.validate.isOk = true := by decide +kernel
  cases hvalidate : loneScene.validate with
  | ok => rfl
  | error e => simp [hvalidate, Except.isOk, Except.toBool] at hok

/-- After seven events the node has generated a packet and sent it. -/
theorem packets_accounted_lone : ∃ w₀ w : World ℚ Zeros,
    loneScene.validate = .ok () ∧ start .standard loneScene .disabled (fun _ => .zeros) = .ok w₀ ∧
      Reached 10000000 w₀ w ∧ w.shared.stats.transmissions = 1 ∧
      w.shared.stats.generated = w.shared.stats.transmissions + w.shared.stats.expired + w.flowStats.droppedPackets +
        (w.nodes.map fun n => n.arrivals.length + n.flow.waiting).sum := by
  have hsent : (match start .standard loneScene .disabled fun _ => Zeros.zeros with
      | .ok w₀ =>
        match handleUntil 10000000 7 w₀ with
        | (.ok (), w) => decide (w.shared.stats.transmissions = 1)
        | (.error _, _) => false
      | .error _ => false) = true := by decide +kernel
  split at hsent
  · rename_i w₀ hstart
    split at hsent
    · rename_i w hend
      have hreached : Reached 10000000 w₀ w := reached_of_handleUntil .start hend
      exact ⟨w₀, w, loneScene_valid, hstart, hreached, of_decide_eq_true hsent,
        (packets_accounted loneScene_valid hstart hreached).1⟩
    · cases hsent
  · cases hsent

end World

end Sidelink
