import Sidelink.Proofs.Config.Rules
import Sidelink.Proofs.Flow.Deadline
import Sidelink.Proofs.Simulation.Accounts
import Sidelink.Proofs.Simulation.Clock

/-!
# Deadlines in a run

Packets are generated between two slots and handed to their flows in the second of them, before their time is over.
Whatever else a run does to its nodes, each packet that is sent is first sent inside its delay budget.
-/

namespace Sidelink

variable {α γ : Type}

/-- The packets of a node are in time for the next slot. -/
structure Node.Punctual (s : Setup α) (a : Agenda Event) (nextUs : Nat) (n : Node α) : Prop where
  numerology : n.flow.params.numerology = s.numerology
  timer : a.Armed n.timer .traffic
  arrivals : ∀ p ∈ n.arrivals, p.Fresh s.numerology s.config.traffic.pdbMs nextUs
  queued : n.flow.Prompt s.config.traffic.pdbMs nextUs

/-- The packets of all nodes are in time for the next slot, which is to come. -/
structure World.Punctual (s : Setup α) (nextUs : Nat) (w : World α γ) : Prop where
  setup : w.setup = s
  agenda : w.agenda.Timed s.numerology.slotUs nextUs [nextUs]
  nodes : ∀ n ∈ w.nodes, n.Punctual s w.agenda nextUs

/-- The delay budget is one that a configuration may have. -/
def Setup.Budgeted (s : Setup α) : Prop := 0 < s.config.traffic.pdbMs ∧ s.config.traffic.pdbMs ≤ 1000

variable {s : Setup α} {a a' : Agenda Event} {nextUs : Nat}

theorem Node.Punctual.of_agenda {n : Node α} (h : n.Punctual s a nextUs)
    (harmed : ∀ ticket, a.Armed ticket .traffic → a'.Armed ticket .traffic) : n.Punctual s a' nextUs :=
  { h with timer := harmed _ h.timer }

theorem Node.Punctual.congr {n n' : Node α} (h : n.Punctual s a nextUs) (hflow : n'.flow = n.flow)
    (harrivals : n'.arrivals = n.arrivals) (htimer : n'.timer = n.timer) : n'.Punctual s a nextUs := by
  constructor
  · rw [hflow]
    exact h.numerology
  · rw [htimer]
    exact h.timer
  · rw [harrivals]
    exact h.arrivals
  · rw [hflow]
    exact h.queued

/-! ## Steps at a node -/

namespace AtNode

variable {r r' : AtNode α γ}

theorem Received.punctual (h : Received r r') (hr : r.node.Punctual s a nextUs) : r'.node.Punctual s a nextUs := by
  obtain ⟨history, phase, blocks, hnode⟩ := h.node
  rw [hnode]
  exact ⟨hr.numerology, hr.timer, hr.arrivals, hr.queued.of_same rfl rfl⟩

variable [Analysis α] [RandomSource γ]

theorem deliver_punctual {p : Packet} {rest : List Packet} (hr : r.node.Punctual s a nextUs)
    (hbudget : s.Budgeted) (harrivals : r.node.arrivals = p :: rest)
    (hok : r.deliver s (s.numerology.slotAt nextUs) nextUs p = (.ok (), r')) :
    r'.node.Punctual s a nextUs ∧ r'.node.arrivals = rest ∧ r'.node.id = r.node.id ∧
      r'.shared.stats = r.shared.stats := by
  have hfresh := hr.arrivals
  rw [harrivals, List.forall_mem_cons] at hfresh
  obtain ⟨hp, hrest⟩ := hfresh
  unfold deliver at hok
  -- The packet came less than a slot ago, and no budget is shorter than that.
  rw [if_neg (hp.not_expired hbudget.1), show r.node.arrivals.drop 1 = rest by rw [harrivals]; rfl] at hok
  obtain ⟨decision, flow, g, henqueue, hnode, hstats, -⟩ := of_handOver hok
  have hhanded := Flow.enqueue_handed henqueue
  dsimp only at hhanded
  rw [← hr.numerology] at hp hhanded
  rw [hnode]
  refine ⟨⟨?_, hr.timer, hrest, hr.queued.handed hbudget.1 hbudget.2 hp hhanded⟩, rfl, rfl, hstats⟩
  rw [hhanded.params, hr.numerology]

theorem send_punctual {sent : Option (OnAir α)} (hr : r.node.Punctual s a nextUs) (harrivals : r.node.arrivals = [])
    (hsend : r.send (s.numerology.slotAt nextUs) nextUs = (sent, r')) :
    r'.node.Punctual s a (nextUs + s.numerology.slotUs) ∧ r'.node.id = r.node.id ∧
      r'.shared.stats.expired = r.shared.stats.expired ∧
      ∀ o ∈ sent, o.tx.InBudget s.config.traffic.pdbMs nextUs := by
  obtain ⟨tx, flow, g, honSlot, hnode, rfl, hstats, -⟩ := of_send hsend
  rw [← hr.numerology] at honSlot
  obtain ⟨rfl, hpassed⟩ := Flow.onSlot_passed honSlot
  rw [hnode, hstats]
  refine ⟨⟨?_, hr.timer, by simp [harrivals], ?_⟩, rfl, rfl, ?_⟩
  · rw [hpassed.params, hr.numerology]
  · rw [← hr.numerology]
    exact hr.queued.passed hpassed
  · intro o ho
    obtain ⟨t, ht, rfl⟩ := Option.map_eq_some_iff.1 ho
    exact hr.queued.sent (Flow.due_sent ht)

theorem serve_punctual {n : Node α} {shared : Shared α γ} {sent : Option (OnAir α)} (hn : n.Punctual s a nextUs)
    (hbudget : s.Budgeted)
    (hdelivered : stepEach (deliver s (s.numerology.slotAt nextUs) nextUs) n.arrivals ⟨n, shared⟩ = (.ok (), r))
    (hsend : r.send (s.numerology.slotAt nextUs) nextUs = (sent, r')) :
    r'.node.Punctual s a (nextUs + s.numerology.slotUs) ∧ r'.node.id = n.id ∧
      r'.shared.stats.expired = shared.stats.expired ∧
      ∀ o ∈ sent, o.tx.InBudget s.config.traffic.pdbMs nextUs := by
  obtain ⟨hr, hnone, hid, hstats⟩ := stepEach_ok
    (P := fun rest r => r.node.Punctual s a nextUs ∧ r.node.arrivals = rest ∧ r.node.id = n.id ∧
      r.shared.stats = shared.stats)
    (fun p rest r r' hr hstep => by
      obtain ⟨hpunctual, harrivals, hid, hstats⟩ := hr
      obtain ⟨hpunctual', harrivals', hid', hstats'⟩ := deliver_punctual hpunctual hbudget harrivals hstep
      exact ⟨hpunctual', harrivals', hid'.trans hid, hstats'.trans hstats⟩)
    ⟨hn, rfl, rfl, rfl⟩ hdelivered
  obtain ⟨hserved, hsid, hexpired, hsent⟩ := send_punctual hr hnone hsend
  exact ⟨hserved, hsid.trans hid, by rw [hexpired, hstats], hsent⟩

end AtNode

/-! ## Events -/

namespace World

variable {w w' : World α γ}

theorem Punctual.congr (h : w.Punctual s nextUs) (hsetup : w'.setup = w.setup) (hagenda : w'.agenda = w.agenda)
    (hnodes : w'.nodes = w.nodes) : w'.Punctual s nextUs := by
  constructor
  · rw [hsetup]
    exact h.setup
  · rw [hagenda]
    exact h.agenda
  · rw [hnodes, hagenda]
    exact h.nodes

theorem Punctual.setNode (h : w.Punctual s nextUs) {n : Node α} (hn : n.Punctual s w.agenda nextUs) :
    (w.setNode n).Punctual s nextUs := by
  refine ⟨h.setup, h.agenda, fun m hm => ?_⟩
  rcases of_mem_setNode hm with rfl | ⟨hm, -⟩
  · exact hn
  · exact h.nodes m hm

theorem Punctual.scheduleAt (h : w.Punctual s nextUs) (time : Nat) {e : Event} (he : e ≠ .mac)
    (htimer : ∀ id, e = .traffic id → nextUs < max time w.nowUs + s.numerology.slotUs) :
    Punctual s nextUs { w with agenda := (w.agenda.scheduleAt time e.phase e).2 } := by
  have hagenda := h.agenda.scheduleAt time e htimer
  rw [if_neg he] at hagenda
  exact ⟨h.setup, hagenda, fun n hn => (h.nodes n hn).of_agenda fun _ harmed => harmed.scheduleAt ..⟩

/-! ### Movement -/

theorem removeNode_punctual (id : Nat) (h : w.Punctual s nextUs) : (w.removeNode id).2.Punctual s nextUs := by
  unfold removeNode
  split
  · exact h
  · rename_i n hn
    obtain ⟨hmem, -⟩ := mem_of_node? hn
    refine ⟨h.setup, h.agenda.cancel (h.nodes n hmem).timer, fun m hm => ?_⟩
    exact (h.nodes m (List.mem_filter.1 hm).1).of_agenda fun _ harmed => harmed.cancel _

theorem Punctual.moved (h : w.Punctual s nextUs) (place : Node α → Point α) :
    Punctual s nextUs { w with nodes := w.nodes.map fun n => { n with position := place n } } := by
  refine ⟨h.setup, h.agenda, fun m hm => ?_⟩
  obtain ⟨n, hn, rfl⟩ := List.mem_map.1 hm
  exact (h.nodes n hn).congr rfl rfl rfl

section

variable [Analysis α] [RandomSource γ]

theorem moveAll_punctual (h : w.Punctual s nextUs) : w.moveAll.Punctual s nextUs := by
  refine moveAll_keeps h (fun _ place h => h.moved place) (fun _ id h => removeNode_punctual id h) fun w links g h => ?_
  exact (h.scheduleAt (min (w.nowUs + w.setup.mobilityUs) (limit64 - 1)) (e := .mobility) (by simp) (by simp)).congr
    rfl rfl rfl

/-! ### Packets on their way in -/

/-- A time after the last slot, up to the next one. -/
structure Between (s : Setup α) (nextUs : Nat) (w : World α γ) : Prop where
  le : w.nowUs ≤ nextUs
  lt : nextUs < w.nowUs + s.numerology.slotUs

omit [Analysis α] [RandomSource γ] in
theorem arrive_punctual {n : Node α} (size : Nat) (h : w.Punctual s nextUs) (hn : n.Punctual s w.agenda nextUs)
    (hbetween : w.Between s nextUs) : (w.arrive n size).Punctual s nextUs := by
  let full := arrivalCapacity ≤ n.arrivals.length
  let waiting := if full then n.arrivals.drop 1 else n.arrivals
  let t := w.setup.config.traffic
  let packet : Packet := ⟨w.nextPacket, size, n.generator.trafficType, t.pdbMs, t.rriMs, w.nowUs⟩
  have hpacket : packet.Fresh s.numerology s.config.traffic.pdbMs nextUs :=
    ⟨congrArg (·.config.traffic.pdbMs) h.setup, hbetween.le, hbetween.lt⟩
  have hwaiting : waiting.Sublist n.arrivals := by
    unfold waiting
    split
    · exact List.drop_sublist ..
    · exact .refl _
  have hn' : Node.Punctual s w.agenda nextUs { n with arrivals := waiting ++ [packet] } := by
    refine ⟨hn.numerology, hn.timer, fun p hp => ?_, hn.queued⟩
    rcases List.mem_append.1 hp with hp | hp
    · exact hn.arrivals p (hwaiting.mem hp)
    · rw [List.mem_singleton.1 hp]
      exact hpacket
  exact (h.setNode hn').congr rfl rfl rfl

theorem generate_punctual {n : Node α} (h : w.Punctual s nextUs) (hn : n ∈ w.nodes)
    (hbetween : w.Between s nextUs) : (w.generate n).Punctual s nextUs := by
  unfold generate
  split
  · rcases honTimer : n.generator.onTimer w.nowUs n.position n.velocity w.shared.source with ⟨size, generator, g⟩
    have hn' : Node.Punctual s w.agenda nextUs { n with generator } := (h.nodes n hn).congr rfl rfl rfl
    have hset : Punctual s nextUs { w.setNode { n with generator } with shared := { w.shared with source := g } } :=
      (h.setNode hn').congr rfl rfl rfl
    cases size with
    | none => exact hset
    | some size => exact arrive_punctual size hset hn' ⟨hbetween.le, hbetween.lt⟩
  · exact h

theorem rearm_punctual {n : Node α} (h : w.Punctual s nextUs) (hn : n ∈ w.nodes) (hbetween : w.Between s nextUs)
    (hok : w.rearm n = (.ok (), w')) : w'.Punctual s nextUs := by
  obtain ⟨delay, g, -, rfl⟩ := of_rearm hok
  have hlt := hbetween.lt
  have hscheduled := h.scheduleAt (min (w.nowUs + delay) (limit64 - 1)) (e := .traffic n.id) (by simp)
    (by intro _ _; omega)
  obtain ⟨hnumerology, -, harrivals, hqueued⟩ := h.nodes n hn
  have harmed := w.agenda.armed_scheduleAt (min (w.nowUs + delay) (limit64 - 1)) .traffic (.traffic n.id)
  have hn' : Node.Punctual s _ nextUs { n with timer := w.agenda.nextTicket } :=
    ⟨hnumerology, harmed, harrivals, hqueued⟩
  exact (hscheduled.setNode hn').congr rfl rfl rfl

theorem fireTimer_punctual {id : Nat} (h : w.Punctual s nextUs) (hbetween : w.Between s nextUs)
    (hok : w.fireTimer id = (.ok (), w')) : w'.Punctual s nextUs := by
  obtain ⟨-, rfl⟩ | ⟨n, n', hn, hn', hrearm⟩ := of_fireTimer hok
  · exact h
  · have hmem := (mem_of_node? hn).1
    have hagenda := (generate_generated hmem).agenda
    have hstill : (w.generate n).Between s nextUs := by
      constructor
      case le => rw [nowUs, hagenda]; exact hbetween.le
      case lt => rw [nowUs, hagenda]; exact hbetween.lt
    exact rearm_punctual (generate_punctual h hmem hbetween) (mem_of_node? hn').1 hstill hrearm

/-! ### Reception -/

theorem receiveAt_punctual (onAir : List (OnAir α)) (id : Nat) (w : World α γ) (h : w.Punctual s nextUs) :
    (receiveAt onAir id w).2.Punctual s nextUs := by
  rcases receiveAt_received onAir id w with hsame | ⟨n, r, hn, hr, hset⟩
  · rw [hsame]
    exact h
  · rw [hset]
    exact (h.setNode (hr.punctual (h.nodes n (mem_of_node? hn).1))).congr rfl rfl rfl

theorem receiveAll_punctual (h : w.Punctual s nextUs) : w.receiveAll.2.Punctual s nextUs := by
  unfold receiveAll
  split
  · exact h
  · exact stepEach_keeps (receiveAt_punctual _) _ _ (h.congr rfl rfl rfl)

/-! ### Packets on their way out -/

/-- The world while a slot is handled, with the nodes that are still to be served. -/
structure Serving (s : Setup α) (nextUs : Nat) (w₀ : World α γ) (rest : List Nat) (w : World α γ) : Prop where
  distinct : rest.Nodup
  setup : w.setup = w₀.setup
  agenda : w.agenda = w₀.agenda
  waiting : ∀ n ∈ w.nodes, n.id ∈ rest → n.Punctual s w₀.agenda nextUs
  served : ∀ n ∈ w.nodes, n.id ∉ rest → n.Punctual s w₀.agenda (nextUs + s.numerology.slotUs)
  expired : w.shared.stats.expired = w₀.shared.stats.expired
  collected : ∃ sent, w.onAir = w₀.onAir ++ sent ∧ ∀ o ∈ sent, o.tx.InBudget s.config.traffic.pdbMs nextUs

theorem Serving.serveAt {w₀ : World α γ} {id : Nat} {rest : List Nat} (h : Serving s nextUs w₀ (id :: rest) w)
    (hsetup : w₀.setup = s) (hnow : w₀.nowUs = nextUs) (hbudget : s.Budgeted)
    (hok : serveAt (s.numerology.slotAt nextUs) id w = (.ok (), w')) : Serving s nextUs w₀ rest w' := by
  obtain ⟨hid, hdistinct⟩ := List.nodup_cons.1 h.distinct
  rcases of_serveAt hok with ⟨hnone, rfl⟩ | ⟨n, r, r', sent, hn, hdelivered, hsend, rfl⟩
  · refine ⟨hdistinct, h.setup, h.agenda, fun n hn hrest => h.waiting n hn (.tail _ hrest), fun n hn hrest => ?_,
      h.expired, h.collected⟩
    refine h.served n hn fun hmem => ?_
    rcases List.mem_cons.1 hmem with rfl | hmem
    · simpa using List.find?_eq_none.1 hnone n hn
    · exact hrest hmem
  · obtain ⟨hmem, rfl⟩ := mem_of_node? hn
    rw [h.setup, hsetup, nowUs, h.agenda, show w₀.agenda.now = nextUs from hnow] at hdelivered
    rw [nowUs, h.agenda, show w₀.agenda.now = nextUs from hnow] at hsend
    obtain ⟨hserved, hsid, hexpired, hsent⟩ := AtNode.serve_punctual (h.waiting n hmem (by simp)) hbudget hdelivered
      hsend
    constructor
    case distinct => exact hdistinct
    case setup => exact h.setup
    case agenda => exact h.agenda
    case waiting =>
      -- No number comes twice, so the node that was served is not among the others.
      intro m hm hrest
      rcases of_mem_setNode hm with rfl | ⟨hm, -⟩
      · exact absurd (hsid ▸ hrest) hid
      · exact h.waiting m hm (.tail _ hrest)
    case served =>
      intro m hm hrest
      rcases of_mem_setNode hm with rfl | ⟨hm, hne⟩
      · exact hserved
      · refine h.served m hm fun hmem => ?_
        rw [hsid] at hne
        exact (List.mem_cons.1 hmem).elim hne hrest
    case expired => exact hexpired.trans h.expired
    case collected =>
      obtain ⟨earlier, honAir, hearlier⟩ := h.collected
      refine ⟨earlier ++ sent.toList, by simp [honAir], fun o ho => ?_⟩
      rcases List.mem_append.1 ho with ho | ho
      · exact hearlier o ho
      · exact hsent o (by simpa using ho)

theorem Punctual.serveAll [Scalar.LawfulSlots α] {m : Moment} {agenda : Agenda Event} (h : w.Punctual s nextUs)
    (hdistinct : (w.nodes.map (·.id)).Nodup) (hbudget : s.Budgeted)
    (hpop : w.agenda.pop = some ((m, .mac), agenda)) (hok : serveAll { w with agenda } = (.ok (), w')) :
    m.time = nextUs ∧ w'.Punctual s (nextUs + s.numerology.slotUs) ∧
      w'.shared.stats.expired = w.shared.stats.expired ∧
      ∃ sent, w'.onAir = w.onAir ++ sent ∧ ∀ o ∈ sent, o.tx.InBudget s.config.traffic.pdbMs nextUs := by
  obtain ⟨htime, hnow, hagenda⟩ := h.agenda.pop_slot hpop
  obtain ⟨now, w₁, hslot, hserved, rfl⟩ := of_serveAll hok
  simp only [nowUs, h.setup, hnow] at hslot
  obtain ⟨rfl, hfits⟩ := Slot.of_ofTime hslot
  have hbefore : Serving s nextUs { w with agenda } (w.nodes.map (·.id)) { w with agenda } := by
    refine ⟨hdistinct, rfl, rfl, fun n hn _ => ?_, fun n hn hout => ?_, rfl, [], by simp, by simp⟩
    · exact (h.nodes n hn).of_agenda fun _ harmed => harmed.pop hpop
    · exact absurd (List.mem_map_of_mem hn) hout
  have hafter := stepEach_ok (P := Serving s nextUs { w with agenda })
    (fun id rest w w' hw hstep => hw.serveAt h.setup hnow hbudget hstep) hbefore hserved
  refine ⟨htime, ⟨hafter.setup.trans h.setup, ?_, fun n hn => ?_⟩, hafter.expired, hafter.collected⟩
  · rw [hafter.setup, h.setup, hafter.agenda]
    refine hagenda.next_slot (congrArg (· + _) hnow) ?_
    simp only [decisionDelaySlots] at hfits
    omega
  · refine (hafter.served n hn (by simp)).of_agenda fun _ harmed => ?_
    rw [hafter.agenda]
    exact (harmed.scheduleAt ..).scheduleAt ..

/-! ### Any event -/

theorem Punctual.handle [Scalar.LawfulSlots α] {m : Moment} {e : Event} {agenda : Agenda Event}
    (h : w.Punctual s nextUs) (hdistinct : (w.nodes.map (·.id)).Nodup) (hbudget : s.Budgeted)
    (hpop : w.agenda.pop = some ((m, e), agenda)) (hok : handle e { w with agenda } = (.ok (), w')) :
    ∃ nextUs', w'.Punctual s nextUs' := by
  by_cases he : e = .mac
  · subst he
    exact ⟨_, (h.serveAll hdistinct hbudget hpop hok).2.1⟩
  · obtain ⟨hagenda, hbefore, hlate⟩ := h.agenda.pop hpop he
    have hpopped : Punctual s nextUs { w with agenda } :=
      ⟨h.setup, hagenda, fun n hn => (h.nodes n hn).of_agenda fun _ harmed => harmed.pop hpop⟩
    refine ⟨nextUs, ?_⟩
    cases e with
    | mac => exact absurd rfl he
    | reception =>
      have hreceived := receiveAll_punctual hpopped
      rwa [show receiveAll _ = _ from hok] at hreceived
    | mobility =>
      cases hok
      exact moveAll_punctual hpopped
    | traffic id => exact fireTimer_punctual hpopped ⟨hbefore, hlate id rfl⟩ hok
    | report =>
      cases hok
      exact (hpopped.scheduleAt (min (_ + w.setup.reportUs) (limit64 - 1)) (e := .report) (by simp) (by simp)).congr
        rfl rfl rfl

end

end World

/-! ## The beginning -/

namespace Config

variable {c : Config α}

theorem numerology_of_flowParams {params : FlowParams α} (h : c.flowParams = .ok params) :
    c.numerology = .ok params.numerology := by
  unfold flowParams at h
  obtain ⟨n, hn, h⟩ := ok_of_bind h
  obtain ⟨_, -, h⟩ := ok_of_bind h
  cases h
  exact hn

end Config

namespace World

theorem placeNodes_timed [RandomSource γ] {params : FlowParams α} {generators : List (Nat × Generator α)}
    {specs : List (NodeSpec α)} {agenda agenda' : Agenda Event} {g g' : γ} {nodes : List (Node α)} {slotUs : Nat}
    (hpos : 0 < slotUs) (h : agenda.Timed slotUs 0 [])
    (hplaced : placeNodes params generators specs agenda g = (nodes, agenda', g')) :
    agenda'.Timed slotUs 0 [] ∧ agenda'.now = agenda.now ∧
      (∀ ticket, agenda.Armed ticket .traffic → agenda'.Armed ticket .traffic) ∧
      ∀ n ∈ nodes, agenda'.Armed n.timer .traffic := by
  induction specs generalizing agenda g nodes with
  | nil =>
    cases hplaced
    exact ⟨h, rfl, fun _ => id, by simp⟩
  | cons spec rest ih =>
    unfold placeNodes at hplaced
    split at hplaced
    · exact ih h hplaced
    · rename_i generator _
      rcases hdelay : generator.firstDelayUs g with ⟨delay, g₁⟩
      have hscheduled := h.scheduleAt delay (.traffic spec.id) (by intro _ _; omega)
      rcases hrest : placeNodes params generators rest (agenda.scheduleAt delay .traffic (.traffic spec.id)).2 g₁ with
        ⟨nodes', agenda₁, g₂⟩
      simp only [hdelay, hrest] at hplaced
      cases hplaced
      obtain ⟨htimed, hnow, hkept, harmed⟩ := ih hscheduled hrest
      refine ⟨htimed, hnow, fun ticket hticket => hkept ticket (hticket.scheduleAt ..), fun n hn => ?_⟩
      rcases List.mem_cons.1 hn with rfl | hn
      · exact hkept _ (Agenda.armed_scheduleAt ..)
      · exact harmed n hn

theorem start_punctual [Scalar α] [RandomSource γ] {config : Config α} {scene : Scene α} {trace : Trace α}
    {sourceOfSeed : Nat → γ} {w : World α γ} (h : start config scene trace sourceOfSeed = .ok w) :
    w.Punctual w.setup 0 := by
  obtain ⟨-, -, hnumerology, -, params, generators, nodes, agenda, g, g', hparams, hplaced, hnodes, hagenda⟩ :=
    of_start h
  have hpos := w.setup.numerology.slotUs_pos
  obtain ⟨htimed, hnow, -, harmed⟩ := placeNodes_timed hpos (Agenda.timed_empty _ _) hplaced
  obtain ⟨-, hfresh⟩ := placeNodes_fresh params generators scene.nodes {} g
  rw [hplaced] at hfresh
  refine ⟨rfl, ?_, fun n hn => ?_⟩
  · have hslot := (htimed.scheduleAt 0 .reception (by simp)).scheduleAt 0 .mac (by simp)
    have hall := (hslot.scheduleAt w.setup.mobilityUs .mobility (by simp)).scheduleAt w.setup.reportUs .report (by simp)
    change Agenda.Timed _ 0 [max 0 agenda.now] _ at hall
    rw [hnow] at hall
    rw [hagenda]
    exact hall
  · rw [hnodes, List.mem_mergeSort] at hn
    obtain ⟨hflow, harrivals⟩ := hfresh n hn
    rw [Config.numerology_of_flowParams hparams] at hnumerology
    refine ⟨?_, ?_, by simp [harrivals], by simp [hflow, Flow.Prompt]⟩
    · rw [hflow]
      exact Except.ok.inj hnumerology
    · rw [hagenda]
      exact ((((harmed n hn).scheduleAt ..).scheduleAt ..).scheduleAt ..).scheduleAt ..

/-! ## Runs -/

section

variable [Analysis α] [Scalar.LawfulSlots α] [RandomSource γ] {config : Config α} {scene : Scene α} {trace : Trace α}
  {sourceOfSeed : Nat → γ} {endUs : Nat} {w₀ w w' : World α γ}

omit [Scalar.LawfulSlots α] in
theorem budget_of_start (hstart : start config scene trace sourceOfSeed = .ok w₀) : w₀.setup.Budgeted := by
  obtain ⟨hvalidate, hconfig, -⟩ := of_start hstart
  obtain ⟨hpos, hlimit, -⟩ := (Config.accepted_of_validate hvalidate).budget
  rw [Setup.Budgeted, hconfig]
  exact ⟨hpos, hlimit.le.trans (by decide)⟩

theorem punctual_of_reached (hscene : scene.validate = .ok ())
    (hstart : start config scene trace sourceOfSeed = .ok w₀) (hreached : Reached endUs w₀ w) :
    ∃ nextUs, w.Punctual w₀.setup nextUs := by
  have hbudget := budget_of_start hstart
  induction hreached with
  | start => exact ⟨0, start_punctual hstart⟩
  | event hbefore hpop _ hhandle ih =>
    obtain ⟨nextUs, hpunctual⟩ := ih
    exact hpunctual.handle (accounted_of_reached hscene hstart hbefore).distinct hbudget hpop hhandle

/-- In no slot of a run does a packet expire before it reaches its flow, and every first transmission is sent inside
the delay budget of its packet. -/
theorem first_sent_in_budget {m : Moment} {agenda : Agenda Event} (hscene : scene.validate = .ok ())
    (hstart : start config scene trace sourceOfSeed = .ok w₀) (hreached : Reached endUs w₀ w)
    (hpop : w.agenda.pop = some ((m, .mac), agenda)) (hhandle : handle .mac { w with agenda } = (.ok (), w')) :
    (∃ sent, w'.onAir = w.onAir ++ sent ∧ ∀ o ∈ sent, o.tx.isRetransmission = false →
      o.tx.generatedUs ≤ m.time ∧ m.time - o.tx.generatedUs < config.traffic.pdbMs * 1000) ∧
      (∀ n ∈ w.nodes, ∀ p ∈ n.arrivals, ¬p.generatedUs + p.pdbMs * 1000 < m.time) ∧
      w'.shared.stats.expired = w.shared.stats.expired := by
  have hbudget := budget_of_start hstart
  obtain ⟨nextUs, hpunctual⟩ := punctual_of_reached hscene hstart hreached
  have hdistinct := (accounted_of_reached hscene hstart hreached).distinct
  obtain ⟨rfl, -, hexpired, hsent⟩ := hpunctual.serveAll hdistinct hbudget hpop hhandle
  rw [(of_start hstart).2.1] at hsent
  exact ⟨hsent, fun n hn p hp => ((hpunctual.nodes n hn).arrivals p hp).not_expired hbudget.1, hexpired⟩

end

/-- The seventh event of the lone node's run is the slot in which it sends its first packet. -/
theorem first_sent_in_budget_lone : ∃ w₀ w w' : World ℚ Zeros, ∃ m agenda,
    loneScene.validate = .ok () ∧ start .standard loneScene .disabled (fun _ => .zeros) = .ok w₀ ∧
      Reached 10000000 w₀ w ∧ w.agenda.pop = some ((m, .mac), agenda) ∧
      handle .mac { w with agenda } = (.ok (), w') ∧ w'.onAir.map (·.tx.isRetransmission) = [false] ∧
      ∃ sent, w'.onAir = w.onAir ++ sent ∧ ∀ o ∈ sent, o.tx.isRetransmission = false →
        o.tx.generatedUs ≤ m.time ∧
          m.time - o.tx.generatedUs < (Config.standard : Config ℚ).traffic.pdbMs * 1000 := by
  have hsent : ((start .standard loneScene .disabled fun _ => Zeros.zeros).toOption.bind fun w₀ =>
      (handleUntil 10000000 6 w₀).ok?.bind fun w => w.agenda.pop.bind fun next =>
        (handle next.1.2 { w with agenda := next.2 }).ok?.map fun w' =>
          (next.1.2, w'.onAir.map (·.tx.isRetransmission))) = some (.mac, [false]) := by decide +kernel
  simp only [Option.bind_eq_some_iff, Option.map_eq_some_iff] at hsent
  obtain ⟨w₀, hstart, w, hend, ⟨⟨m, e⟩, agenda⟩, hpop, w', hhandle, hfirst⟩ := hsent
  obtain ⟨rfl, honAir⟩ := Prod.mk.inj hfirst
  replace hstart := ok_of_toOption hstart
  replace hhandle := Stepped.of_ok? hhandle
  have hreached : Reached 10000000 w₀ w := reached_of_handleUntil .start (Stepped.of_ok? hend)
  exact ⟨w₀, w, w', m, agenda, loneScene_valid, hstart, hreached, hpop, hhandle, honAir,
    (first_sent_in_budget loneScene_valid hstart hreached hpop hhandle).1⟩

end World

end Sidelink
