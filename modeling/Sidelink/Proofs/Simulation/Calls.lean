import Sidelink.Proofs.Simulation.Ages
import Sidelink.Proofs.Simulation.Evaluation

/-!
# The calls of a run

The flows of a run are called by its clock. A slot hands over packets and asks what is sent, and the reception after it
tells of what the other nodes sent in it, with the time of its own.
-/

namespace Sidelink

variable {α γ : Type}

/-! ## The clock of a run -/

def Setup.clock (s : Setup α) : Clock := ⟨s.numerology, s.numerology.slotAt 0, 0⟩

theorem Setup.clock_shows (s : Setup α) (n : Nat) : s.clock.Shows n (n * s.numerology.slotUs) := by
  have := s.numerology.slotUs_pos
  simp only [Clock.Shows, clock, Nat.succ_mul]
  omega

theorem Setup.clock_slot (s : Setup α) (n : Nat) : s.clock.slot n = s.numerology.slotAt (n * s.numerology.slotUs) := by
  ext
  simp only [Clock.slot, clock, Numerology.slotAt, Slot.index_later, Slot.index_ofIndex, decisionDelaySlots,
    Nat.mul_div_cancel n s.numerology.slotUs_pos, Nat.zero_div]
  omega

variable [Analysis α] [RandomSource γ] {clock : Clock} {k n nowUs : Nat}

/-! ## A flow -/

namespace Flow

variable {f f' : Flow α} {c : Call α}

variable (γ) in
/-- The flow comes from calls by the clock, none of which is after slot `n`. -/
def Clocked (clock : Clock) (n : Nat) (f : Flow α) : Prop :=
  ∃ params log, Run γ { params } (log.map Prod.snd) f ∧ Timed clock n log

theorem clocked_new (params : FlowParams α) : Clocked γ clock n { params } :=
  ⟨params, [], .none, by simp [Timed]⟩

theorem Clocked.step (h : f.Clocked γ clock n) (hstep : Step γ f c f') (hat : c.At clock n) : f'.Clocked γ clock n := by
  obtain ⟨params, log, hrun, htimed⟩ := h
  refine ⟨params, log ++ [(n, c)], ?_, fun m c' hmem => ?_⟩
  · rw [List.map_append]
    exact hrun.snoc hstep
  · rcases List.mem_append.1 hmem with hmem | hmem
    · exact htimed m c' hmem
    · cases List.mem_singleton.1 hmem
      exact ⟨Nat.le_refl n, hat⟩

theorem Clocked.later (h : f.Clocked γ clock k) (hle : k ≤ n) : f.Clocked γ clock n := by
  obtain ⟨params, log, hrun, htimed⟩ := h
  refine ⟨params, log, hrun, fun m c hmem => ?_⟩
  obtain ⟨hm, hat⟩ := htimed m c hmem
  exact ⟨hm.trans hle, hat⟩

end Flow

/-! ## A slot -/

section

variable {s : Setup α} {r r' : AtNode α γ} {m m' : Node α} {sent : Option (OnAir α)}

theorem AtNode.deliver_clocked {p : Packet} (h : r.node.flow.Clocked γ clock n) (hnow : clock.Shows n nowUs)
    (hok : r.deliver s (clock.slot n) nowUs p = (.ok (), r')) : r'.node.flow.Clocked γ clock n := by
  unfold deliver at hok
  dsimp only at hok
  split at hok
  · cases hok
    exact h
  · obtain ⟨decision, flow, g, henqueue, hnode, -⟩ := of_handOver hok
    have hstep : Flow.Step γ r.node.flow (.enqueue (clock.slot n) nowUs p s.pool) _ := .enqueue r.shared.source
    rw [henqueue] at hstep
    rw [hnode]
    exact h.step hstep ⟨hnow, rfl⟩

theorem Node.Served.clocked (h : m.flow.Clocked γ clock n) (hnow : clock.Shows n nowUs)
    (hserved : m.Served γ s (clock.slot n) nowUs sent m') :
    m'.flow.Clocked γ clock n ∧ ∀ a ∈ sent, a.tx.slot = clock.slot n := by
  obtain ⟨shared, r, r', hdelivered, hsend, rfl⟩ := hserved
  have hr := stepEach_ok (P := fun _ (r : AtNode α γ) => r.node.flow.Clocked γ clock n)
    (fun _ _ _ _ hr hstep => AtNode.deliver_clocked hr hnow hstep) h hdelivered
  obtain ⟨tx, flow, g, honSlot, hnode, rfl, -⟩ := AtNode.of_send hsend
  have hstep : Flow.Step γ r.node.flow (.onSlot (clock.slot n) nowUs) _ := .onSlot r.shared.source
  rw [honSlot] at hstep
  rw [hnode]
  refine ⟨hr.step hstep ⟨hnow, rfl⟩, fun a ha => ?_⟩
  obtain ⟨t, rfl, rfl⟩ := Option.map_eq_some_iff.1 ha
  exact (Flow.due_sent (Flow.onSlot_passed honSlot).1.symm).slot

end

/-! ## A reception -/

namespace Hearing

theorem flow_of_result {h : Hearing α γ} {r' : AtNode α γ} (hok : h.result = (.ok (), r')) :
    r'.node.flow = h.before.node.flow ∨
      ∃ signalMw report, AtNode.reportOf h.onAir h.nowUs (max h.onAir.tx.rbCount 1) signalMw = .ok report ∧
        h.before.node.flow.sense report = .ok r'.node.flow := by
  rw [result_eq] at hok
  cases hattempt : h.attempt? with
  | none =>
    rw [hattempt] at hok
    cases hok
    exact .inl rfl
  | some attempted =>
    rw [hattempt] at hok
    obtain ⟨attempt, r₁, r₂, rfl, hsettle, hnode, -⟩ := of_finish hok
    have hflow : r'.node.flow = r₁.node.flow := by
      obtain ⟨stats, rfl⟩ := AtNode.of_settle hsettle
      rw [hnode, AtNode.withStats, AtNode.settled]
      split <;> rfl
    rw [hflow]
    rcases of_attempt hattempt with ⟨-, hsends⟩ | ⟨-, los, signalMw, hlisten⟩
    · cases hsends
      exact .inl rfl
    · rcases AtNode.flow_listen hlisten with hsame | ⟨report, hheard⟩
      · exact .inl hsame
      · exact .inr ⟨signalMw, report, hheard⟩

theorem Chain.clocked {r r' : AtNode α γ} {hs : List (Hearing α γ)} (hchain : Chain r hs r')
    (hr : r.node.flow.Clocked γ clock (k + 1))
    (hheard : ∀ h ∈ hs, h.onAir.tx.slot = clock.slot k ∧ clock.Shows (k + 1) h.nowUs) :
    r'.node.flow.Clocked γ clock (k + 1) := by
  induction hchain with
  | nil => exact hr
  | @snoc r' hs h _ hresult ih =>
    obtain ⟨hearlier, hlast⟩ := List.forall_mem_append.1 hheard
    obtain ⟨hslot, hnow⟩ := hlast h (List.mem_singleton_self h)
    rcases flow_of_result hresult with hsame | ⟨signalMw, report, hreport, hsense⟩
    · rw [hsame]
      exact ih hearlier
    · exact (ih hearlier).step (.sense hsense) (Flow.at_of_reportOf hreport hslot hnow)

end Hearing

/-! ## Events -/

namespace World

variable {w w' : World α γ}

/-- After `n` slots the flows come from calls by the clock, and what is on the air was sent in the last of them. -/
structure Clocked (clock : Clock) (n : Nat) (w : World α γ) : Prop where
  flows : ∀ m ∈ w.nodes, m.flow.Clocked γ clock n
  onAir : ∀ a ∈ w.onAir, ∃ k, n = k + 1 ∧ a.tx.slot = clock.slot k

theorem Clocked.congr (h : w.Clocked clock n) (hnodes : ∀ m' ∈ w'.nodes, ∃ m ∈ w.nodes, m'.flow = m.flow)
    (honAir : ∀ a ∈ w'.onAir, a ∈ w.onAir) : w'.Clocked clock n := by
  refine ⟨fun m' hm' => ?_, fun a ha => h.onAir a (honAir a ha)⟩
  obtain ⟨m, hm, hflow⟩ := hnodes m' hm'
  rw [hflow]
  exact h.flows m hm

theorem removeNode_clocked (id : Nat) (h : w.Clocked clock n) : (w.removeNode id).2.Clocked clock n := by
  unfold removeNode
  split
  · exact h
  · exact h.congr (fun m hm => ⟨m, (List.mem_filter.1 hm).1, rfl⟩) fun a ha => (List.mem_filter.1 ha).1

theorem moveAll_clocked (h : w.Clocked clock n) : w.moveAll.Clocked clock n := by
  refine moveAll_keeps h (fun w place h => h.congr (fun m hm => ?_) fun _ ha => ha)
    (fun _ id h => removeNode_clocked id h) fun w _ _ h => h.congr (fun m hm => ⟨m, hm, rfl⟩) fun _ ha => ha
  obtain ⟨m₀, hm₀, rfl⟩ := List.mem_map.1 hm
  exact ⟨m₀, hm₀, rfl⟩

theorem fireTimer_clocked {id : Nat} (h : w.Clocked clock n) (hok : w.fireTimer id = (.ok (), w')) :
    w'.Clocked clock n := by
  obtain ⟨-, rfl⟩ | ⟨m, m', hm, hm', hrearm⟩ := of_fireTimer hok
  · exact h
  · have hgenerated := generate_generated (mem_of_node? hm).1
    have hgiven : (w.generate m).Clocked clock n := by
      refine h.congr (fun x hx => ?_) fun a ha => hgenerated.onAir ▸ ha
      obtain ⟨x₀, hx₀, _, _, rfl⟩ := hgenerated.nodes x hx
      exact ⟨x₀, hx₀, rfl⟩
    obtain ⟨delay, g, -, rfl⟩ := of_rearm hrearm
    refine hgiven.congr (fun x hx => ?_) fun _ ha => ha
    rcases of_mem_setNode hx with rfl | ⟨hx, -⟩
    · exact ⟨m', (mem_of_node? hm').1, rfl⟩
    · exact ⟨x, hx, rfl⟩

theorem serveAll_clocked {now : Slot} (h : w.Clocked clock n) (hdistinct : (w.nodes.map (·.id)).Nodup)
    (honAir : w.onAir = []) (hnow : clock.Shows n w.nowUs)
    (hslot : Slot.ofTime (α := α) w.nowUs w.setup.numerology.slotMs = .ok now) (hclock : now = clock.slot n)
    (hok : w.serveAll = (.ok (), w')) : w'.Clocked clock (n + 1) := by
  obtain ⟨now', hslot', -, -, hserved⟩ := served_of_serveAll hdistinct honAir hok
  obtain rfl : now' = clock.slot n := (Except.ok.inj (hslot'.symm.trans hslot)).trans hclock
  have hpresent := serveAll_onAir (by rw [honAir]; rfl) hok
  constructor
  case flows =>
    intro m' hm'
    obtain ⟨m, hm, sent, hms, -⟩ := hserved m' hm'
    exact (hms.clocked (h.flows m hm) hnow).1.later (Nat.le_succ n)
  case onAir =>
    intro a ha
    obtain ⟨m', hm', hid⟩ := List.mem_map.1 (of_present_eq hpresent ha)
    obtain ⟨m, hm, sent, hms, hsent⟩ := hserved m' hm'
    exact ⟨n, rfl, (hms.clocked (h.flows m hm) hnow).2 a (hsent a ha (hid.symm.trans hms.id.1))⟩

theorem receiveAll_clocked (h : w.Clocked clock n) (hdistinct : (w.nodes.map (·.id)).Nodup)
    (hnow : clock.Shows n w.nowUs) (hok : w.receiveAll = (.ok (), w')) : w'.Clocked clock n := by
  obtain ⟨-, hamong, -, hkept, hids, -, hemptied⟩ := receiveAll_evaluated hdistinct hok
  refine ⟨fun m' hm' => ?_, by simp [hemptied]⟩
  rcases of_receiveAll hok with ⟨-, rfl, -⟩ | ⟨hsent, -⟩
  · exact h.flows m' hm'
  · obtain ⟨a, ha⟩ := List.exists_mem_of_ne_nil _ hsent
    obtain ⟨k, rfl, -⟩ := h.onAir a ha
    -- The node that is there after the reception is what the hearings left of the one before it.
    obtain ⟨m, hm, hid⟩ := List.mem_map.1 (hids ▸ List.mem_map_of_mem hm')
    obtain ⟨shared, r, hchain, hr⟩ := hkept hsent m hm
    have hrid : r.node.id = m.id := hchain.id
    obtain rfl : (r.forgetBlocks w.nowUs).node = m' :=
      List.inj_on_of_nodup_map (hids ▸ hdistinct) hr hm' (hrid.trans hid)
    refine hchain.clocked (h.flows m hm) fun x hx => ?_
    have hx := (List.mem_filter.1 hx).1
    obtain ⟨k', hk', hslot⟩ := h.onAir x.onAir (of_mem_hearings hx).mem
    cases hk'
    exact ⟨hslot, (hamong x hx).2 ▸ hnow⟩

theorem handle_clocked {e : Event} (hmac : e ≠ .mac) (hreception : e ≠ .reception) (h : w.Clocked clock n)
    (hok : handle e w = (.ok (), w')) : w'.Clocked clock n := by
  cases e with
  | mac => exact absurd rfl hmac
  | reception => exact absurd rfl hreception
  | mobility =>
    cases hok
    exact moveAll_clocked h
  | traffic id => exact fireTimer_clocked h hok
  | report =>
    cases hok
    exact h.congr (fun m hm => ⟨m, hm, rfl⟩) fun _ ha => ha

end World

/-! ## Runs -/

namespace World

variable [Scalar.LawfulSlots α] [Scalar.PositiveSlots α] {config : Config α} {scene : Scene α} {trace : Trace α}
  {sourceOfSeed : Nat → γ} {endUs : Nat} {w₀ w : World α γ} {turns : List (Turn α γ)}
  {r : Stepped (SimulationError α) (World α γ)}

omit [Scalar.LawfulSlots α] [Scalar.PositiveSlots α] in
theorem start_clocked (hstart : start config scene trace sourceOfSeed = .ok w₀) (clock : Clock) :
    w₀.Clocked clock 0 := by
  obtain ⟨-, -, -, -, params, generators, nodes, agenda, g, g', -, hplaced, hnodes, -⟩ := of_start hstart
  obtain ⟨-, hfresh⟩ := placeNodes_fresh params generators scene.nodes {} g
  rw [hplaced] at hfresh
  have honAir := ((start_awaits hstart).reception rfl).2
  refine ⟨fun m hm => ?_, by simp [honAir, present, collected]⟩
  rw [hnodes, List.mem_mergeSort] at hm
  rw [(hfresh m hm).1]
  exact Flow.clocked_new params

/-- In every run the flow of each node comes from calls by the clock of the run, as far as its slots have come. -/
theorem clocked_of_course (hscene : scene.validate = .ok ())
    (hstart : start config scene trace sourceOfSeed = .ok w₀) (hend : endUs < limit64)
    (hcourse : Course endUs w₀ turns r) :
    ∀ w, r = (.ok (), w) → w.Clocked w₀.setup.clock (turnsOf .mac turns).length := by
  induction hcourse with
  | start =>
    rintro w ⟨⟩
    exact start_clocked hstart _
  | @turn turns w m e agenda hcourse hpop hbefore ih =>
    intro w' hok
    have hw : Clocked w₀.setup.clock (turnsOf .mac turns).length { w with agenda } :=
      (ih w rfl).congr (fun m hm => ⟨m, hm, rfl⟩) fun _ ha => ha
    have hreached := hcourse.reached rfl
    have hawaits := (awaits_of_course hscene hstart hend hcourse).2 w rfl
    have hdistinct := (accounted_of_reached hscene hstart hreached).distinct
    have hpunctual := punctual_of_course hscene hstart hend hcourse
    have hnow : agenda.now = m.time := (Agenda.of_pop hpop).2.1
    have hshows := w₀.setup.clock_shows (turnsOf .mac turns).length
    rw [turnsOf_snoc]
    by_cases hmac : e = .mac
    · subst hmac
      obtain ⟨htime, -, -, honAir, -⟩ := hawaits.pop_slot hpunctual.agenda.ordered hpunctual.agenda.phases hpop
      rw [if_pos rfl, List.length_append]
      rw [← htime, ← hnow] at hshows
      obtain ⟨now, _, hslot, -, -⟩ := of_serveAll hok
      refine serveAll_clocked hw hdistinct honAir hshows hslot ?_ hok
      rw [hpunctual.setup] at hslot
      rw [(Slot.of_ofTime hslot).1, Setup.clock_slot, ← htime, ← hnow]
      rfl
    · rw [if_neg hmac]
      by_cases hreception : e = .reception
      · subst hreception
        obtain ⟨-, htime, -⟩ := hawaits.pop_reception hpop
        rw [← htime, ← hnow] at hshows
        exact receiveAll_clocked hw hdistinct hshows hok
      · exact handle_clocked hmac hreception hw hok

end World

end Sidelink
