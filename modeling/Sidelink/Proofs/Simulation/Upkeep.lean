import Sidelink.Proofs.Propagation.Link
import Sidelink.Proofs.Simulation.Outcomes
import Sidelink.Proofs.Simulation.Timers

/-!
# Nothing is left of a node that departed

Whatever a node has outside itself goes with it: its timer, its links and what it put on the air. So between two events
all of them belong to nodes that are there.
-/

namespace Sidelink.World

variable {α γ : Type} {w w' : World α γ}

/-! ## Links -/

/-- The links are between nodes of the world. -/
def Linked (w : World α γ) : Prop := w.shared.links.Joins (w.nodes.map (·.id))

theorem Linked.congr (h : w.Linked) (hids : w'.nodes.map (·.id) = w.nodes.map (·.id))
    (hlinks : w'.shared.links = w.shared.links) : w'.Linked := by
  rw [Linked, hids, hlinks]
  exact h

theorem removeNode_linked (id : Nat) (h : w.Linked) : (w.removeNode id).2.Linked := by
  unfold removeNode
  split
  · exact h
  · have hkept : (w.nodes.filter fun n => n.id ≠ id).map (·.id) = (w.nodes.map (·.id)).filter (· ≠ id) := by
      rw [List.filter_map]
      rfl
    rw [Linked]
    dsimp only
    rw [hkept]
    exact h.forget id

section

variable [Analysis α] [RandomSource γ]

theorem moveAll_linked (h : w.Linked) : w.moveAll.Linked := by
  obtain ⟨w', position?, g, hw', hmoved⟩ := of_moveAll (P := Linked) h
    (fun w place h => h.congr (by simp) rfl) (fun w id h => removeNode_linked id h)
  rw [hmoved]
  exact hw'.refresh position? w'.shared.source

theorem fireTimer_links {id : Nat} (hok : w.fireTimer id = (.ok (), w')) : w'.shared.links = w.shared.links := by
  obtain ⟨-, rfl⟩ | ⟨n, n', hn, -, hrearm⟩ := of_fireTimer hok
  · rfl
  · obtain ⟨delay, g, -, rfl⟩ := of_rearm hrearm
    exact (generate_generated (mem_of_node? hn).1).links

theorem heardAt_joins {ids : List Nat} {n : Node α} {onAir : List (OnAir α)} {s : Shared α γ}
    (h : s.links.Joins ids) (hn : n.id ∈ ids) (honAir : ∀ a ∈ onAir, a.node ∈ ids) :
    (heardAt n onAir s).2.links.Joins ids := by
  induction onAir generalizing s with
  | nil => exact h
  | cons a rest ih =>
    obtain ⟨ha, hrest⟩ := List.forall_mem_cons.1 honAir
    unfold heardAt
    split
    · exact ih h hrest
    · exact ih (h.loss ha hn a.position n.position s.source) hrest

theorem receiveAll_linked (h : w.Linked) (honAir : w.present w.onAir = w.onAir) : w.receiveAll.2.Linked := by
  unfold receiveAll
  split
  · exact h
  · have hstep (id : Nat) (w' : World α γ) (hw' : w'.Linked ∧ w'.nodes.map (·.id) = w.nodes.map (·.id)) :
        (receiveAt w.onAir id w').2.Linked ∧
          (receiveAt w.onAir id w').2.nodes.map (·.id) = w.nodes.map (·.id) := by
      obtain ⟨hlinked, hids⟩ := hw'
      rcases receiveAt_received w.onAir id w' with hsame | ⟨n, r, hn, hr, hset⟩
      · rw [hsame]
        exact ⟨hlinked, hids⟩
      · rw [hset]
        refine ⟨?_, (setNode_ids ..).trans hids⟩
        rw [Linked]
        dsimp only
        rw [setNode_ids, hr.links]
        exact heardAt_joins hlinked (List.mem_map_of_mem (mem_of_node? hn).1) fun a ha =>
          hids ▸ of_present_eq honAir ha
    exact (stepEach_keeps hstep (w.nodes.map (·.id)) { w with onAir := [] } ⟨h, rfl⟩).1

theorem serveAll_links (hok : w.serveAll = (.ok (), w')) : w'.shared.links = w.shared.links := by
  obtain ⟨now, w₁, -, hserved, rfl⟩ := of_serveAll hok
  refine stepEach_ok (P := fun _ w₁ => w₁.shared.links = w.shared.links) (fun id _ w₁ w₂ hw₁ hstep => ?_) rfl hserved
  rcases of_serveAt hstep with ⟨-, rfl⟩ | ⟨n, r, r', sent, hn, hdelivered, hsend, rfl⟩
  · exact hw₁
  · exact (AtNode.of_serve hdelivered hsend).2.trans hw₁

/-! ## Events -/

theorem handle_present {e : Event} (h : w.present w.onAir = w.onAir) (hok : handle e w = (.ok (), w')) :
    w'.present w'.onAir = w'.onAir := by
  by_cases hmac : e = .mac
  · subst hmac
    exact serveAll_onAir h hok
  · by_cases hreception : e = .reception
    · subst hreception
      have hnone := receiveAll_onAir w
      rw [show w.receiveAll = _ from hok] at hnone
      rw [hnone]
      rfl
    · rw [handle_onAir hmac hreception h.symm hok]
      simp [present]

theorem handle_linked {e : Event} (h : w.Linked) (honAir : w.present w.onAir = w.onAir)
    (hok : handle e w = (.ok (), w')) : w'.Linked := by
  cases e with
  | reception =>
    have hlinked := receiveAll_linked h honAir
    rwa [show w.receiveAll = _ from hok] at hlinked
  | mobility =>
    cases hok
    exact moveAll_linked h
  | traffic id => exact h.congr (fireTimer_onAir hok).2 (fireTimer_links hok)
  | mac => exact h.congr (serveAll_sameTimers hok).ids (serveAll_links hok)
  | report =>
    cases hok
    exact h

/-! ## Runs -/

variable {config : Config α} {scene : Scene α} {trace : Trace α} {sourceOfSeed : Nat → γ} {endUs : Nat}
  {w₀ : World α γ}

theorem start_linked (hstart : start config scene trace sourceOfSeed = .ok w₀) :
    w₀.present w₀.onAir = w₀.onAir ∧ w₀.Linked := by
  obtain ⟨honAir, hlinks⟩ : w₀.onAir = [] ∧ w₀.shared.links = .ofParams scene.propagation := by
    unfold start at hstart
    iterate 9 obtain ⟨_, -, hstart⟩ := ok_of_bind hstart
    cases hstart
    exact ⟨rfl, rfl⟩
  rw [Linked, honAir, hlinks]
  exact ⟨rfl, LinkTable.joins_ofParams _ _⟩

theorem linked_of_reached (hstart : start config scene trace sourceOfSeed = .ok w₀) (hreached : Reached endUs w₀ w) :
    w.present w.onAir = w.onAir ∧ w.Linked :=
  hreached.keeps (P := fun w => w.present w.onAir = w.onAir ∧ w.Linked)
    (fun w _ agenda _ hw hok =>
      ⟨handle_present (w := { w with agenda }) hw.1 hok, handle_linked (w := { w with agenda }) hw.2 hw.1 hok⟩)
    (start_linked hstart)

/-- In every state of a run each node has one timer to come, the one that its ticket takes off, and no one else has
any. One slot, one move and one report are to come, and at most one reception. What is on the air and all links are of
nodes that are there. -/
theorem nothing_dangling (hscene : scene.validate = .ok ())
    (hstart : start config scene trace sourceOfSeed = .ok w₀) (hreached : Reached endUs w₀ w) :
    (∀ n ∈ w.nodes, ∃ m, w.agenda.momentsOf (.traffic n.id) = [m] ∧ m.ticket = n.timer) ∧
      (∀ id ∉ w.nodes.map (·.id), w.agenda.momentsOf (.traffic id) = []) ∧
      (w.agenda.momentsOf .mac).length = 1 ∧ (w.agenda.momentsOf .mobility).length = 1 ∧
      (w.agenda.momentsOf .report).length = 1 ∧ (w.agenda.momentsOf .reception).length ≤ 1 ∧
      (∀ a ∈ w.onAir, a.node ∈ w.nodes.map (·.id)) ∧
      ∀ pair ∈ w.shared.links.links, ∀ id, pair.mentions id = true → id ∈ w.nodes.map (·.id) := by
  obtain ⟨htended, hstanding⟩ := tended_of_reached hscene hstart hreached
  obtain ⟨honAir, hlinked⟩ := linked_of_reached hstart hreached
  exact ⟨htended.timer, htended.absent, hstanding.slot, hstanding.mobility, hstanding.report, hstanding.reception,
    fun _ ha => of_present_eq honAir ha, hlinked⟩

end

/-- A run of two nodes in which one that leaves the world does not come back. -/
def departing : Config ℚ := { repeating with simulation := { repeating.simulation with wrap := false } }

/-- After eleven events there is a link between the nodes. The twelfth takes the second one out, and after the next slot
only the first one is on the air. -/
theorem nothing_dangling_departed : ∃ w₀ w w' : World ℚ Script,
    (pairScene (1 / 10)).validate = .ok () ∧
      start departing (pairScene (1 / 10)) .disabled (fun _ => firstTogether) = .ok w₀ ∧
      Reached 10000000 w₀ w ∧ w.nodes.map (·.id) = [1, 2] ∧ w.shared.links.count = 1 ∧
      Reached 10000000 w₀ w' ∧ w'.nodes.map (·.id) = [1] ∧ w'.onAir.map (·.node) = [1] ∧
      w'.agenda.momentsOf (.traffic 2) = [] ∧
      (∀ n ∈ w'.nodes, ∃ m, w'.agenda.momentsOf (.traffic n.id) = [m] ∧ m.ticket = n.timer) ∧
      ∀ pair ∈ w'.shared.links.links, ∀ id, pair.mentions id = true → id ∈ w'.nodes.map (·.id) := by
  have hrun : ((start departing (pairScene (1 / 10)) .disabled fun _ => firstTogether).toOption.bind fun w₀ =>
      (handleUntil 10000000 11 w₀).ok?.bind fun w => (handleUntil 10000000 2 w).ok?.map fun w' =>
        (w.nodes.map (·.id), w.shared.links.count, w'.nodes.map (·.id), w'.onAir.map (·.node))) =
      some ([1, 2], 1, [1], [1]) := by
    rw [start_periodic departing _ _ (by decide +kernel) rfl]
    decide +kernel
  simp only [Option.bind_eq_some_iff, Option.map_eq_some_iff, Prod.mk.injEq] at hrun
  obtain ⟨w₀, hstart, w, hend, w', hend', hids, hcount, hids', honAir⟩ := hrun
  replace hstart := ok_of_toOption hstart
  have hreached : Reached 10000000 w₀ w := reached_of_handleUntil .start (Stepped.of_ok? hend)
  have hreached' : Reached 10000000 w₀ w' := reached_of_handleUntil hreached (Stepped.of_ok? hend')
  have hvalid : (pairScene (1 / 10)).validate = .ok () := ok_of_toOption (by decide +kernel)
  obtain ⟨htimers, habsent, -, -, -, -, -, hlinks⟩ := nothing_dangling hvalid hstart hreached'
  exact ⟨w₀, w, w', hvalid, hstart, hreached, hids, hcount, hreached', hids', honAir,
    habsent 2 (by rw [hids']; decide), htimers, hlinks⟩

end Sidelink.World
