import Sidelink.Proofs.Simulation.Outcomes

/-!
# The evaluation of what was sent

A reception takes every transmission that it finds on the air to every node, one after the other. What a slot puts on
the air is found by the reception that follows it and by no other.
-/

namespace Sidelink

variable {α γ : Type} [Analysis α] [RandomSource γ]

theorem Hearing.attempt_eq_none (h : Hearing α γ) :
    h.attempt? = none ↔ h.entry.1.powerMw = none ∨ h.earlier = some .success := by
  unfold attempt?
  cases h.entry.1.powerMw with
  | none => simp
  | some signalMw => by_cases hsuccess : h.earlier = some .success <;> simp [hsuccess]

theorem Hearing.Chain.id {r r' : AtNode α γ} {hs : List (Hearing α γ)} (hchain : Chain r hs r') :
    r'.node.id = r.node.id := by
  induction hchain with
  | nil => rfl
  | @snoc r' hs h _ hresult ih =>
    have hid := h.id_of_result
    rw [hresult] at hid
    exact hid.trans ih

namespace World

variable {w w' : World α γ} {onAir : List (OnAir α)} {id : Nat} {ids : List Nat} {n : Node α}

/-! ## Nodes during a reception -/

omit [Analysis α] [RandomSource γ] in
theorem exists_node? (hid : id ∈ w.nodes.map (·.id)) : ∃ n, w.node? id = some n := by
  obtain ⟨n, hn, rfl⟩ := List.mem_map.1 hid
  cases hfind : w.node? n.id with
  | none => exact absurd (decide_eq_true rfl) (List.find?_eq_none.1 hfind n hn)
  | some m => exact ⟨m, rfl⟩

omit [Analysis α] [RandomSource γ] in
theorem node?_of_mem (hdistinct : (w.nodes.map (·.id)).Nodup) (hn : n ∈ w.nodes) : w.node? n.id = some n := by
  obtain ⟨m, hfind⟩ := exists_node? (List.mem_map_of_mem hn)
  obtain ⟨hm, hid⟩ := mem_of_node? hfind
  rw [hfind, List.inj_on_of_nodup_map hdistinct hm hn hid]

theorem receiveAt_other (hn : n ∈ w.nodes) (hid : id ≠ n.id) : n ∈ (receiveAt onAir id w).2.nodes := by
  rcases receiveAt_received onAir id w with hsame | ⟨m, r, hm, hr, hset⟩
  · rwa [hsame]
  · obtain ⟨history, phase, blocks, hnode⟩ := hr.node
    have hrid : r.node.id = id := by
      rw [hnode]
      exact (mem_of_node? hm).2
    rw [hset]
    exact List.mem_map.2 ⟨n, hn, if_neg fun hsame => hid (hsame.trans hrid).symm⟩

theorem mem_of_receiveEach (hn : n ∈ w.nodes) (hids : n.id ∉ ids)
    (hok : stepEach (receiveAt onAir) ids w = (.ok (), w')) : n ∈ w'.nodes := by
  refine (stepEach_ok (P := fun rest (w : World α γ) => n.id ∉ rest ∧ n ∈ w.nodes) ?_ ⟨hids, hn⟩ hok).2
  rintro id rest w₁ w₂ ⟨hids, hn⟩ hstep
  rw [List.mem_cons, not_or] at hids
  have hmem : n ∈ (receiveAt onAir id w₁).2.nodes := receiveAt_other hn (Ne.symm hids.1)
  rw [hstep] at hmem
  exact ⟨hids.2, hmem⟩

theorem receiveAt_ids (onAir : List (OnAir α)) (id : Nat) (w : World α γ) :
    (receiveAt onAir id w).2.nodes.map (·.id) = w.nodes.map (·.id) := by
  rcases receiveAt_received onAir id w with hsame | ⟨n, r, -, -, hset⟩
  · rw [hsame]
  · rw [hset]
    exact setNode_ids w r.node

theorem receiveEach_same (hok : stepEach (receiveAt onAir) ids w = (.ok (), w')) :
    w'.nodes.map (·.id) = w.nodes.map (·.id) ∧ w'.nowUs = w.nowUs := by
  refine stepEach_ok (P := fun _ (w₁ : World α γ) => w₁.nodes.map (·.id) = w.nodes.map (·.id) ∧ w₁.nowUs = w.nowUs)
    ?_ ⟨rfl, rfl⟩ hok
  rintro id rest w₁ w₂ ⟨hids, hnow⟩ hstep
  have hids₁ := receiveAt_ids onAir id w₁
  have hnow₁ := receiveAt_nowUs onAir id w₁
  rw [hstep] at hids₁ hnow₁
  exact ⟨hids₁.trans hids, hnow₁.trans hnow⟩

/-! ## The hearings of a reception -/

theorem filter_hearings (hid : id ∉ ids) :
    (logEach (receiveAt onAir) (hearingsAt onAir) ids w).filter (fun h => h.before.node.id = id) = [] := by
  refine List.filter_eq_nil_iff.2 fun h hh hsame => hid ?_
  obtain ⟨id', hid', _, -, hh⟩ := mem_of_logEach (P := fun _ => True) (fun _ _ _ _ _ => trivial) trivial hh
  rw [decide_eq_true_eq] at hsame
  rwa [← hsame, (of_mem_hearingsAt hh).receiver]

theorem filter_hearingsAt (id : Nat) (w : World α γ) :
    (hearingsAt onAir id w).filter (fun h => h.before.node.id = id) = hearingsAt onAir id w :=
  List.filter_eq_self.2 fun _ hh => decide_eq_true (of_mem_hearingsAt hh).receiver

theorem chain_of_receiveEach (hdistinct : (w.nodes.map (·.id)).Nodup) (hids : ids.Nodup) (hn : n ∈ w.nodes)
    (hmem : n.id ∈ ids) (hok : stepEach (receiveAt onAir) ids w = (.ok (), w')) : ∃ shared r,
      Hearing.Chain ⟨n, shared⟩
        ((logEach (receiveAt onAir) (hearingsAt onAir) ids w).filter fun h => h.before.node.id = n.id) r ∧
      (r.forgetBlocks w.nowUs).node ∈ w'.nodes := by
  -- A node has its turn between those before it and those after it, which leave it as it is.
  obtain ⟨earlier, later, rfl⟩ := List.append_of_mem hmem
  obtain ⟨-, hlater, hdisjoint⟩ := List.nodup_append.1 hids
  have hearlier : n.id ∉ earlier := fun hin => hdisjoint _ hin _ List.mem_cons_self rfl
  replace hlater := (List.nodup_cons.1 hlater).1
  obtain ⟨w₁, hok₁, hrest⟩ := stepEach_append_ok.1 hok
  obtain ⟨w₂, hstep, hok₂⟩ := stepEach_cons_ok.1 hrest
  obtain ⟨hids₁, hnow₁⟩ := receiveEach_same hok₁
  have hfind : w₁.node? n.id = some n := node?_of_mem (hids₁ ▸ hdistinct) (mem_of_receiveEach hn hearlier hok₁)
  obtain ⟨r, hchain, -, rfl⟩ := of_receiveAt hfind hstep
  have hid : (r.forgetBlocks w₁.nowUs).node.id = n.id := hchain.id
  rw [logEach_append _ hok₁, logEach_cons hstep, List.filter_append, List.filter_append, filter_hearings hearlier,
    filter_hearings hlater, filter_hearingsAt, List.nil_append, List.append_nil, ← hnow₁]
  refine ⟨_, r, hchain, mem_of_receiveEach ?_ (hid.symm ▸ hlater) hok₂⟩
  exact (mem_of_node? (node?_setNode (hid.symm ▸ hfind))).1

theorem map_hearings (hok : stepEach (receiveAt onAir) (w.nodes.map (·.id)) w = (.ok (), w')) :
    ((logEach (receiveAt onAir) (hearingsAt onAir) (w.nodes.map (·.id)) w).map fun h => (h.before.node.id, h.onAir)) =
      w.nodes.flatMap fun n => onAir.map (n.id, ·) := by
  have hall : ((logEach (receiveAt onAir) (hearingsAt onAir) (w.nodes.map (·.id)) w).map
      fun h => (h.before.node.id, h.onAir)) = (w.nodes.map (·.id)).flatMap fun id => onAir.map (id, ·) := by
    refine map_logEach (P := fun w₁ : World α γ => w₁.nodes.map (·.id) = w.nodes.map (·.id))
      (fun id hid w₁ w₂ hw₁ hstep => ?_) rfl hok
    obtain ⟨n, hn⟩ := exists_node? (hw₁.symm ▸ hid)
    have hids := receiveAt_ids onAir id w₁
    rw [hstep] at hids
    refine ⟨hids.trans hw₁, ?_⟩
    calc ((hearingsAt onAir id w₁).map fun h => (h.before.node.id, h.onAir))
        = ((hearingsAt onAir id w₁).map (·.onAir)).map (id, ·) := by
          rw [List.map_map]
          refine List.map_congr_left fun h hh => ?_
          rw [(of_mem_hearingsAt hh).receiver]
          rfl
      _ = onAir.map (id, ·) := by rw [map_onAir_hearingsAt hn hstep]
  rwa [List.flatMap_map] at hall

/-! ## A reception -/

/-- What a reception does with the transmissions that it finds on the air. -/
structure Evaluated (w w' : World α γ) : Prop where
  /-- Every node gets to every transmission once. -/
  once : (w.hearings.map fun h => (h.before.node.id, h.onAir)) = w.nodes.flatMap fun n => w.onAir.map (n.id, ·)
  among : ∀ h ∈ w.hearings, h.heard.map (·.onAir) = w.onAir ∧ h.nowUs = w.nowUs
  /-- It is evaluated there, unless the node sent it itself or has the packet. -/
  attempted : ∀ h ∈ w.hearings, h.attempt? = none ↔ h.onAir.node = h.before.node.id ∨ h.earlier = some .success
  /-- The node goes from one to the next, and the world keeps what the last one left. -/
  kept : w.onAir ≠ [] → ∀ n ∈ w.nodes, ∃ shared r,
    Hearing.Chain ⟨n, shared⟩ (w.hearings.filter fun h => h.before.node.id = n.id) r ∧
      (r.forgetBlocks w.nowUs).node ∈ w'.nodes
  ids : w'.nodes.map (·.id) = w.nodes.map (·.id)
  counted : Counts w.shared.stats (tallies w.hearings) w'.shared.stats
  emptied : w'.onAir = []

theorem receiveAll_evaluated (hdistinct : (w.nodes.map (·.id)).Nodup) (hok : w.receiveAll = (.ok (), w')) :
    w.Evaluated w' := by
  have hamong (h : Hearing α γ) (hh : h ∈ w.hearings) := of_mem_hearings hh
  have hreceived := of_receiveAll hok
  constructor
  case once =>
    rcases hreceived with ⟨hsilent, -, hlog⟩ | ⟨-, hsteps, hlog⟩
    · simp [hsilent, hlog]
    · rw [hlog]
      exact map_hearings (w := { w with onAir := [] }) hsteps
  case among => exact fun h hh => ⟨(hamong h hh).heard, (hamong h hh).nowUs⟩
  case attempted =>
    intro h hh
    rw [h.attempt_eq_none, (hamong h hh).own]
  case kept =>
    intro hsent n hn
    rcases hreceived with ⟨hsilent, -⟩ | ⟨-, hsteps, hlog⟩
    · exact absurd hsilent hsent
    · rw [hlog]
      exact chain_of_receiveEach (w := { w with onAir := [] }) hdistinct hdistinct hn (List.mem_map_of_mem hn) hsteps
  case ids =>
    rcases hreceived with ⟨-, rfl, -⟩ | ⟨-, hsteps, -⟩
    · rfl
    · exact (receiveEach_same hsteps).1
  case counted => exact receiveAll_counts hok
  case emptied =>
    have hemptied := receiveAll_onAir w
    rwa [hok] at hemptied

/-! ## Runs -/

section

variable [Scalar.LawfulSlots α] [Scalar.PositiveSlots α] {config : Config α}
  {scene : Scene α} {trace : Trace α} {sourceOfSeed : Nat → γ} {endUs : Nat} {w₀ : World α γ}
  {turns : List (Turn α γ)} {r : Stepped (SimulationError α) (World α γ)}

/-- In every run slots come one after the other without a gap, each with the reception of what the one before it put
on the air, and events of one time come by phase. A reception evaluates what it finds at every node, or the run ends
with its error. A run that comes to its end leaves out no slot before it. -/
theorem slots_of_course (hscene : scene.validate = .ok ())
    (hstart : start config scene trace sourceOfSeed = .ok w₀) (hend : endUs < limit64)
    (hcourse : Course endUs w₀ turns r) :
    Paced w₀.setup (turnsOf .mac turns) (turnsOf .reception turns) ∧
      (∀ before t after, turns = before ++ t :: after → t.event = .reception →
        (∃ w', handle .reception t.before = (.ok (), w') ∧ t.before.Evaluated w') ∨
          after = [] ∧ ∃ e w', r = (.error e, w')) ∧
      (∀ t ∈ turns, t.before.nowUs = t.moment.time ∧ t.before.setup = w₀.setup) ∧
      (turns.Pairwise fun t u => t.moment.time < u.moment.time ∨
        t.moment.time = u.moment.time ∧ t.event.phase.rank ≤ u.event.phase.rank) ∧
      ∀ w, r = (.ok (), w) → Over endUs w → endUs ≤ (turnsOf .mac turns).length * w₀.setup.numerology.slotUs := by
  have hphase := hcourse.phase hscene hstart
  refine ⟨(awaits_of_course hscene hstart hend hcourse).1, ?_, fun t ht => (hphase t ht).2, ?_, ?_⟩
  · intro before t after hsplit hevent
    obtain ⟨w, agenda, hbefore, hfound, hhandled⟩ := hcourse.split hsplit
    refine hhandled.imp_left ?_
    rintro ⟨w', hok⟩
    have hdistinct := (accounted_of_reached hscene hstart (hbefore.reached rfl)).distinct
    rw [hevent] at hok
    refine ⟨w', hok, receiveAll_evaluated ?_ hok⟩
    rw [hfound]
    exact hdistinct
  · refine (hcourse.ordered hscene hstart hend).1.imp_of_mem fun {t u} ht hu hnot => ?_
    rw [Moment.not_before_iff, (hphase t ht).1, (hphase u hu).1] at hnot
    omega
  · rintro w rfl hover
    exact le_slots_of_over hscene hstart hend hcourse hover

end

/-- In fourteen events of two nodes there are four slots. What both nodes send in the third one is evaluated at each of
them after it, and what only the first one sends in the fourth is received by the second. -/
theorem slots_of_course_pair : ∃ w₀ : World ℚ Script, ∃ turns r,
    (pairScene 60).validate = .ok () ∧ start repeating (pairScene 60) .disabled (fun _ => firstTogether) = .ok w₀ ∧
      Course 10000000 w₀ turns r ∧ (turnsOf .mac turns).map (·.moment.time) = [0, 1000, 2000, 3000] ∧
      (turnsOf .reception turns).map (fun t => t.before.hearings.map (·.outcome?)) =
        [[], [], [], [none, some .halfDuplex, some .halfDuplex, none], [none, some .success]] ∧
      Paced w₀.setup (turnsOf .mac turns) (turnsOf .reception turns) ∧
      ∀ t ∈ turnsOf .reception turns, ∃ w', handle .reception t.before = (.ok (), w') ∧ t.before.Evaluated w' := by
  have hturns : ((start repeating (pairScene 60) .disabled fun _ => firstTogether).toOption.bind fun w₀ =>
      (handleUntil 10000000 14 w₀).ok?.map fun _ =>
        let turns := turnsUntil 10000000 14 w₀
        ((turnsOf .mac turns).map (·.moment.time),
          (turnsOf .reception turns).map fun t => t.before.hearings.map (·.outcome?))) =
      some ([0, 1000, 2000, 3000],
        [[], [], [], [none, some .halfDuplex, some .halfDuplex, none], [none, some .success]]) := by
    rw [start_periodic repeating _ _ (by decide +kernel) rfl]
    decide +kernel
  obtain ⟨w₀, hstart, hturns⟩ := Option.bind_eq_some_iff.1 hturns
  obtain ⟨w, hhandled, hturns⟩ := Option.map_eq_some_iff.1 hturns
  obtain ⟨hslots, hreceptions⟩ := Prod.mk.inj hturns
  replace hstart := ok_of_toOption hstart
  have hcourse := course_of_turnsUntil 10000000 14 w₀
  rw [Stepped.of_ok? hhandled] at hcourse
  obtain ⟨hpaced, hevaluated, -⟩ := slots_of_course pairScene_valid hstart (by decide) hcourse
  refine ⟨w₀, _, _, pairScene_valid, hstart, hcourse, hslots, hreceptions, hpaced, fun t ht => ?_⟩
  obtain ⟨hmem, hevent⟩ := List.mem_filter.1 ht
  obtain ⟨before, after, hsplit⟩ := List.append_of_mem hmem
  rcases hevaluated before t after hsplit (of_decide_eq_true hevent) with hdone | ⟨-, _, _, herror⟩
  · exact hdone
  · cases herror

end World

end Sidelink
