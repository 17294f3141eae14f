import Mathlib.Algebra.BigOperators.Group.List.Basic
import Mathlib.Algebra.Order.BigOperators.Group.List
import Sidelink.Proofs.Agenda.Pending
import Sidelink.Proofs.Simulation.Deadline

/-!
# The events of a run

The events that a run handles, in the order in which they come up, and what each of them puts on the agenda. Whatever
comes back does so later, so that events of one time come up by phase.
-/

namespace Sidelink

/-! ## Agendas -/

namespace Agenda

variable {a a' : Agenda Event} {m : Moment} {e : Event}

/-- When the events of a kind come up. -/
def timesOf (a : Agenda Event) (e : Event) : List Nat := (a.momentsOf e).map (·.time)

theorem timesOf_pop (h : a.pop = some ((m, e), a')) (e' : Event) :
    a.timesOf e' = if e = e' then m.time :: a'.timesOf e' else a'.timesOf e' := by
  rw [timesOf, momentsOf_pop h]
  split <;> rfl

theorem timesOf_eq (a : Agenda Event) (e : Event) :
    a.timesOf e = (a.events.filter fun x => x.2 = e).map fun x => x.1.time := by
  rw [timesOf, momentsOf, List.map_map]
  rfl

theorem mem_timesOf {time : Nat} : time ∈ a.timesOf e ↔ ∃ m : Moment, (m, e) ∈ a.events ∧ m.time = time := by
  simp only [timesOf, List.mem_map, mem_momentsOf]

theorem time_le_of_pop (hordered : Ordered a.events) (h : a.pop = some ((m, e), a')) {t : Nat}
    (ht : t ∈ a.timesOf e') : m.time ≤ t := by
  obtain ⟨m', hm', rfl⟩ := mem_timesOf.1 ht
  rw [(of_pop h).1] at hordered hm'
  rcases List.mem_cons.1 hm' with hsame | hm'
  · cases hsame
    exact Nat.le_refl _
  · exact hordered.time_le hm'

theorem time_ne_of_pop_slot (hordered : Ordered a.events) (hphases : ∀ x ∈ a.events, x.1.phase = x.2.phase)
    (h : a.pop = some ((m, .mac), a')) {m' : Moment} (hm' : (m', .reception) ∈ a.events) : m'.time ≠ m.time := by
  -- Of a slot and a reception at one time the reception comes up first.
  have hreception : m'.phase = .reception := hphases _ hm'
  have hslot : m.phase = .mac := hphases (m, .mac) (by rw [(of_pop h).1]; exact List.mem_cons_self)
  rw [(of_pop h).1] at hordered hm'
  rcases List.mem_cons.1 hm' with hsame | hm'
  · cases hsame
  · have hnot := (List.pairwise_cons.1 hordered).1 _ hm'
    rw [Moment.not_before_iff, hreception, hslot] at hnot
    simp only [Phase.rank] at hnot
    omega

/-- Some events were put down, and of the others at most timers were taken off. -/
structure Followed (a : Agenda Event) (added : List (Moment × Event)) (a' : Agenda Event) : Prop where
  now : a'.now = a.now
  ordered : Ordered a.events → Ordered a'.events
  events : ∃ kept, kept.Sublist a.events ∧ a'.events.Perm (added ++ kept) ∧
    kept.filter (fun x => x.1.phase ≠ .traffic) = a.events.filter fun x => x.1.phase ≠ .traffic

namespace Followed

variable {added : List (Moment × Event)}

theorem refl (a : Agenda Event) : Followed a [] a := ⟨rfl, id, _, .refl _, .refl _, rfl⟩

theorem scheduleAt (h : Followed a added a') (time : Nat) (e : Event) :
    Followed a ((⟨max time a.now, e.phase, a'.nextTicket⟩, e) :: added) (a'.scheduleAt time e.phase e).2 := by
  obtain ⟨kept, hkept, hevents, htimers⟩ := h.events
  refine ⟨h.now, fun hordered => scheduleAt_ordered (h.ordered hordered) .., kept, hkept, ?_, htimers⟩
  rw [← h.now]
  exact (scheduleAt_events ..).trans (hevents.cons _)

theorem cancel (h : Followed a [] a') {ticket : Nat} (harmed : a'.Armed ticket .traffic) :
    Followed a [] (a'.cancel ticket).2 := by
  have hnow : (a'.cancel ticket).2.now = a'.now := by unfold Agenda.cancel; split <;> rfl
  obtain ⟨kept, hkept, hevents, htimers⟩ := h.events
  rcases cancel_events a' ticket with hsame | ⟨m, hm, hrest⟩
  · refine ⟨hnow.trans h.now, fun hordered => ?_, kept, hkept, ?_, htimers⟩
    · rw [hsame]
      exact h.ordered hordered
    · rw [hsame]
      exact hevents
  · refine ⟨hnow.trans h.now, fun hordered => ?_, kept.filter fun x => x.1 ≠ m, ?_, ?_, ?_⟩
    · rw [hrest]
      exact (h.ordered hordered).filter _
    · exact List.filter_sublist.trans hkept
    · rw [hrest]
      exact hevents.filter _
    · -- What is taken off is a timer.
      rw [← htimers, List.filter_filter]
      refine List.filter_congr fun x _ => ?_
      have hphase := harmed.phase m hm
      by_cases hx : x.1 = m
      · simp [hx, hphase]
      · simp [hx]

theorem mem (h : Followed a added a') {x : Moment × Event} (hx : x ∈ a'.events) : x ∈ added ∨ x ∈ a.events := by
  obtain ⟨kept, hkept, hevents, -⟩ := h.events
  exact (List.mem_append.1 (hevents.mem_iff.1 hx)).imp_right hkept.mem

theorem timesOf (h : Followed a added a') (hphases : ∀ x ∈ a.events, x.1.phase = x.2.phase)
    (he : e.phase ≠ .traffic) :
    (a'.timesOf e).Perm ((added.filter fun x => x.2 = e).map (·.1.time) ++ a.timesOf e) := by
  obtain ⟨kept, hkept, hevents, htimers⟩ := h.events
  have hsame (events : List (Moment × Event)) (hsub : events.Sublist a.events) :
      events.filter (fun x => x.2 = e) = (events.filter fun x => x.1.phase ≠ .traffic).filter fun x => x.2 = e := by
    rw [List.filter_filter]
    refine List.filter_congr fun x hx => ?_
    have hphase := hphases x (hsub.mem hx)
    by_cases hx : x.2 = e
    · simp [hx, hphase, he]
    · simp [hx]
  have hkept' : kept.filter (fun x => x.2 = e) = a.events.filter fun x => x.2 = e := by
    rw [hsame kept hkept, htimers, ← hsame a.events (.refl _)]
  rw [timesOf_eq, timesOf_eq]
  refine ((hevents.filter _).map _).trans (.of_eq ?_)
  rw [List.filter_append, List.map_append, hkept']

end Followed

end Agenda

/-! ## What an event puts down -/

/-- A slot puts down the next one, with the reception of what is sent in it. No other event but a reception comes back
more than once, and each does so later. -/
inductive Puts (slotUs now : Nat) : Event → List (Moment × Event) → Prop where
  | nothing {e : Event} : e ≠ .mac → Puts slotUs now e []
  | again {m : Moment} {e : Event} : e ≠ .mac → e ≠ .reception → now < m.time → m.phase = e.phase →
      Puts slotUs now e [(m, e)]
  | slot {m m' : Moment} : m.time = now + slotUs → m'.time = now + slotUs → m.phase = .mac → m'.phase = .reception →
      Puts slotUs now .mac [(m, .mac), (m', .reception)]

theorem Puts.later {slotUs now : Nat} {e : Event} {added : List (Moment × Event)} (h : Puts slotUs now e added)
    (hslot : 0 < slotUs) {x : Moment × Event} (hx : x ∈ added) : now < x.1.time ∧ x.1.phase = x.2.phase := by
  cases h with
  | nothing => cases hx
  | again _ _ hlate hphase =>
    rw [List.mem_singleton.1 hx]
    exact ⟨hlate, hphase⟩
  | slot htime htime' hphase hphase' =>
    rcases List.mem_cons.1 hx with rfl | hx
    · exact ⟨by simp only; omega, hphase⟩
    · rw [List.mem_singleton.1 hx]
      exact ⟨by simp only; omega, hphase'⟩

theorem Puts.timesOf {slotUs : Nat} {m : Moment} {e e' : Event} {added : List (Moment × Event)}
    {a a' a'' : Agenda Event}
    (h : Puts slotUs m.time e added) (hphases : ∀ x ∈ a.events, x.1.phase = x.2.phase)
    (hpop : a.pop = some ((m, e), a')) (hfollowed : a'.Followed added a'') (he' : e' = .mac ∨ e' = .reception) :
    (a''.timesOf e').Perm ((if e = .mac then [m.time + slotUs] else []) ++ a'.timesOf e') := by
  have hadded : (added.filter fun x => x.2 = e').map (·.1.time) = if e = .mac then [m.time + slotUs] else [] := by
    cases h with
    | nothing he => simp [he]
    | again he he'' => rcases he' with rfl | rfl <;> simp [he, he'']
    | slot htime htime' => rcases he' with rfl | rfl <;> simp [htime, htime']
  rw [← hadded]
  refine hfollowed.timesOf (fun x hx => hphases x ?_) (by rcases he' with rfl | rfl <;> simp [Event.phase])
  rw [(Agenda.of_pop hpop).1]
  exact .tail _ hx

namespace World

variable {α γ : Type} {w w' : World α γ}

section

variable [Analysis α] [RandomSource γ]

omit [Analysis α] [RandomSource γ] in
theorem scheduleIn_followed {a a' : Agenda Event} {delay : Nat} (h : a.Followed [] a') (e : Event)
    (hdelay : 0 < delay) (hlast : a.now < limit64 - 1) :
    ∃ m : Moment, a.now < m.time ∧ m.phase = e.phase ∧ a.Followed [(m, e)] (a'.scheduleIn delay e.phase e).2 := by
  refine ⟨_, ?_, rfl, h.scheduleAt (min (a'.now + delay) (limit64 - 1)) e⟩
  rw [h.now]
  dsimp only
  omega

theorem receiveAll_agenda (w : World α γ) : w.receiveAll.2.agenda = w.agenda := by
  unfold receiveAll
  split
  · rfl
  · refine stepEach_keeps (P := fun w' : World α γ => w'.agenda = w.agenda) (fun id w' hw => ?_) _ _ rfl
    rcases receiveAt_received _ id w' with hsame | ⟨n, r, -, -, hset⟩
    · rw [hsame, hw]
    · rw [hset]
      exact hw

theorem nextDelayUs_pos {t : Generator α} {g g' : γ} {delay : Nat}
    (h : t.nextDelayUs (ε := SimulationError α) g = .ok (delay, g')) : 0 < delay := by
  unfold Generator.nextDelayUs at h
  split at h
  · cases h
    omega
  · obtain ⟨_, -, h⟩ := ok_of_bind h
    cases h
    omega
  · cases h
    omega

theorem fireTimer_agenda {id : Nat} (hok : w.fireTimer id = (.ok (), w')) :
    w'.agenda = w.agenda ∨
      ∃ delay, 0 < delay ∧ w'.agenda = (w.agenda.scheduleIn delay .traffic (.traffic id)).2 := by
  obtain ⟨-, rfl⟩ | ⟨n, n', hn, hn', hrearm⟩ := of_fireTimer hok
  · exact .inl rfl
  · obtain ⟨-, rfl⟩ := mem_of_node? hn'
    obtain ⟨delay, g, hdelay, rfl⟩ := of_rearm hrearm
    refine .inr ⟨delay, nextDelayUs_pos hdelay, ?_⟩
    rw [(generate_generated (mem_of_node? hn).1).agenda]

theorem moveAll_agenda (harmed : ∀ n ∈ w.nodes, w.agenda.Armed n.timer .traffic) :
    ∃ a, w.agenda.Followed [] a ∧
      w.moveAll.agenda = (a.scheduleIn w.setup.mobilityUs .mobility .mobility).2 := by
  let P (w' : World α γ) : Prop := w.agenda.Followed [] w'.agenda ∧ w'.setup = w.setup ∧
    ∀ n ∈ w'.nodes, w'.agenda.Armed n.timer .traffic
  have hplaced (w' : World α γ) (place : Node α → Point α) (h : P w') :
      P { w' with nodes := w'.nodes.map fun n => { n with position := place n } } := by
    obtain ⟨hfollowed, hsetup, harmed⟩ := h
    refine ⟨hfollowed, hsetup, fun m hm => ?_⟩
    obtain ⟨n, hn, rfl⟩ := List.mem_map.1 hm
    exact harmed n hn
  have hremoved (w' : World α γ) (id : Nat) (h : P w') : P (w'.removeNode id).2 := by
    unfold removeNode
    split
    · exact h
    · rename_i n hn
      obtain ⟨hfollowed, hsetup, harmed⟩ := h
      refine ⟨hfollowed.cancel (harmed n (mem_of_node? hn).1), hsetup, fun m hm => ?_⟩
      exact (harmed m (List.mem_filter.1 hm).1).cancel _
  obtain ⟨w', position?, g, ⟨hfollowed, hsetup, -⟩, hmoved⟩ := of_moveAll (P := P) ⟨.refl _, rfl, harmed⟩ hplaced
    hremoved
  exact ⟨w'.agenda, hfollowed, by rw [hmoved, hsetup]⟩

theorem serveAll_agenda (hok : w.serveAll = (.ok (), w')) :
    w'.agenda = ((w.agenda.scheduleIn w.setup.numerology.slotUs .reception .reception).2.scheduleIn
      w.setup.numerology.slotUs .mac .mac).2 := by
  obtain ⟨now, w₁, -, hserved, rfl⟩ := of_serveAll hok
  obtain ⟨hagenda, hsetup⟩ := stepEach_ok (P := fun _ w₁ => w₁.agenda = w.agenda ∧ w₁.setup = w.setup)
    (fun id _ w₁ w₂ hw hstep => by
      rcases of_serveAt hstep with ⟨-, rfl⟩ | ⟨n, r, r', sent, -, -, -, rfl⟩ <;> exact hw)
    ⟨rfl, rfl⟩ hserved
  rw [hagenda, hsetup]

theorem puts_of_handle [Scalar.LawfulSlots α] {e : Event} (harmed : ∀ n ∈ w.nodes, w.agenda.Armed n.timer .traffic)
    (hmobility : 0 < w.setup.mobilityUs) (hreport : 0 < w.setup.reportUs) (hlast : w.nowUs < limit64 - 1)
    (hok : handle e w = (.ok (), w')) :
    ∃ added, Puts w.setup.numerology.slotUs w.nowUs e added ∧ w.agenda.Followed added w'.agenda := by
  cases e with
  | reception =>
    have hagenda := receiveAll_agenda w
    rw [show w.receiveAll = _ from hok] at hagenda
    dsimp only at hagenda
    rw [hagenda]
    exact ⟨[], .nothing (by simp), .refl _⟩
  | mobility =>
    cases hok
    obtain ⟨a, hfollowed, hagenda⟩ := moveAll_agenda harmed
    obtain ⟨m, hlate, hphase, hputs⟩ := scheduleIn_followed hfollowed .mobility hmobility hlast
    rw [hagenda]
    exact ⟨_, .again (by simp) (by simp) hlate hphase, hputs⟩
  | traffic id =>
    rcases fireTimer_agenda hok with hagenda | ⟨delay, hdelay, hagenda⟩
    · rw [hagenda]
      exact ⟨[], .nothing (by simp), .refl _⟩
    · obtain ⟨m, hlate, hphase, hputs⟩ := scheduleIn_followed (.refl _) (.traffic id) hdelay hlast
      rw [hagenda]
      exact ⟨_, .again (by simp) (by simp) hlate hphase, hputs⟩
  | mac =>
    obtain ⟨now, -, hslot, -, -⟩ := of_serveAll hok
    obtain ⟨-, hfits⟩ := Slot.of_ofTime hslot
    simp only [decisionDelaySlots, nowUs] at hfits
    rw [serveAll_agenda hok]
    refine ⟨_, ?_, ((Agenda.Followed.refl _).scheduleAt _ .reception).scheduleAt _ .mac⟩
    refine .slot ?_ ?_ rfl rfl <;> simp only [nowUs, Agenda.scheduleIn, Agenda.scheduleAt] <;> omega
  | report =>
    cases hok
    obtain ⟨m, hlate, hphase, hputs⟩ := scheduleIn_followed (.refl w.agenda) .report hreport hlast
    exact ⟨_, .again (by simp) (by simp) hlate hphase, hputs⟩

end

end World

/-! ## Runs -/

/-- An event that a run handles, in the world it finds when it is off the agenda. -/
structure Turn (α γ : Type) where
  moment : Moment
  event : Event
  before : World α γ

namespace World

section

variable {α γ : Type} [Analysis α] [RandomSource γ] {endUs : Nat} {w₀ w w' : World α γ} {turns : List (Turn α γ)}
  {r : Stepped (SimulationError α) (World α γ)}

/-- The events that a run handles, and how it stands after them. An error ends it. -/
inductive Course (endUs : Nat) (w₀ : World α γ) :
    List (Turn α γ) → Stepped (SimulationError α) (World α γ) → Prop where
  | start : Course endUs w₀ [] (.ok (), w₀)
  | turn {turns : List (Turn α γ)} {w : World α γ} {m : Moment} {e : Event} {agenda : Agenda Event} :
      Course endUs w₀ turns (.ok (), w) → w.agenda.pop = some ((m, e), agenda) → m.time < endUs →
      Course endUs w₀ (turns ++ [⟨m, e, { w with agenda }⟩]) (handle e { w with agenda })

theorem Course.reached (h : Course endUs w₀ turns r) (hok : r = (.ok (), w)) : Reached endUs w₀ w := by
  induction h generalizing w with
  | start => cases hok; exact .start
  | turn _ hpop hbefore ih => exact (ih rfl).event hpop hbefore hok

/-- The events that the loop of a run handles. -/
def turnsUntil (endUs : Nat) : Nat → World α γ → List (Turn α γ)
  | 0, _ => []
  | fuel + 1, w =>
    match w.agenda.pop with
    | none => []
    | some ((m, e), agenda) =>
      if endUs ≤ m.time then []
      else
        ⟨m, e, { w with agenda }⟩ :: match handle e { w with agenda } with
          | (.error _, _) => []
          | (.ok (), w) => turnsUntil endUs fuel w

theorem course_of_handleUntil (n : Nat) (h : Course endUs w₀ turns (.ok (), w)) :
    Course endUs w₀ (turns ++ turnsUntil endUs n w) (handleUntil endUs n w) := by
  induction n generalizing w turns with
  | zero => rwa [turnsUntil, List.append_nil]
  | succ n ih =>
    rw [turnsUntil, handleUntil]
    cases hpop : w.agenda.pop with
    | none => rwa [List.append_nil]
    | some next =>
      obtain ⟨⟨m, e⟩, agenda⟩ := next
      dsimp only
      by_cases hlate : endUs ≤ m.time
      · rwa [if_pos hlate, if_pos hlate, List.append_nil]
      · have hturn := h.turn hpop (Nat.not_le.1 hlate)
        rw [if_neg hlate, if_neg hlate]
        rcases hhandle : handle e { w with agenda } with ⟨_ | _, w'⟩
        · rwa [hhandle] at hturn
        · rw [hhandle] at hturn
          have hrest := ih hturn
          rwa [List.append_assoc] at hrest

theorem course_of_turnsUntil (endUs n : Nat) (w₀ : World α γ) :
    Course endUs w₀ (turnsUntil endUs n w₀) (handleUntil endUs n w₀) := course_of_handleUntil n .start

theorem course_of_run (hend : w₀.setup.config.simulation.durationMs * 1000 < limit64) :
    ∃ turns, Course (w₀.setup.config.simulation.durationMs * 1000) w₀ turns w₀.run := by
  unfold run runUntil
  rw [word64, if_pos hend]
  exact ⟨_, course_of_turnsUntil _ _ w₀⟩

end

/-! ### What is put down in a run -/

section

variable {α γ : Type} [Analysis α] [Scalar.LawfulSlots α] [RandomSource γ] {config : Config α} {scene : Scene α}
  {trace : Trace α} {sourceOfSeed : Nat → γ} {endUs : Nat} {w₀ w w' : World α γ} {turns : List (Turn α γ)}
  {r : Stepped (SimulationError α) (World α γ)} {m : Moment} {e : Event} {agenda : Agenda Event}

omit [Scalar.LawfulSlots α] in
theorem start_intervals (h : start config scene trace sourceOfSeed = .ok w₀) :
    w₀.setup.mobilityUs = config.simulation.mobilityIntervalMs * 1000 ∧
      w₀.setup.reportUs = config.simulation.reportIntervalMs * 1000 ∧
      w₀.setup.mobilityUs < limit64 ∧ w₀.setup.reportUs < limit64 := by
  unfold start at h
  iterate 7 obtain ⟨_, -, h⟩ := ok_of_bind h
  obtain ⟨_, hmobility, h⟩ := ok_of_bind h
  obtain ⟨_, hreport, h⟩ := ok_of_bind h
  obtain ⟨rfl, hmobilityFits⟩ := of_word64 hmobility
  obtain ⟨rfl, hreportFits⟩ := of_word64 hreport
  cases h
  exact ⟨rfl, rfl, hmobilityFits, hreportFits⟩

omit [Scalar.LawfulSlots α] in
theorem intervals_of_start (h : start config scene trace sourceOfSeed = .ok w₀) :
    0 < w₀.setup.mobilityUs ∧ 0 < w₀.setup.reportUs := by
  have haccepted := Config.accepted_of_validate (of_start h).1
  have := haccepted.mobility
  have := haccepted.report
  obtain ⟨hmobility, hreport, -⟩ := start_intervals h
  omega

theorem puts_of_reached (hscene : scene.validate = .ok ()) (hstart : start config scene trace sourceOfSeed = .ok w₀)
    (hend : endUs < limit64) (hreached : Reached endUs w₀ w) (hpop : w.agenda.pop = some ((m, e), agenda))
    (hbefore : m.time < endUs) (hok : handle e { w with agenda } = (.ok (), w')) :
    ∃ added, Puts w₀.setup.numerology.slotUs m.time e added ∧ agenda.Followed added w'.agenda := by
  obtain ⟨nextUs, hpunctual⟩ := punctual_of_reached hscene hstart hreached
  obtain ⟨hmobility, hreport⟩ := intervals_of_start hstart
  obtain ⟨-, hnow, -⟩ := Agenda.of_pop hpop
  have hputs := puts_of_handle (w := { w with agenda }) (fun n hn => (hpunctual.nodes n hn).timer.pop hpop)
    (by rwa [hpunctual.setup]) (by rwa [hpunctual.setup]) (by simp only [nowUs]; omega) hok
  rw [nowUs, hpunctual.setup, show agenda.now = m.time from hnow] at hputs
  exact hputs

/-! ### Time -/

theorem Course.ordered (hscene : scene.validate = .ok ())
    (hstart : World.start config scene trace sourceOfSeed = .ok w₀)
    (hend : endUs < limit64) (h : Course endUs w₀ turns r) :
    turns.Pairwise (fun t u => u.moment.before t.moment = false) ∧
      ∀ w, r = (.ok (), w) → ∀ t ∈ turns, ∀ x ∈ w.agenda.events, x.1.before t.moment = false := by
  induction h with
  | start => exact ⟨.nil, by simp⟩
  | @turn turns w m e agenda hcourse hpop hbefore ih =>
    obtain ⟨hsorted, hcoming⟩ := ih
    replace hcoming := hcoming w rfl
    have hreached := hcourse.reached rfl
    obtain ⟨hevents, -⟩ := Agenda.of_pop hpop
    obtain ⟨nextUs, hpunctual⟩ := punctual_of_reached hscene hstart hreached
    have hordered := hpunctual.agenda.ordered
    rw [hevents] at hordered hcoming
    constructor
    · rw [List.pairwise_append]
      refine ⟨hsorted, List.pairwise_singleton .., fun t ht u hu => ?_⟩
      rw [List.mem_singleton.1 hu]
      exact hcoming t ht _ List.mem_cons_self
    · intro w' hok t ht x hx
      obtain ⟨added, hputs, hfollowed⟩ := puts_of_reached hscene hstart hend hreached hpop hbefore hok
      have hm : m.before t.moment = false := by
        rcases List.mem_append.1 ht with ht | ht
        · exact hcoming t ht _ List.mem_cons_self
        · rw [List.mem_singleton.1 ht, Moment.not_before_iff]
          simp
      refine Moment.not_before_trans hm ?_
      rcases hfollowed.mem hx with hx | hx
      · have hlate := (hputs.later w₀.setup.numerology.slotUs_pos hx).1
        rw [Moment.not_before_iff]
        exact .inl hlate
      · exact (List.pairwise_cons.1 hordered).1 x hx

theorem Course.time_le (hscene : scene.validate = .ok ())
    (hstart : World.start config scene trace sourceOfSeed = .ok w₀)
    (hend : endUs < limit64) (h : Course endUs w₀ turns r) {before after : List (Turn α γ)} {t : Turn α γ}
    (hsplit : turns = before ++ t :: after) :
    (∀ u ∈ before, u.moment.time ≤ t.moment.time) ∧ ∀ u ∈ t :: after, t.moment.time ≤ u.moment.time := by
  have hordered := (h.ordered hscene hstart hend).1
  rw [hsplit, List.pairwise_append, List.pairwise_cons] at hordered
  obtain ⟨-, ⟨hlater, -⟩, hearlier⟩ := hordered
  have hle {u v : Turn α γ} (hnot : v.moment.before u.moment = false) : u.moment.time ≤ v.moment.time := by
    rw [Moment.not_before_iff] at hnot
    omega
  refine ⟨fun u hu => hle (hearlier u hu t List.mem_cons_self), fun u hu => ?_⟩
  rcases List.mem_cons.1 hu with rfl | hu
  · exact Nat.le_refl _
  · exact hle (hlater u hu)

theorem Course.phase (hscene : scene.validate = .ok ()) (hstart : World.start config scene trace sourceOfSeed = .ok w₀)
    (h : Course endUs w₀ turns r) :
    ∀ t ∈ turns, t.moment.phase = t.event.phase ∧ t.before.nowUs = t.moment.time ∧ t.before.setup = w₀.setup := by
  induction h with
  | start => simp
  | turn hcourse hpop _ ih =>
    intro t ht
    rcases List.mem_append.1 ht with ht | ht
    · exact ih t ht
    · obtain ⟨nextUs, hpunctual⟩ := punctual_of_reached hscene hstart (hcourse.reached rfl)
      obtain ⟨hevents, hnow, -⟩ := Agenda.of_pop hpop
      rw [List.mem_singleton.1 ht]
      exact ⟨hpunctual.agenda.phases _ (by rw [hevents]; exact List.mem_cons_self), hnow, hpunctual.setup⟩

/-! ### The end of a run -/

/-- Nothing is left to come up before the end. -/
def Over (endUs : Nat) (w : World α γ) : Prop := ∀ x agenda, w.agenda.pop = some (x, agenda) → endUs ≤ x.1.time

theorem budget_eq (endUs : Nat) (a : Agenda Event) :
    budget endUs a = (a.events.map fun x => eventBudget endUs x.1 x.2).sum := by
  unfold budget
  induction a.events with
  | nil => rfl
  | cons x rest ih => rw [List.foldr_cons, ih, List.map_cons, List.sum_cons]

omit [Analysis α] [Scalar.LawfulSlots α] [RandomSource γ] in
theorem budget_lt_of_followed {slotUs : Nat} {a : Agenda Event} {added : List (Moment × Event)} (hslot : 0 < slotUs)
    (hpop : w.agenda.pop = some ((m, e), agenda)) (hbefore : m.time < endUs) (hputs : Puts slotUs m.time e added)
    (h : agenda.Followed added a) : budget endUs a < budget endUs w.agenda := by
  obtain ⟨kept, hkept, hevents, -⟩ := h.events
  have hadded : (added.map fun x => eventBudget endUs x.1 x.2).sum < eventBudget endUs m e := by
    cases hputs with
    | nothing he => cases e <;> simp [eventBudget, hbefore] at he ⊢
    | again he he' hlate => cases e <;> simp [eventBudget] at he he' ⊢ <;> omega
    | slot htime htime' => simp only [eventBudget, List.map_cons, List.map_nil, List.sum_cons, List.sum_nil]; omega
  have hrest := (hkept.map fun x => eventBudget endUs x.1 x.2).sum_le_sum (by simp)
  have hsum := (hevents.map fun x => eventBudget endUs x.1 x.2).sum_eq
  rw [budget_eq, budget_eq, (Agenda.of_pop hpop).1, List.map_cons, List.sum_cons, hsum, List.map_append,
    List.sum_append]
  dsimp only
  omega

theorem over_of_handleUntil {n : Nat} (hscene : scene.validate = .ok ())
    (hstart : start config scene trace sourceOfSeed = .ok w₀) (hend : endUs < limit64)
    (hreached : Reached endUs w₀ w) (hbudget : budget endUs w.agenda ≤ n)
    (hok : handleUntil endUs n w = (.ok (), w')) : Over endUs w' := by
  induction n generalizing w with
  | zero =>
    cases hok
    intro x agenda hpop
    rw [budget_eq, (Agenda.of_pop hpop).1, List.map_cons, List.sum_cons] at hbudget
    have hnone : eventBudget endUs x.1 x.2 = 0 := Nat.le_zero.1 ((Nat.le_add_right _ _).trans hbudget)
    unfold eventBudget at hnone
    split at hnone <;> omega
  | succ n ih =>
    unfold handleUntil at hok
    split at hok
    · rename_i hpop
      cases hok
      intro x agenda hsome
      rw [hpop] at hsome
      cases hsome
    · rename_i hpop
      split at hok
      · rename_i hlate
        cases hok
        intro x agenda hsome
        rw [hpop] at hsome
        cases hsome
        exact hlate
      · rename_i hbefore
        split at hok
        · cases hok
        · rename_i hhandle
          replace hbefore := Nat.not_le.1 hbefore
          obtain ⟨added, hputs, hfollowed⟩ := puts_of_reached hscene hstart hend hreached hpop hbefore hhandle
          have hless := budget_lt_of_followed w₀.setup.numerology.slotUs_pos hpop hbefore hputs hfollowed
          exact ih (hreached.event hpop hbefore hhandle) (by omega) hok

theorem over_of_run (hscene : scene.validate = .ok ()) (hstart : start config scene trace sourceOfSeed = .ok w₀)
    (hok : w₀.run = (.ok (), w)) : Over (w₀.setup.config.simulation.durationMs * 1000) w := by
  unfold run runUntil at hok
  split at hok
  · cases hok
  · rename_i hword
    obtain ⟨rfl, hend⟩ := of_word64 hword
    exact over_of_handleUntil hscene hstart hend .start (Nat.le_refl _) hok

end

end World

end Sidelink
