import Sidelink.Proofs.Simulation.Turns

/-!
# The end of a run

Whatever an event puts down comes up later than the event itself, and there are at most two of it. So the clock never
goes back, and the events before the end are used up at last.
-/

namespace Sidelink

/-- The clock goes on to an event that comes up. At most two events are put down, and all of them come up later. Of the
others that are to come some may be taken off. -/
structure World.Advances {α γ : Type} (w : World α γ) (m : Moment) (coming : List (Moment × Event))
    (w' : World α γ) : Prop where
  forward : w.nowUs ≤ m.time
  now : w'.nowUs = m.time
  events : ∃ added kept, added.length ≤ 2 ∧ (∀ x ∈ added, m.time < x.1.time) ∧ kept.Sublist coming ∧
    w'.agenda.events.Perm (added ++ kept)

theorem Puts.length_le {slotUs now : Nat} {e : Event} {added : List (Moment × Event)} (h : Puts slotUs now e added) :
    added.length ≤ 2 := by
  cases h <;> simp

namespace World

variable {α γ : Type}

/-! ## The budget -/

theorem eventBudget_pos {endUs : Nat} {m : Moment} (h : m.time < endUs) (e : Event) : 0 < eventBudget endUs m e := by
  cases e <;> simp [eventBudget] <;> omega

theorem countP_le_budget (endUs : Nat) (a : Agenda Event) :
    a.events.countP (fun x => x.1.time < endUs) ≤ budget endUs a := by
  rw [budget_eq]
  induction a.events with
  | nil => simp
  | cons x rest ih =>
    rw [List.map_cons, List.sum_cons, List.countP_cons]
    split
    · rename_i hbefore
      have hpos := eventBudget_pos (by simpa using hbefore) x.2
      omega
    · omega

theorem Over.events {endUs : Nat} {w : World α γ} (hordered : Agenda.Ordered w.agenda.events) (h : Over endUs w) :
    ∀ x ∈ w.agenda.events, endUs ≤ x.1.time := by
  unfold Over Agenda.pop at h
  cases hevents : w.agenda.events with
  | nil => simp
  | cons first rest =>
    rw [hevents] at h hordered
    have hfirst : endUs ≤ first.1.time := h first _ rfl
    intro x hx
    rcases List.mem_cons.1 hx with rfl | hx
    · exact hfirst
    · exact hfirst.trans (Agenda.Ordered.time_le hordered hx)

variable [Analysis α] [RandomSource γ]

/-! ## Errors -/

theorem serveAt_agenda (now : Slot) (id : Nat) (w : World α γ) : (serveAt now id w).2.agenda = w.agenda := by
  unfold serveAt
  split
  · rfl
  · split <;> rfl

theorem agenda_of_error {e : Event} {w w' : World α γ} {error : SimulationError α}
    (h : handle e w = (.error error, w')) : w'.agenda = w.agenda := by
  cases e with
  | reception =>
    have hagenda := receiveAll_agenda w
    rw [show w.receiveAll = _ from h] at hagenda
    exact hagenda
  | mobility => cases h
  | report => cases h
  | traffic id =>
    replace h : w.fireTimer id = _ := h
    unfold fireTimer at h
    dsimp -iota only at h
    split at h
    · cases h
    · rename_i n hn
      split at h
      · cases h
      · unfold rearm at h
        split at h
        · cases h
          exact (generate_generated (mem_of_node? hn).1).agenda
        · cases h
  | mac =>
    replace h : w.serveAll = _ := h
    have hkept (now : Slot) : (stepEach (serveAt now) (w.nodes.map (·.id)) w).2.agenda = w.agenda :=
      stepEach_keeps (P := fun w' : World α γ => w'.agenda = w.agenda)
        (fun id w' hw => (serveAt_agenda now id w').trans hw) _ w rfl
    unfold serveAll at h
    split at h
    · cases h
      rfl
    · rename_i now _
      split at h
      · rename_i hserved
        cases h
        have hagenda := hkept now
        rwa [hserved] at hagenda
      · cases h

variable [Scalar.LawfulSlots α] {config : Config α} {scene : Scene α} {trace : Trace α} {sourceOfSeed : Nat → γ}
  {endUs : Nat} {w₀ w : World α γ} {turns : List (Turn α γ)} {r : Stepped (SimulationError α) (World α γ)} {m : Moment}
  {e : Event} {agenda : Agenda Event}

/-! ## The clock -/

omit [Scalar.LawfulSlots α] in
theorem now_of_start (h : start config scene trace sourceOfSeed = .ok w₀) : w₀.nowUs = 0 := by
  obtain ⟨-, -, -, -, params, generators, nodes, agenda, g, g', -, hplaced, -, hagenda⟩ := of_start h
  obtain ⟨-, hnow, -, -⟩ := placeNodes_timed w₀.setup.numerology.slotUs_pos (Agenda.timed_empty _ _) hplaced
  rw [nowUs, hagenda]
  exact hnow

theorem followed_of_reached (hscene : scene.validate = .ok ())
    (hstart : start config scene trace sourceOfSeed = .ok w₀) (hend : endUs < limit64) (hreached : Reached endUs w₀ w)
    (hpop : w.agenda.pop = some ((m, e), agenda)) (hbefore : m.time < endUs) :
    ∃ added, added.length ≤ 2 ∧ (∀ x ∈ added, m.time < x.1.time) ∧
      agenda.Followed added (handle e { w with agenda }).2.agenda := by
  rcases hhandle : handle e { w with agenda } with ⟨_ | _, w'⟩
  · refine ⟨[], by simp, by simp, ?_⟩
    rw [agenda_of_error hhandle]
    exact .refl agenda
  · obtain ⟨added, hputs, hfollowed⟩ := puts_of_reached hscene hstart hend hreached hpop hbefore hhandle
    exact ⟨added, hputs.length_le, fun x hx => (hputs.later w₀.setup.numerology.slotUs_pos hx).1, hfollowed⟩

theorem now_le_of_reached (hscene : scene.validate = .ok ())
    (hstart : start config scene trace sourceOfSeed = .ok w₀) (hend : endUs < limit64)
    (hreached : Reached endUs w₀ w) : ∀ x ∈ w.agenda.events, w.nowUs ≤ x.1.time := by
  cases hreached with
  | start => simp [now_of_start hstart]
  | @event w w' m e agenda hreached hpop hbefore hok =>
    obtain ⟨hevents, hnow, -⟩ := Agenda.of_pop hpop
    obtain ⟨nextUs, hpunctual⟩ := punctual_of_reached hscene hstart hreached
    have hordered := hpunctual.agenda.ordered
    rw [hevents] at hordered
    obtain ⟨added, -, hlater, hfollowed⟩ := followed_of_reached hscene hstart hend hreached hpop hbefore
    rw [hok] at hfollowed
    intro x hx
    rw [nowUs, hfollowed.now, hnow]
    rcases hfollowed.mem hx with hx | hx
    · exact Nat.le_of_lt (hlater x hx)
    · exact hordered.time_le hx

theorem advances_of_reached (hscene : scene.validate = .ok ())
    (hstart : start config scene trace sourceOfSeed = .ok w₀) (hend : endUs < limit64) (hreached : Reached endUs w₀ w)
    (hpop : w.agenda.pop = some ((m, e), agenda)) (hbefore : m.time < endUs) :
    w.Advances m agenda.events (handle e { w with agenda }).2 := by
  obtain ⟨hevents, hnow, -⟩ := Agenda.of_pop hpop
  obtain ⟨added, hlength, hlater, hfollowed⟩ := followed_of_reached hscene hstart hend hreached hpop hbefore
  obtain ⟨kept, hkept, hperm, -⟩ := hfollowed.events
  constructor
  case forward => exact now_le_of_reached hscene hstart hend hreached (m, e) (by simp [hevents])
  case now => exact hfollowed.now.trans hnow
  case events => exact ⟨added, kept, hlength, hlater, hkept, hperm⟩

/-! ## The events of a run -/

theorem Course.budget_le (hscene : scene.validate = .ok ())
    (hstart : World.start config scene trace sourceOfSeed = .ok w₀) (hend : endUs < limit64)
    (h : Course endUs w₀ turns r) :
    turns.length ≤ budget endUs w₀.agenda ∧
      ∀ w, r = (.ok (), w) → turns.length + budget endUs w.agenda ≤ budget endUs w₀.agenda := by
  induction h with
  | start => simp
  | @turn turns w m e agenda hcourse hpop hbefore ih =>
    have hbudget := ih.2 w rfl
    rw [List.length_append, List.length_singleton]
    constructor
    · have hpos := eventBudget_pos hbefore e
      rw [budget_eq endUs w.agenda, (Agenda.of_pop hpop).1, List.map_cons, List.sum_cons] at hbudget
      dsimp only at hbudget
      omega
    · intro w' hok
      obtain ⟨added, hputs, hfollowed⟩ := puts_of_reached hscene hstart hend (hcourse.reached rfl) hpop hbefore hok
      have hless := budget_lt_of_followed w₀.setup.numerology.slotUs_pos hpop hbefore hputs hfollowed
      omega

/-- A run ends. However it goes on from its start, the events that it has handled and those that are pending before the
end are no more than the budget of its first agenda. Each of them moves the clock on to its own time and puts down at
most two others, which come up later. The run stops at an error, or when no event is left before the end. -/
theorem run_ends (hscene : scene.validate = .ok ()) (hstart : start config scene trace sourceOfSeed = .ok w₀)
    (hend : config.simulation.durationMs * 1000 < limit64) :
    (∃ turns, Course (config.simulation.durationMs * 1000) w₀ turns w₀.run) ∧
      (∀ turns r, Course (config.simulation.durationMs * 1000) w₀ turns r →
        turns.length ≤ budget (config.simulation.durationMs * 1000) w₀.agenda ∧
          turns.Pairwise (fun t u => t.moment.time ≤ u.moment.time) ∧
          ∀ w, r = (.ok (), w) →
            turns.length + w.agenda.events.countP (fun x => x.1.time < config.simulation.durationMs * 1000) ≤
              budget (config.simulation.durationMs * 1000) w₀.agenda) ∧
      (∀ w m e agenda, Reached (config.simulation.durationMs * 1000) w₀ w →
        w.agenda.pop = some ((m, e), agenda) → m.time < config.simulation.durationMs * 1000 →
          w.Advances m agenda.events (handle e { w with agenda }).2) ∧
      ∀ w, w₀.run = (.ok (), w) → ∀ x ∈ w.agenda.events, config.simulation.durationMs * 1000 ≤ x.1.time := by
  have hconfig := (of_start hstart).2.1
  refine ⟨?_, fun turns r hcourse => ?_, fun w m e agenda => advances_of_reached hscene hstart hend, fun w hok => ?_⟩
  · obtain ⟨turns, hcourse⟩ : ∃ turns, Course (w₀.setup.config.simulation.durationMs * 1000) w₀ turns w₀.run :=
      course_of_run (by rwa [hconfig])
    rw [hconfig] at hcourse
    exact ⟨turns, hcourse⟩
  · obtain ⟨hlength, hbudget⟩ := hcourse.budget_le hscene hstart hend
    refine ⟨hlength, (hcourse.ordered hscene hstart hend).1.imp fun {t u} hnot => ?_, fun w hw => ?_⟩
    · rw [Moment.not_before_iff] at hnot
      omega
    · exact (Nat.add_le_add_left (countP_le_budget ..) _).trans (hbudget w hw)
  · have hover := over_of_run hscene hstart hok
    obtain ⟨nextUs, hpunctual⟩ := punctual_of_reached hscene hstart (reached_of_run hok)
    rw [hconfig] at hover
    exact hover.events hpunctual.agenda.ordered

/-- A run of three milliseconds. -/
def briefRun : Config ℚ :=
  let c : Config ℚ := .standard
  { c with simulation := { c.simulation with durationMs := 3 } }

/-- The lone node's run of three slots leaves the fourth, its evaluation and what comes later. -/
theorem run_ends_brief : ∃ w₀ w : World ℚ Zeros,
    loneScene.validate = .ok () ∧ start briefRun loneScene .disabled (fun _ => .zeros) = .ok w₀ ∧
      briefRun.simulation.durationMs * 1000 < limit64 ∧ w₀.run = (.ok (), w) ∧
      w.agenda.events.map (·.1.time) = [3000, 3000, 100000, 100000, 1000000] ∧
      (∃ turns, Course 3000 w₀ turns w₀.run) ∧ ∀ x ∈ w.agenda.events, 3000 ≤ x.1.time := by
  have hrun : ((start briefRun loneScene .disabled fun _ => Zeros.zeros).toOption.bind fun w₀ =>
      w₀.run.ok?.map fun w => w.agenda.events.map (·.1.time)) = some [3000, 3000, 100000, 100000, 1000000] := by
    decide +kernel
  obtain ⟨w₀, hstart, hrun⟩ := Option.bind_eq_some_iff.1 hrun
  obtain ⟨w, hok, htimes⟩ := Option.map_eq_some_iff.1 hrun
  replace hstart := ok_of_toOption hstart
  replace hok := Stepped.of_ok? hok
  obtain ⟨hcourse, -, -, hlater⟩ := run_ends loneScene_valid hstart (by decide)
  exact ⟨w₀, w, loneScene_valid, hstart, by decide, hok, htimes, hcourse, hlater w hok⟩

end World

end Sidelink
