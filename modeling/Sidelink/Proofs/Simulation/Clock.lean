import Sidelink.Proofs.Agenda
import Sidelink.Simulation.World

/-!
# The clock of a run

One slot is to come at any time, and no timer fires before the last one. All timers that fire with a slot do so before
it is handled.
-/

namespace Sidelink.Agenda

/-- The slots to come are at some times, and every timer fires later than a slot before the next one. -/
structure Timed (slotUs nextUs : Nat) (slots : List Nat) (a : Agenda Event) : Prop where
  ordered : Ordered a.events
  phases : ∀ x ∈ a.events, x.1.phase = x.2.phase
  slots : ((a.events.filter fun x => x.2 = .mac).map fun x => x.1.time).Perm slots
  timers : ∀ x ∈ a.events, ∀ id, x.2 = .traffic id → nextUs < x.1.time + slotUs

variable {slotUs nextUs : Nat} {slots : List Nat} {a a' : Agenda Event} {m : Moment} {e : Event}

theorem timed_empty (slotUs nextUs : Nat) : Timed slotUs nextUs [] {} where
  ordered := .nil
  phases := by simp
  slots := .nil
  timers := by simp

/-! ## Putting down -/

theorem Timed.scheduleAt (h : Timed slotUs nextUs slots a) (time : Nat) (e : Event)
    (htimer : ∀ id, e = .traffic id → nextUs < max time a.now + slotUs) :
    Timed slotUs nextUs (if e = .mac then max time a.now :: slots else slots) (a.scheduleAt time e.phase e).2 := by
  have hperm := scheduleAt_events a time e.phase e
  constructor
  case ordered => exact scheduleAt_ordered h.ordered ..
  case phases =>
    intro x hx
    rcases List.mem_cons.1 (hperm.mem_iff.1 hx) with rfl | hx
    · rfl
    · exact h.phases x hx
  case slots =>
    refine ((hperm.filter _).map _).trans ?_
    by_cases he : e = .mac
    · rw [List.filter_cons_of_pos (by simpa using he), if_pos he]
      exact h.slots.cons _
    · rw [List.filter_cons_of_neg (by simpa using he), if_neg he]
      exact h.slots
  case timers =>
    intro x hx
    rcases List.mem_cons.1 (hperm.mem_iff.1 hx) with rfl | hx
    · exact htimer
    · exact h.timers x hx

theorem Timed.next_slot (h : Timed slotUs nextUs [] a) (hnow : a.now + slotUs = nextUs) (hfits : nextUs < limit64) :
    Timed slotUs nextUs [nextUs]
      ((a.scheduleIn slotUs .reception .reception).2.scheduleIn slotUs .mac .mac).2 := by
  have htime : max (min (a.now + slotUs) (limit64 - 1)) a.now = nextUs := by omega
  have hslot := (h.scheduleAt (min (a.now + slotUs) (limit64 - 1)) .reception (by simp)).scheduleAt
    (min (a.now + slotUs) (limit64 - 1)) .mac (by simp)
  change Timed slotUs nextUs (max _ a.now :: []) _ at hslot
  rwa [htime] at hslot

/-! ## Coming up -/

theorem Timed.pop (h : Timed slotUs nextUs [nextUs] a) (hpop : a.pop = some ((m, e), a')) (he : e ≠ .mac) :
    Timed slotUs nextUs [nextUs] a' ∧ a'.now ≤ nextUs ∧ ∀ id, e = .traffic id → nextUs < a'.now + slotUs := by
  obtain ⟨hevents, hnow, -⟩ := of_pop hpop
  obtain ⟨hordered, hphases, hslots, htimers⟩ := h
  rw [hevents] at hordered hphases hslots htimers
  rw [List.filter_cons_of_neg (by simpa using he)] at hslots
  refine ⟨⟨(List.pairwise_cons.1 hordered).2, fun x hx => hphases x (.tail _ hx), hslots, fun x hx => htimers x (.tail _ hx)⟩, ?_, ?_⟩
  · -- The slot is still on the agenda, and what comes up is not after it.
    have hnext : nextUs ∈ (a'.events.filter fun x => x.2 = .mac).map fun x => x.1.time := hslots.mem_iff.2 (by simp)
    obtain ⟨x, hx, htime⟩ := List.mem_map.1 hnext
    have hafter := Ordered.time_le hordered (List.mem_filter.1 hx).1
    dsimp only at hafter
    omega
  · rw [hnow]
    exact htimers _ List.mem_cons_self

theorem Timed.pop_slot (h : Timed slotUs nextUs [nextUs] a) (hpop : a.pop = some ((m, .mac), a')) :
    m.time = nextUs ∧ a'.now = nextUs ∧ Timed slotUs (nextUs + slotUs) [] a' := by
  obtain ⟨hevents, hnow, -⟩ := of_pop hpop
  obtain ⟨hordered, hphases, hslots, -⟩ := h
  rw [hevents] at hordered hphases hslots
  rw [List.filter_cons_of_pos (by simp), List.map_cons] at hslots
  obtain ⟨htime, hnone⟩ := List.cons_eq_cons.1 (List.perm_singleton.1 hslots)
  obtain ⟨hfirst, hrest⟩ := List.pairwise_cons.1 hordered
  refine ⟨htime, hnow.trans htime, ⟨hrest, fun x hx => hphases x (.tail _ hx), by rw [hnone], ?_⟩⟩
  intro x hx id hid
  -- Of two events at one time the timer comes up first, and this one has not.
  have hafter := hfirst x hx
  have hphase : x.1.phase = .traffic := by rw [hphases x (.tail _ hx), hid]; rfl
  have hslot : m.phase = .mac := hphases _ List.mem_cons_self
  rw [Moment.not_before_iff, hphase, hslot] at hafter
  simp only [Phase.rank] at hafter htime
  omega

/-! ## Taking off -/

theorem Timed.cancel {ticket : Nat} (h : Timed slotUs nextUs slots a) (harmed : a.Armed ticket .traffic) :
    Timed slotUs nextUs slots (a.cancel ticket).2 := by
  rcases cancel_events a ticket with hsame | ⟨m, hm, hrest⟩
  · obtain ⟨hordered, hphases, hslots, htimers⟩ := h
    constructor <;> rw [hsame] <;> assumption
  · constructor
    case ordered => rw [hrest]; exact h.ordered.filter _
    case phases => rw [hrest]; exact fun x hx => h.phases x (List.mem_filter.1 hx).1
    case timers => rw [hrest]; exact fun x hx => h.timers x (List.mem_filter.1 hx).1
    case slots =>
      -- What is taken off is a timer.
      have hkept : (a.events.filter fun x => x.1 ≠ m).filter (fun x => x.2 = .mac) =
          a.events.filter fun x => x.2 = .mac := by
        rw [List.filter_filter]
        refine List.filter_congr fun x hx => ?_
        by_cases hslot : x.2 = .mac
        · have hne : x.1 ≠ m := by
            rintro rfl
            have hphase := h.phases x hx
            rw [harmed.phase _ hm, hslot] at hphase
            cases hphase
          simp [hslot, hne]
        · simp [hslot]
      rw [hrest, hkept]
      exact h.slots

end Sidelink.Agenda
