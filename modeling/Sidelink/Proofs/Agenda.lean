import Mathlib.Data.List.Perm.Basic
import Sidelink.Agenda

/-!
# The order of an agenda

Events stand in the order in which they come up, whatever is put down or taken off. The moment of a ticket keeps its
phase.
-/

namespace Sidelink

theorem Moment.before_iff {a b : Moment} : a.before b = true ↔ a.time < b.time ∨
    a.time = b.time ∧ (a.phase.rank < b.phase.rank ∨ a.phase.rank = b.phase.rank ∧ a.ticket < b.ticket) := by
  simp [before]

theorem Moment.not_before_iff {a b : Moment} : a.before b = false ↔ b.time < a.time ∨
    b.time = a.time ∧ (b.phase.rank < a.phase.rank ∨ b.phase.rank = a.phase.rank ∧ b.ticket ≤ a.ticket) := by
  rw [← Bool.not_eq_true, before_iff]
  omega

theorem Moment.not_before_of_before {a b : Moment} (h : a.before b = true) : b.before a = false := by
  rw [before_iff] at h
  rw [not_before_iff]
  omega

theorem Moment.not_before_trans {a b c : Moment} (h : b.before a = false) (h' : c.before b = false) :
    c.before a = false := by
  rw [not_before_iff] at *
  omega

namespace Agenda

variable {ε : Type} {a a' : Agenda ε} {m : Moment} {e : ε} {events : List (Moment × ε)}

/-- No event comes up before one that stands in front of it. -/
def Ordered (events : List (Moment × ε)) : Prop := events.Pairwise fun x y => y.1.before x.1 = false

theorem Ordered.time_le {x y : Moment × ε} (h : Ordered (x :: events)) (hy : y ∈ events) : x.1.time ≤ y.1.time := by
  have hnot := (List.pairwise_cons.1 h).1 y hy
  rw [Moment.not_before_iff] at hnot
  omega

theorem insertEvent_perm (m : Moment) (e : ε) (events : List (Moment × ε)) :
    (insertEvent m e events).Perm ((m, e) :: events) := by
  induction events with
  | nil => simp [insertEvent]
  | cons x rest ih =>
    obtain ⟨n, f⟩ := x
    unfold insertEvent
    split
    · exact (ih.cons (n, f)).trans (List.Perm.swap ..)
    · exact .refl _

theorem insertEvent_ordered (h : Ordered events) : Ordered (insertEvent m e events) := by
  induction events with
  | nil => simp [insertEvent, Ordered]
  | cons x rest ih =>
    obtain ⟨n, f⟩ := x
    obtain ⟨hfirst, hrest⟩ := List.pairwise_cons.1 h
    unfold insertEvent
    split
    · rename_i hbefore
      refine List.pairwise_cons.2 ⟨fun y hy => ?_, ih hrest⟩
      rcases List.mem_cons.1 ((insertEvent_perm m e rest).mem_iff.1 hy) with rfl | hy
      · exact Moment.not_before_of_before hbefore
      · exact hfirst y hy
    · rename_i hbefore
      rw [Bool.not_eq_true] at hbefore
      refine List.pairwise_cons.2 ⟨fun y hy => ?_, h⟩
      rcases List.mem_cons.1 hy with rfl | hy
      · exact hbefore
      · exact Moment.not_before_trans hbefore (hfirst y hy)

/-! ## Putting down -/

theorem scheduleAt_events (a : Agenda ε) (time : Nat) (phase : Phase) (e : ε) :
    (a.scheduleAt time phase e).2.events.Perm ((⟨max time a.now, phase, a.nextTicket⟩, e) :: a.events) :=
  insertEvent_perm ..

theorem scheduleAt_ordered (h : Ordered a.events) (time : Nat) (phase : Phase) (e : ε) :
    Ordered (a.scheduleAt time phase e).2.events := insertEvent_ordered h

/-! ## Coming up -/

theorem of_pop (h : a.pop = some ((m, e), a')) : a.events = (m, e) :: a'.events ∧ a'.now = m.time ∧
    a'.nextTicket = a.nextTicket ∧ a'.moments = a.moments.erase m.ticket := by
  unfold pop at h
  split at h
  · cases h
  · rename_i hevents
    cases h
    exact ⟨hevents, rfl, rfl, rfl⟩

/-! ## Taking off -/

theorem cancel_events (a : Agenda ε) (ticket : Nat) : (a.cancel ticket).2.events = a.events ∨
    ∃ m, a.moments[ticket]? = some m ∧ (a.cancel ticket).2.events = a.events.filter fun x => x.1 ≠ m := by
  unfold cancel
  split
  · exact .inl rfl
  · exact .inr ⟨_, ‹_›, rfl⟩

/-! ## Tickets -/

/-- A ticket was given for an event of a phase. -/
structure Armed (a : Agenda ε) (ticket : Nat) (phase : Phase) : Prop where
  given : ticket < a.nextTicket
  phase : ∀ m, a.moments[ticket]? = some m → m.phase = phase

variable {ticket : Nat} {phase : Phase}

theorem Armed.erased (h : a.Armed ticket phase) {other : Nat} (hnext : a'.nextTicket = a.nextTicket)
    (hmoments : a'.moments = a.moments.erase other) : a'.Armed ticket phase := by
  refine ⟨hnext ▸ h.given, fun m hm => h.phase m ?_⟩
  rw [hmoments, Std.TreeMap.getElem?_erase] at hm
  split at hm
  · cases hm
  · exact hm

theorem Armed.pop (h : a.Armed ticket phase) (hpop : a.pop = some ((m, e), a')) : a'.Armed ticket phase := by
  obtain ⟨-, -, hnext, hmoments⟩ := of_pop hpop
  exact h.erased hnext hmoments

theorem Armed.cancel (h : a.Armed ticket phase) (other : Nat) : (a.cancel other).2.Armed ticket phase := by
  unfold Agenda.cancel
  split
  · exact h
  · exact h.erased rfl rfl

theorem Armed.scheduleAt (h : a.Armed ticket phase) (time : Nat) (other : Phase) (e : ε) :
    (a.scheduleAt time other e).2.Armed ticket phase := by
  have hgiven := h.given
  refine ⟨Nat.lt_succ_of_lt hgiven, fun m hm => h.phase m ?_⟩
  unfold Agenda.scheduleAt at hm
  simp only [Std.TreeMap.getElem?_insert] at hm
  split at hm
  · rename_i heq
    rw [Nat.compare_eq_eq] at heq
    omega
  · exact hm

theorem armed_scheduleAt (a : Agenda ε) (time : Nat) (phase : Phase) (e : ε) :
    (a.scheduleAt time phase e).2.Armed (a.scheduleAt time phase e).1 phase := by
  refine ⟨Nat.lt_succ_self _, fun m hm => ?_⟩
  unfold scheduleAt at hm
  simp only [Std.TreeMap.getElem?_insert_self, Option.some.injEq] at hm
  exact congrArg Moment.phase hm.symm

end Agenda

end Sidelink
