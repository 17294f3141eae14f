import Sidelink.Proofs.Agenda.Account

/-!
# What is pending

The moments at which an event is to come up, and what each call makes of them. No two events of an agenda have one
ticket, so that taking off by a ticket leaves all other events as they are.
-/

namespace Sidelink.Agenda

variable {ε : Type} {a a' : Agenda ε} {m : Moment} {e : ε}

/-- Some calls made the agenda. -/
def Sound (a : Agenda ε) : Prop := ∃ s, Faithful s a

theorem sound_empty : Sound ({} : Agenda ε) := ⟨_, .empty⟩

theorem Sound.scheduleAt (h : a.Sound) (time : Nat) (phase : Phase) (e : ε) :
    (a.scheduleAt time phase e).2.Sound := by
  obtain ⟨s, h⟩ := h
  exact ⟨_, h.put time phase e⟩

theorem Sound.cancel (h : a.Sound) (ticket : Nat) : (a.cancel ticket).2.Sound := by
  obtain ⟨s, h⟩ := h
  exact ⟨_, h.cancel ticket⟩

theorem Sound.pop (h : a.Sound) (hpop : a.pop = some ((m, e), a')) : a'.Sound := by
  obtain ⟨s, h⟩ := h
  have hrest := h.pop
  rw [hpop] at hrest
  exact ⟨_, hrest⟩

theorem Sound.ordered (h : a.Sound) : Ordered a.events := by
  obtain ⟨s, h⟩ := h
  exact h.holds.ordered

/-! ## Moments -/

variable [DecidableEq ε]

/-- The moments at which an event is to come up. -/
def momentsOf (a : Agenda ε) (e : ε) : List Moment := (a.events.filter fun x => x.2 = e).map Prod.fst

theorem mem_momentsOf : m ∈ a.momentsOf e ↔ (m, e) ∈ a.events := by
  simp [momentsOf]

theorem momentsOf_pop (h : a.pop = some ((m, e), a')) (e' : ε) :
    a.momentsOf e' = if e = e' then m :: a'.momentsOf e' else a'.momentsOf e' := by
  rw [momentsOf, (of_pop h).1]
  split
  · rw [List.filter_cons_of_pos (by simpa), List.map_cons]
    rfl
  · rw [List.filter_cons_of_neg (by simpa)]
    rfl

omit [DecidableEq ε] in
theorem filter_insertEvent {p : Moment × ε → Bool} (h : p (m, e) = false) (events : List (Moment × ε)) :
    (insertEvent m e events).filter p = events.filter p := by
  induction events with
  | nil => simp [insertEvent, h]
  | cons x rest ih =>
    unfold insertEvent
    split
    · rw [List.filter_cons, List.filter_cons, ih]
    · rw [List.filter_cons_of_neg (by simp [h])]

omit [DecidableEq ε] in
theorem scheduleAt_now (a : Agenda ε) (time : Nat) (phase : Phase) (e : ε) :
    (a.scheduleAt time phase e).2.now = a.now := rfl

theorem momentsOf_scheduleAt (h : a.momentsOf e = []) (time : Nat) (phase : Phase) (e' : ε) :
    (a.scheduleAt time phase e).2.momentsOf e' =
      if e = e' then [⟨max time a.now, phase, a.nextTicket⟩] else a.momentsOf e' := by
  split
  · rename_i he
    subst he
    have hperm := ((scheduleAt_events a time phase e).filter fun x => x.2 = e).map Prod.fst
    rw [List.filter_cons_of_pos (by simp), List.map_cons] at hperm
    exact List.perm_singleton.1 (h ▸ hperm)
  · exact congrArg (List.map Prod.fst) (filter_insertEvent (by simpa) _)

theorem momentsOf_of_pop (hpop : a.pop = some ((m, e), a')) (h : (a.momentsOf e).length ≤ 1) :
    a'.momentsOf e = [] := by
  rw [momentsOf_pop hpop, if_pos rfl, List.length_cons] at h
  exact List.length_eq_zero_iff.1 (by omega)

theorem momentsOf_again (hpop : a.pop = some ((m, e), a')) (h : (a.momentsOf e).length ≤ 1) (time : Nat)
    (phase : Phase) (e' : ε) :
    (a'.scheduleAt time phase e).2.momentsOf e' =
      if e = e' then [⟨max time a'.now, phase, a'.nextTicket⟩] else a.momentsOf e' := by
  rw [momentsOf_scheduleAt (momentsOf_of_pop hpop h), momentsOf_pop hpop]
  split <;> rfl

theorem Sound.momentsOf_cancel (h : a.Sound) (hm : a.momentsOf e = [m]) (e' : ε) :
    (a.cancel m.ticket).2.momentsOf e' = if e = e' then [] else a.momentsOf e' := by
  obtain ⟨s, h⟩ := h
  have hmem : (m, e) ∈ a.events := mem_momentsOf.1 (by rw [hm]; exact List.mem_singleton_self m)
  have hcancel : a.cancel m.ticket = _ := h.holds.cancel_of_mem hmem
  rw [hcancel, momentsOf]
  dsimp only
  rw [List.filter_filter]
  split
  · rename_i he
    subst he
    refine List.map_eq_nil_iff.2 (List.filter_eq_nil_iff.2 fun x hx => ?_)
    simp only [Bool.and_eq_true, decide_eq_true_eq, not_and, not_not]
    intro hxe
    have hxm : x.1 ∈ a.momentsOf e := mem_momentsOf.2 (hxe ▸ hx)
    rw [hm, List.mem_singleton] at hxm
    rw [hxm]
  · rename_i he
    refine congrArg (List.map Prod.fst) (List.filter_congr fun x hx => ?_)
    rw [Bool.eq_iff_iff]
    simp only [Bool.and_eq_true, decide_eq_true_eq, and_iff_left_iff_imp]
    rintro rfl hticket
    exact he (congrArg Prod.snd (h.holds.eq_of_ticket hx hmem hticket)).symm

end Sidelink.Agenda
