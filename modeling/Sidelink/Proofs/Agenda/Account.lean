import Mathlib.Data.List.Induction
import Mathlib.Data.List.Nodup
import Sidelink.Proofs.Agenda

/-!
# An agenda and an account of its calls

The calls on a new agenda and its answers are written down in a plain account: what was put down, what came up and
what was taken off. The agenda holds what the account leaves open, and answers by it.
-/

namespace Sidelink.Agenda

variable {ε : Type} {a a' : Agenda ε} {ticket : Nat}

/-! ## The account -/

inductive Call (ε : Type) where
  | scheduleAt (time : Nat) (phase : Phase) (e : ε)
  | scheduleIn (delay : Nat) (phase : Phase) (e : ε)
  | cancel (ticket : Nat)
  | pop

def perform (a : Agenda ε) : Call ε → Agenda ε
  | .scheduleAt time phase e => (a.scheduleAt time phase e).2
  | .scheduleIn delay phase e => (a.scheduleIn delay phase e).2
  | .cancel ticket => (a.cancel ticket).2
  | .pop => (a.pop.map Prod.snd).getD a

structure Account (ε : Type) where
  /-- The time of the last event that came up. -/
  clock : Nat := 0
  /-- In the order of the calls. The ticket of an event is its place here. -/
  scheduled : List (Moment × ε) := []
  popped : List (Moment × ε) := []
  /-- The tickets that an agenda said it took off. -/
  cancelled : List Nat := []

namespace Account

def put (s : Account ε) (time : Nat) (phase : Phase) (e : ε) : Account ε :=
  { s with scheduled := s.scheduled ++ [(⟨max time s.clock, phase, s.scheduled.length⟩, e)] }

/-- Writes down a call and what an agenda answers to it. -/
def note (s : Account ε) (a : Agenda ε) : Call ε → Account ε
  | .scheduleAt time phase e => s.put time phase e
  | .scheduleIn delay phase e => s.put (min (s.clock + delay) (limit64 - 1)) phase e
  | .cancel ticket => if (a.cancel ticket).1 then { s with cancelled := s.cancelled ++ [ticket] } else s
  | .pop =>
    match a.pop with
    | none => s
    | some (x, _) => { s with clock := x.1.time, popped := s.popped ++ [x] }

/-- The tickets of the events that came up or were taken off. -/
def closed (s : Account ε) : List Nat := s.popped.map (·.1.ticket) ++ s.cancelled

def pending (s : Account ε) : List (Moment × ε) := s.scheduled.filter (·.1.ticket ∉ s.closed)

end Account

/-- The account of calls on a new agenda, and the agenda after them. -/
def accountOf (calls : List (Call ε)) : Account ε × Agenda ε :=
  calls.foldl (fun (s, a) c => (s.note a c, a.perform c)) ({}, {})

/-! ## Events that are to come

An agenda against the events that were put down in it and the tickets that are closed. -/

structure Holds (scheduled : List (Moment × ε)) (closed : List Nat) (a : Agenda ε) : Prop where
  next : a.nextTicket = scheduled.length
  tickets : scheduled.map (·.1.ticket) = List.range scheduled.length
  ordered : Ordered a.events
  pending : a.events.Perm (scheduled.filter (·.1.ticket ∉ closed))
  moments : ∀ ticket m, a.moments[ticket]? = some m ↔ m.ticket = ticket ∧ ∃ e, (m, e) ∈ a.events
  nodup : closed.Nodup
  given : ∀ ticket ∈ closed, ticket < scheduled.length

namespace Holds

variable {scheduled : List (Moment × ε)} {closed : List Nat} {x y : Moment × ε}

theorem mem_events (h : Holds scheduled closed a) : x ∈ a.events ↔ x ∈ scheduled ∧ x.1.ticket ∉ closed := by
  rw [h.pending.mem_iff, List.mem_filter, decide_eq_true_eq]

theorem ticket_lt (h : Holds scheduled closed a) (hx : x ∈ scheduled) : x.1.ticket < scheduled.length := by
  have hmem : x.1.ticket ∈ scheduled.map (·.1.ticket) := List.mem_map_of_mem hx
  rwa [h.tickets, List.mem_range] at hmem

theorem exists_scheduled (h : Holds scheduled closed a) (hlt : ticket < scheduled.length) :
    ∃ x ∈ scheduled, x.1.ticket = ticket := by
  rw [← List.mem_range, ← h.tickets] at hlt
  exact List.mem_map.1 hlt

theorem scheduled_nodup (h : Holds scheduled closed a) : (scheduled.map (·.1.ticket)).Nodup :=
  h.tickets ▸ List.nodup_range

theorem eq_of_ticket (h : Holds scheduled closed a) (hx : x ∈ a.events) (hy : y ∈ a.events)
    (hticket : x.1.ticket = y.1.ticket) : x = y :=
  List.inj_on_of_nodup_map h.scheduled_nodup (h.mem_events.1 hx).1 (h.mem_events.1 hy).1 hticket

theorem events_nodup (h : Holds scheduled closed a) : a.events.Nodup :=
  h.pending.nodup_iff.2 ((h.scheduled_nodup.of_map _).filter _)

theorem put (h : Holds scheduled closed a) (time : Nat) (phase : Phase) (e : ε) :
    Holds (scheduled ++ [(⟨max time a.now, phase, scheduled.length⟩, e)]) closed (a.scheduleAt time phase e).2 := by
  have hfresh : scheduled.length ∉ closed := fun hmem => Nat.lt_irrefl _ (h.given _ hmem)
  have hevents := scheduleAt_events a time phase e
  rw [h.next] at hevents
  constructor
  case next => simp [scheduleAt, h.next]
  case tickets => simp [h.tickets, List.range_succ]
  case ordered => exact scheduleAt_ordered h.ordered ..
  case pending =>
    refine hevents.trans ((h.pending.cons _).trans ?_)
    rw [List.filter_append, List.filter_singleton]
    simpa [hfresh] using (List.perm_append_singleton _ _).symm
  case moments =>
    intro ticket m
    simp only [scheduleAt, Std.TreeMap.getElem?_insert, Nat.compare_eq_eq, h.next]
    simp only [scheduleAt, h.next] at hevents
    simp only [hevents.mem_iff, List.mem_cons, Prod.mk.injEq]
    split
    · rename_i hticket
      subst hticket
      constructor
      · rintro ⟨⟩
        exact ⟨rfl, e, .inl ⟨rfl, rfl⟩⟩
      · rintro ⟨hm, f, ⟨rfl, -⟩ | hmem⟩
        · rfl
        · exact absurd (h.ticket_lt (h.mem_events.1 hmem).1) (by simp [hm])
    · rename_i hticket
      rw [h.moments]
      refine and_congr_right fun hm => exists_congr fun f => ?_
      rw [or_iff_right]
      rintro ⟨rfl, -⟩
      exact hticket hm
  case nodup => exact h.nodup
  case given =>
    intro ticket hmem
    rw [List.length_append]
    exact Nat.lt_add_right _ (h.given _ hmem)

theorem close (h : Holds scheduled closed a) {closed' : List Nat} (hx : x ∈ a.events)
    (hnext : a'.nextTicket = a.nextTicket) (hmoments : a'.moments = a.moments.erase x.1.ticket)
    (hevents : a'.events = a.events.filter (·.1.ticket ≠ x.1.ticket)) (hclosed : closed'.Perm (x.1.ticket :: closed)) :
    Holds scheduled closed' a' := by
  obtain ⟨hscheduled, hopen⟩ := h.mem_events.1 hx
  constructor
  case next => exact hnext.trans h.next
  case tickets => exact h.tickets
  case ordered => exact hevents ▸ List.Pairwise.filter _ h.ordered
  case pending =>
    rw [hevents]
    refine (h.pending.filter _).trans (.of_eq ?_)
    rw [List.filter_filter]
    refine List.filter_congr fun y _ => ?_
    simp [hclosed.mem_iff]
  case moments =>
    intro ticket m
    rw [hmoments, Std.TreeMap.getElem?_erase]
    simp only [Nat.compare_eq_eq, hevents, List.mem_filter, decide_eq_true_eq]
    split
    · rename_i hticket
      subst hticket
      simp +contextual
    · rename_i hticket
      rw [h.moments]
      refine and_congr_right fun hm => exists_congr fun f => ?_
      simp [hm, Ne.symm hticket]
  case nodup => exact hclosed.nodup_iff.2 (List.nodup_cons.2 ⟨hopen, h.nodup⟩)
  case given =>
    intro ticket hmem
    rcases List.mem_cons.1 (hclosed.mem_iff.1 hmem) with rfl | hmem
    · exact h.ticket_lt hscheduled
    · exact h.given _ hmem

theorem isPending_iff (h : Holds scheduled closed a) :
    a.isPending ticket = true ↔ ticket < scheduled.length ∧ ticket ∉ closed := by
  rw [isPending, Std.TreeMap.contains_eq_isSome_getElem?, Option.isSome_iff_exists]
  constructor
  · rintro ⟨m, hm⟩
    obtain ⟨rfl, e, hmem⟩ := (h.moments _ _).1 hm
    obtain ⟨hscheduled, hopen⟩ := h.mem_events.1 hmem
    exact ⟨h.ticket_lt hscheduled, hopen⟩
  · rintro ⟨hlt, hopen⟩
    obtain ⟨x, hx, rfl⟩ := h.exists_scheduled hlt
    exact ⟨x.1, (h.moments _ _).2 ⟨rfl, x.2, h.mem_events.2 ⟨hx, hopen⟩⟩⟩

theorem filter_length (h : Holds scheduled closed a) (hx : x ∈ a.events) :
    (a.events.filter (·.1.ticket ≠ x.1.ticket)).length + 1 = a.events.length := by
  classical
  have herase : a.events.filter (·.1.ticket ≠ x.1.ticket) = a.events.erase x := by
    rw [h.events_nodup.erase_eq_filter]
    refine List.filter_congr fun y hy => ?_
    rw [Bool.eq_iff_iff, decide_eq_true_eq, bne_iff_ne]
    exact not_congr ⟨h.eq_of_ticket hy hx, fun heq => heq ▸ rfl⟩
  rw [herase, List.length_erase_add_one hx]

theorem cancel_of_mem (h : Holds scheduled closed a) (hx : x ∈ a.events) :
    a.cancel x.1.ticket = (true, { a with
      events := a.events.filter (·.1.ticket ≠ x.1.ticket)
      moments := a.moments.erase x.1.ticket }) := by
  have hany : (a.events.any fun y => y.1 = x.1) = true := List.any_eq_true.2 ⟨x, hx, by simp⟩
  have hfilter : a.events.filter (fun y => y.1 ≠ x.1) = a.events.filter (·.1.ticket ≠ x.1.ticket) := by
    refine List.filter_congr fun y hy => decide_eq_decide.2 (not_congr ⟨congrArg _, fun hticket => ?_⟩)
    rw [h.eq_of_ticket hy hx hticket]
  rw [cancel, (h.moments _ x.1).2 ⟨rfl, x.2, hx⟩]
  exact Prod.ext hany (congrArg (fun events => { a with events, moments := a.moments.erase x.1.ticket }) hfilter)

theorem before_of_first (h : Holds scheduled closed a) {rest : List (Moment × ε)} (hevents : a.events = x :: rest)
    (hy : y ∈ a.events) (hne : y ≠ x) : x.1.before y.1 = true := by
  have hx : x ∈ a.events := by rw [hevents]; exact List.mem_cons_self
  have hordered := h.ordered
  have hy' := hy
  rw [hevents] at hordered hy'
  have hnot := (List.pairwise_cons.1 hordered).1 y ((List.mem_cons.1 hy').resolve_left hne)
  have hticket : y.1.ticket ≠ x.1.ticket := fun heq => hne (h.eq_of_ticket hy hx heq)
  rw [Moment.not_before_iff] at hnot
  rw [Moment.before_iff]
  omega

end Holds

/-! ## Calls -/

theorem cancel_of_none (h : a.moments[ticket]? = none) : a.cancel ticket = (false, a) := by
  rw [cancel, h]

/-- What an agenda and the account of its calls have to do with each other. -/
structure Faithful (s : Account ε) (a : Agenda ε) : Prop where
  holds : Holds s.scheduled s.closed a
  now : a.now = s.clock
  future : ∀ x ∈ a.events, a.now ≤ x.1.time
  popped : ∀ x ∈ s.popped, x ∈ s.scheduled ∧ x.1.time ≤ a.now
  sorted : (s.popped.map (·.1.time)).Pairwise (· ≤ ·)
  length : a.length + s.popped.length + s.cancelled.length = s.scheduled.length

namespace Faithful

variable {s : Account ε}

theorem empty : Faithful ({} : Account ε) {} := by
  refine ⟨⟨rfl, rfl, .nil, .nil, fun ticket m => ?_, .nil, ?_⟩, rfl, ?_, ?_, .nil, rfl⟩ <;> simp [Account.closed]

theorem put (h : Faithful s a) (time : Nat) (phase : Phase) (e : ε) :
    Faithful (s.put time phase e) (a.scheduleAt time phase e).2 := by
  have hevents := scheduleAt_events a time phase e
  constructor
  case holds =>
    have hput := h.holds.put time phase e
    rw [h.now] at hput
    exact hput
  case now => exact h.now
  case future =>
    intro x hx
    rcases List.mem_cons.1 (hevents.mem_iff.1 hx) with rfl | hx
    · exact Nat.le_max_right ..
    · exact h.future x hx
  case popped => exact fun x hx => ⟨List.mem_append_left _ (h.popped x hx).1, (h.popped x hx).2⟩
  case sorted => exact h.sorted
  case length =>
    have hlength := h.length
    have hlength' := hevents.length_eq
    simp only [Agenda.length, Account.put, List.length_append, List.length_cons, List.length_nil] at *
    omega

theorem cancel (h : Faithful s a) (ticket : Nat) : Faithful (s.note a (.cancel ticket)) (a.cancel ticket).2 := by
  dsimp only [Account.note]
  cases hm : a.moments[ticket]? with
  | none =>
    rw [cancel_of_none hm]
    exact h
  | some m =>
    obtain ⟨rfl, e, hx⟩ := (h.holds.moments _ _).1 hm
    have hcancel : a.cancel m.ticket = _ := h.holds.cancel_of_mem hx
    rw [hcancel, if_pos rfl]
    constructor
    case holds =>
      refine h.holds.close hx rfl rfl rfl ?_
      rw [Account.closed, ← List.append_assoc]
      exact List.perm_append_singleton _ _
    case now => exact h.now
    case future => exact fun x hx => h.future x (List.mem_of_mem_filter hx)
    case popped => exact h.popped
    case sorted => exact h.sorted
    case length =>
      have hall := h.length
      have hlength := h.holds.filter_length hx
      simp only [Agenda.length, List.length_append, List.length_cons, List.length_nil] at hall hlength ⊢
      omega

theorem pop (h : Faithful s a) : Faithful (s.note a .pop) ((a.pop.map Prod.snd).getD a) := by
  unfold Account.note
  cases hpop : a.pop with
  | none => exact h
  | some next =>
    obtain ⟨x, a'⟩ := next
    obtain ⟨hevents, hnow, hnext, hmoments⟩ := of_pop hpop
    have hx : x ∈ a.events := by rw [hevents]; exact List.mem_cons_self
    have hfilter : a'.events = a.events.filter (·.1.ticket ≠ x.1.ticket) := by
      have hnodup := h.holds.events_nodup
      rw [hevents, List.nodup_cons] at hnodup
      rw [hevents, List.filter_cons_of_neg (by simp), eq_comm, List.filter_eq_self]
      intro y hy
      refine decide_eq_true fun hticket => hnodup.1 ?_
      rwa [← h.holds.eq_of_ticket (hevents ▸ List.mem_cons_of_mem _ hy) hx hticket]
    dsimp only [Option.map_some, Option.getD_some]
    constructor
    case holds =>
      refine h.holds.close hx hnext hmoments hfilter ?_
      rw [Account.closed, List.map_append, List.append_assoc]
      exact List.perm_middle
    case now => exact hnow
    case future =>
      intro y hy
      have hordered := h.holds.ordered
      rw [hevents] at hordered
      have hnot := (List.pairwise_cons.1 hordered).1 y hy
      rw [Moment.not_before_iff] at hnot
      rw [hnow]
      dsimp only at hnot ⊢
      omega
    case popped =>
      intro y hy
      rw [hnow]
      rcases List.mem_append.1 hy with hy | hy
      · exact ⟨(h.popped y hy).1, Nat.le_trans (h.popped y hy).2 (h.future x hx)⟩
      · rw [List.mem_singleton.1 hy]
        exact ⟨(h.holds.mem_events.1 hx).1, Nat.le_refl _⟩
    case sorted =>
      rw [List.map_append, List.pairwise_append]
      refine ⟨h.sorted, List.pairwise_singleton .., fun t ht u hu => ?_⟩
      obtain ⟨y, hy, rfl⟩ := List.mem_map.1 ht
      obtain ⟨z, hz, rfl⟩ := List.mem_map.1 hu
      rw [List.mem_singleton.1 hz]
      exact Nat.le_trans (h.popped y hy).2 (h.future x hx)
    case length =>
      have hall := h.length
      have hlength := congrArg List.length hevents
      simp only [Agenda.length, List.length_append, List.length_cons, List.length_nil] at hall hlength ⊢
      omega

theorem perform (h : Faithful s a) (c : Call ε) : Faithful (s.note a c) (a.perform c) := by
  cases c with
  | scheduleAt time phase e => exact h.put time phase e
  | scheduleIn delay phase e =>
    dsimp only [Account.note, Agenda.perform, scheduleIn]
    rw [← h.now]
    exact h.put ..
  | cancel ticket => exact h.cancel ticket
  | pop => exact h.pop

end Faithful

theorem faithful_accountOf (calls : List (Call ε)) : Faithful (accountOf calls).1 (accountOf calls).2 := by
  induction calls using List.reverseRecOn with
  | nil => exact Faithful.empty
  | append_singleton calls c ih =>
    unfold accountOf at *
    rw [List.foldl_append]
    exact ih.perform c

/-! ## What an agenda answers -/

structure Agrees (s : Account ε) (a : Agenda ε) : Prop where
  tickets : s.scheduled.map (·.1.ticket) = List.range s.scheduled.length
  ticket : ∀ time phase e, (a.scheduleAt time phase e).1 = s.scheduled.length
  clock : a.now = s.clock
  events : a.events.Perm s.pending
  moments : ∀ ticket m, a.moments[ticket]? = some m ↔ m.ticket = ticket ∧ ∃ e, (m, e) ∈ s.pending
  future : ∀ x ∈ s.pending, a.now ≤ x.1.time
  /-- Of the pending events the one that is before all others comes up, at the time it was put down for. -/
  pop : match a.pop with
    | none => s.pending = []
    | some (x, a') => x ∈ s.pending ∧ (∀ y ∈ s.pending, y ≠ x → x.1.before y.1 = true) ∧ a'.now = x.1.time
  sorted : (s.popped.map (·.1.time)).Pairwise (· ≤ ·)
  popped : s.popped ⊆ s.scheduled
  /-- No event comes up twice, is taken off twice, or both comes up and is taken off. -/
  once : s.closed.Nodup
  isPending : ∀ ticket, a.isPending ticket = true ↔
    ticket < s.scheduled.length ∧ ticket ∉ s.popped.map (·.1.ticket) ∧ ticket ∉ s.cancelled
  cancel : ∀ ticket, (a.cancel ticket).1 = true ↔ a.isPending ticket = true
  length : a.length = s.scheduled.length - s.popped.length - s.cancelled.length

namespace Faithful

variable {s : Account ε}

theorem pop_least (h : Faithful s a) :
    match a.pop with
    | none => s.pending = []
    | some (x, a') => x ∈ s.pending ∧ (∀ y ∈ s.pending, y ≠ x → x.1.before y.1 = true) ∧ a'.now = x.1.time := by
  have hpending := h.holds.pending
  cases hpop : a.pop with
  | none =>
    unfold Agenda.pop at hpop
    split at hpop
    · rename_i hevents
      rw [hevents] at hpending
      exact hpending.nil_eq.symm
    · cases hpop
  | some next =>
    obtain ⟨x, a'⟩ := next
    obtain ⟨hevents, hnow, -, -⟩ := of_pop hpop
    refine ⟨hpending.mem_iff.1 (hevents ▸ List.mem_cons_self), fun y hy hne => ?_, hnow⟩
    exact h.holds.before_of_first hevents (hpending.mem_iff.2 hy) hne

theorem cancel_iff (h : Faithful s a) (ticket : Nat) :
    (a.cancel ticket).1 = true ↔ a.isPending ticket = true := by
  rw [isPending, Std.TreeMap.contains_eq_isSome_getElem?]
  cases hm : a.moments[ticket]? with
  | none => simp [cancel_of_none hm]
  | some m =>
    obtain ⟨rfl, e, hx⟩ := (h.holds.moments _ _).1 hm
    have hcancel : a.cancel m.ticket = _ := h.holds.cancel_of_mem hx
    simp [hcancel]

theorem agrees (h : Faithful s a) : Agrees s a := by
  have hpending := h.holds.pending
  constructor
  case tickets => exact h.holds.tickets
  case ticket => exact fun _ _ _ => h.holds.next
  case clock => exact h.now
  case events => exact hpending
  case moments =>
    intro ticket m
    rw [h.holds.moments]
    exact and_congr_right fun _ => exists_congr fun e => hpending.mem_iff
  case future => exact fun x hx => h.future x (hpending.mem_iff.2 hx)
  case pop => exact h.pop_least
  case sorted => exact h.sorted
  case popped => exact fun x hx => (h.popped x hx).1
  case once => exact h.holds.nodup
  case isPending =>
    intro ticket
    rw [h.holds.isPending_iff, Account.closed, List.mem_append, not_or]
  case cancel => exact h.cancel_iff
  case length =>
    have hlength := h.length
    omega

end Faithful

/-- After any calls on a new agenda it agrees with their account. -/
theorem agrees_accountOf (calls : List (Call ε)) : Agrees (accountOf calls).1 (accountOf calls).2 :=
  (faithful_accountOf calls).agrees

/-- A time in the past is taken as now, and an event that is taken off does not come up. -/
example : ((accountOf (ε := Char) [.scheduleAt 100 .report 'a', .pop, .scheduleIn 50 .report 'b',
    .scheduleAt 20 .report 'c', .scheduleAt 90 .mac 'd', .cancel 3, .cancel 3, .pop, .pop, .pop]).1.popped.map
      fun x => (x.1.time, x.2)) = [(100, 'a'), (100, 'c'), (150, 'b')] := by decide +kernel

end Sidelink.Agenda
