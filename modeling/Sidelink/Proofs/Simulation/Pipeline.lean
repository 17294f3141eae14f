import Sidelink.Proofs.Simulation.Turns

/-!
# The slots of a run

Receptions and slots take turns, one of each at every multiple of the length of a slot. What a slot puts on the air is
what the next reception evaluates, as far as its senders are still there.
-/

namespace Sidelink

variable {α γ : Type}

theorem getElem?_snoc {β : Type} {xs : List β} {x y : β} {i : Nat} :
    (xs ++ [x])[i]? = some y ↔ xs[i]? = some y ∨ i = xs.length ∧ x = y := by
  rcases Nat.lt_trichotomy i xs.length with hlt | rfl | hlt
  · rw [List.getElem?_append_left hlt, or_iff_left]
    omega
  · simp
  · rw [List.getElem?_eq_none (by simp; omega), List.getElem?_eq_none (by omega)]
    simp
    omega

/-! ## Turns of a kind -/

def turnsOf (e : Event) (turns : List (Turn α γ)) : List (Turn α γ) := turns.filter fun t => t.event = e

theorem turnsOf_snoc (e : Event) (turns : List (Turn α γ)) (t : Turn α γ) :
    turnsOf e (turns ++ [t]) = if t.event = e then turnsOf e turns ++ [t] else turnsOf e turns := by
  rw [turnsOf, List.filter_append, List.filter_singleton]
  by_cases h : t.event = e <;> simp [h, turnsOf]

namespace World

variable {w w' : World α γ} {xs : List (OnAir α)}

/-- Of some transmissions those whose senders are in the world. -/
def present (w : World α γ) (xs : List (OnAir α)) : List (OnAir α) :=
  xs.filter fun a => a.node ∈ w.nodes.map (·.id)

theorem present_congr (hids : w'.nodes.map (·.id) = w.nodes.map (·.id)) : w'.present xs = w.present xs := by
  unfold present
  rw [hids]

theorem present_eq (h : ∀ a ∈ xs, a.node ∈ w.nodes.map (·.id)) : w.present xs = xs :=
  List.filter_eq_self.2 fun a ha => decide_eq_true (h a ha)

theorem of_present_eq (h : w.present xs = xs) {a : OnAir α} (ha : a ∈ xs) : a.node ∈ w.nodes.map (·.id) :=
  of_decide_eq_true (List.filter_eq_self.1 h a ha)

theorem removeNode_present (id : Nat) (h : w.onAir = w.present xs) :
    (w.removeNode id).2.onAir = (w.removeNode id).2.present xs := by
  unfold removeNode
  split
  · exact h
  · dsimp only
    rw [h, present, present, List.filter_filter]
    refine List.filter_congr fun a _ => ?_
    rw [Bool.eq_iff_iff]
    simp only [Bool.and_eq_true, decide_eq_true_eq, List.mem_map, List.mem_filter]
    constructor
    · rintro ⟨hne, n, hn, heq⟩
      exact ⟨n, ⟨hn, by rwa [heq]⟩, heq⟩
    · rintro ⟨n, ⟨hn, hne⟩, heq⟩
      exact ⟨by rwa [← heq], n, hn, heq⟩

section

variable [Analysis α] [RandomSource γ]

theorem moveAll_present (h : w.onAir = w.present xs) : w.moveAll.onAir = w.moveAll.present xs := by
  refine moveAll_keeps (P := fun w : World α γ => w.onAir = w.present xs) h (fun w place h => ?_)
    (fun w id h => removeNode_present id h) fun _ _ _ h => h
  refine h.trans (present_congr ?_).symm
  simp

theorem fireTimer_onAir {id : Nat} (hok : w.fireTimer id = (.ok (), w')) :
    w'.onAir = w.onAir ∧ w'.nodes.map (·.id) = w.nodes.map (·.id) := by
  obtain ⟨-, rfl⟩ | ⟨n, n', hn, -, hrearm⟩ := of_fireTimer hok
  · exact ⟨rfl, rfl⟩
  · obtain ⟨delay, g, -, rfl⟩ := of_rearm hrearm
    have hgenerated := generate_generated (mem_of_node? hn).1
    exact ⟨hgenerated.onAir, (setNode_ids ..).trans hgenerated.ids⟩

theorem receiveAll_onAir (w : World α γ) : w.receiveAll.2.onAir = [] := by
  unfold receiveAll
  split
  · assumption
  · refine stepEach_keeps (P := fun w' : World α γ => w'.onAir = []) (fun id w' hw => ?_) _ _ rfl
    rcases receiveAt_received _ id w' with hsame | ⟨n, r, -, -, hset⟩
    · rw [hsame, hw]
    · rw [hset]
      exact hw

theorem serveAll_onAir (h : w.present w.onAir = w.onAir) (hok : w.serveAll = (.ok (), w')) :
    w'.present w'.onAir = w'.onAir := by
  obtain ⟨now, w₁, -, hserved, rfl⟩ := of_serveAll hok
  refine present_eq (stepEach_ok (P := fun _ w₁ => ∀ a ∈ w₁.onAir, a.node ∈ w₁.nodes.map (·.id))
    (fun id _ w₁ w₂ hw hstep => ?_) (fun _ => of_present_eq h) hserved)
  rcases of_serveAt hstep with ⟨-, rfl⟩ | ⟨n, r, r', sent, hn, hdelivered, hsend, rfl⟩
  · exact hw
  · dsimp only
    rw [setNode_ids]
    intro a ha
    rcases List.mem_append.1 ha with ha | ha
    · exact hw a ha
    · obtain ⟨tx, flow, g, -, -, rfl, -⟩ := AtNode.of_send hsend
      obtain ⟨t, -, rfl⟩ := Option.map_eq_some_iff.1 (Option.mem_toList.1 ha)
      have hid := stepEach_ok (P := fun _ r => r.node.id = n.id)
        (fun _ _ _ _ hr hstep => (AtNode.deliver_id hstep).trans hr) rfl hdelivered
      exact List.mem_map.2 ⟨n, (mem_of_node? hn).1, hid.symm⟩

theorem handle_onAir {e : Event} (hmac : e ≠ .mac) (hreception : e ≠ .reception) (h : w.onAir = w.present xs)
    (hok : handle e w = (.ok (), w')) : w'.onAir = w'.present xs := by
  cases e with
  | mac => exact absurd rfl hmac
  | reception => exact absurd rfl hreception
  | mobility =>
    cases hok
    exact moveAll_present h
  | traffic id =>
    obtain ⟨honAir, hids⟩ := fireTimer_onAir hok
    rw [honAir, present_congr hids, h]
  | report =>
    cases hok
    exact h

end

end World

/-! ## Slots and receptions -/

section

variable [Analysis α] [RandomSource γ]

/-- What the last slot put on the air. -/
def collected (slots : List (Turn α γ)) : List (OnAir α) :=
  match slots.getLast? with
  | none => []
  | some t => (World.handle .mac t.before).2.onAir

/-- The slots of a run and its receptions in their places. -/
structure Paced (s : Setup α) (slots receptions : List (Turn α γ)) : Prop where
  slot : ∀ n t, slots[n]? = some t → t.moment.time = n * s.numerology.slotUs ∧ t.before.onAir = [] ∧
    Slot.ofTime (α := α) t.before.nowUs t.before.setup.numerology.slotMs =
      if (n + 15) * s.numerology.slotUs < limit64 then .ok (.ofIndex (14 + n))
      else .error (OfFault.ofFault .overflow)
  reception : ∀ n t, receptions[n]? = some t → t.moment.time = n * s.numerology.slotUs
  /-- The first reception has nothing to evaluate. -/
  first : ∀ t, receptions[0]? = some t → t.before.onAir = []
  /-- Any other one evaluates what the slot before it put on the air, as far as the senders are still there. -/
  evaluated : ∀ n t u, slots[n]? = some t → receptions[n + 1]? = some u →
    u.before.onAir = u.before.present (World.handle .mac t.before).2.onAir
  even : receptions.length = slots.length ∨ receptions.length = slots.length + 1

/-- What is to come after some slots: the next one, and before it a reception, if that is not over. -/
structure Awaits (s : Setup α) (slots receptions : List (Turn α γ)) (w : World α γ) : Prop where
  slot : w.agenda.timesOf .mac = [slots.length * s.numerology.slotUs]
  reception : receptions.length = slots.length →
    w.agenda.timesOf .reception = [slots.length * s.numerology.slotUs] ∧ w.onAir = w.present (collected slots)
  received : receptions.length ≠ slots.length → w.agenda.timesOf .reception = [] ∧ w.onAir = []

variable {s : Setup α} {slots receptions : List (Turn α γ)} {w w' : World α γ} {m : Moment} {e : Event}
  {agenda : Agenda Event} {added : List (Moment × Event)} {t : Turn α γ}

theorem Awaits.pop_slot (h : Awaits s slots receptions w) (hordered : Agenda.Ordered w.agenda.events)
    (hphases : ∀ x ∈ w.agenda.events, x.1.phase = x.2.phase) (hpop : w.agenda.pop = some ((m, .mac), agenda)) :
    m.time = slots.length * s.numerology.slotUs ∧ agenda.timesOf .mac = [] ∧ agenda.timesOf .reception = [] ∧
      w.onAir = [] ∧ receptions.length ≠ slots.length := by
  have hslot := h.slot
  have hreception := Agenda.timesOf_pop hpop .reception
  rw [Agenda.timesOf_pop hpop, if_pos rfl] at hslot
  rw [if_neg (by simp)] at hreception
  obtain ⟨htime, hnone⟩ := List.cons_eq_cons.1 hslot
  have hdue : receptions.length ≠ slots.length := by
    intro heven
    have hmem : m.time ∈ w.agenda.timesOf .reception := by simp [(h.reception heven).1, htime]
    obtain ⟨m', hm', htime'⟩ := Agenda.mem_timesOf.1 hmem
    exact Agenda.time_ne_of_pop_slot hordered hphases hpop hm' htime'
  obtain ⟨hover, honAir⟩ := h.received hdue
  exact ⟨htime, hnone, hreception ▸ hover, honAir, hdue⟩

theorem Awaits.pop_reception (h : Awaits s slots receptions w)
    (hpop : w.agenda.pop = some ((m, .reception), agenda)) :
    receptions.length = slots.length ∧ m.time = slots.length * s.numerology.slotUs ∧
      agenda.timesOf .reception = [] ∧ w.onAir = w.present (collected slots) := by
  have htimes := Agenda.timesOf_pop hpop .reception
  rw [if_pos rfl] at htimes
  by_cases heven : receptions.length = slots.length
  · obtain ⟨hdue, honAir⟩ := h.reception heven
    rw [hdue] at htimes
    obtain ⟨htime, hnone⟩ := List.cons_eq_cons.1 htimes
    exact ⟨heven, htime.symm, hnone.symm, honAir⟩
  · rw [(h.received heven).1] at htimes
    cases htimes

/-! ### A slot -/

theorem Paced.slot_snoc [Scalar.LawfulSlots α] [Scalar.PositiveSlots α] (h : Paced s slots receptions)
    (hdue : receptions.length ≠ slots.length)
    (htime : t.moment.time = slots.length * s.numerology.slotUs) (hnow : t.before.nowUs = t.moment.time)
    (hsetup : t.before.setup = s) (honAir : t.before.onAir = []) : Paced s (slots ++ [t]) receptions := by
  have heven := h.even
  constructor
  case slot =>
    intro n u hu
    rcases getElem?_snoc.1 hu with hu | ⟨rfl, rfl⟩
    · exact h.slot n u hu
    · refine ⟨htime, honAir, ?_⟩
      rw [hnow, htime, hsetup, Slot.ofTime_eq, ← Nat.add_mul, Numerology.slotAt,
        Nat.mul_div_cancel _ (Numerology.slotUs_pos _), decisionDelaySlots, Nat.add_comm 14]
      rfl
  case reception => exact h.reception
  case first => exact h.first
  case evaluated =>
    intro n u v hu hv
    have hlt := (List.getElem?_eq_some_iff.1 hv).1
    rcases getElem?_snoc.1 hu with hu | ⟨rfl, rfl⟩
    · exact h.evaluated n u v hu hv
    · omega
  case even =>
    rw [List.length_append, List.length_singleton]
    omega

theorem Awaits.slot_snoc (h : Awaits s slots receptions w) (hpaced : Paced s slots receptions)
    (hordered : Agenda.Ordered w.agenda.events) (hphases : ∀ x ∈ w.agenda.events, x.1.phase = x.2.phase)
    (hpop : w.agenda.pop = some ((m, .mac), agenda)) (hputs : Puts s.numerology.slotUs m.time .mac added)
    (hfollowed : agenda.Followed added w'.agenda) (ht : t.before = { w with agenda })
    (hok : World.handle .mac { w with agenda } = (.ok (), w')) : Awaits s (slots ++ [t]) receptions w' := by
  have hmac := hputs.timesOf hphases hpop hfollowed (.inl rfl)
  have hreception := hputs.timesOf hphases hpop hfollowed (.inr rfl)
  obtain ⟨htime, hnone, hover, honAir, hdue⟩ := h.pop_slot hordered hphases hpop
  rw [if_pos rfl, hnone, htime, ← Nat.succ_mul, List.append_nil, List.perm_singleton] at hmac
  rw [if_pos rfl, hover, htime, ← Nat.succ_mul, List.append_nil, List.perm_singleton] at hreception
  have hpresent := World.serveAll_onAir (w := { w with agenda }) (by rw [honAir]; rfl) hok
  constructor
  case slot => simpa using hmac
  case reception =>
    intro _
    refine ⟨by simpa using hreception, ?_⟩
    rw [collected, List.getLast?_concat]
    dsimp only
    rw [ht, hok, hpresent]
  case received =>
    intro hne
    rw [List.length_append, List.length_singleton] at hne
    have heven := hpaced.even
    omega

/-! ### A reception -/

theorem Paced.reception_snoc (h : Paced s slots receptions) (heven : receptions.length = slots.length)
    (htime : t.moment.time = slots.length * s.numerology.slotUs)
    (honAir : t.before.onAir = t.before.present (collected slots)) : Paced s slots (receptions ++ [t]) := by
  constructor
  case slot => exact h.slot
  case reception =>
    intro n u hu
    rcases getElem?_snoc.1 hu with hu | ⟨rfl, rfl⟩
    · exact h.reception n u hu
    · rw [heven]
      exact htime
  case first =>
    intro u hu
    rcases getElem?_snoc.1 hu with hu | ⟨hnone, rfl⟩
    · exact h.first u hu
    · rw [collected, List.eq_nil_of_length_eq_zero (heven.symm.trans hnone.symm)] at honAir
      exact honAir
  case evaluated =>
    intro n u v hu hv
    rcases getElem?_snoc.1 hv with hv | ⟨hlast, rfl⟩
    · exact h.evaluated n u v hu hv
    · have hgetLast : slots.getLast? = some u := by
        rw [List.getLast?_eq_getElem?, ← hu]
        congr 1
        omega
      rw [collected, hgetLast] at honAir
      exact honAir
  case even =>
    rw [List.length_append, List.length_singleton, heven]
    exact .inr rfl

theorem Awaits.reception_snoc (h : Awaits s slots receptions w)
    (hphases : ∀ x ∈ w.agenda.events, x.1.phase = x.2.phase)
    (hpop : w.agenda.pop = some ((m, .reception), agenda)) (hputs : Puts s.numerology.slotUs m.time .reception added)
    (hfollowed : agenda.Followed added w'.agenda) (hok : World.handle .reception { w with agenda } = (.ok (), w')) :
    Awaits s slots (receptions ++ [t]) w' := by
  have hmac := hputs.timesOf hphases hpop hfollowed (.inl rfl)
  have hreception := hputs.timesOf hphases hpop hfollowed (.inr rfl)
  obtain ⟨heven, -, hnone, -⟩ := h.pop_reception hpop
  have hslot := h.slot
  rw [Agenda.timesOf_pop hpop, if_neg (by simp)] at hslot
  rw [if_neg (by simp), hslot, List.nil_append, List.perm_singleton] at hmac
  rw [if_neg (by simp), hnone, List.nil_append, List.perm_nil] at hreception
  have honAir := World.receiveAll_onAir { w with agenda }
  rw [show World.receiveAll _ = _ from hok] at honAir
  constructor
  case slot => exact hmac
  case reception =>
    intro hsame
    rw [List.length_append, List.length_singleton] at hsame
    omega
  case received => exact fun _ => ⟨hreception, honAir⟩

/-! ### Any other event -/

theorem Awaits.other (h : Awaits s slots receptions w) (hmac : e ≠ .mac) (hreception : e ≠ .reception)
    (hphases : ∀ x ∈ w.agenda.events, x.1.phase = x.2.phase) (hpop : w.agenda.pop = some ((m, e), agenda))
    (hputs : Puts s.numerology.slotUs m.time e added) (hfollowed : agenda.Followed added w'.agenda)
    (hok : World.handle e { w with agenda } = (.ok (), w')) : Awaits s slots receptions w' := by
  have hsame (e' : Event) (he' : e' = .mac ∨ e' = .reception) :
      (w'.agenda.timesOf e').Perm (w.agenda.timesOf e') := by
    have htimes := hputs.timesOf hphases hpop hfollowed he'
    rw [if_neg hmac, List.nil_append] at htimes
    rwa [Agenda.timesOf_pop hpop, if_neg (by rintro rfl; exact he'.elim hmac hreception)]
  have honAir (xs : List (OnAir α)) (hxs : w.onAir = w.present xs) : w'.onAir = w'.present xs :=
    World.handle_onAir (w := { w with agenda }) hmac hreception hxs hok
  constructor
  case slot => exact List.perm_singleton.1 (h.slot ▸ hsame .mac (.inl rfl))
  case reception =>
    intro heven
    obtain ⟨hdue, hair⟩ := h.reception heven
    exact ⟨List.perm_singleton.1 (hdue ▸ hsame .reception (.inr rfl)), honAir _ hair⟩
  case received =>
    intro hne
    obtain ⟨hnone, hair⟩ := h.received hne
    exact ⟨List.perm_nil.1 (hnone ▸ hsame .reception (.inr rfl)), honAir [] hair⟩

end

/-! ## Runs -/

namespace World

section

variable [Analysis α] [Scalar.LawfulSlots α] [Scalar.PositiveSlots α] [RandomSource γ] {config : Config α}
  {scene : Scene α} {trace : Trace α}
  {sourceOfSeed : Nat → γ} {endUs : Nat} {w₀ w : World α γ} {turns : List (Turn α γ)}
  {r : Stepped (SimulationError α) (World α γ)}

omit [Analysis α] [Scalar.LawfulSlots α] [Scalar.PositiveSlots α] in
theorem placeNodes_timers (params : FlowParams α) (generators : List (Nat × Generator α)) (specs : List (NodeSpec α))
    (agenda : Agenda Event) (g : γ) (h : ∀ x ∈ agenda.events, ∃ id, x.2 = .traffic id) :
    ∀ x ∈ (placeNodes params generators specs agenda g).2.1.events, ∃ id, x.2 = .traffic id := by
  induction specs generalizing agenda g with
  | nil => exact h
  | cons spec rest ih =>
    unfold placeNodes
    split
    · exact ih agenda g h
    · refine ih _ _ fun x hx => ?_
      rcases List.mem_cons.1 ((Agenda.scheduleAt_events ..).mem_iff.1 hx) with rfl | hx
      · exact ⟨_, rfl⟩
      · exact h x hx

omit [Scalar.LawfulSlots α] [Scalar.PositiveSlots α] in
theorem start_awaits (hstart : start config scene trace sourceOfSeed = .ok w₀) : Awaits w₀.setup [] [] w₀ := by
  obtain ⟨-, -, -, -, params, generators, nodes, agenda, g, g', -, hplaced, -, hagenda⟩ := of_start hstart
  obtain ⟨htimed, hnow, -, -⟩ := placeNodes_timed w₀.setup.numerology.slotUs_pos (Agenda.timed_empty _ _) hplaced
  have htimers := placeNodes_timers params generators scene.nodes {} g (by simp)
  rw [hplaced] at htimers
  have hfollowed : agenda.Followed _ w₀.agenda := hagenda ▸ ((((Agenda.Followed.refl agenda).scheduleAt 0
    .reception).scheduleAt 0 .mac).scheduleAt w₀.setup.mobilityUs .mobility).scheduleAt w₀.setup.reportUs .report
  have htimes (e : Event) (he : e.phase ≠ .traffic) := hfollowed.timesOf htimed.phases he
  have hnone (e : Event) (he : e.phase ≠ .traffic) : agenda.timesOf e = [] := by
    refine List.eq_nil_iff_forall_not_mem.2 fun time htime => ?_
    obtain ⟨m, hm, -⟩ := Agenda.mem_timesOf.1 htime
    obtain ⟨id, rfl⟩ := htimers _ hm
    exact he rfl
  have honAir : w₀.onAir = [] := by
    unfold start at hstart
    iterate 9 obtain ⟨_, -, hstart⟩ := ok_of_bind hstart
    cases hstart
    rfl
  have hzero : agenda.now = 0 := hnow
  have hdue (e : Event) (he : e = .mac ∨ e = .reception) : w₀.agenda.timesOf e = [0 * w₀.setup.numerology.slotUs] := by
    rw [Nat.zero_mul]
    have hall := htimes e (by rcases he with rfl | rfl <;> simp [Event.phase])
    rw [hnone e (by rcases he with rfl | rfl <;> simp [Event.phase])] at hall
    rcases he with rfl | rfl <;> simpa [hzero] using hall
  exact ⟨hdue .mac (.inl rfl), fun _ => ⟨hdue .reception (.inr rfl), honAir⟩, fun hne => absurd rfl hne⟩

theorem awaits_of_course (hscene : scene.validate = .ok ())
    (hstart : start config scene trace sourceOfSeed = .ok w₀) (hend : endUs < limit64)
    (hcourse : Course endUs w₀ turns r) :
    Paced w₀.setup (turnsOf .mac turns) (turnsOf .reception turns) ∧
      ∀ w, r = (.ok (), w) → Awaits w₀.setup (turnsOf .mac turns) (turnsOf .reception turns) w := by
  induction hcourse with
  | start =>
    refine ⟨⟨?_, ?_, ?_, ?_, .inl rfl⟩, ?_⟩
    · simp [turnsOf]
    · simp [turnsOf]
    · simp [turnsOf]
    · simp [turnsOf]
    · rintro w ⟨⟩
      exact start_awaits hstart
  | @turn turns w m e agenda hcourse hpop hbefore ih =>
    obtain ⟨hpaced, hawaits⟩ := ih
    replace hawaits := hawaits w rfl
    have hreached := hcourse.reached rfl
    obtain ⟨nextUs, hpunctual⟩ := punctual_of_reached hscene hstart hreached
    obtain ⟨hordered, hphases, -, -⟩ := hpunctual.agenda
    have hnow : agenda.now = m.time := (Agenda.of_pop hpop).2.1
    have hputs (w' : World α γ) (hok : handle e { w with agenda } = (.ok (), w')) :=
      puts_of_reached hscene hstart hend hreached hpop hbefore hok
    rw [turnsOf_snoc, turnsOf_snoc]
    by_cases hmac : e = .mac
    · subst hmac
      obtain ⟨htime, -, -, honAir, hdue⟩ := hawaits.pop_slot hordered hphases hpop
      refine ⟨hpaced.slot_snoc hdue htime hnow hpunctual.setup honAir, fun w' hok => ?_⟩
      obtain ⟨added, hadded, hfollowed⟩ := hputs w' hok
      exact hawaits.slot_snoc hpaced hordered hphases hpop hadded hfollowed rfl hok
    · by_cases hreception : e = .reception
      · subst hreception
        obtain ⟨heven, htime, -, honAir⟩ := hawaits.pop_reception hpop
        refine ⟨hpaced.reception_snoc heven htime honAir, fun w' hok => ?_⟩
        obtain ⟨added, hadded, hfollowed⟩ := hputs w' hok
        exact hawaits.reception_snoc hphases hpop hadded hfollowed hok
      · rw [if_neg hmac, if_neg hreception]
        refine ⟨hpaced, fun w' hok => ?_⟩
        obtain ⟨added, hadded, hfollowed⟩ := hputs w' hok
        exact hawaits.other hmac hreception hphases hpop hadded hfollowed hok

theorem le_slots_of_over (hscene : scene.validate = .ok ())
    (hstart : start config scene trace sourceOfSeed = .ok w₀) (hend : endUs < limit64)
    (hcourse : Course endUs w₀ turns (.ok (), w)) (hover : Over endUs w) :
    endUs ≤ (turnsOf .mac turns).length * w₀.setup.numerology.slotUs := by
  obtain ⟨nextUs, hpunctual⟩ := punctual_of_reached hscene hstart (hcourse.reached rfl)
  have hslot := ((awaits_of_course hscene hstart hend hcourse).2 w rfl).slot
  have hnext : (turnsOf .mac turns).length * w₀.setup.numerology.slotUs ∈ w.agenda.timesOf .mac := by
    rw [hslot]
    exact List.mem_singleton_self _
  cases hpop : w.agenda.pop with
  | none =>
    obtain ⟨m, hm, -⟩ := Agenda.mem_timesOf.1 hnext
    have hnone : w.agenda.events = [] := by
      unfold Agenda.pop at hpop
      split at hpop
      · assumption
      · cases hpop
    rw [hnone] at hm
    cases hm
  | some next =>
    obtain ⟨⟨m, e⟩, agenda⟩ := next
    exact (hover _ _ hpop).trans (Agenda.time_le_of_pop hpunctual.agenda.ordered hpop hnext)

end

end World

end Sidelink
