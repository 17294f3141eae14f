import Sidelink.Proofs.Agenda.Pending
import Sidelink.Proofs.Simulation.Turns

/-!
# Timers of a run

Between two events every node has one timer on the agenda, which its ticket takes off, and no one else has any. One
slot, one move and one report are to come, and at most one reception.
-/

namespace Sidelink

/-! ## Agendas -/

namespace Agenda

variable {a a' : Agenda Event} {m : Moment} {e : Event}

/-- Some calls made the agenda, and each event was put down in its phase. -/
structure Kept (a : Agenda Event) : Prop where
  sound : a.Sound
  phases : ∀ x ∈ a.events, x.1.phase = x.2.phase

namespace Kept

theorem empty : Kept {} := ⟨sound_empty, by simp⟩

theorem scheduleAt (h : a.Kept) (time : Nat) (e : Event) : (a.scheduleAt time e.phase e).2.Kept := by
  refine ⟨h.sound.scheduleAt .., fun x hx => ?_⟩
  rcases List.mem_cons.1 ((scheduleAt_events ..).mem_iff.1 hx) with rfl | hx
  · rfl
  · exact h.phases x hx

theorem cancel (h : a.Kept) (ticket : Nat) : (a.cancel ticket).2.Kept := by
  refine ⟨h.sound.cancel ticket, fun x hx => h.phases x ?_⟩
  rcases cancel_events a ticket with hsame | ⟨m, -, hrest⟩
  · rwa [hsame] at hx
  · rw [hrest] at hx
    exact (List.mem_filter.1 hx).1

theorem pop (h : a.Kept) (hpop : a.pop = some ((m, e), a')) : a'.Kept := by
  refine ⟨h.sound.pop hpop, fun x hx => h.phases x ?_⟩
  rw [(of_pop hpop).1]
  exact .tail _ hx

end Kept

/-- What is always to come, but for timers. A reception comes with the slot. -/
structure Standing (a : Agenda Event) : Prop where
  slot : (a.momentsOf .mac).length = 1
  mobility : (a.momentsOf .mobility).length = 1
  report : (a.momentsOf .report).length = 1
  reception : (a.momentsOf .reception).length ≤ 1
  together : ∀ m ∈ a.momentsOf .mac, ∀ m' ∈ a.momentsOf .reception, m'.time = m.time

namespace Standing

theorem congr (h : a.Standing) (hsame : ∀ e, e.phase ≠ .traffic → a'.momentsOf e = a.momentsOf e) : a'.Standing := by
  have hmac := hsame .mac (by decide)
  have hreception := hsame .reception (by decide)
  obtain ⟨hslot, hmobility, hreport, hone, htogether⟩ := h
  constructor
  · rwa [hmac]
  · rwa [hsame .mobility (by decide)]
  · rwa [hsame .report (by decide)]
  · rwa [hreception]
  · rwa [hmac, hreception]

theorem again (h : a.Standing) (he : e = .mobility ∨ e = .report)
    (hagain : ∃ m, ∀ e', e'.phase ≠ .traffic → a'.momentsOf e' = if e = e' then [m] else a.momentsOf e') :
    a'.Standing := by
  obtain ⟨m, hmoments⟩ := hagain
  have hmac := hmoments .mac (by decide)
  have hreception := hmoments .reception (by decide)
  have hone (e' : Event) (he' : e'.phase ≠ .traffic) (h : (a.momentsOf e').length = 1) :
      (a'.momentsOf e').length = 1 := by
    rw [hmoments e' he']
    split
    · rfl
    · exact h
  rw [if_neg (by rcases he with rfl | rfl <;> simp)] at hmac hreception
  refine ⟨hone _ (by decide) h.slot, hone _ (by decide) h.mobility,
    hone _ (by decide) h.report, ?_, ?_⟩
  · rw [hreception]
    exact h.reception
  · rw [hmac, hreception]
    exact h.together

theorem received (h : a.Standing) (hpop : a.pop = some ((m, .reception), a')) : a'.Standing := by
  have hnone := momentsOf_of_pop hpop h.reception
  have hone (e : Event) (he : .reception ≠ e) (h : (a.momentsOf e).length = 1) : (a'.momentsOf e).length = 1 := by
    rwa [momentsOf_pop hpop, if_neg he] at h
  exact ⟨hone _ (by simp) h.slot, hone _ (by simp) h.mobility, hone _ (by simp) h.report, by simp [hnone],
    by simp [hnone]⟩

theorem pop_slot (h : a.Standing) (hkept : a.Kept) (hpop : a.pop = some ((m, .mac), a')) :
    a'.momentsOf .mac = [] ∧ a'.momentsOf .reception = [] := by
  refine ⟨momentsOf_of_pop hpop h.slot.le, List.eq_nil_iff_forall_not_mem.2 fun m' hm' => ?_⟩
  replace hm' : m' ∈ a.momentsOf .reception := by rwa [momentsOf_pop hpop, if_neg (by simp)]
  refine time_ne_of_pop_slot hkept.sound.ordered hkept.phases hpop (mem_momentsOf.1 hm') (h.together m ?_ m' hm')
  rw [momentsOf_pop hpop, if_pos rfl]
  exact List.mem_cons_self

theorem served (h : a.Standing) (hkept : a.Kept) (hpop : a.pop = some ((m, .mac), a')) (time : Nat) :
    ((a'.scheduleAt time .reception .reception).2.scheduleAt time .mac .mac).2.Standing := by
  obtain ⟨hmac, hreception⟩ := h.pop_slot hkept hpop
  have hput (e : Event) := momentsOf_scheduleAt hreception time .reception e
  have hput' (e : Event) := momentsOf_scheduleAt
    (show (a'.scheduleAt time .reception .reception).2.momentsOf .mac = [] by rw [hput, if_neg (by simp), hmac])
    time .mac e
  have hone (e : Event) (he : .mac ≠ e) (he' : .reception ≠ e) (h : (a.momentsOf e).length = 1) :
      (((a'.scheduleAt time .reception .reception).2.scheduleAt time .mac .mac).2.momentsOf e).length = 1 := by
    rw [hput', if_neg he, hput, if_neg he']
    rwa [momentsOf_pop hpop, if_neg he] at h
  refine ⟨by simp [hput'], hone _ (by simp) (by simp) h.mobility, hone _ (by simp) (by simp) h.report,
    by simp [hput', hput], ?_⟩
  rw [hput', hput', if_pos rfl, if_neg (by simp), hput, if_pos rfl]
  simp only [List.mem_singleton]
  rintro m rfl m' rfl
  rfl

end Standing

end Agenda

variable {α γ : Type}

/-! ## Nodes -/

/-- The same nodes with the same timers. -/
structure SameTimers (nodes nodes' : List (Node α)) : Prop where
  ids : nodes'.map (·.id) = nodes.map (·.id)
  timers : ∀ n' ∈ nodes', ∃ n ∈ nodes, n'.id = n.id ∧ n'.timer = n.timer

theorem SameTimers.refl (nodes : List (Node α)) : SameTimers nodes nodes := ⟨rfl, fun n hn => ⟨n, hn, rfl, rfl⟩⟩

theorem SameTimers.trans {nodes nodes' nodes'' : List (Node α)} (h : SameTimers nodes nodes')
    (h' : SameTimers nodes' nodes'') : SameTimers nodes nodes'' := by
  refine ⟨h'.ids.trans h.ids, fun n'' hn'' => ?_⟩
  obtain ⟨n', hn', hid', htimer'⟩ := h'.timers n'' hn''
  obtain ⟨n, hn, hid, htimer⟩ := h.timers n' hn'
  exact ⟨n, hn, hid'.trans hid, htimer'.trans htimer⟩

namespace World

variable {w w' : World α γ} {agenda : Agenda Event} {m : Moment} {e : Event}

theorem sameTimers_setNode {n n' : Node α} (hn : n ∈ w.nodes) (hid : n'.id = n.id) (htimer : n'.timer = n.timer) :
    SameTimers w.nodes (w.setNode n').nodes := by
  refine ⟨setNode_ids w n', fun m hm => ?_⟩
  rcases of_mem_setNode hm with rfl | ⟨hm, -⟩
  · exact ⟨n, hn, hid, htimer⟩
  · exact ⟨m, hm, rfl, rfl⟩

/-- Every node has its timer on the agenda, and no one else has one. -/
structure Tended (w : World α γ) : Prop where
  kept : w.agenda.Kept
  timer : ∀ n ∈ w.nodes, ∃ m, w.agenda.momentsOf (.traffic n.id) = [m] ∧ m.ticket = n.timer
  absent : ∀ id ∉ w.nodes.map (·.id), w.agenda.momentsOf (.traffic id) = []

theorem Tended.congr (h : w.Tended) (hkept : w'.agenda.Kept) (hnodes : SameTimers w.nodes w'.nodes)
    (hmoments : ∀ id, w'.agenda.momentsOf (.traffic id) = w.agenda.momentsOf (.traffic id)) : w'.Tended := by
  refine ⟨hkept, fun n' hn' => ?_, fun id hid => ?_⟩
  · obtain ⟨n, hn, hid, htimer⟩ := hnodes.timers n' hn'
    rw [hmoments, hid, htimer]
    exact h.timer n hn
  · rw [hmoments]
    exact h.absent id (hnodes.ids ▸ hid)

theorem Tended.pop (h : w.Tended) (hpop : w.agenda.pop = some ((m, e), agenda)) (he : e.phase ≠ .traffic) :
    Tended { w with agenda } := by
  refine h.congr (h.kept.pop hpop) (.refl _) fun id => ?_
  rw [Agenda.momentsOf_pop hpop, if_neg (by rintro rfl; exact he rfl)]

theorem Tended.put (h : w.Tended) (hnone : w.agenda.momentsOf e = []) (he : e.phase ≠ .traffic) {time : Nat}
    (hagenda : w'.agenda = (w.agenda.scheduleAt time e.phase e).2) (hnodes : SameTimers w.nodes w'.nodes) :
    w'.Tended := by
  refine h.congr (hagenda ▸ h.kept.scheduleAt time e) hnodes fun id => ?_
  rw [hagenda, Agenda.momentsOf_scheduleAt hnone, if_neg (by rintro rfl; exact he rfl)]

/-! ### Movement -/

theorem removeNode_tended (id : Nat) (h : w.Tended) : (w.removeNode id).2.Tended ∧
    ∀ e, e.phase ≠ .traffic → (w.removeNode id).2.agenda.momentsOf e = w.agenda.momentsOf e := by
  unfold removeNode
  split
  · exact ⟨h, fun _ _ => rfl⟩
  · rename_i n hn
    obtain ⟨hmem, rfl⟩ := mem_of_node? hn
    obtain ⟨m, hm, hticket⟩ := h.timer n hmem
    have hcancel := h.kept.sound.momentsOf_cancel hm
    rw [hticket] at hcancel
    refine ⟨⟨h.kept.cancel n.timer, fun n' hn' => ?_, fun id hid => ?_⟩, fun e he => ?_⟩
    · obtain ⟨hn', hne⟩ := List.mem_filter.1 hn'
      have hother : n.id ≠ n'.id := (of_decide_eq_true hne).symm
      dsimp only
      rw [hcancel, if_neg (by simpa using hother)]
      exact h.timer n' hn'
    · dsimp only
      rw [hcancel]
      split
      · rfl
      · rename_i hne
        refine h.absent id fun hids => hid ?_
        obtain ⟨n', hn', rfl⟩ := List.mem_map.1 hids
        refine List.mem_map_of_mem (List.mem_filter.2 ⟨hn', decide_eq_true ?_⟩)
        rintro heq
        exact hne (by rw [heq])
    · dsimp only
      rw [hcancel, if_neg (by rintro rfl; exact he rfl)]

section

variable [Analysis α] [RandomSource γ]

theorem moveAll_tended (h : w.Tended) (hnone : w.agenda.momentsOf .mobility = []) :
    w.moveAll.Tended ∧ ∃ m, ∀ e, e.phase ≠ .traffic →
      w.moveAll.agenda.momentsOf e = if .mobility = e then [m] else w.agenda.momentsOf e := by
  obtain ⟨w', position?, g, ⟨htended, hsame⟩, hmoved⟩ := of_moveAll
    (P := fun w' : World α γ => w'.Tended ∧ ∀ e, e.phase ≠ .traffic → w'.agenda.momentsOf e = w.agenda.momentsOf e)
    ⟨h, fun _ _ => rfl⟩
    (fun w' place hw' => by
      refine ⟨hw'.1.congr hw'.1.kept ⟨by simp, fun n' hn' => ?_⟩ fun _ => rfl, hw'.2⟩
      obtain ⟨n, hn, rfl⟩ := List.mem_map.1 hn'
      exact ⟨n, hn, rfl, rfl⟩)
    (fun w' id hw' => by
      obtain ⟨htended, hsame⟩ := removeNode_tended id hw'.1
      exact ⟨htended, fun e he => (hsame e he).trans (hw'.2 e he)⟩)
  have hnone' : w'.agenda.momentsOf .mobility = [] := (hsame .mobility (by decide)).trans hnone
  obtain ⟨time, hagenda⟩ : ∃ time, w.moveAll.agenda = (w'.agenda.scheduleAt time .mobility .mobility).2 :=
    ⟨_, congrArg agenda hmoved⟩
  refine ⟨htended.put hnone' (by decide) hagenda (hmoved ▸ .refl _),
    ⟨max time w'.agenda.now, .mobility, w'.agenda.nextTicket⟩, fun e he => ?_⟩
  rw [hagenda, Agenda.momentsOf_scheduleAt hnone', hsame e he]

/-! ### Packets on their way in -/

omit [Analysis α] [RandomSource γ] in
theorem Generated.sameTimers (h : Generated w w') : SameTimers w.nodes w'.nodes := by
  refine ⟨h.ids, fun n' hn' => ?_⟩
  obtain ⟨n, hn, generator, arrivals, rfl⟩ := h.nodes n' hn'
  exact ⟨n, hn, rfl, rfl⟩

omit [Analysis α] [RandomSource γ] in
theorem Tended.fired {id : Nat} (h : w.Tended) (hpop : w.agenda.pop = some ((m, .traffic id), agenda)) :
    id ∈ w.nodes.map (·.id) ∧ (w.agenda.momentsOf (.traffic id)).length = 1 := by
  have hid : id ∈ w.nodes.map (·.id) := by
    by_contra hnone
    have hempty := h.absent id hnone
    rw [Agenda.momentsOf_pop hpop, if_pos rfl] at hempty
    cases hempty
  obtain ⟨n, hn, rfl⟩ := List.mem_map.1 hid
  obtain ⟨m', hm', -⟩ := h.timer n hn
  exact ⟨hid, by rw [hm']; rfl⟩

theorem Tended.rearmed {w₁ : World α γ} {n : Node α} (h : w.Tended)
    (hpop : w.agenda.pop = some ((m, .traffic n.id), agenda)) (hsame : SameTimers w.nodes w₁.nodes)
    (hagenda₁ : w₁.agenda = agenda) (hn : n ∈ w₁.nodes) (hok : w₁.rearm n = (.ok (), w')) :
    w'.Tended ∧ ∀ e, e.phase ≠ .traffic → w'.agenda.momentsOf e = w.agenda.momentsOf e := by
  obtain ⟨delay, g, -, rfl⟩ := of_rearm hok
  obtain ⟨time, hmoments⟩ : ∃ time, ∀ e, (w₁.agenda.scheduleIn delay .traffic (.traffic n.id)).2.momentsOf e =
      if .traffic n.id = e then [⟨time, .traffic, w₁.agenda.nextTicket⟩] else w.agenda.momentsOf e := by
    rw [hagenda₁]
    exact ⟨_, Agenda.momentsOf_again hpop (h.fired hpop).2.le (min (agenda.now + delay) (limit64 - 1)) .traffic⟩
  refine ⟨⟨?_, fun n' hn' => ?_, fun id hid => ?_⟩, fun e he => ?_⟩
  · dsimp only
    rw [hagenda₁]
    exact (h.kept.pop hpop).scheduleAt _ (.traffic n.id)
  · rw [hmoments]
    rcases of_mem_setNode hn' with rfl | ⟨hn', hne⟩
    · rw [if_pos rfl]
      exact ⟨_, rfl, rfl⟩
    · obtain ⟨n₀, hn₀, hid₀, htimer₀⟩ := hsame.timers n' hn'
      rw [if_neg (by simpa using Ne.symm hne), hid₀, htimer₀]
      exact h.timer n₀ hn₀
  · replace hid : id ∉ (w₁.setNode { n with timer := w₁.agenda.nextTicket }).nodes.map (·.id) := hid
    rw [setNode_ids] at hid
    rw [hmoments]
    split
    · rename_i heq
      cases heq
      exact absurd (List.mem_map_of_mem hn) hid
    · exact h.absent id (hsame.ids ▸ hid)
  · rw [hmoments, if_neg (by rintro rfl; exact he rfl)]

theorem fireTimer_tended {id : Nat} (h : w.Tended) (hpop : w.agenda.pop = some ((m, .traffic id), agenda))
    (hok : fireTimer id { w with agenda } = (.ok (), w')) :
    w'.Tended ∧ ∀ e, e.phase ≠ .traffic → w'.agenda.momentsOf e = w.agenda.momentsOf e := by
  obtain ⟨hnone, rfl⟩ | ⟨n, n', hn, hn', hrearm⟩ := of_fireTimer hok
  · obtain ⟨n, hn, heq⟩ := List.mem_map.1 (h.fired hpop).1
    exact absurd heq (by simpa using List.find?_eq_none.1 hnone n hn)
  · have hgenerated := generate_generated (mem_of_node? hn).1
    obtain ⟨hmem', rfl⟩ := mem_of_node? hn'
    exact h.rearmed hpop hgenerated.sameTimers hgenerated.agenda hmem' hrearm

/-! ### Reception -/

theorem receiveAll_sameTimers (w : World α γ) : SameTimers w.nodes w.receiveAll.2.nodes := by
  unfold receiveAll
  split
  · exact .refl _
  · refine stepEach_keeps (P := fun w' : World α γ => SameTimers w.nodes w'.nodes) (fun id w' hw' => ?_) _ _ (.refl _)
    rcases receiveAt_received _ id w' with hsame | ⟨n, r, hn, hr, hset⟩
    · rwa [hsame]
    · obtain ⟨history, phase, blocks, hnode⟩ := hr.node
      rw [hset]
      exact hw'.trans (sameTimers_setNode (mem_of_node? hn).1 (by rw [hnode]) (by rw [hnode]))

/-! ### Packets on their way out -/

theorem serveAll_sameTimers (hok : w.serveAll = (.ok (), w')) : SameTimers w.nodes w'.nodes := by
  obtain ⟨now, w₁, -, hserved, rfl⟩ := of_serveAll hok
  refine stepEach_ok (P := fun _ w₁ => SameTimers w.nodes w₁.nodes) (fun id _ w₁ w₂ hw₁ hstep => ?_) (.refl _) hserved
  rcases of_serveAt hstep with ⟨-, rfl⟩ | ⟨n, r, r', sent, hn, hdelivered, hsend, rfl⟩
  · exact hw₁
  · obtain ⟨⟨flow, arrivals, hnode⟩, -⟩ := AtNode.of_serve hdelivered hsend
    exact hw₁.trans (sameTimers_setNode (mem_of_node? hn).1 (by rw [hnode]) (by rw [hnode]))

/-! ### Events -/

theorem handle_tended (h : w.Tended) (hstanding : w.agenda.Standing) (hpop : w.agenda.pop = some ((m, e), agenda))
    (hok : handle e { w with agenda } = (.ok (), w')) : w'.Tended ∧ w'.agenda.Standing := by
  cases e with
  | reception =>
    have hnodes := receiveAll_sameTimers { w with agenda }
    have hagenda := receiveAll_agenda { w with agenda }
    rw [show World.receiveAll _ = _ from hok] at hnodes hagenda
    dsimp only at hnodes hagenda
    have htended := h.pop hpop (by decide)
    refine ⟨htended.congr (hagenda ▸ htended.kept) hnodes fun id => by rw [hagenda], ?_⟩
    rw [hagenda]
    exact hstanding.received hpop
  | mobility =>
    cases hok
    have hnone := Agenda.momentsOf_of_pop hpop hstanding.mobility.le
    obtain ⟨htended, m', hmoments⟩ := moveAll_tended (h.pop hpop (by decide)) hnone
    refine ⟨htended, hstanding.again (.inl rfl) ⟨m', fun e he => ?_⟩⟩
    rw [hmoments e he, Agenda.momentsOf_pop hpop]
    split <;> rfl
  | traffic id =>
    obtain ⟨htended, hsame⟩ := fireTimer_tended h hpop hok
    exact ⟨htended, hstanding.congr hsame⟩
  | mac =>
    have hnodes := serveAll_sameTimers hok
    obtain ⟨time, hagenda⟩ : ∃ time, w'.agenda =
        ((agenda.scheduleAt time .reception .reception).2.scheduleAt time .mac .mac).2 := ⟨_, serveAll_agenda hok⟩
    obtain ⟨hmac, hreception⟩ := hstanding.pop_slot h.kept hpop
    have hput := Agenda.momentsOf_scheduleAt hreception time .reception .mac
    have htended : Tended { w with agenda := (agenda.scheduleAt time .reception .reception).2 } :=
      (h.pop hpop (by decide)).put hreception (by decide) rfl (.refl _)
    refine ⟨htended.put (hput.trans hmac) (by decide) hagenda hnodes, ?_⟩
    rw [hagenda]
    exact hstanding.served h.kept hpop time
  | report =>
    obtain ⟨time, hagenda⟩ : ∃ time, w'.agenda = (agenda.scheduleAt time .report .report).2 := by
      cases hok
      exact ⟨_, rfl⟩
    have hnodes : w'.nodes = w.nodes := by
      cases hok
      rfl
    have hnone := Agenda.momentsOf_of_pop hpop hstanding.report.le
    have htended := h.pop hpop (by decide)
    refine ⟨htended.put hnone (by decide) hagenda (hnodes ▸ .refl _), hstanding.again (.inr rfl) ?_⟩
    rw [hagenda]
    exact ⟨_, fun e _ => Agenda.momentsOf_again hpop hstanding.report.le time .report e⟩

end

/-! ### The beginning -/

theorem placeNodes_tended [RandomSource γ] {params : FlowParams α} {generators : List (Nat × Generator α)}
    {specs : List (NodeSpec α)} {agenda agenda' : Agenda Event} {g g' : γ} {nodes : List (Node α)}
    (hdistinct : (specs.map (·.id)).Nodup) (hkept : agenda.Kept)
    (hnone : ∀ spec ∈ specs, agenda.momentsOf (.traffic spec.id) = [])
    (hplaced : placeNodes params generators specs agenda g = (nodes, agenda', g')) :
    agenda'.Kept ∧ (∀ n ∈ nodes, ∃ m, agenda'.momentsOf (.traffic n.id) = [m] ∧ m.ticket = n.timer) ∧
      ∀ e, (∀ n ∈ nodes, e ≠ .traffic n.id) → agenda'.momentsOf e = agenda.momentsOf e := by
  induction specs generalizing agenda g nodes with
  | nil =>
    cases hplaced
    exact ⟨hkept, by simp, fun _ _ => rfl⟩
  | cons spec rest ih =>
    obtain ⟨hnew, hdistinct⟩ := List.nodup_cons.1 hdistinct
    obtain ⟨hfirst, hrest⟩ := List.forall_mem_cons.1 hnone
    unfold placeNodes at hplaced
    split at hplaced
    · exact ih hdistinct hkept hrest hplaced
    · rename_i generator _
      rcases hdelay : generator.firstDelayUs g with ⟨delay, g₁⟩
      have hput (e : Event) := Agenda.momentsOf_scheduleAt hfirst delay .traffic e
      have hids := (placeNodes_fresh params generators rest
        (agenda.scheduleAt delay .traffic (.traffic spec.id)).2 g₁).1
      rcases hplaced' : placeNodes params generators rest
        (agenda.scheduleAt delay .traffic (.traffic spec.id)).2 g₁ with ⟨nodes', agenda₁, g₂⟩
      simp only [hdelay, hplaced'] at hplaced hids
      cases hplaced
      have hkept' : (agenda.scheduleAt delay .traffic (.traffic spec.id)).2.Kept :=
        hkept.scheduleAt delay (.traffic spec.id)
      obtain ⟨hkept', htimers, hsame⟩ := ih hdistinct hkept'
        (fun other hother => by
          have hne : spec.id ≠ other.id := fun heq => hnew (List.mem_map.2 ⟨other, hother, heq.symm⟩)
          rw [hput, if_neg (by simpa using hne)]
          exact hrest other hother) hplaced'
      have hfirst' : ∀ n ∈ nodes', Event.traffic spec.id ≠ .traffic n.id := by
        intro n hn heq
        have hid : n.id ∈ rest.map (·.id) := hids.mem (List.mem_map_of_mem hn)
        rw [← Event.traffic.inj heq] at hid
        exact hnew hid
      refine ⟨hkept', fun n hn => ?_, fun e he => ?_⟩
      · rcases List.mem_cons.1 hn with rfl | hn
        · dsimp only
          rw [hsame _ hfirst', hput, if_pos rfl]
          exact ⟨_, rfl, rfl⟩
        · exact htimers n hn
      · obtain ⟨hne, he⟩ := List.forall_mem_cons.1 he
        rw [hsame e he, hput, if_neg (Ne.symm hne)]

theorem start_tended [Scalar α] [RandomSource γ] {config : Config α} {scene : Scene α} {trace : Trace α}
    {sourceOfSeed : Nat → γ} (hscene : scene.validate = .ok ())
    (hstart : start config scene trace sourceOfSeed = .ok w) : w.Tended ∧ w.agenda.Standing := by
  obtain ⟨-, -, -, -, params, generators, nodes, agenda, g, g', -, hplaced, hnodes, hagenda⟩ := of_start hstart
  obtain ⟨hkept, htimers, hsame⟩ := placeNodes_tended (Scene.accepted_of_validate hscene).distinct .empty
    (fun _ _ => rfl) hplaced
  have hnone (e : Event) (he : e.phase ≠ .traffic) : agenda.momentsOf e = [] :=
    hsame e fun n _ heq => he (by rw [heq]; rfl)
  have hreception (e : Event) := Agenda.momentsOf_scheduleAt (hnone .reception (by decide)) 0 .reception e
  have hmac (e : Event) := Agenda.momentsOf_scheduleAt
    ((hreception .mac).trans (hnone .mac (by decide))) 0 .mac e
  have hmobility (e : Event) := Agenda.momentsOf_scheduleAt
    ((hmac .mobility).trans ((hreception .mobility).trans (hnone .mobility (by decide))))
    w.setup.mobilityUs .mobility e
  have hreport (e : Event) := Agenda.momentsOf_scheduleAt
    ((hmobility .report).trans ((hmac .report).trans ((hreception .report).trans
      (hnone .report (by decide))))) w.setup.reportUs .report e
  rw [← hagenda] at hreport
  have htraffic (id : Nat) : w.agenda.momentsOf (.traffic id) = agenda.momentsOf (.traffic id) := by
    simp [hreport, hmobility, hmac, hreception]
  have hmem {n : Node α} : n ∈ w.nodes ↔ n ∈ nodes := by rw [hnodes, List.mem_mergeSort]
  refine ⟨⟨?_, fun n hn => ?_, fun id hid => ?_⟩, ?_⟩
  · rw [hagenda]
    exact (((hkept.scheduleAt 0 .reception).scheduleAt 0 .mac).scheduleAt w.setup.mobilityUs .mobility).scheduleAt
      w.setup.reportUs .report
  · rw [htraffic]
    exact htimers n (hmem.1 hn)
  · rw [htraffic]
    refine hsame _ fun n hn heq => hid ?_
    obtain rfl : id = n.id := by simpa using heq
    exact List.mem_map_of_mem (hmem.2 hn)
  · constructor <;> simp [hreport, hmobility, hmac, hreception, Agenda.scheduleAt_now]

/-! ## Runs -/

theorem tended_of_reached [Analysis α] [RandomSource γ] {config : Config α} {scene : Scene α} {trace : Trace α}
    {sourceOfSeed : Nat → γ} {endUs : Nat} {w₀ w : World α γ} (hscene : scene.validate = .ok ())
    (hstart : start config scene trace sourceOfSeed = .ok w₀) (hreached : Reached endUs w₀ w) :
    w.Tended ∧ w.agenda.Standing := by
  induction hreached with
  | start => exact start_tended hscene hstart
  | event _ hpop _ hok ih => exact handle_tended ih.1 ih.2 hpop hok

end World

end Sidelink
