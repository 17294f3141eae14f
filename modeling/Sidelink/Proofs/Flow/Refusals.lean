import Sidelink.Proofs.Flow.Consistency
import Sidelink.Proofs.Flow.Heard
import Sidelink.Proofs.Flow.Triggers

/-!
# Refused packets

A flow that cannot make a reservation for a packet goes on as if the packet had not come, with one exception. If its
last reservation had run out, that is forgotten, and the next reservation is made without the reason that it has.
-/

namespace Sidelink

variable {α : Type}

/-! ## Histories with the same future -/

namespace History

/-- The histories have the same left in every sensing window that ends at a time or later. -/
def SameFrom (since windowUs : Nat) (h h' : History α) : Prop :=
  ∀ nowUs, since ≤ nowUs → h.prune nowUs windowUs = h'.prune nowUs windowUs

variable {since windowUs : Nat} {h h' : History α}

theorem prune_prune (h : History α) {earlier later : Nat} (hle : earlier ≤ later) (windowUs : Nat) :
    (h.prune earlier windowUs).prune later windowUs = h.prune later windowUs := by
  have hlater (us : Nat) : later - windowUs ≤ us → earlier - windowUs ≤ us := by omega
  simp only [prune, List.filter_filter, mk.injEq]
  constructor <;> refine List.filter_congr fun x _ => ?_ <;>
    simpa using hlater _

theorem sameFrom_prune (h : History α) (nowUs windowUs : Nat) : SameFrom nowUs windowUs h (h.prune nowUs windowUs) :=
  fun _ hle => (h.prune_prune hle windowUs).symm

theorem SameFrom.symm (hsame : SameFrom since windowUs h h') : SameFrom since windowUs h' h :=
  fun nowUs hle => (hsame nowUs hle).symm

theorem SameFrom.recordOwn (hsame : SameFrom since windowUs h h') (now : Slot) (nowUs : Nat) :
    SameFrom since windowUs (h.recordOwn now nowUs) (h'.recordOwn now nowUs) := by
  intro laterUs hle
  have hprune := hsame laterUs hle
  simp only [prune, mk.injEq] at hprune
  simp only [prune, History.recordOwn, List.filter_append, hprune]

theorem SameFrom.record {ε : Type} [OfFault ε] {h₁ : History α} {r : Report α} {size : Nat}
    (hsame : SameFrom since windowUs h h') (hrecord : h.record (ε := ε) r size = .ok h₁) :
    ∃ h₁', h'.record (ε := ε) r size = .ok h₁' ∧ SameFrom since windowUs h₁ h₁' := by
  obtain ⟨hword, rfl⟩ := record_ok_iff.1 hrecord
  refine ⟨_, record_ok_iff.2 ⟨hword, rfl⟩, fun nowUs hle => ?_⟩
  have hprune := hsame nowUs hle
  simp only [prune, mk.injEq] at hprune
  simp only [prune, List.filter_append, hprune]

end History

/-- The phase in which a flow takes in a packet. -/
def FlowPhase.awake : FlowPhase → FlowPhase
  | .idle => .sensing
  | phase => phase

namespace Flow

/-! ## Flows with the same future -/

/-- The flows differ at most in whether they are asleep, and in what is too old for a packet that comes from a time
on. -/
structure Alike (since : Nat) (f f' : Flow α) : Prop where
  params : f.params = f'.params
  history : History.SameFrom since f.params.sensingWindowUs f.history f'.history
  phase : f.phase.awake = f'.phase.awake
  reservation : f.reservation = f'.reservation
  queued : f.queued = f'.queued
  owed : f.owed = f'.owed
  counterExpired : f.counterExpired = f'.counterExpired
  stats : f.stats = f'.stats

theorem awake_phase (f : Flow α) : f.awake.phase = f.phase.awake := by
  unfold awake
  cases hphase : f.phase <;> simp [hphase, FlowPhase.awake]

theorem refreshed_eq (f : Flow α) (nowUs : Nat) : f.refreshed nowUs =
    { f with history := f.history.prune nowUs f.params.sensingWindowUs, phase := f.phase.awake } := by
  unfold refreshed awake
  cases hphase : f.phase <;> simp [hphase, FlowPhase.awake]

/-- A call that takes in no packet before a time. -/
def Call.From (since : Nat) : Call α → Prop
  | .enqueue _ nowUs _ _ => since ≤ nowUs
  | _ => True

namespace Alike

variable {since : Nat} {f f' : Flow α}

theorem refl (since : Nat) (f : Flow α) : Alike since f f := ⟨rfl, fun _ _ => rfl, rfl, rfl, rfl, rfl, rfl, rfl⟩

theorem symm (h : Alike since f f') : Alike since f' f :=
  ⟨h.params.symm, h.params ▸ h.history.symm, h.phase.symm, h.reservation.symm, h.queued.symm, h.owed.symm,
    h.counterExpired.symm, h.stats.symm⟩

theorem refreshed (f : Flow α) (nowUs : Nat) : Alike nowUs f (f.refreshed nowUs) := by
  rw [refreshed_eq]
  refine ⟨rfl, History.sameFrom_prune _ _ _, ?_, rfl, rfl, rfl, rfl, rfl⟩
  cases f.phase <;> rfl

theorem refreshed_eq_refreshed (h : Alike since f f') {nowUs : Nat} (hle : since ≤ nowUs) :
    f.refreshed nowUs = f'.refreshed nowUs := by
  have hhistory := h.history nowUs hle
  have hparams := h.params
  rw [refreshed_eq, refreshed_eq, ← hparams, hhistory, h.phase]
  cases f
  cases f'
  obtain ⟨-, -, -, hreservation, hqueued, howed, hexpired, hstats⟩ := h
  simp_all

theorem awake (h : Alike since f f') : Alike since f.awake f'.awake := by
  refine ⟨by simpa using h.params, by simpa using h.history, ?_, by simpa using h.reservation,
    by simpa using h.queued, by simpa using h.owed, by simpa using h.counterExpired, by simpa using h.stats⟩
  rw [awake_phase, awake_phase, h.phase]

theorem due (h : Alike since f f') (now : Slot) : f.due now = f'.due now := by
  unfold Flow.due queuedDue owedDue transmission
  rw [h.params, h.reservation, h.queued, h.owed]

theorem served (h : Alike since f f') (now : Slot) : Alike since (f.served now) (f'.served now) := by
  refine ⟨h.params, h.history, h.phase, h.reservation, ?_, ?_, h.counterExpired, h.stats⟩
  · rw [served_queued, served_queued, h.queued]
  · exact congrArg (owedAfter · now) h.owed

theorem noted (h : Alike since f f') (sent : Option Transmission) (now : Slot) (nowUs : Nat) :
    Alike since (f.noted sent now nowUs) (f'.noted sent now nowUs) := by
  cases sent with
  | none => exact h
  | some t =>
    refine ⟨h.params, h.history.recordOwn now nowUs, h.phase, h.reservation, h.queued, h.owed, h.counterExpired, ?_⟩
    show { f.stats with transmissions := f.stats.transmissions + 1 } = _
    rw [h.stats]
    rfl

theorem eq (h : Alike since f f') : f' = { f with history := f'.history, phase := f'.phase } := by
  obtain ⟨hparams, -, -, hreservation, hqueued, howed, hexpired, hstats⟩ := h
  cases f
  cases f'
  simp_all

theorem closeOccasion [Analysis α] {γ : Type} [RandomSource γ] (h : Alike since f f') (r : Reservation) (used : Bool)
    (g : γ) : Alike since (f.closeOccasion r used g).1 (f'.closeOccasion r used g).1 ∧
      (f.closeOccasion r used g).2 = (f'.closeOccasion r used g).2 := by
  have hhistory := h.history
  have hphase := h.phase
  rw [h.eq]
  unfold Flow.closeOccasion
  dsimp only
  split
  · exact ⟨⟨rfl, hhistory, hphase, rfl, rfl, rfl, rfl, rfl⟩, rfl⟩
  · split
    · split
      · exact ⟨⟨rfl, hhistory, hphase, rfl, rfl, rfl, rfl, rfl⟩, rfl⟩
      · exact ⟨⟨rfl, hhistory, rfl, rfl, rfl, rfl, rfl, rfl⟩, rfl⟩
    · exact ⟨⟨rfl, hhistory, rfl, rfl, rfl, rfl, rfl, rfl⟩, rfl⟩

theorem settled [Analysis α] {γ : Type} [RandomSource γ] (h : Alike since f f') (now : Slot) (g : γ) :
    Alike since (f.settled now g).1 (f'.settled now g).1 ∧ (f.settled now g).2 = (f'.settled now g).2 := by
  have hserved := h.served now
  unfold Flow.settled
  rw [h.reservation, h.due]
  split
  · split
    · exact hserved.closeOccasion _ _ g
    · exact ⟨hserved, rfl⟩
  · exact ⟨hserved, rfl⟩

end Alike

section

variable [Analysis α] {γ : Type} [RandomSource γ] {f f' f₁ : Flow α} {since : Nat}

theorem enqueue_congr {nowUs : Nat} (h : f.refreshed nowUs = f'.refreshed nowUs) (now : Slot) (p : Packet)
    (pool : ResourcePool) (g : γ) : f.enqueue now nowUs p pool g = f'.enqueue now nowUs p pool g := by
  rw [enqueue_eq, enqueue_eq, selecting, selecting, h]

/-- Flows that are alike give the same replies, and stay alike. -/
theorem Exchange.alike {c : Call α} {reply : Reply} (h : Exchange γ f c reply f₁) (halike : Alike since f f')
    (hfrom : c.From since) : ∃ f₁', Exchange γ f' c reply f₁' ∧ Alike since f₁ f₁' := by
  cases h with
  | sense hsense =>
    obtain ⟨history, hrecord, rfl⟩ := sense_heard hsense
    obtain ⟨history', hrecord', hsame⟩ := halike.history.record hrecord
    refine ⟨f'.heard history', .sense ?_, ?_⟩
    · rw [sense_eq, ← halike.params, hrecord']
      rfl
    · have hawake := halike.awake
      exact ⟨hawake.params, by rwa [heard, awake_params], hawake.phase, hawake.reservation, hawake.queued, hawake.owed,
        hawake.counterExpired, hawake.stats⟩
  | @enqueue now nowUs p pool g =>
    rw [enqueue_congr (halike.refreshed_eq_refreshed hfrom) now p pool g]
    exact ⟨_, .enqueue g, .refl ..⟩
  | @onSlot now nowUs g =>
    have hreply : (f.onSlot now nowUs g).1 = (f'.onSlot now nowUs g).1 := by
      rw [onSlot_eq, onSlot_eq, halike.due]
    rw [hreply]
    refine ⟨_, .onSlot g, ?_⟩
    rw [onSlot_eq, onSlot_eq, ← halike.due]
    exact (halike.settled now g).1.noted ..
  | teardown =>
    refine ⟨_, .teardown, ?_⟩
    rw [halike.eq]
    exact .refl ..

theorem Recorded.alike {log : List (Call α × Reply)} (h : Recorded γ f log f₁) (halike : Alike since f f')
    (hfrom : ∀ x ∈ log, x.1.From since) : ∃ f₁', Recorded γ f' log f₁' ∧ Alike since f₁ f₁' := by
  induction h with
  | none => exact ⟨f', .none, halike⟩
  | snoc _ hexchange ih =>
    obtain ⟨hbefore, hlast⟩ := List.forall_mem_append.1 hfrom
    obtain ⟨f₂', hrecorded, halike⟩ := ih hbefore
    obtain ⟨f₁', hexchange', halike⟩ := hexchange.alike halike (hlast _ (List.mem_singleton_self _))
    exact ⟨f₁', hrecorded.snoc hexchange', halike⟩

end

/-! ## What a refusal changes -/

section

variable {f : Flow α}

theorem selecting_of_reservation {nowUs : Nat} {r : Reservation} (hr : f.reservation = some r) :
    f.selecting nowUs = f.refreshed nowUs := by
  rw [selecting, refreshed_reservation, hr]
  rfl

theorem selecting_of_none {nowUs : Nat} (hnone : f.reservation = none) :
    f.selecting nowUs = { f.refreshed nowUs with counterExpired := false } := by
  rw [selecting, refreshed_reservation, hnone]
  rfl

theorem reserved_counter (f : Flow α) (p : Packet) (c : Choice α) : f.reserved p (some .counter) c =
    { f.reserved p none c with stats := (f.reserved p none c).stats.recordTrigger .counter } := by
  unfold reserved queue
  dsimp only
  split
  · rfl
  · split_ifs <;> rfl

/-- While there is a reservation, none has run out since. -/
def Unexpired (f : Flow α) : Prop := ∀ r, f.reservation = some r → f.counterExpired = false

end

section

variable [Analysis α] {γ : Type} [RandomSource γ] {f f' f₁ : Flow α}

omit [Analysis α] in
theorem Unexpired.passed {now : Slot} {nowUs : Nat} (h : f.Unexpired) (hpassed : Passed γ f now nowUs f₁) :
    f₁.Unexpired := by
  intro r hr
  cases hpassed with
  | occasion hheld _ hclosed =>
    rw [noted_reservation] at hr
    rw [noted_counterExpired]
    cases hclosed with
    | runsOn => exact h _ hheld
    | kept => exact h _ hheld
    | released => cases hr
  | between =>
    rw [noted_reservation] at hr
    rw [noted_counterExpired]
    exact h r hr

theorem Unexpired.handed {now : Slot} {nowUs : Nat} {p : Packet} {pool : ResourcePool} {g g' : γ}
    {d : Except FlowError Decision} (h : f.Unexpired) (hhanded : Handed f now nowUs p pool g d f₁ g') :
    f₁.Unexpired := by
  have hselecting : (f.selecting nowUs).counterExpired = false := by
    cases hr : f.reservation with
    | none => rw [selecting_of_none hr]
    | some r => rw [selecting_of_reservation hr, refreshed_counterExpired, h r hr]
  intro r hr
  cases hhanded with
  | dropped hheld => exact (refreshed_counterExpired f nowUs).trans (h _ hheld)
  | reused hheld =>
    rw [queue_counterExpired]
    exact (refreshed_counterExpired f nowUs).trans (h _ hheld)
  | selected => rwa [reserved, queue_counterExpired]
  | refused => exact hselecting

theorem unexpired_of_run {params : FlowParams α} {calls : List (Call α)} (h : Run γ { params } calls f) :
    f.Unexpired := by
  refine h.keeps (fun a c b _ ha hstep => ?_) (by simp [Unexpired])
  cases hstep with
  | sense hsense =>
    obtain ⟨_, -, rfl⟩ := sense_heard hsense
    intro r hr
    exact (awake_counterExpired a).trans (ha r ((awake_reservation a).symm.trans hr))
  | enqueue g => exact ha.handed (enqueue_handed rfl)
  | onSlot g => exact ha.passed (onSlot_passed rfl).2
  | teardown => simp [Unexpired, teardown]

theorem Handed.refused_eq {now : Slot} {nowUs : Nat} {p : Packet} {pool : ResourcePool} {g g' : γ} {e : FlowError}
    (hconsistent : f.Consistent) (hunexpired : f.Unexpired) (h : Handed f now nowUs p pool g (.error e) f₁ g') :
    f₁ = { f.refreshed nowUs with counterExpired := false } := by
  have hphase := hconsistent.awake_phase
  rw [awake_phase] at hphase
  cases h with
  | refused =>
    rw [← hphase]
    cases hr : f.reservation with
    | none => rw [selecting_of_none hr, refreshed_eq]
    | some r =>
      rw [selecting_of_reservation hr, refreshed_eq, ← hunexpired r hr]

theorem reselect_of_choose {now : Slot} {nowUs : Nat} {p : Packet} {pool : ResourcePool} {g g' : γ} {c : Choice α}
    (h : f.choose now nowUs p pool g = (.ok c, g')) (trigger : Option Trigger) :
    f.reselect now nowUs p trigger pool g =
      (.ok (.scheduled c.reservation.resource.slot trigger), f.reserved p trigger c, g') := by
  have hchoose : { f with phase := .selecting : Flow α }.choose now nowUs p pool g = f.choose now nowUs p pool g :=
    choose_congr rfl rfl now nowUs p pool g
  unfold reselect
  dsimp only
  rw [hchoose, h]
  rfl

theorem enqueue_of_forgotten {now : Slot} {nowUs : Nat} {p : Packet} {pool : ResourcePool} {g g' : γ} {first : Slot}
    {trigger : Option Trigger} (hexpired : f.counterExpired = true) (hnone : f.reservation = none)
    (h : f.enqueue now nowUs p pool g = (.ok (.scheduled first trigger), f₁, g')) :
    trigger = some .counter ∧ ∃ f₁',
      { f with counterExpired := false : Flow α }.enqueue now nowUs p pool g =
        (.ok (.scheduled first none), f₁', g') ∧
      f₁ = { f₁' with stats := f₁'.stats.recordTrigger .counter } := by
  have hplan : f.plan now p = .reselect (some .counter) := by simp [plan, hnone, hexpired]
  cases enqueue_handed h with
  | reused hr => simp [hnone] at hr
  | @selected _ c _ hreselect hchoose =>
    obtain rfl : trigger = some .counter := by simpa [hplan] using hreselect.symm
    refine ⟨rfl, _, ?_, reserved_counter ..⟩
    have hchoose' : (f.selecting nowUs).choose now nowUs p pool g = (f.refreshed nowUs).choose now nowUs p pool g :=
      choose_congr (by rw [selecting_params, refreshed_params]) (selecting_history ..) now nowUs p pool g
    rw [← reselect_of_choose (hchoose'.trans hchoose), enqueue_eq]
    have hselecting : { f with counterExpired := false : Flow α }.selecting nowUs = f.selecting nowUs := by
      rw [selecting_of_none hnone, selecting_of_none (f := { f with counterExpired := false }) hnone, refreshed_eq,
        refreshed_eq]
    rw [hselecting, refreshed_eq]
    simp [plan, hnone]

/-- A flow that refuses a packet has the reservation, the packets and the counters that it had. If its last reservation
had not run out it goes on as it would have done without the packet. If it had, the next packet that gets a reservation
gets the same one, but no reason is told or counted for it. -/
theorem packet_refused {params : FlowParams α} {calls : List (Call α)} (h : Run γ { params } calls f) {now : Slot}
    {nowUs : Nat} {p : Packet} {pool : ResourcePool} {g g' : γ} {e : FlowError}
    (hrefused : f.enqueue now nowUs p pool g = (.error e, f', g')) :
    f' = { f with
      history := f.history.prune nowUs f.params.sensingWindowUs
      phase := f.phase.awake
      counterExpired := false } ∧
    (f.counterExpired = false → ∀ log, (∀ x ∈ log, x.1.From nowUs) →
      (∀ f₁, Recorded γ f log f₁ → ∃ f₁', Recorded γ f' log f₁' ∧ Alike nowUs f₁ f₁') ∧
      (∀ f₁', Recorded γ f' log f₁' → ∃ f₁, Recorded γ f log f₁ ∧ Alike nowUs f₁ f₁')) ∧
    (f.counterExpired = true → ∀ (later : Slot) (laterUs : Nat) (next : Packet) (pool' : ResourcePool) (g₁ g₂ : γ)
      (first : Slot) (trigger : Option Trigger) (f₁ : Flow α), nowUs ≤ laterUs →
      f.enqueue later laterUs next pool' g₁ = (.ok (.scheduled first trigger), f₁, g₂) →
      trigger = some .counter ∧ ∃ f₁', f'.enqueue later laterUs next pool' g₁ = (.ok (.scheduled first none), f₁', g₂) ∧
        f₁ = { f₁' with stats := f₁'.stats.recordTrigger .counter }) := by
  have hunexpired := unexpired_of_run h
  have hf' := (enqueue_handed hrefused).refused_eq (consistent_of_run h) hunexpired
  refine ⟨by rw [hf', refreshed_eq], fun hkept log hfrom => ?_, fun hexpired => ?_⟩
  · have halike : Alike nowUs f f' := by
      have hsame : f' = f.refreshed nowUs := by rw [hf', refreshed_eq, ← hkept]
      rw [hsame]
      exact .refreshed f nowUs
    refine ⟨fun f₁ hlog => hlog.alike halike hfrom, fun f₁' hlog => ?_⟩
    obtain ⟨f₁, hlog', halike'⟩ := hlog.alike halike.symm hfrom
    exact ⟨f₁, hlog', halike'.symm⟩
  · have hnone : f.reservation = none := by
      cases hr : f.reservation with
      | none => rfl
      | some r => simp [hunexpired r hr] at hexpired
    intro later laterUs next pool' g₁ g₂ first trigger f₁ hle hlater
    obtain ⟨htrigger, f₁', hforgotten, hcounted⟩ := enqueue_of_forgotten hexpired hnone hlater
    refine ⟨htrigger, f₁', ?_, hcounted⟩
    rw [← hforgotten]
    apply enqueue_congr
    rw [hf', refreshed_eq, refreshed_eq, refreshed_eq]
    simp only [History.prune_prune _ hle]
    cases f.phase <;> rfl

end

/-! ## A reason that is forgotten -/

/-- A packet with an interval that may not be advertised. -/
def refusedPacket (n : Nat) : Packet := { singlePacket n with rriMs := 130 }

def onceRefused : Flow ℚ :=
  (onceSent.enqueue (.ofIndex 30) 30000 (refusedPacket 30) narrowPool Zeros.zeros).2.1

theorem run_onceSent : ∃ calls, Run Zeros { params := .standard } calls onceSent := by
  have htaken : Step Zeros _ _ onceTaken := .enqueue Zeros.zeros
  have hsent : Step Zeros _ _ onceSent := .onSlot Zeros.zeros
  exact ⟨_, (Run.none.snoc htaken).snoc hsent⟩

theorem onceSent_refuses : onceSent.enqueue (.ofIndex 30) 30000 (refusedPacket 30) narrowPool Zeros.zeros =
    (.error (.intervalNotAllowed 130), onceRefused, Zeros.zeros) := by
  have herror : (onceSent.enqueue (.ofIndex 30) 30000 (refusedPacket 30) narrowPool Zeros.zeros).1 =
      .error (.intervalNotAllowed 130) := by decide +kernel
  exact Prod.ext herror rfl

theorem onceSent_takes : singleTaken onceSent 138 =
    (.ok (.scheduled (.ofIndex 140) (some .counter)), twiceTaken, Zeros.zeros) := by
  have hdecision : (singleTaken onceSent 138).1 = .ok (.scheduled (.ofIndex 140) (some .counter)) := by decide +kernel
  exact Prod.ext hdecision rfl

theorem packet_refused_onceSent : onceRefused.reservation = none ∧
    ∃ f, singleTaken onceRefused 138 = (.ok (.scheduled (.ofIndex 140) none), f, Zeros.zeros) ∧
      twiceTaken = { f with stats := f.stats.recordTrigger .counter } := by
  obtain ⟨calls, hrun⟩ := run_onceSent
  obtain ⟨hsame, -, hforgotten⟩ := packet_refused hrun onceSent_refuses
  have hnone : onceSent.reservation = none := by decide +kernel
  refine ⟨by rw [hsame, hnone], ?_⟩
  exact (hforgotten (by decide +kernel) _ _ _ _ _ _ _ _ _ (by decide) onceSent_takes).2

/-- Because a packet with a wrong interval came before it, a packet gets its reservation for no reason. -/
theorem refusal_forgets_reason : ¬∀ (params : FlowParams ℚ) (calls : List (Call ℚ)) (f f' : Flow ℚ) (now : Slot)
    (nowUs : Nat) (p : Packet) (pool : ResourcePool) (g g' : Zeros) (e : FlowError),
    Run Zeros { params } calls f → f.enqueue now nowUs p pool g = (.error e, f', g') →
    ∀ (later : Slot) (laterUs : Nat) (next : Packet) (pool' : ResourcePool) (g₁ : Zeros) (first first' : Slot)
      (trigger trigger' : Option Trigger), nowUs ≤ laterUs →
      (f.enqueue later laterUs next pool' g₁).1 = .ok (.scheduled first trigger) →
      (f'.enqueue later laterUs next pool' g₁).1 = .ok (.scheduled first' trigger') → trigger' = trigger := by
  intro h
  obtain ⟨calls, hrun⟩ := run_onceSent
  have hafter : (singleTaken onceRefused 138).1 = .ok (.scheduled (.ofIndex 140) none) := by decide +kernel
  have hsame := h _ _ _ _ _ _ _ _ _ _ _ hrun onceSent_refuses (.ofIndex 138) (138 * 1000) (singlePacket 138) narrowPool
    Zeros.zeros _ _ _ _ (by decide) (congrArg Prod.fst onceSent_takes) hafter
  cases hsame

end Flow

end Sidelink
