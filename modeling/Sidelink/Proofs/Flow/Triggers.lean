import Sidelink.Proofs.Flow.Ledger
import Sidelink.Proofs.Flow.Occasions

/-!
# Why reservations are made

The first reservation of a flow needs no reason. Each one after it was made because the last one had run out, or
because the one that was there did not serve a packet. A reservation that runs out is made up for once, by the next
packet that comes.
-/

namespace Sidelink

namespace Trigger

theorem classify_ne_counter {late large : Bool} {t : Trigger} (h : classify late large = some t) : t ≠ counter := by
  rintro rfl
  cases late <;> cases large <;> cases h

end Trigger

namespace FlowStats

def reselections (s : FlowStats) : Nat :=
  s.counterReselections + s.latencyReselections + s.sizeReselections + s.latencyAndSizeReselections

/-- The selections, those for a reservation that had run out, and those for any reason at all. -/
def grounds (s : FlowStats) : Nat × Nat × Nat := (s.selections, s.counterReselections, s.reselections)

end FlowStats

namespace Flow

variable {α : Type}

theorem countSelection_grounds (s : FlowStats) (set : CandidateSet α) (trigger : Option Trigger) :
    (countSelection s set trigger).grounds =
      (s.selections + 1, s.counterReselections + (if trigger = some .counter then 1 else 0),
        s.reselections + trigger.isSome.toNat) := by
  rcases trigger with _ | _ | _ | _ | _ <;>
    simp [countSelection, FlowStats.recordTrigger, FlowStats.grounds, FlowStats.reselections] <;> omega

theorem trigger_of_planWith {params : FlowParams α} {r : Reservation} {now : Slot} {p : Packet}
    {trigger : Option Trigger} (h : planWith params r now p = .reselect trigger) :
    trigger.isSome = true ∧ trigger ≠ some .counter := by
  unfold planWith at h
  dsimp only at h
  split at h
  · split at h
    · cases h
    · rename_i t ht
      cases h
      simpa using Trigger.classify_ne_counter ht
  · split at h
    · cases h
    · rename_i t ht
      cases h
      simpa using Trigger.classify_ne_counter ht
  · cases h
    cases ht : Trigger.classify _ _ with
    | none => simp
    | some t => simpa using Trigger.classify_ne_counter ht
  · split at h
    · cases h
    · split at h <;> cases h
      simp

/-! ## What a call changes -/

@[simp] theorem awake_counterExpired (f : Flow α) : f.awake.counterExpired = f.counterExpired := by
  unfold awake; split <;> rfl

@[simp] theorem queue_counterExpired (f : Flow α) (q : QueuedPacket) :
    (f.queue q).counterExpired = f.counterExpired := by
  unfold queue; dsimp only; split <;> (try split_ifs) <;> rfl

theorem queue_grounds (f : Flow α) (q : QueuedPacket) : (f.queue q).stats.grounds = f.stats.grounds := by
  rw [queue_stats]
  rfl

theorem noted_grounds (f : Flow α) (sent : Option Transmission) (now : Slot) (nowUs : Nat) :
    (f.noted sent now nowUs).stats.grounds = f.stats.grounds := by
  cases sent <;> rfl

@[simp] theorem noted_counterExpired (f : Flow α) (sent : Option Transmission) (now : Slot) (nowUs : Nat) :
    (f.noted sent now nowUs).counterExpired = f.counterExpired := by
  cases sent <;> rfl

theorem countOccasion_grounds (s : FlowStats) (used : Bool) : (countOccasion s used).grounds = s.grounds := by
  cases used <;> rfl

theorem closedBy_of_occasion {f f' : Flow α} {now : Slot} {nowUs : Nat} (h : f'.occasions = f.occasions + 1) :
    closedBy f (.onSlot now nowUs) f' = [(now, f'.reservation.map (·.counter))] := by
  rw [closedBy, if_pos (by omega)]
  rfl

theorem closedBy_of_none {f f' : Flow α} {c : Call α} (h : f'.occasions = f.occasions) : closedBy f c f' = [] :=
  if_neg (by omega)

/-! ## The account -/

/-- The selections of a flow against their reasons, and its reservations that ran out against those made for it: before
the first reservation, with one there, and after one has run out. -/
inductive Explained (f : Flow α) : Nat → Prop where
  | fresh : f.stats.grounds = (0, 0, 0) → f.reservation = none → f.counterExpired = false → Explained f 0
  | holding {r : Reservation} {n m : Nat} : f.stats.grounds = (m + 1, n, m) →
      f.reservation = some r → Explained f n
  | expired {n m : Nat} : f.stats.grounds = (m + 1, n, m) → f.reservation = none →
      f.counterExpired = true → Explained f (n + 1)

section

variable {f f' : Flow α} {n : Nat}

theorem Explained.keep (h : Explained f n) (hgrounds : f'.stats.grounds = f.stats.grounds)
    (hreservation : f'.reservation.isSome = f.reservation.isSome) (hexpired : f'.counterExpired = f.counterExpired) :
    Explained f' n := by
  cases h with
  | fresh hfirst hnone hnew => exact .fresh (hgrounds.trans hfirst) (by simp_all) (hexpired.trans hnew)
  | holding hcounts hr =>
    obtain ⟨r, hr⟩ := Option.isSome_iff_exists.1 (hreservation.trans (by simp [hr]))
    exact .holding (hgrounds.trans hcounts) hr
  | expired hcounts hnone hout => exact .expired (hgrounds.trans hcounts) (by simp_all) (hexpired.trans hout)

theorem Explained.release {r : Reservation} (h : Explained f n) (hgrounds : f'.stats.grounds = f.stats.grounds)
    (hr : f.reservation = some r) (hnone : f'.reservation = none) (hexpired : f'.counterExpired = true) :
    Explained f' (n + 1) := by
  cases h with
  | fresh _ hno => simp [hr] at hno
  | holding hcounts => exact .expired (hgrounds.trans hcounts) hnone hexpired
  | expired _ hno => simp [hr] at hno

theorem Explained.make {now : Slot} {p : Packet} {trigger : Option Trigger} {s : CandidateSet α} {r : Reservation}
    (h : Explained f n) (hplan : f.plan now p = .reselect trigger)
    (hgrounds : f'.stats.grounds = (countSelection f.stats s trigger).grounds) (hr : f'.reservation = some r) :
    Explained f' n := by
  rw [countSelection_grounds] at hgrounds
  unfold plan at hplan
  cases h with
  | fresh hfirst hnone hnew =>
    simp only [FlowStats.grounds, Prod.mk.injEq] at hfirst
    obtain rfl : trigger = none := by simpa [hnone, hnew] using hplan.symm
    refine .holding (m := 0) (hgrounds.trans ?_) hr
    simp [hfirst]
  | @holding r₀ _ m hcounts hr₀ =>
    simp only [FlowStats.grounds, Prod.mk.injEq] at hcounts
    obtain ⟨hsome, hne⟩ := trigger_of_planWith (by simpa only [hr₀] using hplan)
    refine .holding (m := m + 1) (hgrounds.trans ?_) hr
    simp [hcounts, hsome, hne]
  | @expired _ m hcounts hnone hout =>
    simp only [FlowStats.grounds, Prod.mk.injEq] at hcounts
    obtain rfl : trigger = some .counter := by simpa [hnone, hout] using hplan.symm
    refine .holding (m := m + 1) (hgrounds.trans ?_) hr
    simp [hcounts]

theorem Explained.balance (h : Explained f n) :
    f.stats.selections = f.stats.counterReselections + f.stats.latencyReselections + f.stats.sizeReselections +
        f.stats.latencyAndSizeReselections + (if 0 < f.stats.selections then 1 else 0) ∧
      n = f.stats.counterReselections + (if 0 < f.stats.selections ∧ f.reservation = none then 1 else 0) := by
  cases h with
  | fresh hcounts =>
    simp only [FlowStats.grounds, FlowStats.reselections, Prod.mk.injEq] at hcounts
    obtain ⟨hselections, hcounter, hall⟩ := hcounts
    rw [hall, hselections, hcounter, if_neg (by omega), if_neg (by simp)]
    simp
  | holding hcounts hr =>
    simp only [FlowStats.grounds, FlowStats.reselections, Prod.mk.injEq] at hcounts
    obtain ⟨hselections, hcounter, hall⟩ := hcounts
    rw [if_pos (by omega), hall, if_neg (by simp [hr])]
    exact ⟨hselections, hcounter.symm⟩
  | expired hcounts hnone =>
    simp only [FlowStats.grounds, FlowStats.reselections, Prod.mk.injEq] at hcounts
    obtain ⟨hselections, hcounter, hall⟩ := hcounts
    rw [if_pos (by omega), hall, if_pos ⟨by omega, hnone⟩, hcounter]
    exact ⟨hselections, rfl⟩

end

/-! ## Runs -/

/-- No reservation could be made for a packet. -/
def Reply.refuses : Reply → Bool
  | .decided (.error _) => true
  | _ => false

section

variable [Analysis α] {γ : Type} [RandomSource γ]

variable (γ) in
/-- A run with what each of its calls gave back and with the occasions that are closed in it. -/
inductive Audited (f : Flow α) : List (Call α × Reply) → List (Slot × Option Nat) → Flow α → Prop where
  | none : Audited f [] [] f
  | snoc {log : List (Call α × Reply)} {closed : List (Slot × Option Nat)} {f' f'' : Flow α} {c : Call α}
      {reply : Reply} : Audited f log closed f' → Exchange γ f' c reply f'' →
      Audited f (log ++ [(c, reply)]) (closed ++ closedBy f' c f'') f''

/-- The occasions after which there is no reservation any more. -/
def releases (closed : List (Slot × Option Nat)) : Nat := closed.countP (·.2.isNone)

variable {f f' : Flow α} {n : Nat}

theorem Explained.handed {now : Slot} {nowUs : Nat} {p : Packet} {pool : ResourcePool} {g g' : γ}
    {d : Except FlowError Decision} (h : Explained f n) (hhanded : Handed f now nowUs p pool g d f' g')
    (hok : (Reply.decided d).refuses = false) :
    Explained f' (n + releases (closedBy f (.enqueue now nowUs p pool) f')) := by
  rw [closedBy_of_none hhanded.occasions]
  cases hhanded with
  | dropped => exact h.keep rfl (by rw [refreshed_reservation]) (refreshed_counterExpired f nowUs)
  | @reused r hr =>
    refine h.keep ?_ ?_ ?_
    · rw [queue_grounds, refreshed_stats]
    · rw [queue_reservation, hr]
      rfl
    · rw [queue_counterExpired, refreshed_counterExpired]
  | @selected trigger choice _ hplan =>
    refine h.make (s := choice.set) hplan ?_ (reserved_reservation ..)
    rw [reserved, queue_grounds, selecting_stats]
  | refused => cases hok

omit [Analysis α] in
theorem Explained.passed {now : Slot} {nowUs : Nat} (h : Explained f n) (hpassed : Passed γ f now nowUs f') :
    Explained f' (n + releases (closedBy f (.onSlot now nowUs) f')) := by
  cases hpassed with
  | @occasion r f₁ hr hslot hclosed =>
    have hoccasions : (f₁.noted (f.due now) now nowUs).occasions = f.occasions + 1 := by
      rw [(noted_tally ..).2, hclosed.tally.2]
      rfl
    rw [closedBy_of_occasion hoccasions, noted_reservation]
    cases hclosed with
    | runsOn =>
      refine h.keep ?_ (by rw [noted_reservation, hr]; rfl) (noted_counterExpired ..)
      rw [noted_grounds, countOccasion_grounds]
      rfl
    | kept =>
      refine h.keep ?_ (by rw [noted_reservation, hr]; rfl) (noted_counterExpired ..)
      rw [noted_grounds]
      exact countOccasion_grounds _ _
    | released =>
      refine h.release ?_ hr (noted_reservation ..) (noted_counterExpired ..)
      rw [noted_grounds, countOccasion_grounds]
      rfl
  | between =>
    have hoccasions : ((f.served now).noted (f.due now) now nowUs).occasions = f.occasions := (noted_tally ..).2
    rw [closedBy_of_none hoccasions]
    refine h.keep ?_ (by rw [noted_reservation]; rfl) (noted_counterExpired ..)
    rw [noted_grounds]
    rfl

theorem Explained.exchange {c : Call α} {reply : Reply} (h : Explained f n) (hexchange : Exchange γ f c reply f')
    (hend : c ≠ .teardown) (hok : reply.refuses = false) : Explained f' (n + releases (closedBy f c f')) := by
  cases hexchange with
  | sense hsense =>
    obtain ⟨history, -, rfl⟩ := sense_heard hsense
    have hstats : (f.heard history).stats = f.stats := awake_stats f
    rw [closedBy_of_none (by rw [occasions, hstats]; rfl)]
    refine h.keep (by rw [hstats]) ?_ (awake_counterExpired f)
    exact congrArg _ (awake_reservation f)
  | enqueue g => exact h.handed (enqueue_handed rfl) hok
  | onSlot g => exact h.passed (onSlot_passed rfl).2
  | teardown => exact absurd rfl hend

theorem releases_append (closed more : List (Slot × Option Nat)) :
    releases (closed ++ more) = releases closed + releases more :=
  List.countP_append

theorem Audited.explained {params : FlowParams α} {log : List (Call α × Reply)} {closed : List (Slot × Option Nat)}
    (h : Audited γ { params } log closed f) (hend : ∀ x ∈ log, x.1 ≠ .teardown)
    (hok : ∀ x ∈ log, x.2.refuses = false) : Explained f (releases closed) := by
  induction h with
  | none => exact .fresh rfl rfl rfl
  | snoc _ hexchange ih =>
    obtain ⟨hend, hlast⟩ := List.forall_mem_append.1 hend
    obtain ⟨hok, hreply⟩ := List.forall_mem_append.1 hok
    rw [releases_append]
    apply (ih hend hok).exchange hexchange
    · exact hlast _ (List.mem_singleton_self _)
    · exact hreply _ (List.mem_singleton_self _)

/-- While a flow goes on and no packet is refused, each of its reservations but the first was made for one reason, and
each of those that ran out was made up for by one of them, or is the last that there was. -/
theorem selections_explained {params : FlowParams α} {log : List (Call α × Reply)}
    {closed : List (Slot × Option Nat)} (h : Audited γ { params } log closed f) (hend : ∀ x ∈ log, x.1 ≠ .teardown)
    (hok : ∀ x ∈ log, x.2.refuses = false) :
    f.stats.selections = f.stats.counterReselections + f.stats.latencyReselections + f.stats.sizeReselections +
        f.stats.latencyAndSizeReselections + (if 0 < f.stats.selections then 1 else 0) ∧
      releases closed = f.stats.counterReselections +
        (if 0 < f.stats.selections ∧ f.reservation = none then 1 else 0) :=
  (h.explained hend hok).balance

end

/-! ## A reservation that is made up for -/

/-- The packet of slot `n` of a source that reserves one occasion at a time. -/
def singlePacket (n : Nat) : Packet := { hundredthPacket n with rriMs := 0 }

def freshFlow : Flow ℚ := { params := .standard }

def singleTaken (f : Flow ℚ) (n : Nat) : Except FlowError Decision × Flow ℚ × Zeros :=
  f.enqueue (.ofIndex n) (n * 1000) (singlePacket n) narrowPool Zeros.zeros

def singleSent (f : Flow ℚ) (n : Nat) : Option Transmission × Flow ℚ × Zeros :=
  f.onSlot (.ofIndex n) (n * 1000) Zeros.zeros

def onceTaken : Flow ℚ := (singleTaken freshFlow 18).2.1
def onceSent : Flow ℚ := (singleSent onceTaken 20).2.1
def twiceTaken : Flow ℚ := (singleTaken onceSent 138).2.1
def twiceSent : Flow ℚ := (singleSent twiceTaken 140).2.1

def singleLog : List (Call ℚ × Reply) :=
  [(.enqueue (.ofIndex 18) (18 * 1000) (singlePacket 18) narrowPool, .decided (singleTaken freshFlow 18).1),
    (.onSlot (.ofIndex 20) (20 * 1000), .sent (singleSent onceTaken 20).1),
    (.enqueue (.ofIndex 138) (138 * 1000) (singlePacket 138) narrowPool, .decided (singleTaken onceSent 138).1),
    (.onSlot (.ofIndex 140) (140 * 1000), .sent (singleSent twiceTaken 140).1)]

def singleClosed : List (Slot × Option Nat) := [(.ofIndex 20, none), (.ofIndex 140, none)]

theorem audited_singleLog : Audited Zeros freshFlow singleLog singleClosed twiceSent := by
  have hfirst : Exchange Zeros _ _ _ onceTaken := .enqueue Zeros.zeros
  have hsent : Exchange Zeros _ _ _ onceSent := .onSlot Zeros.zeros
  have hsecond : Exchange Zeros _ _ _ twiceTaken := .enqueue Zeros.zeros
  have hagain : Exchange Zeros _ _ _ twiceSent := .onSlot Zeros.zeros
  have hclosed : closedBy freshFlow (.enqueue (.ofIndex 18) (18 * 1000) (singlePacket 18) narrowPool) onceTaken ++
      closedBy onceTaken (.onSlot (.ofIndex 20) (20 * 1000)) onceSent ++
      closedBy onceSent (.enqueue (.ofIndex 138) (138 * 1000) (singlePacket 138) narrowPool) twiceTaken ++
      closedBy twiceTaken (.onSlot (.ofIndex 140) (140 * 1000)) twiceSent = singleClosed := by decide +kernel
  rw [← hclosed]
  exact (((Audited.none.snoc hfirst).snoc hsent).snoc hsecond).snoc hagain

/-- Both reservations ran out. The second made up for the first. -/
theorem selections_explained_singleLog : twiceSent.stats.selections = 2 ∧ releases singleClosed = 2 ∧
    twiceSent.stats.selections = twiceSent.stats.counterReselections + twiceSent.stats.latencyReselections +
      twiceSent.stats.sizeReselections + twiceSent.stats.latencyAndSizeReselections +
        (if 0 < twiceSent.stats.selections then 1 else 0) ∧
      releases singleClosed = twiceSent.stats.counterReselections +
        (if 0 < twiceSent.stats.selections ∧ twiceSent.reservation = none then 1 else 0) :=
  ⟨by decide +kernel, rfl, selections_explained audited_singleLog (by simp [singleLog]) (by decide +kernel)⟩

end Flow

end Sidelink
