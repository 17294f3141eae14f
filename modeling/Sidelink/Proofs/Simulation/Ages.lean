import Sidelink.Config.Rules
import Sidelink.Proofs.Flow.Triggers
import Sidelink.Proofs.Simulation.Avoidance

/-!
# Ages on the ring

What was heard or sent is dropped by its time in microseconds, and its age is taken from its slot on the ring. A clock
that counts slots without end ties the two: as long as the sensing window, with a slot more for what is heard a slot
late, is shorter than a turn of the ring, the age on the ring is the number of slots that went by. In a longer window it
is that number less whole turns.
-/

namespace Sidelink

/-! ## Counted slots -/

/-- A count of the slots that go by, with the slot on the ring and the time at which it begins. -/
structure Clock where
  numerology : Numerology
  start : Slot
  startUs : Nat

namespace Clock

variable {clock : Clock} {m n windowMs nowUs timeUs : Nat}

def slot (clock : Clock) (n : Nat) : Slot := clock.start + n

/-- The time lies in the slot of that number. -/
def Shows (clock : Clock) (n timeUs : Nat) : Prop :=
  clock.startUs + n * clock.numerology.slotUs ≤ timeUs ∧ timeUs < clock.startUs + (n + 1) * clock.numerology.slotUs

instance (clock : Clock) (n timeUs : Nat) : Decidable (clock.Shows n timeUs) := inferInstanceAs (Decidable (_ ∧ _))

theorem slotUs_mul (n : Numerology) : n.slotsPerMs * n.slotUs = 1000 := by
  rcases n.index_cases with h | h | h <;> simp [Numerology.slotsPerMs, Numerology.slotUs, h]

theorem slot_since (hle : m ≤ n) : (clock.slot n).since (clock.slot m) = (n - m) % 10240 := by
  unfold slot
  rw [← Nat.add_sub_of_le hle, ← Slot.add_add, Slot.since_add, Nat.add_sub_cancel_left]

/-- The slots of a window. -/
def reach (clock : Clock) (windowMs : Nat) : Nat := windowMs * clock.numerology.slotsPerMs

theorem le_of_window (hnow : clock.Shows n nowUs) (htime : clock.Shows m timeUs)
    (hwindow : nowUs - windowMs * 1000 ≤ timeUs) : n ≤ m + clock.reach windowMs := by
  obtain ⟨hbegun, -⟩ := hnow
  obtain ⟨-, hended⟩ := htime
  have hslots : n * clock.numerology.slotUs < (m + 1 + clock.reach windowMs) * clock.numerology.slotUs := by
    calc n * clock.numerology.slotUs < (m + 1) * clock.numerology.slotUs + windowMs * 1000 := by omega
      _ = (m + 1 + clock.reach windowMs) * clock.numerology.slotUs := by
        rw [reach, Nat.add_mul (m + 1), Nat.mul_assoc, slotUs_mul]
  have hlt := Nat.lt_of_mul_lt_mul_right hslots
  omega

/-- A slot that went by no more than `reach` slots before slot `n`, as old on the ring as it is. Its distance to slots a
little after `n` is right as well, as far as the reach and these slots together are shorter than a turn. -/
structure Aged (clock : Clock) (reach n m : Nat) (s : Slot) : Prop where
  le : m ≤ n
  near : n ≤ m + reach
  slot_eq : s = clock.slot m
  since_eq : (clock.slot n).since s = (n - m) % ringLength
  since_ahead : ∀ k, reach + k < ringLength → (clock.slot (n + k)).since s = n - m + k

theorem aged_of_near {reach : Nat} {s : Slot} (hle : m ≤ n) (hnear : n ≤ m + reach) (hslot : s = clock.slot m) :
    clock.Aged reach n m s where
  le := hle
  near := hnear
  slot_eq := hslot
  since_eq := by rw [hslot, slot_since hle]
  since_ahead k hk := by
    have hturn : n + k - m < 10240 := by
      unfold ringLength at hk
      omega
    rw [hslot, slot_since (Nat.le_add_right_of_le hle), Nat.mod_eq_of_lt hturn]
    omega

end Clock

/-! ## Where entries come from -/

namespace Flow

variable {α : Type}

section

variable {γ : Type} [RandomSource γ] {f f' : Flow α}

theorem of_mem_noted_own {sent : Option Transmission} {now : Slot} {nowUs : Nat} {o : OwnTransmission}
    (h : o ∈ (f.noted sent now nowUs).history.own) : o ∈ f.history.own ∨ o = ⟨now, nowUs⟩ := by
  cases sent with
  | none => exact .inl h
  | some t => simpa [noted, History.recordOwn] using h

theorem Passed.of_mem_own {now : Slot} {nowUs : Nat} {o : OwnTransmission} (h : Passed γ f now nowUs f')
    (ho : o ∈ f'.history.own) : o ∈ f.history.own ∨ o = ⟨now, nowUs⟩ := by
  cases h with
  | occasion _ _ hclosed =>
    have hnoted := of_mem_noted_own ho
    rwa [hclosed.history] at hnoted
  | between => exact of_mem_noted_own (f := f.served now) ho

end

variable [Analysis α] {γ : Type} [RandomSource γ] {f f' : Flow α} {c : Call α} {calls : List (Call α)}
  {params : FlowParams α}

theorem Step.of_mem_own {o : OwnTransmission} (h : Step γ f c f') (ho : o ∈ f'.history.own) :
    o ∈ f.history.own ∨ c = .onSlot o.slot o.timeUs := by
  cases c with
  | sense r =>
    cases h with
    | sense hsense =>
      obtain ⟨history, hrecord, rfl⟩ := sense_heard hsense
      obtain ⟨-, rfl⟩ := History.record_ok_iff.1 hrecord
      exact .inl ho
  | enqueue now nowUs p pool =>
    obtain ⟨_, _, _, hhanded⟩ := h.handed
    rw [hhanded.history] at ho
    exact .inl (List.mem_filter.1 ho).1
  | onSlot now nowUs =>
    rcases h.passed.of_mem_own ho with ho | rfl
    · exact .inl ho
    · exact .inr rfl
  | teardown =>
    cases h
    cases ho

theorem Step.of_mem_sensed {s : Sensed α} (h : Step γ f c f') (hs : s ∈ f'.history.sensed) :
    s ∈ f.history.sensed ∨ ∃ r subchannel, c = .sense r ∧ s = r.on subchannel := by
  cases c with
  | sense r =>
    cases h with
    | sense hsense =>
      obtain ⟨history, hrecord, rfl⟩ := sense_heard hsense
      rcases History.of_mem_record hrecord hs with hs | ⟨subchannel, rfl⟩
      · exact .inl hs
      · exact .inr ⟨r, subchannel, rfl, rfl⟩
  | enqueue now nowUs p pool =>
    obtain ⟨_, _, _, hhanded⟩ := h.handed
    rw [hhanded.history] at hs
    exact .inl (List.mem_filter.1 hs).1
  | onSlot now nowUs =>
    rw [h.passed.sensed] at hs
    exact .inl hs
  | teardown =>
    cases h
    cases hs

theorem Run.of_mem_own {o : OwnTransmission} (h : Run γ { params } calls f) (ho : o ∈ f.history.own) :
    .onSlot o.slot o.timeUs ∈ calls := by
  refine h.keeps (P := fun a => ∀ o ∈ a.history.own, .onSlot o.slot o.timeUs ∈ calls) ?_ (by simp) o ho
  intro a c b hc ih hstep o ho
  rcases hstep.of_mem_own ho with ho | rfl
  · exact ih o ho
  · exact hc

theorem Run.of_mem_sensed {s : Sensed α} (h : Run γ { params } calls f) (hs : s ∈ f.history.sensed) :
    ∃ r subchannel, .sense r ∈ calls ∧ s = r.on subchannel := by
  refine h.keeps (P := fun a => ∀ s ∈ a.history.sensed, ∃ r subchannel, .sense r ∈ calls ∧ s = r.on subchannel)
    ?_ (by simp) s hs
  intro a c b hc ih hstep s hs
  rcases hstep.of_mem_sensed hs with hs | ⟨r, subchannel, rfl, rfl⟩
  · exact ih s hs
  · exact ⟨r, subchannel, hc, rfl⟩

/-! ## Calls by the clock -/

/-- The call is made in slot `m`. What is heard in it was sent in the slot itself or in the one before. -/
def Call.At (clock : Clock) (m : Nat) : Call α → Prop
  | .sense r => clock.Shows m r.receivedUs ∧ ∃ k, k ≤ m ∧ m ≤ k + 1 ∧ r.slot = clock.slot k
  | .enqueue now nowUs _ _ => clock.Shows m nowUs ∧ now = clock.slot m
  | .onSlot now nowUs => clock.Shows m nowUs ∧ now = clock.slot m
  | .teardown => True

/-- Slots and times advance together over numbered calls, none of which comes after slot `n`. -/
def Timed (clock : Clock) (n : Nat) (log : List (Nat × Call α)) : Prop :=
  ∀ m c, (m, c) ∈ log → m ≤ n ∧ c.At clock m

theorem at_of_reportOf {clock : Clock} {a : OnAir α} {k nowUs rbs : Nat} {signalMw : α} {r : Report α}
    (hreport : AtNode.reportOf a nowUs rbs signalMw = .ok r) (hslot : a.tx.slot = clock.slot k)
    (hnow : clock.Shows (k + 1) nowUs) : Call.At clock (k + 1) (.sense r) := by
  unfold AtNode.reportOf at hreport
  obtain ⟨_, -, hreport⟩ := ok_of_bind hreport
  cases hreport
  exact ⟨hnow, k, Nat.le_succ k, Nat.le_refl _, hslot⟩

/-- A selection in slot `n` sees an entry of its history as old on the ring as it is, less whole turns. No turn is left
out as long as the sensing window, with one slot more for what was heard, is shorter than a turn. -/
theorem ages_of_window {clock : Clock} {log : List (Nat × Call α)} {n nowUs : Nat}
    (hrun : Run γ { params } (log.map Prod.snd) f) (htimed : Timed clock n log) (hnow : clock.Shows n nowUs) :
    (∀ o ∈ (f.history.prune nowUs params.sensingWindowUs).own, ∃ m, (m, .onSlot o.slot o.timeUs) ∈ log ∧
      clock.Aged (clock.reach params.sensingWindowMs) n m o.slot) ∧
    ∀ s ∈ (f.history.prune nowUs params.sensingWindowUs).sensed, ∃ m k r subchannel, (m, .sense r) ∈ log ∧
      s = r.on subchannel ∧ k ≤ m ∧ m ≤ k + 1 ∧ clock.Aged (clock.reach params.sensingWindowMs + 1) n k s.slot := by
  constructor
  · intro o ho
    obtain ⟨hmem, hwindow⟩ := List.mem_filter.1 ho
    obtain ⟨⟨m, c⟩, hlogged, hcall⟩ := List.mem_map.1 (hrun.of_mem_own hmem)
    obtain rfl : c = .onSlot o.slot o.timeUs := hcall
    obtain ⟨hle, htime, hslot⟩ := htimed m _ hlogged
    have hnear := Clock.le_of_window hnow htime (of_decide_eq_true hwindow)
    exact ⟨m, hlogged, Clock.aged_of_near hle hnear hslot⟩
  · intro s hs
    obtain ⟨hmem, hwindow⟩ := List.mem_filter.1 hs
    obtain ⟨r, subchannel, hsensed, rfl⟩ := hrun.of_mem_sensed hmem
    obtain ⟨⟨m, c⟩, hlogged, hcall⟩ := List.mem_map.1 hsensed
    obtain rfl : c = .sense r := hcall
    obtain ⟨hle, htime, k, hkm, hmk, hslot⟩ := htimed m _ hlogged
    -- The window is taken from the time of reception, and the age from the slot of the transmission.
    have hnear := Clock.le_of_window hnow htime (of_decide_eq_true hwindow)
    exact ⟨m, k, r, subchannel, hlogged, rfl, hkm, hmk, Clock.aged_of_near (by omega) (by omega) hslot⟩

/-- Slots of a millisecond from the start of the ring on. -/
def firstClock : Clock := ⟨.widest, .ofIndex 0, 0⟩

/-- What is heard of a transmission in slot 30. -/
def laterReport : Report ℚ := { firstReport with slot := .ofIndex 30, receivedUs := 31000 }

theorem laterReport_of : AtNode.reportOf ⟨1, ⟨0, 0⟩, 23, { firstTransmission with slot := .ofIndex 30 }⟩ 31000 10
    (1.2e-6 : ℚ) = .ok laterReport := rfl

/-- A node sends in slot 20, and after its own slot 30 it hears what was sent in it. -/
def heardLog : List (Nat × Call ℚ) :=
  [(18, .enqueue (.ofIndex 18) 18000 (singlePacket 18) narrowPool), (20, .onSlot (.ofIndex 20) 20000),
    (30, .onSlot (.ofIndex 30) 30000), (31, .sense laterReport)]

def heardUntil : Flow ℚ := (onceSent.onSlot (.ofIndex 30) 30000 Zeros.zeros).2.1

theorem heardLog_timed : Timed firstClock 138 heardLog := by
  intro m c hmem
  simp only [heardLog, List.mem_cons, List.not_mem_nil, or_false, Prod.mk.injEq] at hmem
  rcases hmem with ⟨rfl, rfl⟩ | ⟨rfl, rfl⟩ | ⟨rfl, rfl⟩ | ⟨rfl, rfl⟩
  · exact ⟨by decide, by decide +kernel, by decide +kernel⟩
  · exact ⟨by decide, by decide +kernel, by decide +kernel⟩
  · exact ⟨by decide, by decide +kernel, by decide +kernel⟩
  · exact ⟨by decide, at_of_reportOf laterReport_of (by decide +kernel) (by decide +kernel)⟩

theorem ages_of_window_heard : ∃ f, Run Zeros freshFlow (heardLog.map Prod.snd) f ∧
    (f.history.prune 138000 freshFlow.params.sensingWindowUs).own = [⟨.ofIndex 20, 20000⟩] ∧
    (f.history.prune 138000 freshFlow.params.sensingWindowUs).sensed.map (·.slot) = [.ofIndex 30] ∧
    firstClock.Aged 1000 138 20 (.ofIndex 20) ∧ firstClock.Aged 1001 138 30 (.ofIndex 30) := by
  have hhears : ((heardUntil.sense laterReport).toOption.map fun f =>
      ((f.history.prune 138000 freshFlow.params.sensingWindowUs).own,
        (f.history.prune 138000 freshFlow.params.sensingWindowUs).sensed.map (·.slot))) =
      some ([⟨.ofIndex 20, 20000⟩], [.ofIndex 30]) := by decide +kernel
  obtain ⟨f, hsense, hkept⟩ := Option.map_eq_some_iff.1 hhears
  obtain ⟨hown, hsensed⟩ := Prod.mk.inj hkept
  have htaken : Step Zeros freshFlow _ onceTaken := .enqueue Zeros.zeros
  have hsent : Step Zeros onceTaken _ onceSent := .onSlot Zeros.zeros
  have hpassed : Step Zeros onceSent _ heardUntil := .onSlot Zeros.zeros
  have hrun : Run Zeros freshFlow (heardLog.map Prod.snd) f :=
    (((Run.none.snoc htaken).snoc hsent).snoc hpassed).snoc (.sense (ok_of_toOption hsense))
  have hnow : firstClock.Shows 138 138000 := by decide +kernel
  obtain ⟨hages, hheard⟩ := ages_of_window hrun heardLog_timed hnow
  refine ⟨f, hrun, hown, hsensed, ?_, ?_⟩
  · obtain ⟨m, hmem, haged⟩ := hages ⟨.ofIndex 20, 20000⟩ (hown ▸ List.mem_singleton.2 rfl)
    have hm : m = 20 := by simpa [heardLog, laterReport] using hmem
    exact hm ▸ haged
  · obtain ⟨s, hs, hslot⟩ := List.mem_map.1 (hsensed ▸ List.mem_singleton.2 rfl)
    obtain ⟨m, k, r, -, hmem, -, hkm, hmk, haged⟩ := hheard s hs
    have hm : m = 31 := by
      simp only [heardLog, List.mem_cons, List.not_mem_nil, or_false, Prod.mk.injEq, reduceCtorEq, and_false,
        false_or] at hmem
      exact hmem.1
    have hk : k = 30 := by
      have hring : firstClock.slot 31 ≠ .ofIndex 30 := by decide +kernel
      have hcases : k = 30 ∨ k = 31 := by omega
      refine hcases.resolve_right fun hk => hring ?_
      rw [← hslot, haged.slot_eq, hk]
    rwa [hk, hslot] at haged

/-! ## A window longer than a turn -/

def onceLog : List (Nat × Call ℚ) :=
  [(18, .enqueue (.ofIndex 18) 18000 (singlePacket 18) narrowPool), (20, .onSlot (.ofIndex 20) 20000)]

theorem onceLog_timed : Timed firstClock 10260 onceLog := by
  intro m c hmem
  simp only [onceLog, List.mem_cons, List.not_mem_nil, or_false, Prod.mk.injEq] at hmem
  rcases hmem with ⟨rfl, rfl⟩ | ⟨rfl, rfl⟩
  · exact ⟨by decide, by decide +kernel, by decide +kernel⟩
  · exact ⟨by decide, by decide +kernel, by decide +kernel⟩

def longWindow : Config ℚ :=
  let c : Config ℚ := .standard
  { c with scheduler := { c.scheduler with sensingWindowMs := 20000 } }

def longParams : FlowParams ℚ :=
  match longWindow.flowParams with
  | .ok params => params
  | .error _ => .standard

def longTaken : Flow ℚ := (singleTaken { params := longParams } 18).2.1
def longSent : Flow ℚ := (singleSent longTaken 20).2.1

theorem longSent_run : Run Zeros { params := longParams } (onceLog.map Prod.snd) longSent := by
  have hfirst : Step Zeros _ _ longTaken := Step.enqueue Zeros.zeros
  have hsent : Step Zeros _ _ longSent := Step.onSlot Zeros.zeros
  exact (Run.none.snoc hfirst).snoc hsent

/-- A turn of the ring after a transmission its slot comes again, and a window of twenty seconds still has it. -/
theorem age_less_turns : ¬∀ (config : Config ℚ) (params : FlowParams ℚ) (clock : Clock) (log : List (Nat × Call ℚ))
    (f : Flow ℚ) (n nowUs : Nat), config.validate = .ok () → config.flowParams = .ok params →
    clock.numerology = params.numerology → Run Zeros { params } (log.map Prod.snd) f → Timed clock n log →
    clock.Shows n nowUs → ∀ o ∈ (f.history.prune nowUs params.sensingWindowUs).own,
      ∃ m, (m, .onSlot o.slot o.timeUs) ∈ log ∧ (clock.slot n).since o.slot = n - m := by
  intro h
  have hvalid : longWindow.validate = .ok () := ok_of_toOption (by decide +kernel)
  have hown : (longSent.history.prune 10260000 longParams.sensingWindowUs).own = [⟨.ofIndex 20, 20000⟩] := by
    decide +kernel
  obtain ⟨m, hmem, hage⟩ := h longWindow longParams firstClock onceLog longSent 10260 10260000 hvalid rfl rfl
    longSent_run onceLog_timed (by decide +kernel) ⟨.ofIndex 20, 20000⟩ (hown ▸ List.mem_singleton.2 rfl)
  have hm : m = 20 := by
    simp only [onceLog, List.mem_cons, List.not_mem_nil, or_false, Prod.mk.injEq] at hmem
    rcases hmem with ⟨-, hcall⟩ | ⟨hm, -⟩
    · cases hcall
    · exact hm
  have hring : (firstClock.slot 10260).since (.ofIndex 20) = 0 := by decide +kernel
  rw [hring, hm] at hage
  cases hage

end Flow

end Sidelink
