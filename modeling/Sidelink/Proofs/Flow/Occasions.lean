import Sidelink.Proofs.Flow.Advertised
import Sidelink.Proofs.Flow.Heard

/-!
# Occasions of a reservation

A selection checks the occasions that a candidate would have. The reservation that is made for it comes to these slots
and to no others: one interval after the other, around the ring if it has to, until its counter is down.
-/

namespace Sidelink

theorem Slot.add_eq_add_iff {a s : Slot} {m n : Nat} (hcoming : n ≤ a.since s + m) (hturn : a.since s + m < n + 10240) :
    a + m = s + n ↔ a.since s + m = n := by
  have := a.isLt
  have := s.isLt
  constructor
  · intro h
    have hindex := congrArg Slot.index h
    simp only [index_later] at hindex
    simp only [since] at hcoming hturn ⊢
    omega
  · intro h
    apply ext_index
    simp only [index_later]
    simp only [since] at h
    omega

theorem filter_range_eq {P : Nat → Prop} [DecidablePred P] {k n : Nat} (hle : k ≤ n) (hbelow : ∀ j < k, P j)
    (habove : ∀ j, k ≤ j → j < n → ¬P j) : (List.range n).filter (fun j => P j) = List.range k := by
  obtain ⟨m, rfl⟩ := Nat.exists_eq_add_of_le hle
  rw [List.range_add, List.filter_append, List.filter_eq_self.2, List.filter_eq_nil_iff.2, List.append_nil]
  · intro j hj
    obtain ⟨i, hi, rfl⟩ := List.mem_map.1 hj
    have := List.mem_range.1 hi
    simpa using habove (k + i) (by omega) (by omega)
  · intro j hj
    simpa using hbelow j (List.mem_range.1 hj)

/-- The slot of the `j`-th occasion and the number of those to come after it, none when the reservation is released. -/
def Reservation.occasion (r : Reservation) (intervalSlots j : Nat) : Slot × Option Nat :=
  (r.resource.slot + j * intervalSlots, if j + 1 = r.counter then none else some (r.counter - (j + 1)))

namespace Flow

variable {α : Type}

/-! ## A slot -/

section

variable [Analysis α] {γ : Type} [RandomSource γ] {f f' : Flow α}

theorem closeOccasion_reservation {r : Reservation} {used : Bool} (hkeep : ¬(0.0 : α) < f.params.keepProbability)
    (g : γ) : (f.closeOccasion r used g).1.reservation =
      if 1 < r.counter then some (r.advance (f.params.slotsInMs r.rriMs)) else none := by
  have hdraw : drawKeep f.params.keepProbability g = (false, g) := if_neg hkeep
  have hcounter : 0 < (r.advance (f.params.slotsInMs r.rriMs)).counter ↔ 1 < r.counter := by
    simp only [Reservation.advance]
    omega
  unfold closeOccasion
  simp only [hcounter, hdraw, ite_self, Bool.false_eq_true, if_false]
  split <;> rfl

theorem Step.occasion {r : Reservation} {now : Slot} {nowUs : Nat} (h : Step γ f (.onSlot now nowUs) f')
    (hkeep : ¬(0.0 : α) < f.params.keepProbability) (hr : f.reservation = some r) (hslot : r.resource.slot = now) :
    f'.occasions = f.occasions + 1 ∧
      f'.reservation = if 1 < r.counter then some (r.advance (f.params.slotsInMs r.rriMs)) else none := by
  cases h with
  | onSlot g =>
    have hsettled : f.settled now g = (f.served now).closeOccasion r (sentFirst (f.due now)) g := by
      simp only [settled, hr, if_pos hslot]
    rw [onSlot_eq]
    dsimp only
    rw [noted_reservation, (noted_tally ..).2, hsettled,
      closeOccasion_reservation (f := f.served now) hkeep, (closeOccasion_closed ..).tally.2]
    exact ⟨rfl, rfl⟩

omit [Analysis α] in
theorem Passed.between_reservation {now : Slot} {nowUs : Nat} (h : Passed γ f now nowUs f')
    (hslot : ∀ r, f.reservation = some r → r.resource.slot ≠ now) :
    f'.occasions = f.occasions ∧ f'.reservation = f.reservation := by
  cases h with
  | occasion hr hnow => exact absurd hnow (hslot _ hr)
  | between => exact ⟨(noted_tally ..).2, noted_reservation ..⟩

end

/-! ## Occasions that are closed -/

/-- The occasion that a call closes, with the number of those to come. -/
def closedBy (f : Flow α) (c : Call α) (f' : Flow α) : List (Slot × Option Nat) :=
  if f.occasions < f'.occasions then c.slot?.toList.map fun s => (s, f'.reservation.map (·.counter)) else []

variable [Analysis α] {γ : Type} [RandomSource γ]

variable (γ) in
/-- A run with the occasions that are closed in it. -/
inductive Closing (f : Flow α) : List (Call α) → List (Slot × Option Nat) → Flow α → Prop where
  | none : Closing f [] [] f
  | snoc {calls : List (Call α)} {closed : List (Slot × Option Nat)} {f' f'' : Flow α} {c : Call α} :
      Closing f calls closed f' → Step γ f' c f'' → Closing f (calls ++ [c]) (closed ++ closedBy f' c f'') f''

variable {f f' : Flow α} {c : Call α} {calls : List (Call α)} {closed : List (Slot × Option Nat)}

theorem Closing.run (h : Closing γ f calls closed f') : Run γ f calls f' := by
  induction h with
  | none => exact .none
  | snoc _ hstep ih => exact ih.snoc hstep

theorem Step.rests (h : Step γ f c f') (hslot : c.slot? = none) (hend : c ≠ .teardown)
    (hsame : f'.stats.selections = f.stats.selections) :
    f'.occasions = f.occasions ∧
      ∃ size : Reservation → Nat, f'.reservation = f.reservation.map fun r => { r with packetSize := size r } := by
  cases c with
  | sense r =>
    cases h with
    | sense hsense =>
      obtain ⟨history, -, rfl⟩ := sense_heard hsense
      refine ⟨?_, (·.packetSize), (awake_reservation f).trans Option.map_id'.symm⟩
      exact congrArg (fun s : FlowStats => s.usedReservations + s.unutilizedReservations) (awake_stats f)
  | enqueue now nowUs p pool =>
    obtain ⟨_, _, _, hhanded⟩ := h.handed
    refine ⟨hhanded.occasions, ?_⟩
    rcases hhanded.reservation with ⟨-, hreservation⟩ | ⟨hmore, -⟩
    · exact hreservation
    · omega
  | onSlot now nowUs => cases hslot
  | teardown => exact absurd rfl hend

/-! ## Counting down -/

/-- After `n` slots from `start` the first `k` occasions of a reservation are over and no others. -/
structure Counted (intervalSlots : Nat) (r : Reservation) (start : Slot) (n k : Nat) (f : Flow α) : Prop where
  le : k ≤ r.counter
  past : ∀ j < k, r.resource.slot.since start + j * intervalSlots < n
  coming : k < r.counter → n ≤ r.resource.slot.since start + k * intervalSlots
  held : k < r.counter → ∃ r', f.reservation = some r' ∧ r'.rriMs = r.rriMs ∧ r'.counter = r.counter - k ∧
    r'.resource.slot = r.resource.slot + k * intervalSlots
  released : k = r.counter → f.reservation = none

variable {intervalSlots n k : Nat} {r : Reservation} {start : Slot}

omit [Analysis α] in
theorem Counted.begin (hr : f.reservation = some r) (hcounter : 0 < r.counter) :
    Counted intervalSlots r start 0 0 f := by
  refine ⟨Nat.zero_le _, by simp, by simp, fun _ => ?_, by omega⟩
  exact ⟨r, hr, rfl, rfl, by simp⟩

omit [Analysis α] in
theorem Counted.resized (h : Counted intervalSlots r start n k f) {size : Reservation → Nat}
    (hreservation : f'.reservation = f.reservation.map fun r => { r with packetSize := size r }) :
    Counted intervalSlots r start n k f' := by
  refine ⟨h.le, h.past, h.coming, fun hk => ?_, fun hk => ?_⟩
  · obtain ⟨r', hr', hrest⟩ := h.held hk
    exact ⟨{ r' with packetSize := size r' }, by rw [hreservation, hr']; rfl, hrest⟩
  · rw [hreservation, h.released hk]
    rfl

omit [Analysis α] in
theorem Counted.past_succ (h : Counted intervalSlots r start n k f) :
    ∀ j < k, r.resource.slot.since start + j * intervalSlots < n + 1 :=
  fun j hj => Nat.lt_succ_of_lt (h.past j hj)

omit [Analysis α] in
theorem Counted.within (h : Counted intervalSlots r start n k f) (hturn : intervalSlots < 10240) :
    r.resource.slot.since start + k * intervalSlots < n + 10240 := by
  rcases k with _ | k
  · have := Slot.since_lt r.resource.slot start
    omega
  · have := h.past k (by omega)
    rw [Nat.succ_mul]
    omega

theorem Counted.between {now : Slot} {nowUs : Nat} (h : Counted intervalSlots r start n k f)
    (hstep : Step γ f (.onSlot now nowUs) f') (hslot : ∀ r', f.reservation = some r' → r'.resource.slot ≠ now)
    (hcoming : k < r.counter → n + 1 ≤ r.resource.slot.since start + k * intervalSlots) :
    closedBy f (.onSlot now nowUs) f' = [] ∧ Counted intervalSlots r start (n + 1) k f' := by
  obtain ⟨hoccasions, hreservation⟩ := hstep.passed.between_reservation hslot
  refine ⟨if_neg (by omega), h.le, h.past_succ, hcoming, ?_, ?_⟩
  · rw [hreservation]
    exact h.held
  · rw [hreservation]
    exact h.released

omit [Analysis α] in
theorem Counted.close {r' : Reservation} {nowUs : Nat} (h : Counted intervalSlots r start n k f)
    (hleft : k < r.counter) (hmore : 1 < r.counter → 0 < intervalSlots)
    (hdue : r.resource.slot.since start + k * intervalSlots = n) (hnow : r.resource.slot + k * intervalSlots = start + n)
    (hrri : r'.rriMs = r.rriMs) (hcounter : r'.counter = r.counter - k)
    (hslot : r'.resource.slot = r.resource.slot + k * intervalSlots) (hoccasions : f'.occasions = f.occasions + 1)
    (hreservation : f'.reservation = if 1 < r'.counter then some (r'.advance intervalSlots) else none) :
    closedBy f (.onSlot (start + n) nowUs) f' = [r.occasion intervalSlots k] ∧
      Counted intervalSlots r start (n + 1) (k + 1) f' := by
  constructor
  · unfold closedBy Reservation.occasion
    rw [if_pos (by omega), hreservation, hnow]
    by_cases hlast : k + 1 = r.counter
    · rw [if_neg (by omega), if_pos hlast]
      rfl
    · rw [if_pos (by omega), if_neg hlast]
      simp only [Call.slot?, Option.toList_some, List.map_cons, List.map_nil, Option.map_some, Reservation.advance]
      rw [hcounter, Nat.sub_sub]
  · constructor
    case le => exact hleft
    case past =>
      intro j hj
      rcases Nat.lt_succ_iff_lt_or_eq.1 hj with hj | rfl
      · exact h.past_succ j hj
      · omega
    case coming =>
      intro hk
      have := hmore (by omega)
      rw [Nat.succ_mul]
      omega
    case held =>
      intro hk
      refine ⟨r'.advance intervalSlots, ?_, hrri, ?_, ?_⟩
      · rw [hreservation, if_pos (by omega)]
      · simp only [Reservation.advance]
        omega
      · change r'.resource.slot + intervalSlots = _
        rw [hslot, Slot.add_add, Nat.succ_mul]
    case released =>
      intro hk
      rw [hreservation, if_neg (by omega)]

theorem Counted.slot {nowUs : Nat} (h : Counted intervalSlots r start n k f)
    (hinterval : f.params.slotsInMs r.rriMs = intervalSlots) (hturn : intervalSlots < 10240)
    (hmore : 1 < r.counter → 0 < intervalSlots) (hkeep : ¬(0.0 : α) < f.params.keepProbability)
    (hstep : Step γ f (.onSlot (start + n) nowUs) f') :
    (closedBy f (.onSlot (start + n) nowUs) f' = [] ∧ Counted intervalSlots r start (n + 1) k f') ∨
      (closedBy f (.onSlot (start + n) nowUs) f' = [r.occasion intervalSlots k] ∧
        Counted intervalSlots r start (n + 1) (k + 1) f') := by
  rcases h.le.eq_or_lt with hdone | hleft
  · left
    apply h.between hstep
    · intro r' hr'
      rw [h.released hdone] at hr'
      cases hr'
    · omega
  · obtain ⟨r', hr', hrri, hcounter, hslot⟩ := h.held hleft
    have hcoming := h.coming hleft
    have hnow := Slot.add_eq_add_iff hcoming (h.within hturn)
    by_cases hdue : r.resource.slot.since start + k * intervalSlots = n
    · right
      obtain ⟨hoccasions, hreservation⟩ := hstep.occasion hkeep hr' (hslot.trans (hnow.2 hdue))
      rw [hrri, hinterval] at hreservation
      exact h.close hleft hmore hdue (hnow.2 hdue) hrri hcounter hslot hoccasions hreservation
    · left
      apply h.between hstep
      · intro r'' hr'' heq
        rw [hr'] at hr''
        cases hr''
        exact hdue (hnow.1 (hslot.symm.trans heq))
      · omega

omit [Analysis α] in
theorem Counted.filter_eq (h : Counted intervalSlots r start n k f) :
    (List.range r.counter).filter (fun j => r.resource.slot.since start + j * intervalSlots < n) = List.range k := by
  apply filter_range_eq h.le h.past
  intro j hj hlast
  have := h.coming (by omega)
  have := Nat.mul_le_mul_right intervalSlots hj
  omega

omit [Analysis α] in
theorem Counted.reservation_eq_none (h : Counted intervalSlots r start n k f) (hcounter : 0 < r.counter) :
    f.reservation = none ↔ r.resource.slot.since start + (r.counter - 1) * intervalSlots < n := by
  rcases h.le.eq_or_lt with hdone | hleft
  · have := h.past (r.counter - 1) (by omega)
    simpa only [h.released hdone, true_iff] using this
  · obtain ⟨r', hr', -⟩ := h.held hleft
    have := h.coming hleft
    have := Nat.mul_le_mul_right intervalSlots (show k ≤ r.counter - 1 by omega)
    simp only [hr', reduceCtorEq, false_iff]
    omega

/-! ## Runs -/

omit [Analysis α] in
theorem slots_snoc_eq_range {calls : List (Call α)} {c : Call α} {s : Slot} (hc : c.slot? = some s)
    (h : slots (calls ++ [c]) = (List.range n).map (start + ·)) :
    ∃ m, n = m + 1 ∧ slots calls = (List.range m).map (start + ·) ∧ s = start + m := by
  rw [slots_snoc, hc, Option.toList_some] at h
  rcases n with _ | m
  · simp at h
  · rw [List.range_succ, List.map_append, List.map_singleton] at h
    obtain ⟨hcalls, hlast⟩ := List.append_inj' h rfl
    exact ⟨m, rfl, hcalls, by simpa using hlast⟩

theorem Closing.counted (h : Closing γ f calls closed f') (hinterval : f.params.slotsInMs r.rriMs = intervalSlots)
    (hturn : intervalSlots < 10240) (hmore : 1 < r.counter → 0 < intervalSlots)
    (hkeep : ¬(0.0 : α) < f.params.keepProbability) (hr : f.reservation = some r) (hcounter : 0 < r.counter)
    (hslots : slots calls = (List.range n).map (start + ·)) (hend : ∀ c ∈ calls, c ≠ .teardown)
    (hsame : f'.stats.selections = f.stats.selections) :
    ∃ k, closed = (List.range k).map (r.occasion intervalSlots) ∧ Counted intervalSlots r start n k f' := by
  induction h generalizing n with
  | none =>
    have hn : n = 0 := by simpa [slots] using (congrArg List.length hslots).symm
    subst hn
    exact ⟨0, rfl, .begin hr hcounter⟩
  | @snoc calls closed a b c hrun hstep ih =>
    have hle := hrun.run.selections_le
    have hle' := hstep.selections_le
    have hparams := hrun.run.params
    have hend' : ∀ c ∈ calls, c ≠ .teardown := fun c hc => hend c (by simp [hc])
    cases hc : c.slot? with
    | none =>
      rw [slots_snoc, hc, Option.toList_none, List.append_nil] at hslots
      obtain ⟨k, rfl, hcounted⟩ := ih hslots hend' (by omega)
      obtain ⟨hoccasions, size, hreservation⟩ := hstep.rests hc (hend c (by simp)) (by omega)
      refine ⟨k, ?_, hcounted.resized hreservation⟩
      rw [closedBy, if_neg (by omega), List.append_nil]
    | some s =>
      obtain ⟨m, rfl, hslots', rfl⟩ := slots_snoc_eq_range hc hslots
      obtain ⟨k, rfl, hcounted⟩ := ih hslots' hend' (by omega)
      cases c with
      | onSlot now nowUs =>
        cases hc
        rcases hcounted.slot (hparams ▸ hinterval) hturn hmore (hparams ▸ hkeep) hstep with
          ⟨hnone, hcounted⟩ | ⟨hone, hcounted⟩
        · exact ⟨k, by rw [hnone, List.append_nil], hcounted⟩
        · exact ⟨k + 1, by rw [hone, List.range_succ, List.map_append, List.map_singleton], hcounted⟩
      | sense | enqueue | teardown => cases hc

omit [Analysis α] in
theorem occasions_eq {params : FlowParams α} {request : Request} (hcheck : params.checkOwnOccasions = true)
    (hsound : r.Sound params.dynamicScheduling) (hrri : request.rriMs = r.rriMs) (hcounter : request.counter = r.counter) :
    ∃ offsets, Candidates.occasionOffsets params request = .ok offsets ∧
      Candidates.occasions offsets r.resource =
        (List.range r.counter).map fun j => (r.occasion (params.slotsInMs r.rriMs) j).1 := by
  have hpos := hsound.counter_pos
  have hturn := slotsInMs_lt params hsound.interval
  have hcount : Candidates.occasionCount params request = r.counter := by
    unfold Candidates.occasionCount
    rw [hcheck, hrri, hcounter, Bool.true_and]
    split
    · exact Nat.max_eq_left hpos
    · rename_i hzero
      have hnone : r.rriMs = 0 := by
        apply Nat.eq_zero_of_not_pos
        intro hmore
        exact hzero (decide_eq_true (params.numerology.slotsInMs_pos (interval_le hsound.interval) hmore))
      exact (hsound.single (.inr hnone)).symm
  refine ⟨_, (Candidates.occasionOffsets_gives params request).ok ?_, ?_⟩
  · rw [hcount, hrri]
    have := Nat.mul_le_mul (show r.counter - 1 ≤ 74 by have := hsound.counter_le; omega) hturn.le
    simp only [limit32]
    omega
  · unfold Candidates.occasions Candidates.offsets
    rw [hcount, hrri, List.map_map]
    rfl

/-- A reservation is closed in the slots that lie whole intervals after its first one, one occasion after the other,
used or not, until its counter is down and it is released. These are the slots that were checked for it. -/
theorem occasions_of_reservation {made : Flow α} {now : Slot} {nowUs : Nat} {p : Packet} {pool : ResourcePool}
    {g g' : γ} {d : Except FlowError Decision} (hpacket : f.enqueue now nowUs p pool g = (d, made, g'))
    (hmade : made.stats.selections = f.stats.selections + 1) (hr : made.reservation = some r)
    (hkeep : ¬(0.0 : α) < f.params.keepProbability) (hclosing : Closing γ made calls closed f')
    (hslots : slots calls = (List.range n).map (start + ·)) (hend : ∀ c ∈ calls, c ≠ .teardown)
    (hsame : f'.stats.selections = made.stats.selections) :
    r.rriMs = p.rriMs ∧ (p.rriMs = 0 → r.counter = 1) ∧
      closed = ((List.range r.counter).filter fun j =>
        r.resource.slot.since start + j * f.params.slotsInMs r.rriMs < n).map (r.occasion (f.params.slotsInMs r.rriMs)) ∧
      (f'.reservation = none ↔
        r.resource.slot.since start + (r.counter - 1) * f.params.slotsInMs r.rriMs < n) ∧
      ∃ request set, request.rriMs = r.rriMs ∧ request.counter = r.counter ∧
        candidates pool made.history f.params request = .ok set ∧ r.resource ∈ set.resources ∧
        (f.params.checkOwnOccasions = true → ∃ offsets, Candidates.occasionOffsets f.params request = .ok offsets ∧
          Candidates.occasions offsets r.resource =
            (List.range r.counter).map fun j => (r.occasion (f.params.slotsInMs r.rriMs) j).1) := by
  have hhanded := enqueue_handed hpacket
  have hparams : made.params = f.params := hhanded.params
  rcases hhanded.reservation with ⟨hsame, -⟩ | ⟨-, choice, hchoose, hreservation⟩
  · omega
  · obtain rfl : choice.reservation = r := by
      rw [hreservation] at hr
      exact Option.some.inj hr
    have hchosen := choose_chosen hchoose
    have hsound := hchosen.sound
    rw [refreshed_params] at hsound
    have hturn := slotsInMs_lt f.params hsound.interval
    have hmore : 1 < choice.reservation.counter → 0 < f.params.slotsInMs choice.reservation.rriMs := by
      intro hmore
      apply f.params.numerology.slotsInMs_pos (interval_le hsound.interval)
      apply Nat.pos_of_ne_zero
      intro hzero
      have := hsound.single (.inr hzero)
      omega
    have hinterval : made.params.slotsInMs choice.reservation.rriMs = f.params.slotsInMs choice.reservation.rriMs := by
      rw [hparams]
    obtain ⟨k, rfl, hcounted⟩ := hclosing.counted hinterval hturn hmore (by rwa [hparams]) hr hsound.counter_pos
      hslots hend hsame
    have hrri := hchosen.sized.2.1
    refine ⟨hrri, fun hzero => hsound.single (.inr (hrri.trans hzero)), ?_, ?_, ?_⟩
    · rw [hcounted.filter_eq]
    · rw [hcounted.reservation_eq_none hsound.counter_pos]
    · have hset := hchosen.candidates
      rw [refreshed_params, refreshed_history, ← hhanded.history] at hset
      exact ⟨_, _, rfl, rfl, hset, (choose_drawn hchoose).2.1, fun hcheck => occasions_eq hcheck hsound rfl rfl⟩

/-! ## A first occasion -/

def firstReservation : Reservation where
  resource := ⟨.ofIndex 20, 0, 1⟩
  retransmission := none
  counter := 5
  rriMs := 100
  packetSize := 200
  reservationSize := 217
  traffic := .periodic
  allocation := ⟨1, 10, 10, 1736⟩

theorem firstQueued_reservation : firstQueued.reservation = some firstReservation := by decide +kernel

def nextCalls : List (Call ℚ) :=
  [.onSlot (.ofIndex 18) 18000, .onSlot (.ofIndex 19) 19000, .onSlot (.ofIndex 20) 20000]

theorem occasions_firstQueued : ∃ closed f', Closing Zeros firstQueued nextCalls closed f' ∧
    closed = [(.ofIndex 20, some 4)] ∧ f'.reservation ≠ none := by
  have hclosing : Closing Zeros firstQueued nextCalls _ _ :=
    ((Closing.none.snoc (.onSlot Zeros.zeros)).snoc (.onSlot Zeros.zeros)).snoc (.onSlot Zeros.zeros)
  have hslots : slots nextCalls = (List.range 3).map (Slot.ofIndex 18 + ·) := by decide
  obtain ⟨-, -, hclosed, hreleased, -⟩ := occasions_of_reservation (f := { params := .standard }) rfl
    (by decide +kernel) firstQueued_reservation (by decide +kernel) hclosing hslots (by simp [nextCalls])
    (by decide +kernel)
  refine ⟨_, _, hclosing, hclosed.trans (by decide +kernel), ?_⟩
  rw [Ne, hreleased]
  decide +kernel

end Flow

end Sidelink
