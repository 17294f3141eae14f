import Sidelink.Proofs.Traffic.Assignment

/-!
# How long timers run

A timer runs for the interval of its generator, and for a drawn gap on top of it in aperiodic traffic. Intervals fit a
word once a generator is made. An interval with its gap need not, and then the timer overflows.
-/

namespace Sidelink

variable {α γ : Type}

/-! ## Delays -/

namespace Generator

section

variable [Analysis α] [RandomSource γ] {t : Generator α} {g : γ}

/-- The time after which a timer is due again, on numbers of any size. -/
def dueUs (t : Generator α) (g : γ) : Nat × γ :=
  match t with
  | .periodic interval _ => (interval, g)
  | .aperiodic minInterval meanGapMs _ =>
    let (gapMs, g) := Random.exponential meanGapMs g
    (minInterval + toUs gapMs, g)
  | .cam _ => (Cam.checkUs, g)

theorem span_le_dueUs (t : Generator α) (g : γ) : t.span ≤ (t.dueUs g).1 := by
  unfold span dueUs
  cases t with
  | periodic interval size => exact Nat.le_refl _
  | aperiodic minInterval meanGapMs sizes => exact Nat.le_add_right ..
  | cam c => exact Nat.le_refl _

variable {ε : Type} [OfFault ε]

theorem nextDelayUs_of_lt (h : (t.dueUs g).1 < limit64) :
    t.nextDelayUs (ε := ε) g = .ok (max (t.dueUs g).1 1, (t.dueUs g).2) := by
  cases t with
  | periodic interval size => rfl
  | aperiodic minInterval meanGapMs sizes =>
    unfold dueUs at h
    unfold nextDelayUs dueUs word64
    dsimp only at h ⊢
    rw [if_pos h]
    rfl
  | cam c => rfl

theorem nextDelayUs_of_le (hspan : t.span < limit64) (h : limit64 ≤ (t.dueUs g).1) :
    t.nextDelayUs (ε := ε) g = .error (OfFault.ofFault .overflow) := by
  cases t with
  | periodic interval size => exact absurd hspan (Nat.not_lt.2 h)
  | aperiodic minInterval meanGapMs sizes =>
    unfold dueUs at h
    unfold nextDelayUs word64
    dsimp only at h ⊢
    rw [if_neg (Nat.not_lt.2 h)]
    rfl
  | cam c => exact absurd hspan (Nat.not_lt.2 h)

variable (ε) in
/-- How long the timer of a generator runs after a draw. -/
structure Delayed (t : Generator α) (g : γ) : Prop where
  span_lt : t.span < limit64
  /-- A microsecond at least, and the least interval of the generator. -/
  delay : (t.dueUs g).1 < limit64 → ∃ delay, t.nextDelayUs (ε := ε) g = .ok (delay, (t.dueUs g).2) ∧ 1 ≤ delay ∧
    t.span ≤ delay ∧ delay < limit64
  overflow : limit64 ≤ (t.dueUs g).1 → t.nextDelayUs (ε := ε) g = .error (OfFault.ofFault .overflow)
  /-- Without a gap there is no overflow. -/
  undrawn : (∀ minInterval meanGapMs sizes, t ≠ .aperiodic minInterval meanGapMs sizes) → (t.dueUs g).1 < limit64

theorem delayed_of_span_lt (h : t.span < limit64) (g : γ) : t.Delayed ε g where
  span_lt := h
  delay hfits := by
    have hspan := t.span_le_dueUs g
    have hone : 1 < limit64 := by decide
    exact ⟨_, nextDelayUs_of_lt hfits, by omega, by omega, by omega⟩
  overflow hlarge := nextDelayUs_of_le h hlarge
  undrawn hnone := by
    cases t with
    | periodic interval size => exact h
    | aperiodic minInterval meanGapMs sizes => exact (hnone minInterval meanGapMs sizes rfl).elim
    | cam c => exact h

end

/-! ## Generators of a section -/

section

variable [Scalar α] {s : TrafficSection α} {t : Generator α}

theorem of_ofAperiodic (h : ofAperiodic s = .ok t) : s.aperiodicMinIntervalMs * 1000 < limit64 ∧
    ∃ meanGapMs sizes, t = .aperiodic (s.aperiodicMinIntervalMs * 1000) meanGapMs sizes := by
  unfold ofAperiodic at h
  dsimp only at h
  split at h
  · cases h
  · split at h
    · cases h
    · split at h
      · cases h
      · obtain ⟨minInterval, hword, h⟩ := ok_of_bind h
        obtain ⟨rfl, hfits⟩ := of_word64 hword
        cases h
        exact ⟨hfits, _, _, rfl⟩

theorem ofAperiodic_overflow [Scalar.LawfulReciprocal α] (hmean : 0.0 < s.aperiodicMeanMs)
    (hsizes : s.aperiodicSizes ≠ []) (hlarge : limit64 ≤ s.aperiodicMinIntervalMs * 1000) :
    ofAperiodic s = .error (.fault .overflow) := by
  have hrate := Scalar.LawfulReciprocal.zero_le_reciprocal hmean
  unfold ofAperiodic word64
  simp only [hmean, hrate, not_true, if_false, List.isEmpty_iff, hsizes, if_neg (Nat.not_lt.2 hlarge)]
  rfl

/-- The generators that a section gives to nodes, at any time of a run. Only what messages went out so far changes. -/
inductive OfSection (s : TrafficSection α) : Generator α → Prop where
  | periodic : OfSection s (ofPeriodic s)
  | aperiodic {t : Generator α} : ofAperiodic s = .ok t → OfSection s t
  | cam (last : Option (CamState α)) (count : Nat) :
    OfSection s (.cam ⟨last, count, s.camSize, s.camLargeSize, s.camLargeEvery⟩)

theorem OfSection.span_lt (h : OfSection s t) (hinterval : s.rriMs ∈ allowedIntervalsMs) : t.span < limit64 := by
  cases h with
  | periodic =>
    have hall : ∀ ms ∈ allowedIntervalsMs, ms * 1000 < limit64 := by decide
    exact hall _ hinterval
  | aperiodic hmade =>
    obtain ⟨hfits, _, _, rfl⟩ := of_ofAperiodic hmade
    exact hfits
  | cam last count =>
    have hcheck : Cam.checkUs < limit64 := by decide
    exact hcheck

end

theorem OfSection.onTimer [Analysis α] [RandomSource γ] {s : TrafficSection α} {t : Generator α}
    (h : OfSection s t) (nowUs : Nat) (position velocity : Point α) (g : γ) :
    OfSection s (t.onTimer nowUs position velocity g).2.1 := by
  cases h with
  | periodic => exact .periodic
  | aperiodic hmade =>
    obtain ⟨-, _, _, rfl⟩ := of_ofAperiodic hmade
    exact .aperiodic hmade
  | cam last count =>
    unfold Generator.onTimer CamGenerator.check
    dsimp only
    split
    · exact .cam ..
    · exact .cam ..

end Generator

/-! ## Assigned generators -/

/-- How many of `n` nodes get an aperiodic generator. -/
def TrafficModel.aperiodicNodes (n : Nat) : TrafficModel → Nat
  | .periodic => 0
  | .aperiodic => n
  | .mixed percentage => n - periodicCount n percentage
  | .etsi => 0

section

variable {ε β : Type} {x : Except ε β}

theorem of_mem_tagAll {ids : List Nat} {tagged : List (Nat × β)}
    (h : (ids.mapM fun id => do return (id, ← x)) = .ok tagged) : ∀ y ∈ tagged, x = .ok y.2 := by
  intro y hy
  obtain ⟨id, -, hid⟩ := of_mem_mapM h y hy
  obtain ⟨b, hb, hpair⟩ := ok_of_bind hid
  cases hpair
  exact hb

theorem tagAll_of_error {e : ε} {ids : List Nat} (h : x = .error e) (hids : ids ≠ []) :
    (ids.mapM fun id => do return (id, ← x)) = .error e := by
  obtain ⟨id, rest, rfl⟩ := List.exists_cons_of_ne_nil hids
  subst h
  rw [List.mapM_cons]
  rfl

end

section

variable [Scalar α] [RandomSource γ] {model : TrafficModel} {s : TrafficSection α} {ids : List Nat} {g g' : γ}

theorem ofSection_of_assignTraffic {generators : List (Nat × Generator α)}
    (h : assignTraffic model s ids g = .ok (generators, g')) : ∀ x ∈ generators, x.2.OfSection s := by
  unfold assignTraffic at h
  cases model with
  | periodic =>
    cases h
    intro x hx
    obtain ⟨id, -, rfl⟩ := List.mem_map.1 hx
    exact .periodic
  | etsi =>
    cases h
    intro x hx
    obtain ⟨id, -, rfl⟩ := List.mem_map.1 hx
    exact .cam none 0
  | aperiodic =>
    obtain ⟨tagged, htagged, h⟩ := ok_of_bind h
    cases h
    intro x hx
    exact .aperiodic (of_mem_tagAll htagged x hx)
  | mixed percentage =>
    dsimp only at h
    obtain ⟨aperiodic, haperiodic, h⟩ := ok_of_bind h
    cases h
    intro x hx
    rcases List.mem_append.1 (List.mem_mergeSort.1 hx) with hx | hx
    · obtain ⟨id, -, rfl⟩ := List.mem_map.1 hx
      exact .periodic
    · exact .aperiodic (of_mem_tagAll haperiodic x hx)

theorem shuffle_length (ids : List Nat) (g : γ) : (Random.shuffle ids.mergeSort g).1.length = ids.length :=
  (Random.shuffle_perm ..).length_eq.trans (List.length_mergeSort _)

theorem assignTraffic_of_error {e : ConfigError α} (h : Generator.ofAperiodic s = .error e)
    (hdrawn : 0 < model.aperiodicNodes ids.length) : assignTraffic model s ids g = .error e := by
  unfold TrafficModel.aperiodicNodes at hdrawn
  unfold assignTraffic
  cases model with
  | periodic => cases hdrawn
  | etsi => cases hdrawn
  | aperiodic =>
    dsimp only at hdrawn ⊢
    rw [tagAll_of_error h]
    · rfl
    · intro hnil
      have hlength := congrArg List.length hnil
      rw [List.length_mergeSort, List.length_nil] at hlength
      omega
  | mixed percentage =>
    dsimp only at hdrawn ⊢
    rw [tagAll_of_error h]
    · rfl
    · intro hnil
      have hlength := congrArg List.length hnil
      rw [List.length_drop, shuffle_length, List.length_nil] at hlength
      omega

theorem assignTraffic_of_none (hnone : model.aperiodicNodes ids.length = 0) :
    ∃ generators g', assignTraffic model s ids g = .ok (generators, g') := by
  unfold TrafficModel.aperiodicNodes at hnone
  unfold assignTraffic
  cases model with
  | periodic => exact ⟨_, _, rfl⟩
  | etsi => exact ⟨_, _, rfl⟩
  | aperiodic =>
    have hids : ids = [] := List.eq_nil_of_length_eq_zero hnone
    subst hids
    simp only [List.mergeSort_nil]
    exact ⟨_, _, rfl⟩
  | mixed percentage =>
    dsimp only at hnone ⊢
    rw [List.drop_eq_nil_of_le (by rw [shuffle_length]; omega)]
    exact ⟨_, _, rfl⟩

end

end Sidelink
