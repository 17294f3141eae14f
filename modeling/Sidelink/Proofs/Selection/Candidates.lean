import Sidelink.Proofs.Fault
import Sidelink.Proofs.Pool.Accepted
import Sidelink.Proofs.Selection.Window
import Sidelink.Proofs.Sensing.Occupancy
import Sidelink.Proofs.Sensing.Projection
import Sidelink.Selection.Candidates

/-!
# What is left of a window

The candidates of a selection are those of its window that neither an own transmission nor a sensed reservation
excludes, at a threshold that is raised no further than it has to be.
-/

namespace Sidelink

namespace Candidates

variable {α : Type}

/-! ## Raising the threshold -/

def raised [Scalar α] (start step : α) : Nat → α
  | 0 => start
  | i + 1 => raised start step i + step

/-- Whether the threshold is above every power. Without any power it always is. -/
def Exhausted [Scalar α] (strongest : Option α) (threshold : α) : Prop := ∀ p, strongest = some p → p < threshold

section

variable [Analysis α] (survivorsAt : α → List Resource) (target : Nat) (strongest : Option α) (start step : α)

def Stops (i : Nat) : Prop :=
  max target 1 ≤ (survivorsAt (raised start step i)).length ∨ Exhausted strongest (raised start step i)

/-- An exclusion that stopped at the first round that it could, or at the last one. -/
structure Relaxed (first last : Nat) (e : Exclusion α) : Prop where
  first_le : first ≤ e.relaxations
  le_last : e.relaxations ≤ last
  threshold : e.thresholdDbm = raised start step e.relaxations
  survivors : e.survivors = survivorsAt (raised start step e.relaxations)
  stops : e.relaxations = last ∨ Stops survivorsAt target strongest start step e.relaxations
  earlier : ∀ i, first ≤ i → i < e.relaxations → ¬Stops survivorsAt target strongest start step i

variable {survivorsAt target strongest start step}

theorem relax_of_stops {i : Nat} (h : Stops survivorsAt target strongest start step i) (rounds : Nat) :
    relax survivorsAt target strongest step (rounds + 1) i (raised start step i) =
      ⟨survivorsAt (raised start step i), raised start step i, i⟩ := by
  unfold relax
  cases strongest with
  | none => exact if_pos (by simp)
  | some p => exact if_pos (by simpa [Stops, Exhausted] using h)

theorem relax_of_not_stops {i : Nat} (h : ¬Stops survivorsAt target strongest start step i) (rounds : Nat) :
    relax survivorsAt target strongest step (rounds + 1) i (raised start step i) =
      relax survivorsAt target strongest step rounds (i + 1) (raised start step (i + 1)) := by
  rw [relax.eq_def]
  cases strongest with
  | none => exact absurd (.inr fun p hp => by cases hp) h
  | some p => exact if_neg (by simpa [Stops, Exhausted] using h)

variable (survivorsAt target strongest start step)

theorem relax_relaxed (rounds first : Nat) :
    Relaxed survivorsAt target strongest start step first (first + rounds)
      (relax survivorsAt target strongest step rounds first (raised start step first)) := by
  induction rounds generalizing first with
  | zero => exact ⟨Nat.le_refl _, Nat.le_refl _, rfl, rfl, .inl rfl, fun i hi hlt => absurd hlt (Nat.not_lt.2 hi)⟩
  | succ rounds ih =>
    by_cases hstops : Stops survivorsAt target strongest start step first
    · rw [relax_of_stops hstops]
      exact ⟨Nat.le_refl _, Nat.le_add_right _ _, rfl, rfl, .inr hstops,
        fun i hi hlt => absurd hlt (Nat.not_lt.2 hi)⟩
    · rw [relax_of_not_stops hstops]
      have hnext := ih (first + 1)
      rw [show first + 1 + rounds = first + (rounds + 1) by omega] at hnext
      refine ⟨Nat.le_of_succ_le hnext.first_le, hnext.le_last, hnext.threshold, hnext.survivors, hnext.stops, ?_⟩
      intro i hi hlt
      rcases Nat.eq_or_lt_of_le hi with rfl | hlater
      · exact hstops
      · exact hnext.earlier i hlater hlt

end

/-! ## Own transmissions -/

section

variable (params : FlowParams α) (request : Request)

def occasionCount : Nat :=
  if params.checkOwnOccasions && 0 < params.slotsInMs request.rriMs then max request.counter 1 else 1

/-- The distances from the first occasion of a candidate to those that are checked. -/
def offsets : List Nat := (List.range (occasionCount params request)).map (· * params.slotsInMs request.rriMs)

/-- The slots after an own transmission in which a candidate can be excluded for it. -/
def horizon : Nat := params.slotsInMs params.sensingWindowMs + params.t2 request.pdbMs

def intervals : List Nat := (params.allowedIntervalsMs.filter (0 < ·)).map params.slotsInMs

/-- Whether an occasion of a candidate lies a multiple of an allowed interval after an own transmission. -/
def selfBlocked (own : List Slot) (c : Resource) : Bool :=
  (occasions (offsets params request) c).any fun slot => own.any fun tx => (intervals params).any fun interval =>
    0 < slot.since tx && slot.since tx ≤ horizon params request && slot.since tx % interval == 0

theorem occasionOffsets_gives :
    Gives (occasionOffsets params request) (offsets params request)
      ((occasionCount params request - 1) * params.slotsInMs request.rriMs < limit32) :=
  ((Gives.word32 _).bind (k := fun _ => Except.ok (offsets params request)) (.pure _ True)).mono
    fun hfits => ⟨hfits, trivial⟩

theorem alignedWith_gives (horizon distance : Nat) (intervals : List Nat) :
    Gives (alignedWith horizon distance intervals)
      (intervals.any fun interval => 0 < distance && distance ≤ horizon && distance % interval == 0)
      (∀ interval ∈ intervals, interval ≠ 0) := by
  refine Gives.anyM _ fun interval _ => ?_
  split
  · rename_i hnear
    rw [decide_eq_true hnear.1, decide_eq_true hnear.2]
    exact ((Gives.remainder (ε := FlowError) distance interval).bind (k := fun m => Except.ok (m == 0))
      (.pure _ True)).mono fun hne => ⟨hne, trivial⟩
  · rename_i hfar
    have hfalse : (decide (0 < distance) && decide (distance ≤ horizon) && distance % interval == 0) = false := by
      rw [← Bool.decide_and, decide_eq_false hfar]
      rfl
    rw [hfalse]
    exact .pure _ _

theorem halfDuplexBlocked_gives (own : List Slot) (c : Resource) :
    Gives (halfDuplexBlocked (horizon params request) (intervals params) own (occasions (offsets params request) c))
      (selfBlocked params request own c) (∀ interval ∈ intervals params, interval ≠ 0) := by
  have hslot (slot : Slot) := Gives.anyM own fun tx _ =>
    alignedWith_gives (horizon params request) (slot.since tx) (intervals params)
  exact (Gives.anyM _ fun slot _ => hslot slot).mono fun hfits _ _ _ _ => hfits

theorem filter_zip_map (window : List Resource) (blocked : Resource → Bool) :
    ((window.zip (window.map blocked)).filter fun (_, b) => !b).map Prod.fst = window.filter fun c => !blocked c := by
  induction window with
  | nil => rfl
  | cons c rest ih =>
    rw [List.map_cons, List.zip_cons_cons]
    cases hc : blocked c with
    | true =>
      rw [List.filter_cons_of_neg (by simp), List.filter_cons_of_neg (by simp [hc])]
      exact ih
    | false =>
      rw [List.filter_cons_of_pos (by simp), List.filter_cons_of_pos (by simp [hc]), List.map_cons, ih]

theorem audible_gives (own : List Slot) (window : List Resource) :
    Gives (audible params request own (offsets params request) window)
      (window.filter fun c => !selfBlocked params request own c)
      (horizon params request < limit32 ∧ ∀ interval ∈ intervals params, interval ≠ 0) := by
  have hblocked := Gives.mapM window fun c _ => halfDuplexBlocked_gives params request own c
  have hall := (Gives.word32 (horizon params request)).bind
    (k := fun horizon => (window.mapM fun c =>
      halfDuplexBlocked horizon (intervals params) own (occasions (offsets params request) c)) >>= fun blocked =>
      Except.ok (((window.zip blocked).filter fun (_, b) => !b).map Prod.fst))
    (hblocked.bind (.pure _ True))
  rw [filter_zip_map] at hall
  exact hall.mono fun hfits => ⟨hfits.1, fun _ _ => hfits.2, trivial⟩

end

/-! ## The whole selection -/

section

variable (history : History α) (params : FlowParams α) (request : Request) (window : List Resource)

def heard : List Resource := window.filter fun c => !selfBlocked params request (history.own.map (·.slot)) c

/-- The part of a window that is left to sensing. Where own transmissions leave nothing they are ignored. -/
def base : List Resource :=
  if (heard history params request window).isEmpty then window else heard history params request window

variable {history params request window}

theorem heard_isEmpty_iff : (heard history params request window).isEmpty = true ↔
    ∀ c ∈ window, selfBlocked params request (history.own.map (·.slot)) c = true := by
  rw [List.isEmpty_iff, heard, List.filter_eq_nil_iff]
  simp

theorem base_ne_nil (h : window ≠ []) : base history params request window ≠ [] := by
  unfold base
  split
  · exact h
  · rename_i hheard
    simpa using hheard

end

section

variable [Analysis α] (history : History α) (params : FlowParams α) (request : Request) (window : List Resource)

def occupancy : Occupancy α := Occupancy.ofHits (history.uses (projection params request))

def survivors (threshold : α) : List Resource :=
  (base history params request window).filter fun c =>
    !sensingBlocked (occupancy history params request) (offsets params request) threshold c

def target : Nat := Scalar.toNat (Scalar.ceil (params.sizeThreshold * Scalar.ofNat window.length))

/-- The candidates, given what own transmissions leave and what others will use. -/
def leftOf (offsets : List Nat) (heard : List Resource) (occupancy : Occupancy α) : CandidateSet α :=
  let base := if heard.isEmpty then window else heard
  let left := relax (fun threshold => base.filter fun c => !sensingBlocked occupancy offsets threshold c)
    (target params window) occupancy.strongestDbm? params.thresholdStepDb maxRelaxations 0 params.rsrpThresholdDbm
  { resources := if left.survivors.isEmpty then window else left.survivors
    total := window.length
    thresholdDbm := left.thresholdDbm
    relaxations := left.relaxations
    fallback := left.survivors.isEmpty
    halfDuplexSkipped := heard.isEmpty }

def candidateSet : CandidateSet α :=
  leftOf params window (offsets params request) (heard history params request window)
    (occupancy history params request)

def exclusion : Exclusion α :=
  relax (survivors history params request window) (target params window)
    (occupancy history params request).strongestDbm? params.thresholdStepDb maxRelaxations 0 params.rsrpThresholdDbm

theorem candidateSet_eq : candidateSet history params request window =
    { resources := if (exclusion history params request window).survivors.isEmpty then window
        else (exclusion history params request window).survivors
      total := window.length
      thresholdDbm := (exclusion history params request window).thresholdDbm
      relaxations := (exclusion history params request window).relaxations
      fallback := (exclusion history params request window).survivors.isEmpty
      halfDuplexSkipped := (heard history params request window).isEmpty } := rfl

theorem exclusion_relaxed :
    Relaxed (survivors history params request window) (target params window)
      (occupancy history params request).strongestDbm? params.rsrpThresholdDbm params.thresholdStepDb 0
      (0 + maxRelaxations) (exclusion history params request window) :=
  relax_relaxed ..

structure Fits : Prop where
  occasions : (occasionCount params request - 1) * params.slotsInMs request.rriMs < limit32
  horizon : horizon params request < limit32
  intervals : ∀ interval ∈ intervals params, interval ≠ 0
  reports : ∀ s ∈ history.sensed, s.InWords (projection params request)

variable {history params request window} {pool : ResourcePool}

theorem candidates_eq (history : History α) (hwindow : selectionWindow pool params request = .ok window)
    (hsensing : params.randomSelection = false) : candidates pool history params request =
      occasionOffsets params request >>= fun offsets =>
        audible params request (history.own.map (·.slot)) offsets window >>= fun heard =>
          history.project (projection params request) >>= fun occupancy =>
            Except.ok (leftOf params window offsets heard occupancy) := by
  unfold candidates
  rw [hwindow]
  simp only [hsensing]
  rfl

theorem candidates_gives (history : History α) (hwindow : selectionWindow pool params request = .ok window)
    (hsensing : params.randomSelection = false) :
    Gives (candidates pool history params request) (candidateSet history params request window)
      (Fits history params request) := by
  have hslots : 0 < (projection params request).slotsPerMs := params.numerology.slotsInMs_one_pos
  rw [candidates_eq history hwindow hsensing]
  have hproject := (history.project_gives (ε := FlowError) (projection params request) hslots).bind
    (k := fun occupancy => Except.ok (leftOf params window (offsets params request)
      (heard history params request window) occupancy)) (.pure _ True)
  exact ((occasionOffsets_gives params request).bind ((audible_gives params request _ window).bind hproject)).mono
    fun hfits => ⟨hfits.occasions, ⟨hfits.horizon, hfits.intervals⟩, hfits.reports, trivial⟩

/-! ## What the selection returns -/

variable (history params request window)

def thresholdAt (i : Nat) : α := raised params.rsrpThresholdDbm params.thresholdStepDb i

def survivorsAt (i : Nat) : List Resource := survivors history params request window (thresholdAt params i)

/-- The set that a selection has to return. -/
structure Exact (set : CandidateSet α) : Prop where
  total : set.total = window.length
  rounds : set.relaxations ≤ maxRelaxations
  threshold : set.thresholdDbm = thresholdAt params set.relaxations
  skipped : set.halfDuplexSkipped = true ↔
    ∀ c ∈ window, selfBlocked params request (history.own.map (·.slot)) c = true
  resources : set.fallback = false →
    set.resources = survivorsAt history params request window set.relaxations ∧ set.resources ≠ []
  enough : set.fallback = false → max (target params window) 1 ≤ set.resources.length ∨
    history.uses (projection params request) = [] ∨
    (∃ p, (occupancy history params request).strongestDbm? = some p ∧ p < set.thresholdDbm) ∨
    set.relaxations = maxRelaxations
  earlier : ∀ i < set.relaxations,
    (survivorsAt history params request window i).length < max (target params window) 1 ∧
      ∃ p, (occupancy history params request).strongestDbm? = some p ∧ ¬p < thresholdAt params i
  fallback : set.fallback = true → set.relaxations = maxRelaxations ∧ set.resources = window ∧
    ∀ c ∈ base history params request window, sensingBlocked (occupancy history params request)
      (offsets params request) (thresholdAt params maxRelaxations) c = true

variable {history params request window}

variable [Scalar.LawfulOrder α]

theorem survivors_of_exhausted {threshold : α}
    (h : Exhausted (occupancy history params request).strongestDbm? threshold) :
    survivors history params request window threshold = base history params request window := by
  refine List.filter_eq_self.2 fun c _ => ?_
  have hfree (slot : Slot) (s : Nat) := Occupancy.not_isMarked_of_exhausted h slot s
  simp [sensingBlocked, hfree]

theorem candidateSet_exact (hwindow : window ≠ []) :
    Exact history params request window (candidateSet history params request window) := by
  have hrelaxed := exclusion_relaxed history params request window
  rw [candidateSet_eq]
  generalize exclusion history params request window = left at hrelaxed ⊢
  obtain ⟨-, hlast, hthreshold, hsurvivors, hstops, hearlier⟩ := hrelaxed
  rw [Nat.zero_add] at hlast hstops
  have hresources (hleft : left.survivors.isEmpty = false) :
      (if left.survivors.isEmpty then window else left.survivors) = left.survivors := if_neg (by simp [hleft])
  constructor
  · rfl
  · exact hlast
  · exact hthreshold
  · exact heard_isEmpty_iff
  · intro hleft
    dsimp only at hleft ⊢
    rw [hresources hleft]
    exact ⟨hsurvivors, by simpa using hleft⟩
  · intro hleft
    dsimp only at hleft ⊢
    rw [hresources hleft]
    rcases hstops with hend | henough | hexhausted
    · exact .inr (.inr (.inr hend))
    · rw [← hsurvivors] at henough
      exact .inl henough
    · cases hstrongest : (occupancy history params request).strongestDbm? with
      | none => exact .inr (.inl (Occupancy.eq_nil_of_strongest_none hstrongest))
      | some p => exact .inr (.inr (.inl ⟨p, rfl, hthreshold ▸ hexhausted p hstrongest⟩))
  · intro i hi
    obtain ⟨hfew, hnot⟩ := not_or.1 (hearlier i (Nat.zero_le i) hi)
    obtain ⟨p, hp, hbelow⟩ : ∃ p, (occupancy history params request).strongestDbm? = some p ∧
        ¬p < raised params.rsrpThresholdDbm params.thresholdStepDb i := by simpa [Exhausted] using hnot
    exact ⟨Nat.not_le.1 hfew, p, hp, hbelow⟩
  · intro hnone
    have hempty : survivors history params request window (raised params.rsrpThresholdDbm params.thresholdStepDb
        left.relaxations) = [] := by
      rw [← hsurvivors]
      exact List.isEmpty_iff.1 hnone
    -- A round that stops before the last one leaves something.
    have hend : left.relaxations = maxRelaxations := by
      rcases hstops with hend | henough | hexhausted
      · exact hend
      · rw [hempty, List.length_nil] at henough
        omega
      · rw [survivors_of_exhausted hexhausted] at hempty
        exact absurd hempty (base_ne_nil hwindow)
    refine ⟨hend, if_pos hnone, fun c hc => ?_⟩
    rw [hend, survivors, List.filter_eq_nil_iff] at hempty
    have hblocked := hempty c hc
    rw [Bool.not_eq_true, Bool.not_eq_false'] at hblocked
    exact hblocked

/-- A selection with sensing returns exactly the set that it has to, unless its counts do not fit their words. -/
theorem candidates_exact (history : History α) {pool : ResourcePool}
    (hwindow : selectionWindow pool params request = .ok window) (hsensing : params.randomSelection = false) :
    (∃ set, candidates pool history params request = .ok set ∧ Exact history params request window set) ∨
      (∃ fault, candidates pool history params request = .error (.fault fault)) ∧ ¬Fits history params request := by
  rcases candidates_gives history hwindow hsensing with hok | hfault
  · exact .inl ⟨_, hok, candidateSet_exact (selectionWindow_ne_nil hwindow)⟩
  · exact .inr hfault

end

/-- A reservation that was heard in slot 303 and comes back in slot 403. -/
def heardOnce : History ℚ where
  sensed := [⟨2, .ofIndex 303, 303000, 0, -100, 100, 5, false⟩]

def shortRequest : Request := ⟨.ofIndex 400, 400000, 5, 2, 100, 5⟩

theorem candidates_exact_heardOnce : ∃ window set,
    selectionWindow narrowPool (FlowParams.standard (α := ℚ)) shortRequest = .ok window ∧
      (FlowParams.standard (α := ℚ)).randomSelection = false ∧
      candidates narrowPool heardOnce .standard shortRequest = .ok set ∧
      Exact heardOnce .standard shortRequest window set := by
  have hwindow : selectionWindow narrowPool (FlowParams.standard (α := ℚ)) shortRequest = .ok _ := rfl
  have hok : (candidates narrowPool heardOnce .standard shortRequest).isOk = true := by decide +kernel
  rcases candidates_exact heardOnce hwindow rfl with ⟨set, hset, hexact⟩ | ⟨⟨f, hfault⟩, -⟩
  · exact ⟨_, set, hwindow, rfl, hset, hexact⟩
  · rw [hfault] at hok
    cases hok

/-- A sensing window as long as a 32-bit word allows. -/
def longestSensing : FlowParams ℚ := { FlowParams.standard with sensingWindowMs := 4294967295 }

/-- The last slot in which an own transmission could exclude a candidate does not fit a 32-bit word then. -/
theorem candidates_longestSensing :
    (∃ window, selectionWindow narrowPool longestSensing shortRequest = .ok window) ∧
      longestSensing.randomSelection = false ∧ 0 < longestSensing.thresholdStepDb ∧
      candidates narrowPool {} longestSensing shortRequest = .error (.fault .overflow) :=
  ⟨⟨_, rfl⟩, rfl, by decide +kernel, rfl⟩

/-! ## Candidates of the window -/

section

variable [Analysis α] {history : History α} {params : FlowParams α} {request : Request} {pool : ResourcePool}
  {set : CandidateSet α}

theorem candidates_of_window_error {e : FlowError} (h : selectionWindow pool params request = .error e) :
    candidates pool history params request = .error e := by
  unfold candidates
  rw [h]
  rfl

theorem candidates_of_randomSelection {window : List Resource}
    (hwindow : selectionWindow pool params request = .ok window) (hrandom : params.randomSelection = true) :
    candidates pool history params request =
      .ok ⟨window, window.length, params.rsrpThresholdDbm, 0, false, false⟩ := by
  unfold candidates
  rw [hwindow]
  simp only [hrandom]
  rfl

theorem mem_window_of_mem_candidateSet {window : List Resource} {c : Resource}
    (h : c ∈ (candidateSet history params request window).resources) : c ∈ window := by
  rw [candidateSet_eq] at h
  dsimp only at h
  split at h
  · exact h
  · rw [(exclusion_relaxed history params request window).survivors] at h
    have hbase := (List.mem_filter.1 h).1
    unfold base at hbase
    split at hbase
    · exact hbase
    · exact (List.mem_filter.1 hbase).1

theorem selectable_of_candidates (h : candidates pool history params request = .ok set) {c : Resource}
    (hc : c ∈ set.resources) : Selectable pool params request c := by
  cases hwindow : selectionWindow pool params request with
  | error e =>
    rw [candidates_of_window_error hwindow] at h
    cases h
  | ok window =>
    refine (mem_selectionWindow hwindow c).1 ?_
    cases hrandom : params.randomSelection with
    | true =>
      rw [candidates_of_randomSelection hwindow hrandom] at h
      cases h
      exact hc
    | false =>
      rw [(candidates_gives history hwindow hrandom).of_ok h] at hc
      exact mem_window_of_mem_candidateSet hc

theorem candidates_ne_nil (h : candidates pool history params request = .ok set) : set.resources ≠ [] := by
  cases hwindow : selectionWindow pool params request with
  | error e =>
    rw [candidates_of_window_error hwindow] at h
    cases h
  | ok window =>
    cases hrandom : params.randomSelection with
    | true =>
      rw [candidates_of_randomSelection hwindow hrandom] at h
      cases h
      exact selectionWindow_ne_nil hwindow
    | false =>
      obtain rfl := (candidates_gives history hwindow hrandom).of_ok h
      rw [candidateSet_eq]
      dsimp only
      split
      · exact selectionWindow_ne_nil hwindow
      · rename_i hleft
        simpa using hleft

theorem of_candidates_error {e : FlowError} (h : candidates pool history params request = .error e) :
    selectionWindow pool params request = .error e ∨
      (params.randomSelection = false ∧ ¬Fits history params request ∧ ∃ fault, e = .fault fault) := by
  cases hwindow : selectionWindow pool params request with
  | error e' =>
    rw [candidates_of_window_error hwindow] at h
    cases h
    exact .inl rfl
  | ok window =>
    refine .inr ?_
    cases hrandom : params.randomSelection with
    | true =>
      rw [candidates_of_randomSelection hwindow hrandom] at h
      cases h
    | false =>
      rcases candidates_gives history hwindow hrandom with hok | ⟨⟨fault, hfault⟩, hnot⟩
      · rw [hok] at h
        cases h
      · rw [hfault] at h
        cases h
        exact ⟨rfl, hnot, fault, rfl⟩

/-! ## Candidates and sensed reservations -/

theorem project_of_candidates (h : candidates pool history params request = .ok set)
    (hsensing : params.randomSelection = false) :
    ∃ window, selectionWindow pool params request = .ok window ∧
      ∃ hits, history.sensed.mapM (Sensed.hits (ε := FlowError) (projection params request)) = .ok hits := by
  cases hwindow : selectionWindow pool params request with
  | error e =>
    rw [candidates_of_window_error hwindow] at h
    cases h
  | ok window =>
    rw [candidates_eq history hwindow hsensing] at h
    obtain ⟨_, -, h⟩ := ok_of_bind h
    obtain ⟨_, -, h⟩ := ok_of_bind h
    obtain ⟨_, hproject, -⟩ := ok_of_bind h
    exact ⟨window, rfl, History.hits_of_project hproject⟩

theorem sensingBlocked_of_isMarked {o : Occupancy α} {thresholdDbm : α} {c : Resource} {s : Nat}
    (hcovers : c.covers s = true) (h : o.isMarked c.slot s thresholdDbm = true) :
    sensingBlocked o (offsets params request) thresholdDbm c = true := by
  have hpos : 0 < occasionCount params request := by
    unfold occasionCount
    split <;> omega
  have hfirst : c.slot ∈ occasions (offsets params request) c := by
    refine List.mem_map.2 ⟨0, ?_, Slot.add_zero _⟩
    exact List.mem_map.2 ⟨0, List.mem_range.2 hpos, Nat.zero_mul _⟩
  exact List.any_eq_true.2 ⟨c.slot, hfirst, List.any_eq_true.2 ⟨s, Resource.mem_subchannels.2 hcovers, h⟩⟩

theorem not_isMarked_of_mem [Scalar.LawfulOrder α] (h : candidates pool history params request = .ok set)
    (hsensing : params.randomSelection = false) (hfallback : set.fallback = false) {c : Resource}
    (hc : c ∈ set.resources) {s : Nat} (hcovers : c.covers s = true) :
    (occupancy history params request).isMarked c.slot s set.thresholdDbm = false := by
  obtain ⟨window, hwindow, -⟩ := project_of_candidates h hsensing
  obtain rfl := (candidates_gives history hwindow hsensing).of_ok h
  have hexact : Exact history params request window (candidateSet history params request window) :=
    candidateSet_exact (selectionWindow_ne_nil hwindow)
  rw [(hexact.resources hfallback).1, survivorsAt, ← hexact.threshold] at hc
  have hfree := (List.mem_filter.1 hc).2
  rw [← Bool.not_eq_true]
  intro hmarked
  rw [sensingBlocked_of_isMarked hcovers hmarked] at hfree
  cases hfree

end

end Candidates

end Sidelink
