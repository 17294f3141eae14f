import Sidelink.Proofs.Flow.Fit
import Sidelink.Proofs.Flow.Heard
import Sidelink.Proofs.Selection.Fifth

/-!
# Why packets are refused

A packet that gets no reservation has an interval that may not be advertised, is too large for the carrier, or has no
data slot within its budget. Nothing else is in the way, since an allocation for a pool lies in the pool, and what is
drawn from has a candidate however much is excluded, as long as every message was heard with a finite power.
-/

namespace Sidelink

variable {α : Type}

/-! ## Finite powers -/

namespace Flow

/-- A call that tells of a message only with a finite power. -/
def Call.Finite [Scalar α] : Call α → Prop
  | .sense r => Scalar.isFinite r.rsrpDbm = true
  | _ => True

section

variable [Analysis α] {γ : Type} [RandomSource γ] {f f' : Flow α}

theorem Step.finite {c : Call α} (h : Step γ f c f') (hcall : c.Finite) (hfinite : f.history.Finite) :
    f'.history.Finite := by
  cases c with
  | sense r =>
    cases h with
    | sense hsense =>
      obtain ⟨history, hrecord, rfl⟩ := sense_heard hsense
      intro s hs
      rcases History.of_mem_record hrecord hs with hs | ⟨subchannel, rfl⟩
      · exact hfinite s hs
      · exact hcall
  | enqueue now nowUs p pool =>
    obtain ⟨_, _, _, hhanded⟩ := h.handed
    rw [hhanded.history]
    exact hfinite.prune _ _
  | onSlot now nowUs =>
    intro s hs
    rw [h.passed.sensed] at hs
    exact hfinite s hs
  | teardown =>
    cases h
    exact fun s hs => absurd hs List.not_mem_nil

theorem Run.finite {params : FlowParams α} {calls : List (Call α)} (h : Run γ { params } calls f)
    (hcalls : ∀ c ∈ calls, c.Finite) : f.history.Finite :=
  h.keeps (P := fun a => a.history.Finite) (fun _ _ _ hc ha hstep => hstep.finite (hcalls _ hc) ha)
    fun _ hs => absurd hs List.not_mem_nil

end

/-! ## Refusals -/

section

variable [Analysis α]

/-- The allocation for a packet in a pool. -/
def allocation (params : FlowParams α) (pool : ResourcePool) (p : Packet) : Except SizingError Allocation :=
  params.layout.allocate (α := α) (max p.size (params.reservationSize.getD 0)) params.mcs params.subchannelSize
    (min pool.dataRbCount 65535)

theorem sizing_eq (params : FlowParams α) (pool : ResourcePool) (p : Packet) :
    sizing params pool p = if p.rriMs ∈ allowedIntervalsMs then (allocation params pool p).mapError .ofSizing
      else .error (.intervalNotAllowed p.rriMs) := by
  unfold sizing allocation
  simp only [List.contains_iff_mem, ite_not]

/-- Some count that a reservation for a packet needs leaves its word, in its allocation or in the search for
candidates. -/
def Overflows (params : FlowParams α) (history : History α) (now : Slot) (nowUs : Nat) (p : Packet)
    (pool : ResourcePool) (counter : Nat) : Prop :=
  (∃ fault, allocation params pool p = .error (.fault fault)) ∨
    (params.randomSelection = false ∧ ∃ a, allocation params pool p = .ok a ∧
      ¬Candidates.Fits history params ⟨now, nowUs, p.pdbMs, a.subchannels, p.rriMs, counter⟩)

/-- What keeps a packet from a reservation: its interval, its size, its budget, or a count that leaves its word. -/
inductive Refusal (params : FlowParams α) (history : History α) (now : Slot) (nowUs : Nat) (p : Packet)
    (pool : ResourcePool) (counter : Nat) : FlowError → Prop where
  | interval : p.rriMs ∉ allowedIntervalsMs →
      Refusal params history now nowUs p pool counter (.intervalNotAllowed p.rriMs)
  | size {e : SizingError} : allocation params pool p = .error e →
      Refusal params history now nowUs p pool counter (.sizing e)
  | budget : dataSlots pool now params.t1 (params.t2 p.pdbMs) = [] →
      Refusal params history now nowUs p pool counter (.emptyWindow now params.t1 (params.t2 p.pdbMs))
  | overflow {fault : Fault} : Overflows params history now nowUs p pool counter →
      Refusal params history now nowUs p pool counter (.fault fault)

theorem of_choose_error {γ : Type} [RandomSource γ] {f : Flow α} {now : Slot} {nowUs : Nat} {p : Packet}
    {pool : ResourcePool} {g g' : γ} {e : FlowError} (h : f.choose now nowUs p pool g = (.error e, g')) :
    sizing f.params pool p = .error e ∨ ∃ a counter g₁, sizing f.params pool p = .ok a ∧
      newCounter f.params p.rriMs g = (counter, g₁) ∧
      (candidates pool f.history f.params ⟨now, nowUs, p.pdbMs, a.subchannels, p.rriMs, counter⟩ = .error e ∨
        ∃ set, candidates pool f.history f.params ⟨now, nowUs, p.pdbMs, a.subchannels, p.rriMs, counter⟩ = .ok set ∧
          drawResource set.resources f.params.ranking f.history (f.params.slotsInMs 1) g₁ = (.error e, g')) := by
  unfold choose at h
  dsimp -iota only at h
  split at h
  · rename_i hsizing
    cases h
    exact .inl hsizing
  · rename_i a hsizing
    split at h
    rename_i counter g₁ hcounter
    refine .inr ⟨a, counter, g₁, hsizing, hcounter, ?_⟩
    split at h
    · rename_i hset
      cases h
      exact .inl hset
    · rename_i set hset
      split at h
      · rename_i hdraw
        cases h
        exact .inr ⟨set, hset, hdraw⟩
      · cases h

theorem of_sizing_error {params : FlowParams α} {history : History α} {now : Slot} {nowUs : Nat} {p : Packet}
    {pool : ResourcePool} {e : FlowError} (h : sizing params pool p = .error e) (counter : Nat) :
    Refusal params history now nowUs p pool counter e := by
  rw [sizing_eq] at h
  split at h
  · cases hallocation : allocation params pool p with
    | ok a =>
      rw [hallocation] at h
      cases h
    | error s =>
      rw [hallocation] at h
      cases h
      cases s with
      | fault fault => exact .overflow (.inl ⟨fault, hallocation⟩)
      | _ => exact .size hallocation
  · rename_i hinterval
    cases h
    exact .interval hinterval

theorem allocated_fits {record : PoolRecord} {pool : ResourcePool} (hpool : ResourcePool.ofRecord record = .ok pool)
    (hword : record.data.Worded) {params : FlowParams α} {p : Packet} {a : Allocation}
    (h : sizing params pool p = .ok a) : max a.subchannels 1 ≤ pool.subchannelCount params.subchannelSize := by
  have hcarries := sizing_carries h
  have hwidth : pool.dataRbCount < 65536 := ResourcePool.dataRbCount_lt hpool hword
  have hmin : min pool.dataRbCount 65535 = pool.dataRbCount := by omega
  have hcount : pool.subchannelCount params.subchannelSize = pool.dataRbCount / params.subchannelSize := by
    have hle := Nat.div_le_self pool.dataRbCount params.subchannelSize
    rw [ResourcePool.subchannelCount, if_neg hcarries.size_pos.ne']
    exact Nat.mod_eq_of_lt (by omega)
  have hle := hcarries.subchannels_le
  rw [hmin] at hle
  have hpos := hcarries.subchannels_pos
  rw [hcount]
  omega

section

variable {γ : Type} [RandomSource γ] [Scalar.LawfulMeans α] {f f' : Flow α} {now : Slot} {nowUs : Nat} {p : Packet}
  {pool : ResourcePool} {g g' : γ} {e : FlowError} {record : PoolRecord}

theorem drawn_of_candidates {request : Request} {set : CandidateSet α}
    (h : candidates pool f.history f.params request = .ok set) (hfinite : f.history.Finite) (g : γ) :
    ∃ r g', drawResource set.resources f.params.ranking f.history (f.params.slotsInMs 1) g = (.ok r, g') := by
  refine drawResource_ok _ g hfinite ?_ (fun r hr => ?_) (Candidates.candidates_ne_nil h)
  · have hslots : f.params.slotsInMs 1 ≤ 4 := f.params.numerology.slotsInMs_one_le
    simp only [limit32]
    omega
  · have hfits := (Candidates.selectable_of_candidates h hr).fits
    have := pool.subchannelCount_lt f.params.subchannelSize
    omega

theorem refusal_of_choose (hpool : ResourcePool.ofRecord record = .ok pool) (hword : record.data.Worded)
    (hfinite : f.history.Finite) (h : f.choose now nowUs p pool g = (.error e, g')) :
    Refusal f.params f.history now nowUs p pool (newCounter f.params p.rriMs g).1 e := by
  rcases of_choose_error h with hsizing | ⟨a, counter, g₁, hsizing, hcounter, hcandidates | ⟨set, hset, hdraw⟩⟩
  · exact of_sizing_error hsizing _
  · rw [hcounter]
    rcases Candidates.of_candidates_error hcandidates with hwindow | ⟨hsensing, hnot, fault, rfl⟩
    · obtain ⟨rfl, hslots⟩ := of_selectionWindow_error hwindow (allocated_fits hpool hword hsizing)
      exact .budget hslots
    · have hallowed := mem_of_sizing hsizing
      rw [sizing_eq, if_pos hallowed] at hsizing
      exact .overflow (.inr ⟨hsensing, a, ok_of_mapError hsizing, hnot⟩)
  · obtain ⟨r, g₂, hdrawn⟩ := drawn_of_candidates hset hfinite g₁
    rw [hdrawn] at hdraw
    cases hdraw

/-- A packet is refused for its interval, its size or its budget. The sub-channels that it needs are always there, and a
candidate is always found. -/
theorem refusal_cases {params : FlowParams α} {calls : List (Call α)}
    (hpool : ResourcePool.ofRecord record = .ok pool) (hword : record.data.Worded) (hrun : Run γ { params } calls f)
    (hfinite : ∀ c ∈ calls, c.Finite) (hrefused : f.enqueue now nowUs p pool g = (.error e, f', g')) :
    Refusal params (f.history.prune nowUs params.sensingWindowUs) now nowUs p pool (newCounter params p.rriMs g).1 e ∧
      e ≠ .noCandidate ∧ ∀ needed available, e ≠ .notEnoughSubchannels needed available := by
  have hparams : f.params = params := hrun.params
  have hrefusal : Refusal params (f.history.prune nowUs params.sensingWindowUs) now nowUs p pool
      (newCounter params p.rriMs g).1 e := by
    cases enqueue_handed hrefused with
    | refused _ hchoose =>
      have hpruned : (f.refreshed nowUs).history.Finite := by
        rw [refreshed_history]
        exact (hrun.finite hfinite).prune _ _
      have hrefusal := refusal_of_choose hpool hword hpruned hchoose
      rwa [refreshed_params, refreshed_history, hparams] at hrefusal
  refine ⟨hrefusal, ?_, fun needed available => ?_⟩
  · rintro rfl
    cases hrefusal
  · rintro rfl
    cases hrefusal

end

end

/-! ## A packet without time -/

def neighborReport : Report ℚ where
  node := 2
  slot := .ofIndex 10
  receivedUs := 10000
  rbStart := 0
  rbCount := 10
  rsrpDbm := -90
  rriMs := 100
  counter := 5
  isRetransmission := false

def rankedParams : FlowParams ℚ := { FlowParams.standard with ranking := .lowestInterference }

def listening : Flow ℚ where
  params := rankedParams
  history := { sensed := [neighborReport.on 0] }
  phase := .sensing

theorem run_listening : Run Zeros { params := rankedParams } [.sense neighborReport] listening :=
  Run.none.snoc (.sense rfl)

/-- A packet that would have to be sent at once. -/
def instantPacket : Packet := { hundredthPacket 18 with pdbMs := 1 }

def instantTaken : Except FlowError Decision × Flow ℚ × Zeros :=
  listening.enqueue (.ofIndex 18) 18000 instantPacket narrowPool Zeros.zeros

theorem instantTaken_refused : instantTaken = (.error (.emptyWindow (.ofIndex 18) 2 0), instantTaken.2) := by
  have herror : instantTaken.1 = .error (.emptyWindow (.ofIndex 18) 2 0) := by decide +kernel
  exact Prod.ext herror rfl

theorem refusal_cases_listening : instantTaken.1 = .error (.emptyWindow (.ofIndex 18) 2 0) ∧
    Refusal rankedParams (listening.history.prune 18000 rankedParams.sensingWindowUs) (.ofIndex 18) 18000 instantPacket
      narrowPool (newCounter rankedParams 100 Zeros.zeros).1 (.emptyWindow (.ofIndex 18) 2 0) :=
  ⟨congrArg Prod.fst instantTaken_refused, (refusal_cases narrowPool_ofRecord trivial run_listening
    (by simp [Call.Finite, Scalar.isFinite]) instantTaken_refused).1⟩

end Flow

end Sidelink
