import Sidelink.Proofs.Flow.Heard
import Sidelink.Proofs.Selection.Candidates
import Sidelink.Simulation.Reception

/-!
# Respected reservations

A node that has heard a transmission makes no selection that meets the next one of the same reservation, as long as
the threshold of the selection does not pass the power that was heard.
-/

namespace Sidelink

variable {α : Type}

/-! ## A transmission as it is heard -/

/-- A control message as it is taken in, with the RBs of its transmission. -/
structure Reports (t : Transmission) (r : Report α) : Prop where
  slot : r.slot = t.slot
  rbStart : r.rbStart = t.rbStart
  rbCount : r.rbCount = max t.rbCount 1
  rriMs : r.rriMs = t.rriMs
  counter : r.counter = t.counter

theorem reportOf_reports [Analysis α] {a : OnAir α} {nowUs : Nat} {signalMw : α} {r : Report α}
    (h : AtNode.reportOf a nowUs (max a.tx.rbCount 1) signalMw = .ok r) : Reports a.tx r := by
  unfold AtNode.reportOf at h
  obtain ⟨_, -, h⟩ := ok_of_bind h
  cases h
  exact ⟨rfl, rfl, rfl, rfl, rfl⟩

namespace Flow

theorem Sent.placed {f : Flow α} {now : Slot} {t : Transmission} (h : f.Sent now t) :
    t.slot = t.resource.slot ∧ t.rbStart = t.resource.rbStart f.params.subchannelSize ∧
      t.rbCount = t.resource.rbCount f.params.subchannelSize := by
  cases h <;> exact ⟨rfl, rfl, rfl⟩

theorem on_mem_of_sense {a b b' : Flow α} {now : Slot} {t : Transmission} {r : Report α} (hsent : a.Sent now t)
    (hreports : Reports t r) (hheard : b.sense r = .ok b') (hsize : b.params.subchannelSize = a.params.subchannelSize)
    (hpos : 0 < b.params.subchannelSize) {subchannel : Nat} (hcovers : t.resource.covers subchannel = true) :
    r.on subchannel ∈ b'.history.sensed := by
  obtain ⟨-, hrbStart, hrbCount⟩ := hsent.placed
  obtain ⟨history, hrecord, rfl⟩ := sense_heard hheard
  have hcount : 0 < t.resource.count := by
    simp only [Resource.covers, Bool.and_eq_true, decide_eq_true_eq] at hcovers
    omega
  refine History.on_mem_of_record hrecord hpos (by rw [hreports.rbCount]; omega) ?_
  rw [hreports.rbStart, hreports.rbCount, hrbStart, hrbCount, ← hsize, Resource.subchannels_of_rbs hpos hcount]
  exact Resource.mem_subchannels.2 hcovers

end Flow

/-! ## A later selection -/

namespace Candidates

variable {params : FlowParams α} {request : Request}

/-- A report whose next occasion is still to come. -/
structure Coming (params : FlowParams α) (request : Request) (s : Sensed α) : Prop where
  reserved : 0 < s.rriMs
  inWindow : request.nowUs - params.sensingWindowUs ≤ s.receivedUs
  processed : params.numerology.sensingDelay ≤ request.now.since s.slot
  ahead : request.now.since s.slot ≤ params.slotsInMs s.rriMs

theorem Coming.followed {s : Sensed α} (h : Coming params request s) : s.Processed (projection params request) := by
  obtain ⟨hreserved, hwindow, hprocessed, -⟩ := h
  simp only [Sensed.Processed, projection]
  omega

variable [Analysis α] {history : History α} {pool : ResourcePool} {set : CandidateSet α}

theorem Coming.interval_eq {s : Sensed α} (h : Coming params request s)
    (hset : candidates pool history params request = .ok set) (hsensing : params.randomSelection = false)
    (hs : s ∈ history.sensed) : params.slotsInMs s.rriMs = s.interval (projection params request) := by
  obtain ⟨_, -, _, hhits⟩ := project_of_candidates hset hsensing
  obtain ⟨_, hhit⟩ := ok_of_mapM hhits s hs
  exact Numerology.slotsInMs_eq (Sensed.interval_of_hits hhit h.followed)

theorem not_covers_of_coming [ExactDecibels α] (hset : candidates pool history params request = .ok set)
    (hsensing : params.randomSelection = false) (hfallback : set.fallback = false) {s : Sensed α}
    (hs : s ∈ history.sensed) (hcoming : Coming params request s) (hreach : set.thresholdDbm ≤ s.rsrpDbm)
    {c : Resource} (hc : c ∈ set.resources) (hslot : c.slot = s.slot + params.slotsInMs s.rriMs) :
    c.covers s.subchannel = false := by
  rw [← Bool.not_eq_true]
  intro hcovers
  have hinterval := hcoming.interval_eq hset hsensing hs
  have hslots : 0 < (projection params request).slotsPerMs := params.numerology.slotsInMs_one_pos
  have huse : s.useAt (projection params request) 1 ∈ history.uses (projection params request) :=
    List.mem_flatMap.2 ⟨s, hs, Sensed.useAt_one_mem_uses hslots hcoming.followed (hinterval ▸ hcoming.ahead)⟩
  have hlevel : set.thresholdDbm ≤ mwToDbm (s.useAt (projection params request) 1).powerMw := by
    rw [Sensed.useAt, ExactDecibels.mwToDbm_dbmToMw]
    exact hreach
  -- Other uses of the cell only add to its power.
  have hmarked := Occupancy.isMarked_of_hit (fun _ hhit => History.isPower_of_mem hhit) huse hlevel
  have hwhere : (s.useAt (projection params request) 1).slot = c.slot := by
    rw [hslot, hinterval, Sensed.useAt, Nat.one_mul]
  rw [hwhere] at hmarked
  exact Bool.false_ne_true ((not_isMarked_of_mem hset hsensing hfallback hc hcovers).symm.trans hmarked)

end Candidates

/-! ## From one node to another -/

section

variable [Analysis α] [ExactDecibels α] {γ : Type} [RandomSource γ]

open Candidates

/-- Node `a` sends a transmission of a reservation, node `b` hears it, and goes on with any calls until it selects at
the time of a request. Whatever else it has heard, no candidate lies on the next occasion of the reservation on a
sub-channel of the transmission. -/
theorem reservation_respected {a a' b b₁ b₂ : Flow α} {sentAt : Slot} {sentUs heardUs : Nat} {g g' : γ}
    {t : Transmission} {onAir : OnAir α} {signalMw : α} {report : Report α} {calls : List (Flow.Call α)}
    {pool : ResourcePool} {request : Request} {set : CandidateSet α}
    (hnumerology : b.params.numerology = a.params.numerology)
    (hsize : b.params.subchannelSize = a.params.subchannelSize)
    (hsent : a.onSlot sentAt sentUs g = (some t, a', g')) (hreserved : 0 < t.rriMs) (hair : onAir.tx = t)
    (hreport : AtNode.reportOf onAir heardUs (max t.rbCount 1) signalMw = .ok report)
    (hheard : b.sense report = .ok b₁)
    (hrun : Flow.Run γ b₁ calls b₂) (huntil : ∀ c ∈ calls, c.Until request.nowUs)
    (hset : candidates pool (b₂.refreshed request.nowUs).history b₂.params request = .ok set)
    (hsensing : b.params.randomSelection = false) (hfallback : set.fallback = false)
    (hprocessed : b.params.numerology.sensingDelay ≤ request.now.since t.slot)
    (hahead : request.now.since t.slot ≤ b.params.slotsInMs t.rriMs)
    (hwindow : request.nowUs - b.params.sensingWindowUs ≤ report.receivedUs)
    (hreach : set.thresholdDbm ≤ report.rsrpDbm) :
    ∀ c ∈ set.resources, c.slot = t.slot + a.params.slotsInMs t.rriMs →
      ∀ subchannel, t.resource.covers subchannel = true → c.covers subchannel = false := by
  intro c hc hslot subchannel hcovers
  subst hair
  have hreports := reportOf_reports hreport
  have hparams : b₂.params = b.params := by
    obtain ⟨history, -, rfl⟩ := Flow.sense_heard hheard
    exact hrun.params.trans (Flow.awake_params b)
  rw [hparams] at hset
  have hpos : 0 < b.params.subchannelSize := by
    have hfits := selectable_of_candidates hset hc
    have hcount := hfits.count
    have hroom := hfits.fits
    unfold ResourcePool.subchannelCount at hroom
    split at hroom <;> omega
  have hrecorded : report.on subchannel ∈ b₁.history.sensed :=
    Flow.on_mem_of_sense (Flow.due_sent (Flow.onSlot_passed hsent).1.symm) hreports hheard hsize hpos hcovers
  have hkept : report.on subchannel ∈ (b₂.refreshed request.nowUs).history.sensed := by
    have hparams₁ : b₁.params = b.params := hrun.params.symm.trans hparams
    have hlater := hrun.keeps_sensed huntil (s := report.on subchannel) (by rw [hparams₁]; exact hwindow) hrecorded
    rw [Flow.refreshed_history, hparams]
    exact History.mem_prune hlater hwindow
  have hcoming : Coming b.params request (report.on subchannel) := by
    have hrri : (report.on subchannel).rriMs = onAir.tx.rriMs := hreports.rriMs
    have hfrom : (report.on subchannel).slot = onAir.tx.slot := hreports.slot
    exact ⟨by rw [hrri]; exact hreserved, hwindow, by rw [hfrom]; exact hprocessed, by rw [hfrom, hrri]; exact hahead⟩
  refine not_covers_of_coming hset hsensing hfallback hkept hcoming hreach hc ?_
  have hinterval : a.params.slotsInMs onAir.tx.rriMs = b.params.slotsInMs report.rriMs := by
    rw [FlowParams.slotsInMs, FlowParams.slotsInMs, hnumerology, hreports.rriMs]
  rw [hslot, hinterval, ← hreports.slot]
  rfl

end

/-! ## A selection between two transmissions -/

/-- A node with a packet in slot 18, and the next one two hundred milliseconds later. -/
def sender : Flow ℚ :=
  (Flow.enqueue { params := .standard } (.ofIndex 18) 18000 ⟨18, 200, .periodic, 3, 200, 18000⟩ narrowPool
    Zeros.zeros).2.1

def firstTransmission : Transmission where
  packet := 18
  slot := .ofIndex 20
  resource := ⟨.ofIndex 20, 0, 1⟩
  rbStart := 0
  rbCount := 10
  size := 200
  mcs := 14
  isRetransmission := false
  rriMs := 200
  counter := 5
  generatedUs := 18000

theorem sender_sends : (sender.onSlot (.ofIndex 20) 20000 Zeros.zeros).1 = some firstTransmission := by
  decide +kernel

def firstReport : Report ℚ where
  node := 1
  slot := .ofIndex 20
  receivedUs := 20000
  rbStart := 0
  rbCount := 10
  rsrpDbm := mwToDbm (1.2e-6 / 120)
  rriMs := 200
  counter := 5
  isRetransmission := false

/-- The other node, after a slot of its own. -/
def listener : Flow ℚ :=
  (Flow.onSlot { params := .standard, phase := .sensing, history := { sensed := [firstReport.on 0] } } (.ofIndex 30)
    30000 Zeros.zeros).2.1

def secondRequest : Request := ⟨.ofIndex 218, 218000, 3, 1, 200, 5⟩

theorem listener_selects : ∃ set,
    candidates narrowPool (listener.refreshed secondRequest.nowUs).history listener.params secondRequest = .ok set ∧
      set.resources = [⟨.ofIndex 220, 1, 1⟩] ∧ set.fallback = false ∧ set.thresholdDbm ≤ firstReport.rsrpDbm := by
  have hrun : ((candidates narrowPool (listener.refreshed secondRequest.nowUs).history listener.params
      secondRequest).toOption.map fun set =>
        (set.resources, set.fallback, decide (set.thresholdDbm ≤ firstReport.rsrpDbm))) =
      some ([⟨.ofIndex 220, 1, 1⟩], false, true) := by decide +kernel
  obtain ⟨set, hset, heq⟩ := Option.map_eq_some_iff.1 hrun
  simp only [Prod.mk.injEq, decide_eq_true_eq] at heq
  refine ⟨set, ?_, heq⟩
  cases hcandidates : candidates narrowPool (listener.refreshed secondRequest.nowUs).history listener.params
    secondRequest <;> rw [hcandidates] at hset <;> cases hset
  rfl

theorem reservation_respected_listener : ∃ set,
    candidates narrowPool (listener.refreshed secondRequest.nowUs).history listener.params secondRequest = .ok set ∧
      ∀ c ∈ set.resources, c.slot = firstTransmission.slot + sender.params.slotsInMs firstTransmission.rriMs →
        ∀ subchannel, firstTransmission.resource.covers subchannel = true → c.covers subchannel = false := by
  obtain ⟨set, hset, -, hfallback, hreach⟩ := listener_selects
  have hsent : sender.onSlot (.ofIndex 20) 20000 Zeros.zeros = (some firstTransmission, _, _) :=
    Prod.ext sender_sends rfl
  have hreport : AtNode.reportOf ⟨1, ⟨0, 0⟩, 23, firstTransmission⟩ 20000 (max firstTransmission.rbCount 1)
      (1.2e-6 : ℚ) = .ok firstReport := rfl
  have hheard : Flow.sense { params := .standard } firstReport = .ok _ := rfl
  have hparams : sender.params = .standard := (Flow.Step.enqueue Zeros.zeros : Flow.Step Zeros _ _ sender).params
  have hrun : Flow.Run Zeros _ ([] ++ [.onSlot (.ofIndex 30) 30000]) listener := .snoc .none (.onSlot Zeros.zeros)
  exact ⟨set, hset, reservation_respected (by rw [hparams]) (by rw [hparams]) hsent (by decide) rfl hreport hheard
    hrun (by simp [Flow.Call.Until]) hset rfl hfallback (by decide) (by decide) (by decide) hreach⟩

end Sidelink
