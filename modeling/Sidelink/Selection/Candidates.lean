import Sidelink.Selection.Window
import Sidelink.Sensing.Occupancy

/-!
# Candidates

Of the selection window those resources are left whose occasions neither fall on a multiple of an allowed interval
after an own transmission, in which nothing could be heard, nor meet a sensed reservation at or above the power
threshold. The threshold is raised until a share of the window is left.
-/

namespace Sidelink

structure CandidateSet (α : Type) where
  resources : List Resource
  /-- The size of the window. -/
  total : Nat
  thresholdDbm : α
  /-- How often the threshold was raised. -/
  relaxations : Nat
  /-- Nothing was left and the whole window is returned. -/
  fallback : Bool
  /-- The own transmissions left nothing and were ignored. -/
  halfDuplexSkipped : Bool

/-- The rounds after which the threshold is raised no more. -/
def maxRelaxations : Nat := 64

namespace Candidates

variable {α : Type}

/-- The distances from the first to each occasion of a candidate. -/
def occasionOffsets (params : FlowParams α) (request : Request) : Except FlowError (List Nat) := do
  let interval := params.slotsInMs request.rriMs
  let count := if params.checkOwnOccasions && 0 < interval then max request.counter 1 else 1
  let _ ← word32 ((count - 1) * interval)
  return (List.range count).map (· * interval)

def occasions (offsets : List Nat) (c : Resource) : List Slot := offsets.map (c.slot + ·)

/-! ## Own transmissions -/

/-- Whether a distance within the horizon is a multiple of one of the intervals. -/
def alignedWith (horizon distance : Nat) (intervals : List Nat) : Except FlowError Bool :=
  intervals.anyM fun interval => do
    if 0 < distance ∧ distance ≤ horizon then
      return (← remainder distance interval) == 0
    else return false

/-- Whether one of the slots is aligned with an own transmission. -/
def halfDuplexBlocked (horizon : Nat) (intervals : List Nat) (own slots : List Slot) : Except FlowError Bool :=
  slots.anyM fun slot => own.anyM fun tx => alignedWith horizon (slot.since tx) intervals

/-- The candidates whose slots are not aligned with an own transmission. -/
def audible (params : FlowParams α) (request : Request) (own : List Slot) (offsets : List Nat)
    (window : List Resource) : Except FlowError (List Resource) := do
  let horizon ← word32 (params.slotsInMs params.sensingWindowMs + params.t2 request.pdbMs)
  let intervals := (params.allowedIntervalsMs.filter (0 < ·)).map params.slotsInMs
  let blocked ← window.mapM fun c => halfDuplexBlocked horizon intervals own (occasions offsets c)
  return ((window.zip blocked).filter fun (_, b) => !b).map Prod.fst

/-! ## Sensed reservations -/

variable [Analysis α]

def projection (params : FlowParams α) (request : Request) : Projection where
  now := request.now
  nowUs := request.nowUs
  t2 := params.t2 request.pdbMs
  sensingDelay := params.numerology.sensingDelay
  windowUs := params.sensingWindowUs
  slotsPerMs := params.slotsInMs 1
  followCounters := params.followCounters

/-- Whether one of the slots is taken on one of the candidate's sub-channels. -/
def sensingBlocked (occupancy : Occupancy α) (offsets : List Nat) (thresholdDbm : α) (c : Resource) : Bool :=
  (occasions offsets c).any fun slot => c.subchannels.any fun s => occupancy.isMarked slot s thresholdDbm

/-- What is left at a threshold, and how often it was raised. -/
structure Exclusion (α : Type) where
  survivors : List Resource
  thresholdDbm : α
  relaxations : Nat

/-- Raises the threshold until enough survive, or until it is above every power, at most so many more rounds. -/
def relax (survivorsAt : α → List Resource) (target : Nat) (strongest : Option α) (step : α) :
    Nat → Nat → α → Exclusion α
  | 0, raised, threshold => ⟨survivorsAt threshold, threshold, raised⟩
  | rounds + 1, raised, threshold =>
    let survivors := survivorsAt threshold
    let exhausted := match strongest with
      | none => true
      | some p => decide (p < threshold)
    if max target 1 ≤ survivors.length || exhausted then ⟨survivors, threshold, raised⟩
    else relax survivorsAt target strongest step rounds (raised + 1) (threshold + step)

end Candidates

open Candidates in
def candidates {α : Type} [Analysis α] (pool : ResourcePool) (history : History α) (params : FlowParams α)
    (request : Request) : Except FlowError (CandidateSet α) := do
  let window ← selectionWindow pool params request
  let total := window.length
  if params.randomSelection then
    return ⟨window, total, params.rsrpThresholdDbm, 0, false, false⟩
  let offsets ← occasionOffsets params request
  let heard ← audible params request (history.own.map (·.slot)) offsets window
  let base := if heard.isEmpty then window else heard
  let occupancy ← history.project (projection params request)
  let target := Scalar.toNat (Scalar.ceil (params.sizeThreshold * Scalar.ofNat total))
  let survivorsAt threshold := base.filter fun c => !sensingBlocked occupancy offsets threshold c
  let left := relax survivorsAt target occupancy.strongestDbm? params.thresholdStepDb maxRelaxations 0
    params.rsrpThresholdDbm
  let fallback := left.survivors.isEmpty
  return {
    resources := if fallback then window else left.survivors
    total
    thresholdDbm := left.thresholdDbm
    relaxations := left.relaxations
    fallback
    halfDuplexSkipped := heard.isEmpty }

end Sidelink
