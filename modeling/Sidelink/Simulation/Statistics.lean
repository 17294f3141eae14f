import Std.Data.TreeMap
import Sidelink.Fault
import Sidelink.Flow.Stats
import Sidelink.Scalar

/-!
# Statistics of a run

Each packet counts once at each receiver. A first attempt that failed and was repaired by the second one moves from
its kind of failure to the successes. The reception ratio is kept for each bin of distance.
-/

namespace Sidelink

inductive ReceptionOutcome where
  | success
  /-- The receiver was sending in the same slot. -/
  | halfDuplex
  /-- Lost without interference. -/
  | propagation
  /-- Lost under interference. -/
  | collision
deriving Repr, DecidableEq

def ReceptionOutcome.label : ReceptionOutcome → String
  | success => "success"
  | halfDuplex => "half-duplex"
  | propagation => "propagation"
  | collision => "collision"

structure DistanceBin where
  attempts : Nat := 0
  successes : Nat := 0
deriving Repr, DecidableEq

structure RunStats (α : Type) where
  /-- The width of a bin in metres. -/
  binM : α
  generated : Nat := 0
  /-- Packets that never reached a flow. -/
  expired : Nat := 0
  transmissions : Nat := 0
  retransmissions : Nat := 0
  successes : Nat := 0
  halfDuplexFailures : Nat := 0
  propagationFailures : Nat := 0
  collisionFailures : Nat := 0
  /-- Control messages lost to noise or interference. -/
  sciFailures : Nat := 0
  departedNodes : Nat := 0
  /-- The counters of the flows of nodes that have left. -/
  departedFlows : FlowStats := {}
  /-- The bins in use. Bin `i` begins at `i` times the width. -/
  bins : Std.TreeMap Nat DistanceBin := ∅

namespace RunStats

variable {α : Type}

def failures (s : RunStats α) : Nat := s.halfDuplexFailures + s.propagationFailures + s.collisionFailures

def count (s : RunStats α) : ReceptionOutcome → RunStats α
  | .success => { s with successes := s.successes + 1 }
  | .halfDuplex => { s with halfDuplexFailures := s.halfDuplexFailures + 1 }
  | .propagation => { s with propagationFailures := s.propagationFailures + 1 }
  | .collision => { s with collisionFailures := s.collisionFailures + 1 }

def uncount (s : RunStats α) : ReceptionOutcome → RunStats α
  | .success => { s with successes := s.successes - 1 }
  | .halfDuplex => { s with halfDuplexFailures := s.halfDuplexFailures - 1 }
  | .propagation => { s with propagationFailures := s.propagationFailures - 1 }
  | .collision => { s with collisionFailures := s.collisionFailures - 1 }

variable [Scalar α] {ε : Type} [OfFault ε]

/-- The bin of a distance. A distance that is negative or not finite has none. The bins up to it must fit one
half of the address space, at sixteen bytes each. -/
def binIndex? (binM distanceM : α) : Except ε (Option Nat) := do
  if ¬ 0.0 < binM ∨ ¬ Scalar.isFinite distanceM ∨ distanceM < 0.0 then return none
  let index := min (Scalar.toNat (distanceM / binM)) (limit64 - 1)
  if limit64 ≤ (index + 1) * 32 then throw (OfFault.ofFault .overflow)
  return some index

def inBin (s : RunStats α) (distanceM : α) (change : DistanceBin → DistanceBin) : Except ε (RunStats α) := do
  match ← binIndex? s.binM distanceM with
  | none => return s
  | some i => return { s with bins := s.bins.insert i (change (s.bins.getD i {})) }

def recordReception (s : RunStats α) (distanceM : α) (outcome : ReceptionOutcome) : Except ε (RunStats α) :=
  (s.count outcome).inBin distanceM fun b =>
    { attempts := b.attempts + 1
      successes := if outcome = .success then b.successes + 1 else b.successes }

/-- Counts a second attempt that repaired the first one, which ended as `earlier`. -/
def recordRecovery (s : RunStats α) (distanceM : α) (earlier : ReceptionOutcome) : Except ε (RunStats α) :=
  if earlier = .success then .ok s
  else ((s.uncount earlier).count .success).inBin distanceM fun b => { b with successes := b.successes + 1 }

/-- The share of attempts that succeeded in each bin with any, and where the bin begins. -/
def receptionRatios (s : RunStats α) : List (α × α) :=
  (s.bins.toList.filter fun (_, b) => 0 < b.attempts).map fun (i, b) =>
    (Scalar.ofNat i * s.binM, Scalar.ofNat b.successes / Scalar.ofNat b.attempts)

def overallRatio? (s : RunStats α) : Option α :=
  let attempts := s.successes + s.failures
  if attempts = 0 then none else some (Scalar.ofNat s.successes / Scalar.ofNat attempts)

end RunStats

end Sidelink
