import Sidelink.Propagation.PathLoss
import Sidelink.Resource

/-!
# Sensing history

What a node has heard of the reservations of others, and when it was itself transmitting. A report is kept for each
sub-channel that it touches, until it is older than the sensing window.
-/

namespace Sidelink

/-- A control message of another node, as it was heard. -/
structure Report (α : Type) where
  node : Nat
  slot : Slot
  receivedUs : Nat
  rbStart : Nat
  rbCount : Nat
  rsrpDbm : α
  /-- The advertised interval, zero for a single occasion. -/
  rriMs : Nat
  /-- The advertised number of occasions left. -/
  counter : Nat
  isRetransmission : Bool

structure Sensed (α : Type) where
  node : Nat
  slot : Slot
  receivedUs : Nat
  subchannel : Nat
  rsrpDbm : α
  rriMs : Nat
  counter : Nat
  isRetransmission : Bool

structure OwnTransmission where
  slot : Slot
  timeUs : Nat
deriving Repr, DecidableEq

/-- Both lists are in the order of arrival. -/
structure History (α : Type) where
  sensed : List (Sensed α) := []
  own : List OwnTransmission := []

def Report.on {α : Type} (r : Report α) (subchannel : Nat) : Sensed α where
  node := r.node
  slot := r.slot
  receivedUs := r.receivedUs
  subchannel
  rsrpDbm := r.rsrpDbm
  rriMs := r.rriMs
  counter := r.counter
  isRetransmission := r.isRetransmission

namespace History

variable {α : Type} {ε : Type} [OfFault ε]

/-- Keeps a report for each sub-channel of `size` RBs from its first RB on. -/
def record (h : History α) (r : Report α) (size : Nat) : Except ε (History α) := do
  if size = 0 ∨ r.rbCount = 0 then return h
  let first := r.rbStart / size
  let count := (r.rbCount + size - 1) / size
  let _ ← word16 (first + count)
  return { h with sensed := h.sensed ++ (List.range' first count).map r.on }

def recordOwn (h : History α) (slot : Slot) (nowUs : Nat) : History α :=
  { h with own := h.own ++ [⟨slot, nowUs⟩] }

def prune (h : History α) (nowUs windowUs : Nat) : History α where
  sensed := h.sensed.filter fun s => nowUs - windowUs ≤ s.receivedUs
  own := h.own.filter fun t => nowUs - windowUs ≤ t.timeUs

/-! ## Power in the past -/

/-- The slots some multiples of 100 ms before a slot, the nearest first. -/
def lookback (slot : Slot) (stepSlots : Nat) : List Slot :=
  (List.range' 1 10).map fun k => slot + (ringLength - k * stepSlots % ringLength)

/-- The power sensed on one sub-channel in one slot, in mW. -/
def powerAt [Analysis α] (h : History α) (slot : Slot) (subchannel : Nat) : α :=
  Scalar.sum ((h.sensed.filter fun s => s.slot = slot && s.subchannel = subchannel).map fun s => dbmToMw s.rsrpDbm)

/-- The power sensed at the ten occasions of a resource that lie 100 ms apart before it, in mW for one occasion and
one sub-channel. -/
def averageInterference [Analysis α] (h : History α) (r : Resource) (slotsPerMs : Nat) : Except ε α := do
  let step ← word32 (100 * slotsPerMs)
  let _ ← word16 (r.start + r.count)
  if 0 < r.count then let _ ← word32 (10 * step)
  let powers := r.subchannels.flatMap fun c => (lookback r.slot step).map fun slot => h.powerAt slot c
  return Scalar.sum powers / 10.0 / Scalar.ofNat (max r.count 1)

end History

end Sidelink
