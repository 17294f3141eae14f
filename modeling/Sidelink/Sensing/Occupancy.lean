import Std.Data.TreeMap
import Sidelink.Sensing.History

/-!
# Occupancy to come

Reservations that were heard are carried forward to the slots they will use. The powers that different nodes bring
to one slot and sub-channel add up. Of one node alone the strongest counts.
-/

namespace Sidelink

structure Projection where
  now : Slot
  nowUs : Nat
  /-- The last slot of the selection window, counted from `now`. -/
  t2 : Nat
  /-- Reports that are younger, in slots, have not been processed yet. -/
  sensingDelay : Nat
  windowUs : Nat
  slotsPerMs : Nat
  /-- Whether a reservation is followed as far as its advertised counter. -/
  followCounters : Bool

/-- One use of a slot and sub-channel by a node. -/
structure Hit (α : Type) where
  slot : Slot
  subchannel : Nat
  powerMw : α
  node : Nat

/-- The power on one slot and sub-channel. -/
structure Cell (α : Type) where
  powerMw : α
  /-- The first node there. -/
  node : Nat
  /-- Whether powers have been added up. -/
  merged : Bool

/-- A slot on the ring and a sub-channel, in the order of the slots. -/
abbrev cellOrder : Nat × Nat → Nat × Nat → Ordering := compareLex (compareOn Prod.fst) (compareOn Prod.snd)

structure Occupancy (α : Type) where
  cells : Std.TreeMap (Nat × Nat) (Cell α) cellOrder

section

variable {α : Type} [Analysis α]

def Cell.hit (hit : Hit α) : Option (Cell α) → Cell α
  | none => ⟨hit.powerMw, hit.node, false⟩
  | some c =>
    if c.node = hit.node && !c.merged then { c with powerMw := Scalar.larger c.powerMw hit.powerMw }
    else { c with powerMw := c.powerMw + hit.powerMw, merged := true }

namespace Occupancy

def empty : Occupancy α := ⟨∅⟩

def add (o : Occupancy α) (hit : Hit α) : Occupancy α :=
  let key := (hit.slot.index, hit.subchannel)
  ⟨o.cells.insert key (Cell.hit hit o.cells[key]?)⟩

def ofHits (hits : List (Hit α)) : Occupancy α := hits.foldl add empty

/-- The power in dBm, where there is any use. -/
def powerDbm? (o : Occupancy α) (slot : Slot) (subchannel : Nat) : Option α :=
  o.cells[(slot.index, subchannel)]?.map fun c => mwToDbm c.powerMw

def isMarked (o : Occupancy α) (slot : Slot) (subchannel : Nat) (thresholdDbm : α) : Bool :=
  match o.powerDbm? slot subchannel with
  | some p => decide (thresholdDbm ≤ p)
  | none => false

def strongestDbm? (o : Occupancy α) : Option α :=
  match o.cells.values.map fun c => mwToDbm c.powerMw with
  | [] => none
  | p :: rest => some (rest.foldl Scalar.larger p)

end Occupancy

end

namespace Sensed

variable {α : Type} {ε : Type} [OfFault ε]

/-- How many occasions of a reservation are followed. One, or as many as cover the selection window if the
reservation is fresh and its interval is shorter than the window. -/
def occasionCount (s : Sensed α) (p : Projection) (age intervalSlots : Nat) : Except ε Nat := do
  let covering ←
    if intervalSlots < p.t2 ∧ age ≤ intervalSlots ∧ ¬ s.isRetransmission then
      quotient (p.t2 + intervalSlots - 1) intervalSlots
    else pure 1
  return if p.followCounters then max covering s.counter else covering

/-- The uses to come of a reservation. Occasions before `now` are past. -/
def hits [Analysis α] (p : Projection) (s : Sensed α) : Except ε (List (Hit α)) := do
  let age := p.now.since s.slot
  if s.receivedUs < p.nowUs - p.windowUs ∨ s.rriMs = 0 ∨ age < p.sensingDelay then return []
  let intervalSlots ← word32 (s.rriMs * p.slotsPerMs)
  let count ← s.occasionCount p age intervalSlots
  let _ ← word32 (count * intervalSlots)
  let ahead := ((List.range' 1 count).map (· * intervalSlots)).filter (age ≤ ·)
  return ahead.map fun slots => ⟨s.slot + slots, s.subchannel, dbmToMw s.rsrpDbm, s.node⟩

end Sensed

namespace History

variable {α : Type} [Analysis α] {ε : Type} [OfFault ε]

def hits (h : History α) (p : Projection) : Except ε (List (Hit α)) :=
  (h.sensed.mapM (Sensed.hits p)).map List.flatten

/-- The occupancy that the reservations heard so far add up to. -/
def project (h : History α) (p : Projection) : Except ε (Occupancy α) := (h.hits p).map Occupancy.ofHits

end History

end Sidelink
