import Sidelink.Fault

/-!
# Counters of a flow

Why a reservation is made anew, and how often each thing happened.
-/

namespace Sidelink

/-- Why a reservation is made although there was one before. -/
inductive Trigger where
  /-- The last one has run out. -/
  | counter
  /-- Its next occasion comes too early or too late for the packet. -/
  | latency
  /-- It is too small for the packet. -/
  | size
  | latencyAndSize
deriving Repr, DecidableEq

namespace Trigger

def classify (latencyMiss sizeMiss : Bool) : Option Trigger :=
  match latencyMiss, sizeMiss with
  | true, true => some latencyAndSize
  | true, false => some latency
  | false, true => some size
  | false, false => none

def text : Trigger → String
  | counter => "counter"
  | latency => "latency"
  | size => "size"
  | latencyAndSize => "latency+size"

end Trigger

structure FlowStats where
  selections : Nat := 0
  counterReselections : Nat := 0
  latencyReselections : Nat := 0
  sizeReselections : Nat := 0
  latencyAndSizeReselections : Nat := 0
  /-- Selections for which the power threshold was raised. -/
  relaxedSelections : Nat := 0
  /-- Selections from a window without any exclusion. -/
  fallbackSelections : Nat := 0
  /-- Selections that ignored the slots of own transmissions. -/
  halfDuplexSkips : Nat := 0
  usedReservations : Nat := 0
  unutilizedReservations : Nat := 0
  /-- Reservations that ran out and were kept. -/
  keptReservations : Nat := 0
  droppedPackets : Nat := 0
  transmissions : Nat := 0
deriving Repr, DecidableEq

namespace FlowStats

def recordTrigger (s : FlowStats) : Trigger → FlowStats
  | .counter => { s with counterReselections := s.counterReselections + 1 }
  | .latency => { s with latencyReselections := s.latencyReselections + 1 }
  | .size => { s with sizeReselections := s.sizeReselections + 1 }
  | .latencyAndSize => { s with latencyAndSizeReselections := s.latencyAndSizeReselections + 1 }

def merge (s t : FlowStats) : FlowStats where
  selections := s.selections + t.selections
  counterReselections := s.counterReselections + t.counterReselections
  latencyReselections := s.latencyReselections + t.latencyReselections
  sizeReselections := s.sizeReselections + t.sizeReselections
  latencyAndSizeReselections := s.latencyAndSizeReselections + t.latencyAndSizeReselections
  relaxedSelections := s.relaxedSelections + t.relaxedSelections
  fallbackSelections := s.fallbackSelections + t.fallbackSelections
  halfDuplexSkips := s.halfDuplexSkips + t.halfDuplexSkips
  usedReservations := s.usedReservations + t.usedReservations
  unutilizedReservations := s.unutilizedReservations + t.unutilizedReservations
  keptReservations := s.keptReservations + t.keptReservations
  droppedPackets := s.droppedPackets + t.droppedPackets
  transmissions := s.transmissions + t.transmissions

def toList (s : FlowStats) : List Nat := [
  s.selections, s.counterReselections, s.latencyReselections, s.sizeReselections, s.latencyAndSizeReselections,
  s.relaxedSelections, s.fallbackSelections, s.halfDuplexSkips, s.usedReservations, s.unutilizedReservations,
  s.keptReservations, s.droppedPackets, s.transmissions]

/-- The counters, if each is a 64-bit word. -/
def checked {ε : Type} [OfFault ε] (s : FlowStats) : Except ε FlowStats := do
  let _ ← s.toList.mapM (word64 (ε := ε))
  return s

end FlowStats

end Sidelink
