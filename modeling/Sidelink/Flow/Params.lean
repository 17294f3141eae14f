import Sidelink.Numerology
import Sidelink.TransportBlock

/-!
# Parameters of a flow
-/

namespace Sidelink

/-- The intervals of a reservation that may be advertised, in milliseconds. Zero stands for a single occasion. -/
def allowedIntervalsMs : List Nat := [0, 20, 50, 100, 200, 300, 400, 500, 600, 700, 800, 900, 1000]

inductive TrafficType where
  | periodic
  | aperiodic
deriving Repr, DecidableEq

/-- What an aperiodic packet does with a reservation that is there already. -/
inductive AperiodicStrategy where
  /-- Makes a new one for every packet. -/
  | aggressive
  /-- Uses it where it serves the packet and makes a new one otherwise. -/
  | standard
  /-- Waits for it, and is dropped where that takes too long. -/
  | submissive
deriving Repr, DecidableEq

inductive Ranking where
  | random
  /-- Only the fifth with the lowest sensed power is drawn from. -/
  | lowestInterference
deriving Repr, DecidableEq

structure FlowParams (α : Type) where
  numerology : Numerology
  /-- RBs of a sub-channel. -/
  subchannelSize : Nat
  mcs : Nat
  layout : SlotLayout
  /-- The slots from a packet's arrival to the start of the selection window. -/
  t1 : Nat
  rsrpThresholdDbm : α
  /-- By how much the threshold is raised when too few candidates are left. -/
  thresholdStepDb : α
  /-- The share of the window that has to be left. -/
  sizeThreshold : α
  sensingWindowMs : Nat
  /-- Every future occasion of a candidate is checked and not only the first. -/
  checkOwnOccasions : Bool
  /-- Sensed reservations are followed as far as their advertised counter. -/
  followCounters : Bool
  /-- Candidates are drawn without sensing. -/
  randomSelection : Bool
  ranking : Ranking
  blindRetransmission : Bool
  /-- A reservation is made for one packet only. -/
  dynamicScheduling : Bool
  keepProbability : α
  /-- The intervals that others may use. -/
  allowedIntervalsMs : List Nat
  aperiodicStrategy : AperiodicStrategy
  /-- The bytes reserved at least. -/
  reservationSize : Option Nat

namespace FlowParams

variable {α : Type}

/-- The values that nothing overrides. -/
def standard [Scalar α] : FlowParams α where
  numerology := .widest
  subchannelSize := 10
  mcs := 14
  layout := {}
  t1 := 2
  rsrpThresholdDbm := -128.0
  thresholdStepDb := 3.0
  sizeThreshold := 0.2
  sensingWindowMs := 1000
  checkOwnOccasions := false
  followCounters := false
  randomSelection := false
  ranking := .random
  blindRetransmission := false
  dynamicScheduling := false
  keepProbability := 0.0
  allowedIntervalsMs := [100]
  aperiodicStrategy := .submissive
  reservationSize := none

def slotsInMs (p : FlowParams α) (ms : Nat) : Nat := p.numerology.slotsInMs ms

/-- The last slot of the selection window, counted from the packet's arrival. -/
def t2 (p : FlowParams α) (pdbMs : Nat) : Nat := p.slotsInMs pdbMs - 1

def sensingWindowUs (p : FlowParams α) : Nat := p.sensingWindowMs * 1000

end FlowParams

end Sidelink
