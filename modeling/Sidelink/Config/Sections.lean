import Sidelink.BlockError.Channel
import Sidelink.Flow.Params

/-!
# Configurations

A run is described by four sections. Each entry has a default, and the defaults alone describe periodic traffic on
a highway.
-/

namespace Sidelink

structure SimulationSection (α : Type) where
  durationMs : Nat
  seed : Nat
  run : Nat
  numerology : Nat
  bandwidthMhz : Nat
  verbose : Bool
  /-- Where traces go. There are none without it. -/
  traceDir : Option String
  mobilityIntervalMs : Nat
  /-- Nodes that leave the world come back on its other side. -/
  wrap : Bool
  reportIntervalMs : Nat
  /-- The width of the distance bins of the reception ratio. -/
  prrBinM : α

structure TrafficSection (α : Type) where
  periodic : Bool
  aperiodic : Bool
  mixed : Bool
  etsi : Bool
  /-- The share of periodic nodes in mixed traffic. -/
  periodicPercentage : Nat
  packetSize : Nat
  aperiodicSizes : List Nat
  aperiodicMinIntervalMs : Nat
  aperiodicMeanMs : α
  rriMs : Nat
  pdbMs : Nat
  aggressive : Bool
  standard : Bool
  submissive : Bool
  camSize : Nat
  camLargeSize : Nat
  /-- Every how many messages a large one is sent. -/
  camLargeEvery : Nat

structure SchedulerSection (α : Type) where
  subchannelSize : Nat
  t1 : Nat
  rsrpThresholdDbm : α
  thresholdStepDb : α
  sizeThreshold : α
  sensingWindowMs : Nat
  checkOwnOccasions : Bool
  followCounters : Bool
  randomSelection : Bool
  lowestInterference : Bool
  blindRetransmission : Bool
  dynamicScheduling : Bool
  keepProbability : α
  allowedIntervalsMs : List Nat
  reservationSize : Option Nat

structure PhySection where
  mcs : Nat := 14
  /-- Whether control messages can be lost to noise. -/
  controlErrorModel : Bool := true
  linkCurves : LinkCurves := .nr
  dmrs : DmrsPattern := .twoFour
  psfchSymbols : Nat := 0

structure Config (α : Type) where
  simulation : SimulationSection α
  traffic : TrafficSection α
  scheduler : SchedulerSection α
  phy : PhySection

section

variable {α : Type} [Scalar α]

def SimulationSection.standard : SimulationSection α where
  durationMs := 10000
  seed := 1
  run := 1
  numerology := 0
  bandwidthMhz := 20
  verbose := false
  traceDir := none
  mobilityIntervalMs := 100
  wrap := true
  reportIntervalMs := 1000
  prrBinM := 50.0

/-- Periodic traffic. -/
def TrafficSection.ofDefaults : TrafficSection α where
  periodic := true
  aperiodic := false
  mixed := false
  etsi := false
  periodicPercentage := 50
  packetSize := 190
  aperiodicSizes := [200, 300, 400]
  aperiodicMinIntervalMs := 100
  aperiodicMeanMs := 50.0
  rriMs := 100
  pdbMs := 100
  aggressive := false
  standard := false
  submissive := false
  camSize := 190
  camLargeSize := 300
  camLargeEvery := 5

def SchedulerSection.standard : SchedulerSection α :=
  let p : FlowParams α := FlowParams.standard
  { subchannelSize := p.subchannelSize
    t1 := p.t1
    rsrpThresholdDbm := p.rsrpThresholdDbm
    thresholdStepDb := p.thresholdStepDb
    sizeThreshold := p.sizeThreshold
    sensingWindowMs := p.sensingWindowMs
    checkOwnOccasions := false
    followCounters := false
    randomSelection := false
    lowestInterference := false
    blindRetransmission := false
    dynamicScheduling := false
    keepProbability := 0.0
    allowedIntervalsMs := p.allowedIntervalsMs
    reservationSize := none }

def Config.standard : Config α := ⟨.standard, .ofDefaults, .standard, {}⟩

end

end Sidelink
