import Sidelink.Config.Sections

/-!
# Rules of a configuration

The sections must agree with each other and with the tables of the model. The first rule that is broken is reported.
-/

namespace Sidelink

inductive ConfigError (α : Type) where
  | fileRead
  | parse (detail : Option String)
  /-- The names of the traffic models that are on, if not exactly one. -/
  | trafficModels (names : List String)
  | mixedPercentage (percentage : Nat)
  | aperiodicStrategies (names : List String)
  | followWithoutCheck
  | numerology (e : NumerologyError)
  | subchannelSize (size bandwidthRbs : Nat)
  | mcs (index : Nat)
  | delayBudget (pdbMs rriMs : Nat)
  | keepProbability (p : α)
  | sizeThreshold (share : α)
  | interval (ms : Nat)
  | noAperiodicSizes
  | notPositive (name : String)
  | fault (f : Fault)
deriving Repr, DecidableEq

instance {α : Type} : OfFault (ConfigError α) := ⟨.fault⟩

def ConfigError.message {α : Type} (text : α → String) : ConfigError α → String
  | fileRead => "failed to read config file"
  | parse detail => detail.getD "failed to parse config file"
  | trafficModels names =>
    "exactly one traffic model must be enabled, got " ++ (if names.isEmpty then "none" else ", ".intercalate names)
  | mixedPercentage p => s!"mixed traffic needs a periodic percentage of 10, 50 or 90, got {p}"
  | aperiodicStrategies names => "at most one aperiodic strategy may be enabled, got " ++ ", ".intercalate names
  | followWithoutCheck => "use-rx-cresel requires use-tx-cresel"
  | numerology e => e.message
  | subchannelSize size rbs => s!"sub-channel size {size} must be between 1 and the {rbs} RBs of the carrier"
  | mcs index => s!"MCS {index} outside the tables of the selected link curves"
  | delayBudget pdb rri =>
    s!"packet delay budget {pdb} ms must be below 110 ms and not above the {rri} ms reservation interval"
  | keepProbability p => "keep probability " ++ text p ++ " outside [0, 1)"
  | sizeThreshold share => "size threshold " ++ text share ++ " outside (0, 1]"
  | interval ms => s!"resource reservation interval {ms} ms is not allowed"
  | noAperiodicSizes => "aperiodic traffic needs at least one packet size"
  | notPositive name => name ++ " must be positive"
  | fault _ => "arithmetic fault"

inductive TrafficModel where
  | periodic
  | aperiodic
  | mixed (periodicPercentage : Nat)
  | etsi
deriving Repr, DecidableEq

/-- The delay budgets accepted are below this one, in milliseconds. -/
def delayBudgetLimitMs : Nat := 110

/-- The shares of periodic nodes that mixed traffic accepts. -/
def mixedPercentages : List Nat := [10, 50, 90]

def switchedOn {β : Type} (switches : List (Bool × String × β)) : List (String × β) :=
  (switches.filter fun (on, _) => on).map Prod.snd

section

variable {α : Type}

def TrafficSection.model (t : TrafficSection α) : Except (ConfigError α) TrafficModel :=
  let on := switchedOn [(t.periodic, "periodic", TrafficModel.periodic), (t.aperiodic, "aperiodic", .aperiodic),
    (t.mixed, "mixed", .mixed t.periodicPercentage), (t.etsi, "etsi", .etsi)]
  match on with
  | [(_, .mixed percentage)] =>
    if mixedPercentages.contains percentage then .ok (.mixed percentage) else .error (.mixedPercentage percentage)
  | [(_, model)] => .ok model
  | many => .error (.trafficModels (many.map Prod.fst))

def TrafficSection.strategy (t : TrafficSection α) : Except (ConfigError α) AperiodicStrategy :=
  let on := switchedOn [(t.aggressive, "aggressive", AperiodicStrategy.aggressive),
    (t.standard, "standard-ssps", .standard), (t.submissive, "submissive", .submissive)]
  match on with
  | [] => .ok .submissive
  | [(_, strategy)] => .ok strategy
  | many => .error (.aperiodicStrategies (many.map Prod.fst))

namespace Config

def numerology (c : Config α) : Except (ConfigError α) Numerology :=
  (Numerology.ofIndex c.simulation.numerology).mapError .numerology

def bandwidthRbs (c : Config α) : Except (ConfigError α) Nat := do
  let n ← c.numerology
  (channelRbs n.scsKhz c.simulation.bandwidthMhz).mapError .numerology

/-- Refuses with an error unless a rule holds. -/
def demand (rule : Bool) (e : ConfigError α) : Except (ConfigError α) Unit := if rule then .ok () else .error e

variable [Scalar α]

def isPositive (x : α) : Bool := decide (0.0 < x)

def validate (c : Config α) : Except (ConfigError α) Unit := do
  let t := c.traffic
  let s := c.scheduler
  let _ ← t.model
  let _ ← t.strategy
  demand (!s.followCounters || s.checkOwnOccasions) .followWithoutCheck
  let rbs ← c.bandwidthRbs
  demand (0 < s.subchannelSize && s.subchannelSize ≤ rbs) (.subchannelSize s.subchannelSize rbs)
  demand (c.phy.mcs ≤ min maxMcs (c.phy.linkCurves.dataChannel true s.subchannelSize).maxMcs) (.mcs c.phy.mcs)
  demand (allowedIntervalsMs.contains t.rriMs) (.interval t.rriMs)
  demand (0 < t.rriMs || !(t.periodic || t.mixed)) (.interval t.rriMs)
  match s.allowedIntervalsMs.find? fun ms => !Sidelink.allowedIntervalsMs.contains ms with
  | some ms => throw (.interval ms)
  | none => pure ()
  demand (0 < t.pdbMs && t.pdbMs < delayBudgetLimitMs && (t.rriMs = 0 || t.pdbMs ≤ t.rriMs))
    (.delayBudget t.pdbMs t.rriMs)
  demand (decide ((0.0 : α) ≤ s.keepProbability) && decide (s.keepProbability < 1.0))
    (.keepProbability s.keepProbability)
  demand (isPositive s.sizeThreshold && decide (s.sizeThreshold ≤ 1.0)) (.sizeThreshold s.sizeThreshold)
  demand (!(t.aperiodic || t.mixed) || !t.aperiodicSizes.isEmpty) .noAperiodicSizes
  demand (!(t.aperiodic || t.mixed) || isPositive t.aperiodicMeanMs) (.notPositive "aperiodic-mean-ms")
  demand (isPositive s.thresholdStepDb) (.notPositive "threshold-step-db")
  demand (0 < c.simulation.durationMs) (.notPositive "duration-ms")
  demand (0 < c.simulation.mobilityIntervalMs) (.notPositive "mobility-interval-ms")
  demand (0 < c.simulation.reportIntervalMs) (.notPositive "report-interval-ms")
  demand (isPositive c.simulation.prrBinM) (.notPositive "prr-bin-m")
  demand (!t.etsi || 0 < t.camLargeEvery) (.notPositive "cam-large-every")

/-- The parameters of every flow of a run. The interval of the traffic is always among the allowed ones. -/
def flowParams (c : Config α) : Except (ConfigError α) (FlowParams α) := do
  let s := c.scheduler
  let rri := c.traffic.rriMs
  let listed := s.allowedIntervalsMs.contains rri || rri = 0
  return {
    numerology := ← c.numerology
    subchannelSize := s.subchannelSize
    mcs := c.phy.mcs
    layout := { dmrs := c.phy.dmrs, psfchSymbols := c.phy.psfchSymbols }
    t1 := s.t1
    rsrpThresholdDbm := s.rsrpThresholdDbm
    thresholdStepDb := s.thresholdStepDb
    sizeThreshold := s.sizeThreshold
    sensingWindowMs := s.sensingWindowMs
    checkOwnOccasions := s.checkOwnOccasions
    followCounters := s.followCounters
    randomSelection := s.randomSelection
    ranking := if s.lowestInterference then .lowestInterference else .random
    blindRetransmission := s.blindRetransmission
    dynamicScheduling := s.dynamicScheduling
    keepProbability := s.keepProbability
    allowedIntervalsMs := if listed then s.allowedIntervalsMs else s.allowedIntervalsMs ++ [rri]
    aperiodicStrategy := ← c.traffic.strategy
    reservationSize := s.reservationSize }

end Config

end

end Sidelink
