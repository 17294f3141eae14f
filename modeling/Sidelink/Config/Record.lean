import Sidelink.Config.Rules
import Sidelink.Data.Toml
import Sidelink.Scalar.Binary64

/-!
# Configurations as records

The names of the entries of each section. Whatever is left out takes its default.
-/

namespace Sidelink

def SimulationSection.ofValue (form : Notation) (v : Value) : Except Refusal (SimulationSection Float) := do
  let durationMs : Field Nat := ⟨"duration-ms", Value.asWord 64⟩
  let seed : Field Nat := ⟨"seed", Value.asWord 64⟩
  let run : Field Nat := ⟨"run", Value.asWord 64⟩
  let numerology : Field Nat := ⟨"numerology", Value.asWord 8⟩
  let bandwidthMhz : Field Nat := ⟨"bandwidth-mhz", Value.asWord 32⟩
  let verbose : Field Bool := ⟨"verbose", Value.asBool⟩
  let traceDir : Field (Option String) := ⟨"trace-dir", Value.asOption Value.asString⟩
  let mobilityIntervalMs : Field Nat := ⟨"mobility-interval-ms", Value.asWord 64⟩
  let wrap : Field Bool := ⟨"wrap", Value.asBool⟩
  let reportIntervalMs : Field Nat := ⟨"report-interval-ms", Value.asWord 64⟩
  let prrBinM : Field Float := ⟨"prr-bin-m", Value.asFloat⟩
  let r ← Record.ofValue form [durationMs.check, seed.check, run.check, numerology.check, bandwidthMhz.check,
    verbose.check, traceDir.check, mobilityIntervalMs.check, wrap.check, reportIntervalMs.check, prrBinM.check] v
  let d : SimulationSection Float := .standard
  return {
    durationMs := ← r.getD durationMs d.durationMs
    seed := ← r.getD seed d.seed
    run := ← r.getD run d.run
    numerology := ← r.getD numerology d.numerology
    bandwidthMhz := ← r.getD bandwidthMhz d.bandwidthMhz
    verbose := ← r.getD verbose d.verbose
    traceDir := ← r.getD traceDir d.traceDir
    mobilityIntervalMs := ← r.getD mobilityIntervalMs d.mobilityIntervalMs
    wrap := ← r.getD wrap d.wrap
    reportIntervalMs := ← r.getD reportIntervalMs d.reportIntervalMs
    prrBinM := ← r.getD prrBinM d.prrBinM }

def TrafficSection.ofValue (form : Notation) (v : Value) : Except Refusal (TrafficSection Float) := do
  let periodic : Field Bool := ⟨"periodic", Value.asBool⟩
  let aperiodic : Field Bool := ⟨"aperiodic", Value.asBool⟩
  let mixed : Field Bool := ⟨"mixed", Value.asBool⟩
  let etsi : Field Bool := ⟨"etsi", Value.asBool⟩
  let periodicPercentage : Field Nat := ⟨"periodic-percentage", Value.asWord 8⟩
  let packetSize : Field Nat := ⟨"packet-size", Value.asWord 32⟩
  let aperiodicSizes : Field (List Nat) := ⟨"aperiodic-sizes", Value.asList (Value.asWord 32)⟩
  let aperiodicMinIntervalMs : Field Nat := ⟨"aperiodic-min-interval-ms", Value.asWord 64⟩
  let aperiodicMeanMs : Field Float := ⟨"aperiodic-mean-ms", Value.asFloat⟩
  let rriMs : Field Nat := ⟨"rri-ms", Value.asWord 32⟩
  let pdbMs : Field Nat := ⟨"pdb-ms", Value.asWord 32⟩
  let aggressive : Field Bool := ⟨"aggressive", Value.asBool⟩
  let standard : Field Bool := ⟨"standard-ssps", Value.asBool⟩
  let submissive : Field Bool := ⟨"submissive", Value.asBool⟩
  let camSize : Field Nat := ⟨"cam-size", Value.asWord 32⟩
  let camLargeSize : Field Nat := ⟨"cam-large-size", Value.asWord 32⟩
  let camLargeEvery : Field Nat := ⟨"cam-large-every", Value.asWord 32⟩
  let r ← Record.ofValue form [periodic.check, aperiodic.check, mixed.check, etsi.check, periodicPercentage.check,
    packetSize.check, aperiodicSizes.check, aperiodicMinIntervalMs.check, aperiodicMeanMs.check, rriMs.check,
    pdbMs.check, aggressive.check, standard.check, submissive.check, camSize.check, camLargeSize.check,
    camLargeEvery.check] v
  let d : TrafficSection Float := .ofDefaults
  return {
    periodic := ← r.getD periodic d.periodic
    aperiodic := ← r.getD aperiodic d.aperiodic
    mixed := ← r.getD mixed d.mixed
    etsi := ← r.getD etsi d.etsi
    periodicPercentage := ← r.getD periodicPercentage d.periodicPercentage
    packetSize := ← r.getD packetSize d.packetSize
    aperiodicSizes := ← r.getD aperiodicSizes d.aperiodicSizes
    aperiodicMinIntervalMs := ← r.getD aperiodicMinIntervalMs d.aperiodicMinIntervalMs
    aperiodicMeanMs := ← r.getD aperiodicMeanMs d.aperiodicMeanMs
    rriMs := ← r.getD rriMs d.rriMs
    pdbMs := ← r.getD pdbMs d.pdbMs
    aggressive := ← r.getD aggressive d.aggressive
    standard := ← r.getD standard d.standard
    submissive := ← r.getD submissive d.submissive
    camSize := ← r.getD camSize d.camSize
    camLargeSize := ← r.getD camLargeSize d.camLargeSize
    camLargeEvery := ← r.getD camLargeEvery d.camLargeEvery }

def SchedulerSection.ofValue (form : Notation) (v : Value) : Except Refusal (SchedulerSection Float) := do
  let subchannelSize : Field Nat := ⟨"subchannel-size", Value.asWord 16⟩
  let t1 : Field Nat := ⟨"t1", Value.asWord 32⟩
  let rsrpThresholdDbm : Field Float := ⟨"rsrp-threshold-dbm", Value.asFloat⟩
  let thresholdStepDb : Field Float := ⟨"threshold-step-db", Value.asFloat⟩
  let sizeThreshold : Field Float := ⟨"size-threshold", Value.asFloat⟩
  let sensingWindowMs : Field Nat := ⟨"sensing-window-ms", Value.asWord 32⟩
  let checkOwnOccasions : Field Bool := ⟨"use-tx-cresel", Value.asBool⟩
  let followCounters : Field Bool := ⟨"use-rx-cresel", Value.asBool⟩
  let randomSelection : Field Bool := ⟨"random-selection", Value.asBool⟩
  let lowestInterference : Field Bool := ⟨"lowest-interference", Value.asBool⟩
  let blindRetransmission : Field Bool := ⟨"blind-retransmission", Value.asBool⟩
  let dynamicScheduling : Field Bool := ⟨"dynamic-scheduling", Value.asBool⟩
  let keepProbability : Field Float := ⟨"keep-probability", Value.asFloat⟩
  let allowedIntervalsMs : Field (List Nat) := ⟨"allowed-rris-ms", Value.asList (Value.asWord 32)⟩
  let reservationSize : Field (Option Nat) := ⟨"reservation-size", Value.asOption (Value.asWord 32)⟩
  let r ← Record.ofValue form [subchannelSize.check, t1.check, rsrpThresholdDbm.check, thresholdStepDb.check,
    sizeThreshold.check, sensingWindowMs.check, checkOwnOccasions.check, followCounters.check, randomSelection.check,
    lowestInterference.check, blindRetransmission.check, dynamicScheduling.check, keepProbability.check,
    allowedIntervalsMs.check, reservationSize.check] v
  let d : SchedulerSection Float := .standard
  return {
    subchannelSize := ← r.getD subchannelSize d.subchannelSize
    t1 := ← r.getD t1 d.t1
    rsrpThresholdDbm := ← r.getD rsrpThresholdDbm d.rsrpThresholdDbm
    thresholdStepDb := ← r.getD thresholdStepDb d.thresholdStepDb
    sizeThreshold := ← r.getD sizeThreshold d.sizeThreshold
    sensingWindowMs := ← r.getD sensingWindowMs d.sensingWindowMs
    checkOwnOccasions := ← r.getD checkOwnOccasions d.checkOwnOccasions
    followCounters := ← r.getD followCounters d.followCounters
    randomSelection := ← r.getD randomSelection d.randomSelection
    lowestInterference := ← r.getD lowestInterference d.lowestInterference
    blindRetransmission := ← r.getD blindRetransmission d.blindRetransmission
    dynamicScheduling := ← r.getD dynamicScheduling d.dynamicScheduling
    keepProbability := ← r.getD keepProbability d.keepProbability
    allowedIntervalsMs := ← r.getD allowedIntervalsMs d.allowedIntervalsMs
    reservationSize := ← r.getD reservationSize d.reservationSize }

def PhySection.ofValue (form : Notation) (v : Value) : Except Refusal PhySection := do
  let mcs : Field Nat := ⟨"mcs", Value.asWord 8⟩
  let controlErrorModel : Field Bool := ⟨"control-error-model", Value.asBool⟩
  let linkCurves : Field LinkCurves := ⟨"link-curves", Value.asChoice form LinkCurves.named⟩
  let dmrs : Field DmrsPattern := ⟨"dmrs", Value.asChoice form DmrsPattern.named⟩
  let psfchSymbols : Field Nat := ⟨"psfch-symbols", Value.asWord 32⟩
  let r ← Record.ofValue form
    [mcs.check, controlErrorModel.check, linkCurves.check, dmrs.check, psfchSymbols.check] v
  let d : PhySection := {}
  return {
    mcs := ← r.getD mcs d.mcs
    controlErrorModel := ← r.getD controlErrorModel d.controlErrorModel
    linkCurves := ← r.getD linkCurves d.linkCurves
    dmrs := ← r.getD dmrs d.dmrs
    psfchSymbols := ← r.getD psfchSymbols d.psfchSymbols }

def Config.ofValue (form : Notation) (v : Value) : Except Refusal (Config Float) := do
  let simulation : Field (SimulationSection Float) := ⟨"simulation", SimulationSection.ofValue form⟩
  let traffic : Field (TrafficSection Float) := ⟨"traffic", TrafficSection.ofValue form⟩
  let scheduler : Field (SchedulerSection Float) := ⟨"scheduler", SchedulerSection.ofValue form⟩
  let phy : Field PhySection := ⟨"phy", PhySection.ofValue form⟩
  let r ← Record.ofValue form [simulation.check, traffic.check, scheduler.check, phy.check] v
  let d : Config Float := .standard
  return {
    simulation := ← r.getD simulation d.simulation
    traffic := ← r.getD traffic d.traffic
    scheduler := ← r.getD scheduler d.scheduler
    phy := ← r.getD phy d.phy }

def Config.refused : Refusal → ConfigError Float
  | .shape => .parse none
  | .rule m => .parse (some m)

/-- The configuration that a text describes, if it keeps all rules. -/
def Config.ofToml (text : String) : Except (ConfigError Float) (Config Float) := do
  match Toml.read text with
  | none => throw (.parse none)
  | some v =>
    let c ← (Config.ofValue .toml v).mapError Config.refused
    c.validate
    return c

end Sidelink
