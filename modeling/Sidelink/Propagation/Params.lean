import Sidelink.Scalar.Binary64
import Sidelink.Propagation.PathLoss
import Sidelink.Data.Value

/-!
# Propagation parameters
-/

namespace Sidelink

structure PropagationParams (α : Type) where
  scenario : Scenario
  frequencyGhz : α
  shadowing : Bool
  /-- Deviations and distance that replace those of the scenario. -/
  sigmaLosDb : Option α
  sigmaNlosDb : Option α
  decorrelationM : Option α
  /-- Nodes of an urban grid that are closer than this along an axis see each other. -/
  streetWidthM : α
  /-- Whether other vehicles on a highway can block the line of sight. -/
  vehicleBlockage : Bool
  sigmaBlockageDb : α
  noiseFigureDb : α

namespace PropagationParams

/-- What a record leaves out takes these values. -/
def ofScenario {α : Type} [Scalar α] (scenario : Scenario) : PropagationParams α where
  scenario
  frequencyGhz := 5.9
  shadowing := true
  sigmaLosDb := none
  sigmaNlosDb := none
  decorrelationM := none
  streetWidthM := 20.0
  vehicleBlockage := false
  sigmaBlockageDb := 4.0
  noiseFigureDb := 9.0

variable {α : Type} [Scalar α]

def sigmaDb (p : PropagationParams α) (los : Bool) : α :=
  if !p.shadowing then 0.0
  else if los then p.sigmaLosDb.getD 3.0
  else
    match p.scenario with
    | .highway => p.sigmaNlosDb.getD 3.0
    | .urban => p.sigmaNlosDb.getD 4.0

/-- The distance over which shadowing loses its memory. -/
def decorrelationDistanceM (p : PropagationParams α) : α :=
  p.decorrelationM.getD (match p.scenario with
    | .highway => 25.0
    | .urban => 10.0)

def ofValue (v : Value) : Except Refusal (PropagationParams Float) := do
  let scenario : Field Scenario := ⟨"scenario", Value.asChoice .json Scenario.named⟩
  let frequencyGhz : Field Float := ⟨"frequency_ghz", Value.asFloat⟩
  let shadowing : Field Bool := ⟨"shadowing", Value.asBool⟩
  let sigmaLosDb : Field (Option Float) := ⟨"sigma_los_db", Value.asOption Value.asFloat⟩
  let sigmaNlosDb : Field (Option Float) := ⟨"sigma_nlos_db", Value.asOption Value.asFloat⟩
  let decorrelationM : Field (Option Float) := ⟨"decorrelation_m", Value.asOption Value.asFloat⟩
  let streetWidthM : Field Float := ⟨"street_width_m", Value.asFloat⟩
  let vehicleBlockage : Field Bool := ⟨"vehicle_blockage", Value.asBool⟩
  let sigmaBlockageDb : Field Float := ⟨"sigma_nlosv_db", Value.asFloat⟩
  let noiseFigureDb : Field Float := ⟨"noise_figure_db", Value.asFloat⟩
  let r ← Record.ofValue .json [scenario.check, frequencyGhz.check, shadowing.check, sigmaLosDb.check,
    sigmaNlosDb.check, decorrelationM.check, streetWidthM.check, vehicleBlockage.check, sigmaBlockageDb.check,
    noiseFigureDb.check] v
  let d : PropagationParams Float := ofScenario (← r.get scenario)
  return { d with
    frequencyGhz := ← r.getD frequencyGhz d.frequencyGhz
    shadowing := ← r.getD shadowing d.shadowing
    sigmaLosDb := ← r.getD sigmaLosDb none
    sigmaNlosDb := ← r.getD sigmaNlosDb none
    decorrelationM := ← r.getD decorrelationM none
    streetWidthM := ← r.getD streetWidthM d.streetWidthM
    vehicleBlockage := ← r.getD vehicleBlockage d.vehicleBlockage
    sigmaBlockageDb := ← r.getD sigmaBlockageDb d.sigmaBlockageDb
    noiseFigureDb := ← r.getD noiseFigureDb d.noiseFigureDb }

end PropagationParams

end Sidelink
