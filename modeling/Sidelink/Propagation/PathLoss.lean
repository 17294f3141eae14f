import Sidelink.Scalar

/-!
# Path loss

Losses grow with the logarithm of distance and frequency, along a highway or through an urban grid of streets.
Powers are in dBm or in milliwatts, distances in metres and frequencies in GHz.
-/

namespace Sidelink

inductive Scenario where
  | highway
  | urban
deriving Repr, DecidableEq

def Scenario.named : List (String × Scenario) := [("highway", .highway), ("urban", .urban)]

variable {α : Type} [Analysis α]

/-- Shorter links are taken to be this long. -/
def minDistanceM : α := 3.0

/-- The deterministic part of a loss in dB. On a highway it does not depend on the line of sight. -/
def pathLossDb (scenario : Scenario) (distanceM frequencyGhz : α) (los : Bool) : α :=
  let d := Analysis.log10 (Scalar.larger distanceM minDistanceM)
  let f := Analysis.log10 frequencyGhz
  match scenario, los with
  | .highway, _ => 32.4 + 20.0 * d + 20.0 * f
  | .urban, true => 38.77 + 16.7 * d + 18.2 * f
  | .urban, false => 36.85 + 30.0 * d + 18.9 * f

/-- The chance of a line of sight among other vehicles on a highway. -/
def highwayLosProbability (distanceM : α) : α :=
  Scalar.smaller (2.1013e-6 * distanceM * distanceM - 0.002 * distanceM + 1.0193) 1.0

def dbmToMw (dbm : α) : α := Analysis.tenPow (dbm / 10.0)

def mwToDbm (mw : α) : α := 10.0 * Analysis.log10 mw

/-- The thermal noise over a bandwidth, in dBm, with the noise figure of the receiver. -/
def thermalNoiseDbm (bandwidthHz noiseFigureDb : α) : α :=
  -174.0 + 10.0 * Analysis.log10 bandwidthHz + noiseFigureDb

end Sidelink
