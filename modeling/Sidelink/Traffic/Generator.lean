import Sidelink.Config.Rules
import Sidelink.Random.Ziggurat
import Sidelink.Traffic.Cam

/-!
# Traffic

Each node has a generator with a timer. When the timer fires the generator may give a packet, and then it says how
long the timer runs next.
-/

namespace Sidelink

inductive Generator (α : Type) where
  | periodic (intervalUs size : Nat)
  /-- A least interval, an exponential gap on top of it, and the sizes to draw from. -/
  | aperiodic (minIntervalUs : Nat) (meanGapMs : α) (sizes : List Nat)
  | cam (c : CamGenerator α)

namespace Generator

variable {α : Type}

section

variable [Scalar α]

def ofPeriodic (s : TrafficSection α) : Generator α := .periodic (s.rriMs * 1000) s.packetSize

def ofAperiodic (s : TrafficSection α) : Except (ConfigError α) (Generator α) := do
  if ¬ 0.0 < s.aperiodicMeanMs then throw (.notPositive "aperiodic-mean-ms")
  let rate := 1.0 / s.aperiodicMeanMs
  -- An exponential distribution is refused for any other rate.
  if ¬ 0.0 ≤ rate then throw (.notPositive "aperiodic-mean-ms")
  if s.aperiodicSizes.isEmpty then throw .noAperiodicSizes
  return .aperiodic (← word64 (s.aperiodicMinIntervalMs * 1000)) (1.0 / rate) s.aperiodicSizes

def ofCam (s : TrafficSection α) : Generator α :=
  .cam { size := s.camSize, largeSize := s.camLargeSize, largeEvery := s.camLargeEvery }

end

def trafficType : Generator α → TrafficType
  | periodic .. => .periodic
  | aperiodic .. | cam _ => .aperiodic

/-- The time within which the timer fires first. -/
def span : Generator α → Nat
  | periodic interval _ => interval
  | aperiodic minInterval _ _ => minInterval
  | cam _ => Cam.checkUs

variable {γ : Type} [RandomSource γ]

/-- When the timer fires first, so that nodes do not go in step. -/
def firstDelayUs (t : Generator α) (g : γ) : Nat × γ :=
  if t.span = 0 then (0, g) else Random.uniform64 0 (t.span - 1) g

variable [Analysis α] {ε : Type} [OfFault ε]

/-- A scalar in milliseconds as whole microseconds. -/
def toUs (ms : α) : Nat := min (Scalar.toNat (Scalar.round (ms * 1000.0))) (limit64 - 1)

/-- How long the timer runs until it fires again, a microsecond at least. -/
def nextDelayUs (t : Generator α) (g : γ) : Except ε (Nat × γ) :=
  match t with
  | .periodic interval _ => .ok (max interval 1, g)
  | .aperiodic minInterval meanGapMs _ => do
    let (gapMs, g) := Random.exponential meanGapMs g
    return (max (← word64 (minInterval + toUs gapMs)) 1, g)
  | .cam _ => .ok (max Cam.checkUs 1, g)

/-- The size of the packet generated when the timer fires, if there is one. -/
def onTimer (t : Generator α) (nowUs : Nat) (position velocity : Point α) (g : γ) : Option Nat × Generator α × γ :=
  match t with
  | .periodic _ size => (some size, t, g)
  | .aperiodic _ _ sizes =>
    let (size, g) := Random.choose sizes g
    (size, t, g)
  | .cam c =>
    let (size, c) := c.check nowUs position velocity
    (size, .cam c, g)

end Generator

/-! ## Who sends what -/

/-- How many of `n` nodes are periodic at a percentage, a half rounded up. -/
def periodicCount (n percentage : Nat) : Nat := (n * percentage + 50) / 100

/-- Gives each node a generator, the nodes in ascending order. In mixed traffic the periodic ones are drawn. -/
def assignTraffic {α : Type} [Scalar α] {γ : Type} [RandomSource γ] (model : TrafficModel) (s : TrafficSection α)
    (ids : List Nat) (g : γ) : Except (ConfigError α) (List (Nat × Generator α) × γ) := do
  let sorted := ids.mergeSort
  match model with
  | .periodic => return (sorted.map fun id => (id, .ofPeriodic s), g)
  | .etsi => return (sorted.map fun id => (id, .ofCam s), g)
  | .aperiodic => return (← sorted.mapM fun id => do return (id, ← Generator.ofAperiodic s), g)
  | .mixed percentage =>
    let (shuffled, g) := Random.shuffle sorted g
    let n := periodicCount shuffled.length percentage
    let periodic := (shuffled.take n).map fun id => (id, Generator.ofPeriodic s)
    let aperiodic ← (shuffled.drop n).mapM fun id => do return (id, ← Generator.ofAperiodic s)
    return ((periodic ++ aperiodic).mergeSort fun a b => a.1 ≤ b.1, g)

end Sidelink
