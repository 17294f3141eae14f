import Sidelink.Geometry.Point

/-!
# Awareness messages

A vehicle sends a message when its heading, position or speed has changed enough since the last one, and at the
latest after a second.
-/

namespace Sidelink

namespace Cam

/-- How often the conditions are checked, in microseconds. -/
def checkUs : Nat := 100000

/-- The longest time without a message, in microseconds. -/
def maxIntervalUs : Nat := 1000000

variable {α : Type} [Analysis α]

/-- The changes, in degrees, metres and metres per second, above which a message is due. -/
def maxHeadingDeg : α := 4.0
def maxDistanceM : α := 4.0
def maxSpeedMps : α := 0.5

def headingDeg (velocity : Point α) : α :=
  Analysis.atan2 velocity.y velocity.x * 57.2957795130823208767981548141051703

def speed (velocity : Point α) : α := Analysis.hypot velocity.x velocity.y

def headingChange (u v : Point α) : α :=
  let change := Scalar.remEuclid (headingDeg v - headingDeg u) 360.0
  Scalar.smaller change (360.0 - change)

end Cam

/-- Where a vehicle was and how fast it went at its last message. -/
structure CamState (α : Type) where
  timeUs : Nat
  position : Point α
  velocity : Point α

structure CamGenerator (α : Type) where
  last : Option (CamState α) := none
  /-- The messages so far. -/
  count : Nat := 0
  size : Nat
  largeSize : Nat
  /-- Every how many messages a large one is sent, beginning with the first. -/
  largeEvery : Nat

namespace CamGenerator

variable {α : Type} [Analysis α]

open Cam

def isDue (nowUs : Nat) (position velocity : Point α) : Option (CamState α) → Bool
  | none => true
  | some last =>
    maxIntervalUs ≤ nowUs - last.timeUs
      || decide ((0.0 : α) < speed velocity) && decide (maxHeadingDeg < headingChange last.velocity velocity)
      || decide (maxDistanceM < position.distance last.position)
      || decide (maxSpeedMps < Scalar.abs (speed velocity - speed last.velocity))

/-- The size of message number `k`, counted from one. -/
def sizeOf (c : CamGenerator α) (k : Nat) : Nat :=
  let every := max c.largeEvery 1
  if k % every = 1 ∨ every = 1 then c.largeSize else c.size

def check (c : CamGenerator α) (nowUs : Nat) (position velocity : Point α) : Option Nat × CamGenerator α :=
  if isDue nowUs position velocity c.last then
    (some (c.sizeOf (c.count + 1)), { c with last := some ⟨nowUs, position, velocity⟩, count := c.count + 1 })
  else (none, c)

end CamGenerator

end Sidelink
