import Sidelink.Fault
import Sidelink.BlockError.Curve
import Sidelink.BlockError.Table.Shared
import Sidelink.BlockError.Table.Control
import Sidelink.BlockError.Table.Fading
import Sidelink.BlockError.Table.Radio

/-!
# Channels and their curves

Each physical channel has a curve, or one for each coding index and attempt. The choice of link curves says which
channels carry data and control.
-/

namespace Sidelink

inductive Channel where
  | pssch
  | pscch
  | ltePssch
  | pusch
  | psdch
  | ltePscch
  | psbch
  | cdlPssch (los : Bool) (prbs : Nat)
  | cdlPscch (los : Bool)
deriving Repr, DecidableEq

inductive BlockErrorFailure where
  | mcsOutOfRange (channel : Channel) (mcs max : Nat)
  | unsupportedPrbCount (prbs : Nat)
  | fault (f : Fault)
deriving Repr, DecidableEq

instance : OfFault BlockErrorFailure := ⟨.fault⟩

namespace Channel

def sightText (los : Bool) : String := if los then "LOS" else "NLOSv"

def text : Channel → String
  | pssch => "PSSCH"
  | pscch => "PSCCH"
  | ltePssch => "LTE PSSCH"
  | pusch => "PUSCH"
  | psdch => "PSDCH"
  | ltePscch => "LTE PSCCH"
  | psbch => "PSBCH"
  | cdlPssch los prbs => s!"CDL PSSCH ({sightText los}, {prbs} PRBs)"
  | cdlPscch los => s!"CDL PSCCH ({sightText los})"

/-- The highest coding index that has a curve. Channels with a single curve take any index. -/
def maxMcs : Channel → Nat
  | pssch | pscch => 27
  | pusch => 28
  | ltePssch | cdlPssch .. | cdlPscch _ => 20
  | psdch | ltePscch | psbch => 255

end Channel

namespace BlockErrorFailure

def message : BlockErrorFailure → String
  | mcsOutOfRange channel mcs max => s!"MCS {mcs} exceeds the maximum {max} of the {channel.text} error model"
  | unsupportedPrbCount prbs => s!"no CDL curve for an allocation of {prbs} PRBs"
  | fault _ => "arithmetic fault"

end BlockErrorFailure

namespace BlockError

/-- The simulated number of PRBs that stands for an allocation under fading. -/
def fadedPrbs : Nat → Option Nat
  | 8 | 10 | 12 => some 8
  | 18 | 20 | 24 => some 18
  | 28 | 30 | 36 => some 28
  | 38 | 40 | 48 => some 38
  | 50 => some 48
  | _ => none

/-- The data curve under fading for a simulated number of PRBs. -/
def fadedRow (los : Bool) : Nat → PointRow
  | 8 => if los then fadedLos8 else fadedNlos8
  | 18 => if los then fadedLos18 else fadedNlos18
  | 28 => if los then fadedLos28 else fadedNlos28
  | 38 => if los then fadedLos38 else fadedNlos38
  | _ => if los then fadedLos48 else fadedNlos48

variable {α : Type} [Scalar α]

def tabulated (c : Option (Curve α)) : Except BlockErrorFailure (Curve α) :=
  match c with
  | some c => .ok c
  | none => .error (.fault .outOfBounds)

/-- The curve of a channel for a coding index and the number of earlier attempts. The fourth attempt and all later
ones share a curve. -/
def curve (channel : Channel) (mcs attempts : Nat) : Except BlockErrorFailure (Curve α) := do
  if channel.maxMcs < mcs then throw (.mcsOutOfRange channel mcs channel.maxMcs)
  let attempt := min attempts 3
  match channel with
  | .pssch => tabulated (PointRow.curve? radioData)
  | .pscch => tabulated (PointRow.curve? radioControl)
  | .ltePssch | .pusch => do
    let rows ← entry sharedRows mcs
    let row ← entry rows attempt
    tabulated row.curve?
  | .psdch => do
    let row ← entry discoveryRows attempt
    tabulated row.curve?
  | .ltePscch => tabulated controlRow.curve?
  | .psbch => tabulated broadcastRow.curve?
  | .cdlPssch los prbs =>
    match fadedPrbs prbs with
    | some n => tabulated (PointRow.curve? (fadedRow los n))
    | none => .error (.unsupportedPrbCount prbs)
  | .cdlPscch los => tabulated (PointRow.curve? (if los then fadedControlLos else fadedControlNlos))

end BlockError

/-- The family of curves used for reception. -/
inductive LinkCurves where
  | nr
  | lte
  | cdl
deriving Repr, DecidableEq

namespace LinkCurves

def named : List (String × LinkCurves) := [("nr", nr), ("lte", lte), ("cdl", cdl)]

def dataChannel (c : LinkCurves) (los : Bool) (prbs : Nat) : Channel :=
  match c with
  | nr => .pssch
  | lte => .ltePssch
  | cdl => .cdlPssch los prbs

def controlChannel (c : LinkCurves) (los : Bool) : Channel :=
  match c with
  | nr => .pscch
  | lte => .ltePscch
  | cdl => .cdlPscch los

end LinkCurves

end Sidelink
