import Sidelink.Slot
import Sidelink.Scalar

/-!
# Numerology

The subcarrier spacing is 15 kHz doubled once or twice, and the slot is halved as often. Channel bandwidths,
sensitivities and processing times are tabulated for each spacing.
-/

namespace Sidelink

/-- The spacing is `15 · 2 ^ index` kHz. -/
structure Numerology where
  index : Nat
  index_le : index ≤ 2 := by omega
deriving Repr, DecidableEq

inductive NumerologyError where
  | unsupportedNumerology (index : Nat)
  | unsupportedBandwidth (scsKhz bandwidthMhz : Nat)
  | invalidSubchannelSize (subchannelSize bandwidthRbs : Nat)
deriving Repr, DecidableEq

namespace NumerologyError

def message : NumerologyError → String
  | unsupportedNumerology i => s!"numerology index {i} is not supported in FR1 (allowed 0, 1, 2)"
  | unsupportedBandwidth scs mhz => s!"channel bandwidth {mhz} MHz is not defined for {scs} kHz subcarrier spacing"
  | invalidSubchannelSize size rbs => s!"sub-channel size must be positive and not exceed {rbs} RBs, got {size}"

end NumerologyError

namespace Numerology

def ofIndex (index : Nat) : Except NumerologyError Numerology :=
  if h : index ≤ 2 then .ok ⟨index, h⟩ else .error (.unsupportedNumerology index)

/-- The spacing of 15 kHz, with slots of a millisecond. -/
def widest : Numerology := { index := 0 }

instance : Inhabited Numerology := ⟨widest⟩

def scsKhz (n : Numerology) : Nat := 15 <<< n.index

def slotsPerMs (n : Numerology) : Nat := 1 <<< n.index

/-- The length of a slot in milliseconds: 1, 0.5 or 0.25. -/
def slotMs {α : Type} [Scalar α] (n : Numerology) : α := 1.0 / Scalar.ofNat n.slotsPerMs

/-- The length of a slot in microseconds: 1000, 500 or 250. -/
def slotUs (n : Numerology) : Nat := 1000 / n.slotsPerMs

/-- The slots that cover a time in milliseconds. Bits past the 32nd are lost. -/
def slotsInMs (n : Numerology) (ms : Nat) : Nat := (ms <<< n.index) % limit32

def sensingDelay (n : Numerology) : Nat := if n.index = 2 then 2 else 1

def selectionDelay (n : Numerology) : Nat := if n.index = 0 then 3 else if n.index = 1 then 5 else 9

end Numerology

def spacingColumn : Nat → Option Nat
  | 15 => some 0
  | 30 => some 1
  | 60 => some 2
  | _ => none

/-- The RBs of a channel for each spacing, 0 where the channel is not defined. -/
def channelRow : Nat → List Nat
  | 5 => [25, 11, 0]
  | 10 => [52, 24, 11]
  | 15 => [79, 38, 18]
  | 20 => [106, 51, 24]
  | 25 => [133, 65, 31]
  | 30 => [160, 78, 38]
  | 40 => [216, 106, 51]
  | 50 => [270, 133, 65]
  | 60 => [0, 162, 79]
  | 70 => [0, 189, 93]
  | 80 => [0, 217, 107]
  | 90 => [0, 245, 121]
  | 100 => [0, 273, 135]
  | _ => [0, 0, 0]

def channelRbs (scsKhz bandwidthMhz : Nat) : Except NumerologyError Nat :=
  let undefined := NumerologyError.unsupportedBandwidth scsKhz bandwidthMhz
  match spacingColumn scsKhz with
  | none => .error undefined
  | some column =>
    match (channelRow bandwidthMhz)[column]? with
    | some (rbs + 1) => .ok (rbs + 1)
    | _ => .error undefined

/-- The sensitivity of a channel in dBm for each spacing. A 50 MHz channel has the values of 40 MHz. -/
def sensitivityRow {α : Type} [Scalar α] : Nat → List α
  | 10 => [-92.5, -92.1, -92.9]
  | 20 => [-89.2, -89.4, -89.1]
  | 30 => [-87.4, -87.7, -87.9]
  | 40 | 50 => [-86.1, -86.2, -86.4]
  | _ => []

def referenceSensitivity {α : Type} [Scalar α] (scsKhz bandwidthMhz : Nat) : Except NumerologyError α :=
  match (spacingColumn scsKhz).bind fun column => (sensitivityRow bandwidthMhz)[column]? with
  | some dbm => .ok dbm
  | none => .error (.unsupportedBandwidth scsKhz bandwidthMhz)

/-- The smallest threshold above a sensitivity, of those from -112 dBm upward in steps of two. -/
def rssiThreshold? {α : Type} [Scalar α] (sensitivityDbm : α) : Option α :=
  ((List.range 45).map fun i => (-112.0 + 2.0 * Scalar.ofNat i : α)).find? fun t => decide (sensitivityDbm < t)

/-- The side of a cell and the number of cells in a cluster, for reuse after a distance. -/
def reuseCell {α : Type} [Scalar α] (subchannelSize bandwidthRbs : Nat) (reuseM : α) :
    Except NumerologyError (α × Nat) :=
  if subchannelSize = 0 ∨ bandwidthRbs < subchannelSize then
    .error (.invalidSubchannelSize subchannelSize bandwidthRbs)
  else
    let cells := bandwidthRbs / subchannelSize
    .ok (reuseM / Scalar.ofNat cells, cells)

/-! ## From time to slots -/

/-- Slots between a decision and the slot it applies to: eleven for processing and four for the channel. -/
def decisionDelaySlots : Nat := 15

/-- The slot a time falls into, after the delay of a decision. The first slot after it has number zero. -/
def Slot.ofTime {α : Type} [Scalar α] (timeUs : Nat) (slotMs : α) : Except (SlotError α) Slot := do
  if ¬ 0.0 < slotMs then throw (.slotLengthNotPositive slotMs)
  let slotUs := min (Scalar.toNat (Scalar.round (slotMs * 1000.0))) (limit64 - 1)
  let delay ← word64 (decisionDelaySlots * slotUs)
  let shifted ← word64 (timeUs + delay)
  let slots ← quotient shifted slotUs
  return Slot.ofIndex (slots - 1)

end Sidelink
