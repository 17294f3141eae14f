import Sidelink.Pool.Record
import Sidelink.Slot

/-!
# Resource pools

Time is cut into control periods. Each period has control subframes at its start and data subframes after or
between them, and each of the two channels has its own PRBs. A pool answers which channel a slot belongs to and
where the transmissions of a period lie.
-/

namespace Sidelink

inductive PoolKind where
  | scheduled
  | ueSelected
deriving Repr, DecidableEq

/-- The subframes of a channel, as offsets in the period, and its PRBs, both increasing. -/
structure ChannelArea where
  offsets : List Nat
  rbs : List Nat
deriving Repr, DecidableEq

structure ResourcePool where
  kind : PoolKind
  /-- The length of a period in subframes. -/
  period : Nat
  /-- Where on the ring the first period begins. -/
  start : Nat
  control : ChannelArea
  data : ChannelArea
deriving Repr, DecidableEq

/-- The PRBs of two clusters of `prbNum`, one from the start of the range up and one from its end down. -/
def TimeFrequency.prbs (t : TimeFrequency) : Except PoolError (List Nat) := do
  let invalid := PoolError.invalidPrbRange t.prbStart t.prbEnd t.prbNum
  if t.prbNum = 0 ∨ t.prbEnd < t.prbStart then throw invalid
  let width ← word16 (t.prbEnd - t.prbStart + 1)
  if width < t.prbNum then throw invalid
  let lowStop ← word16 (t.prbStart + t.prbNum)
  let highStop ← word16 (t.prbEnd + 1)
  return (List.range' t.prbStart width).filter fun rb => rb < lowStop || highStop - t.prbNum ≤ rb

/-- Looks for `x` in an increasing list, in the half below its middle entry or in the half above it. -/
@[semireducible] def bisect (x : Nat) (xs : List Nat) : Bool :=
  match h : xs.drop (xs.length / 2) with
  | [] => false
  | middle :: upper =>
    if x < middle then bisect x (xs.take (xs.length / 2))
    else if middle < x then bisect x upper
    else true
termination_by xs.length
decreasing_by
  all_goals
    have hlength := congrArg List.length h
    simp only [List.length_drop, List.length_cons, List.length_take] at hlength ⊢
    omega

namespace ResourcePool

def dataArea (period : Nat) (controlOffsets : List Nat) : DataPool → Except PoolError ChannelArea
  | .scheduled bandwidthRbs _ =>
    let first := controlOffsets.getLastD 0 + 1
    .ok ⟨List.range' first (period - first), List.range bandwidthRbs⟩
  | .ueSelected area _ controlPower dataPower => do
    for p0 in [controlPower.p0, dataPower.p0] do
      if p0 < -126 ∨ 31 < p0 then throw (.nominalPowerOutOfRange p0)
    let offsets := (List.range period).filter fun o => area.bitmap.isSet o && !controlOffsets.contains o
    return ⟨offsets, ← area.prbs⟩

/-- The pool of a record, or the first rule that the record breaks. -/
def ofRecord (r : PoolRecord) : Except PoolError ResourcePool := do
  let period := r.period.subframes
  if ¬ (r.hopping.subbands = 1 ∨ r.hopping.subbands = 2 ∨ r.hopping.subbands = 4) then
    throw (.invalidSubbands r.hopping.subbands)
  let controlOffsets := (List.range 40).filter r.control.bitmap.isSet
  let controlRbs ← r.control.prbs
  if controlOffsets = [] ∨ controlRbs.length < 2 then throw .emptyControlPool
  let data ← dataArea period controlOffsets r.data
  if data.offsets = [] ∨ data.rbs = [] then throw .emptyDataPool
  return {
    kind := match r.data with
      | .scheduled .. => .scheduled
      | .ueSelected .. => .ueSelected
    period
    start := r.control.offset % ringLength
    control := ⟨controlOffsets, controlRbs⟩
    data }

def controlCount (p : ResourcePool) : Nat := p.control.rbs.length / 2 * p.control.offsets.length

def dataRbCount (p : ResourcePool) : Nat := p.data.rbs.length

/-- The sub-channels of `size` PRBs that fit the data channel. -/
def subchannelCount (p : ResourcePool) (size : Nat) : Nat :=
  if size = 0 then 0 else p.dataRbCount / size % 65536

/-! ## Slots of a period -/

def periodOffset (p : ResourcePool) (s : Slot) : Nat := (s.index + ringLength - p.start) % ringLength % p.period

/-- The first slot of the period that a slot belongs to. -/
def currentPeriod (p : ResourcePool) (s : Slot) : Slot := Slot.ofIndex (s.index + ringLength - p.periodOffset s)

def nextPeriod (p : ResourcePool) (s : Slot) : Slot := p.currentPeriod s + p.period

def isControlSlot (p : ResourcePool) (s : Slot) : Bool := p.control.offsets.contains (p.periodOffset s)

def isDataSlot (p : ResourcePool) (s : Slot) : Bool := bisect (p.periodOffset s) p.data.offsets

def controlOpportunities (p : ResourcePool) (s : Slot) : List Nat :=
  if p.isControlSlot s then p.control.rbs else []

/-! ## Transmissions of a period -/

structure Placement where
  slot : Slot
  rbStart : Nat
  rbCount : Nat
deriving Repr, DecidableEq

/-- The two transmissions of control resource `n` in the period that begins at `first`. The second lies half the
PRBs higher, and in another subframe if there is more than one. -/
def controlPlacements (p : ResourcePool) (first : Slot) (n : Nat) : Except PoolError (List Placement) := do
  if p.controlCount ≤ n then throw (.controlResourceOutOfRange n p.controlCount)
  let l := p.control.offsets.length
  let half := p.control.rbs.length / 2
  let b1 := n % l
  let b2 := if 1 < l then (n + 1 + n / l % (l - 1)) % l else b1
  return [
    ⟨first + (← entry p.control.offsets b1), ← entry p.control.rbs (n / l), 1⟩,
    ⟨first + (← entry p.control.offsets b2), ← entry p.control.rbs (n / l + half), 1⟩]

/-- The PRBs of control resource `n` in a slot. -/
def controlRbs (p : ResourcePool) (s : Slot) (n : Nat) : Except PoolError (List Nat) := do
  let placements ← p.controlPlacements (p.currentPeriod s) n
  return (placements.filter fun t => t.slot = s).map (·.rbStart)

/-- The data transmissions of a repetition pattern in the period that begins at `first`. Bit `k` of the pattern
stands for the `k`-th of every eight data subframes, the lowest bit being the first. -/
def dataPlacements (p : ResourcePool) (first : Slot) (pattern rbStart rbCount : Nat) :
    Except PoolError (List Placement) := do
  let available := p.dataRbCount
  if rbCount = 0 ∨ available < rbStart + rbCount then throw (.rbRangeOutOfPool rbStart rbCount available)
  let rb ← entry p.data.rbs rbStart
  let chosen := p.data.offsets.zipIdx.filter fun (_, j) => pattern.testBit (j % 8)
  return chosen.map fun (offset, _) => ⟨first + offset, rb, rbCount⟩

end ResourcePool

/-- A transmission with control and data side by side in one slot. -/
structure V2xPlacement where
  slot : Slot
  dataStart : Nat
  dataCount : Nat
  controlStart : Nat
  controlCount : Nat
  isRetransmission : Bool
deriving Repr, DecidableEq

namespace V2xPlacement

/-- The first transmission and, for a gap above zero, its repetition that many slots later. -/
def withRepetition (initial : V2xPlacement) (gap : Nat) : List V2xPlacement :=
  if gap = 0 then [initial]
  else [initial, { initial with slot := initial.slot + gap, isRetransmission := true }]

end V2xPlacement

end Sidelink
