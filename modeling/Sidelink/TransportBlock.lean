import Sidelink.Fault
import Sidelink.Scalar

/-!
# Transport blocks

The payload of an allocation follows from its resource elements, the code rate and the modulation, rounded to a
legal block size. An allocation is the smallest one, in sub-channels and in RBs, that carries a packet.
-/

namespace Sidelink

inductive SizingError where
  | mcsOutOfRange (mcs : Nat)
  | invalidSubchannelSize (subchannelSize bandwidthRbs : Nat)
  | packetTooLarge (bytes mcs bandwidthRbs : Nat)
  | fault (f : Fault)
deriving Repr, DecidableEq

instance : OfFault SizingError := ⟨.fault⟩

def SizingError.message : SizingError → String
  | mcsOutOfRange mcs => s!"MCS {mcs} exceeds the maximum index 27"
  | invalidSubchannelSize size rbs => s!"sub-channel size {size} RBs does not fit a {rbs} RB carrier"
  | packetTooLarge bytes mcs rbs => s!"PDU of {bytes} bytes does not fit {rbs} RBs at MCS {mcs}"
  | fault _ => "arithmetic fault"

/-! ## Modulation and coding -/

def maxMcs : Nat := 27

/-- Bits per symbol and 1024 times the code rate for each index. -/
def mcsTable : List (Nat × Nat) := [
  (2, 120), (2, 157), (2, 193), (2, 251), (2, 308), (2, 379), (2, 449), (2, 526), (2, 602), (2, 679),
  (4, 340), (4, 378), (4, 434), (4, 490), (4, 553), (4, 616), (4, 658),
  (6, 438), (6, 466), (6, 517), (6, 567), (6, 616), (6, 666), (6, 719), (6, 772), (6, 822), (6, 873), (6, 910)]

section

variable {α : Type} [Scalar α]

def mcsParameters (mcs : Nat) : Except SizingError (Nat × α) := do
  if maxMcs < mcs then throw (.mcsOutOfRange mcs)
  let (order, rate) ← entry mcsTable mcs
  return (order, Scalar.ofNat rate / 1024.0)

/-! ## Legal block sizes -/

def smallBlocks : List Nat := [
  24, 32, 40, 48, 56, 64, 72, 80, 88, 96, 104, 112, 120, 128, 136, 144, 152, 160, 168, 176, 184, 192, 208, 224, 240,
  256, 272, 288, 304, 320, 336, 352, 368, 384, 408, 432, 456, 480, 504, 528, 552, 576, 608, 640, 672, 704, 736, 768,
  808, 848, 888, 928, 984, 1032, 1064, 1128, 1160, 1192, 1224, 1256, 1288, 1320, 1352, 1416, 1480, 1544, 1608, 1672,
  1736, 1800, 1864, 1928, 2024, 2088, 2152, 2216, 2280, 2408, 2472, 2536, 2600, 2664, 2728, 2792, 2856, 2976, 3104,
  3240, 3368, 3496, 3624, 3752, 3824]

def toWord32 (x : α) : Nat := min (Scalar.toNat x) (limit32 - 1)

/-- The size of a block that is split into code blocks of at most `maxBits`. -/
def segmentedSize (info maxBits : α) : Nat :=
  let blocks := Scalar.ceil ((info + 24.0) / maxBits)
  toWord32 (8.0 * blocks * Scalar.ceil ((info + 24.0) / (8.0 * blocks)) - 24.0)

/-- A number of information bits rounded to a legal block size. Without information bits the size is zero. -/
def blockSize (info rate : α) : Nat :=
  if ¬ 0.0 < info then 0
  else if info ≤ 3824.0 then
    let step : α := Scalar.twoPow (max (Scalar.floorLog2 info - 6) 3)
    let rounded := Scalar.larger (step * Scalar.floor (info / step)) 24.0
    (smallBlocks.find? fun size => decide (rounded ≤ Scalar.ofNat size)).getD 3824
  else
    let step : α := Scalar.twoPow (Scalar.floorLog2 (info - 24.0) - 5)
    let rounded := Scalar.larger (step * Scalar.round ((info - 24.0) / step)) 3840.0
    if rate ≤ 0.25 then segmentedSize rounded 3816.0
    else if 8424.0 < rounded then segmentedSize rounded 8424.0
    else toWord32 (8.0 * Scalar.ceil ((rounded + 24.0) / 8.0) - 24.0)

end

/-! ## Resource elements -/

/-- In which symbols of a slot the reference signal stands. -/
inductive DmrsPattern where
  | two
  | three
  | four
  | twoThree
  | twoFour
  | threeFour
  | twoThreeFour
deriving Repr, DecidableEq

namespace DmrsPattern

def resourceElements : DmrsPattern → Nat
  | two => 12
  | three => 18
  | four => 24
  | twoThree => 15
  | twoFour => 18
  | threeFour => 21
  | twoThreeFour => 18

def named : List (String × DmrsPattern) := [
  ("two", two), ("three", three), ("four", four), ("two-three", twoThree), ("two-four", twoFour),
  ("three-four", threeFour), ("two-three-four", twoThreeFour)]

end DmrsPattern

structure SlotLayout where
  sidelinkSymbols : Nat := 14
  firstStageSciSymbols : Nat := 2
  psfchSymbols : Nat := 0
  overheadRes : Nat := 0
  dmrs : DmrsPattern := .twoFour
deriving Repr, DecidableEq

/-- The smallest carriers of a packet. -/
structure Allocation where
  subchannels : Nat
  /-- The RBs of the sub-channels. -/
  subchannelRbs : Nat
  /-- The fewest RBs when they are counted one by one. -/
  rbs : Nat
  /-- The block size of the sub-channels, in bits. -/
  tbsBits : Nat
deriving Repr, DecidableEq

def Allocation.tbsBytes (a : Allocation) : Nat := a.tbsBits / 8

/-- The resource elements of the second-stage control information at a code rate: 72 bits at an offset of 3.5 and
two bits per symbol. -/
def secondStageRes {α : Type} [Scalar α] (rate : α) : Nat := toWord32 (Scalar.ceil (72.0 * 3.5 / (rate * 2.0)))

namespace SlotLayout

/-- The data resource elements of one RB. The first symbol of a slot and the last carry none. -/
def resPerRb (l : SlotLayout) : Except SizingError Nat := do
  let symbols := l.sidelinkSymbols - 2 - l.psfchSymbols
  let total ← word32 (12 * symbols)
  let overhead ← word32 (l.overheadRes + l.dmrs.resourceElements)
  return total - overhead

/-- The block size of `rbs` RBs, the control channel taking one sub-channel of them. -/
def blockSizeOfRbs {α : Type} [Scalar α] (l : SlotLayout) (subchannelSize order : Nat) (rate : α) (rbs : Nat) :
    Except SizingError Nat := do
  let controlSymbols ← word32 (l.firstStageSciSymbols * 12)
  let control ← word32 (controlSymbols * subchannelSize)
  let total ← word32 ((← l.resPerRb) * rbs)
  let res : α := Scalar.ofNat total - Scalar.ofNat control - Scalar.ofNat (secondStageRes rate)
  return blockSize (res * rate * Scalar.ofNat order) rate

/-- The first of some candidates whose block has at least `bits` bits, with that block size. -/
def firstFitting (bits : Nat) (size : Nat → Except SizingError Nat) :
    List Nat → Except SizingError (Option (Nat × Nat))
  | [] => .ok none
  | n :: rest => do
    let tbs ← size n
    if bits ≤ tbs then return some (n, tbs) else firstFitting bits size rest

/-- The smallest allocation that carries a packet: whole sub-channels from one up, and RBs from one sub-channel
up. -/
def allocate {α : Type} [Scalar α] (l : SlotLayout) (bytes mcs subchannelSize bandwidthRbs : Nat) :
    Except SizingError Allocation := do
  let (order, rate) ← mcsParameters (α := α) mcs
  if subchannelSize = 0 ∨ bandwidthRbs < subchannelSize then
    throw (.invalidSubchannelSize subchannelSize bandwidthRbs)
  let bits := min (bytes * 8) (limit32 - 1)
  let size := l.blockSizeOfRbs subchannelSize order rate
  let counts := List.range' 1 (bandwidthRbs / subchannelSize)
  let whole ← firstFitting bits (fun j => do size (← word16 (j * subchannelSize))) counts
  match whole with
  | none => throw (.packetTooLarge bytes mcs bandwidthRbs)
  | some (subchannels, tbsBits) =>
    let single ← firstFitting bits size (List.range' subchannelSize (bandwidthRbs + 1 - subchannelSize))
    match single with
    | none => throw (.packetTooLarge bytes mcs bandwidthRbs)
    | some (rbs, _) => return ⟨subchannels, ← word16 (subchannels * subchannelSize), rbs, tbsBits⟩

end SlotLayout

end Sidelink
