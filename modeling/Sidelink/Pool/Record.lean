import Sidelink.Pool.Bitmap
import Sidelink.Scalar
import Sidelink.Data.Value

/-!
# Pool records

A pool record says which subframes and PRBs of each control period carry the control channel and which carry
data. The data channel is either scheduled by the network or selected by the nodes.
-/

namespace Sidelink

/-! ## Choices written as text -/

inductive ControlPeriod where
  | sf40 | sf60 | sf70 | sf80 | sf120 | sf140 | sf160 | sf240 | sf280 | sf320
deriving Repr, DecidableEq

namespace ControlPeriod

def subframes : ControlPeriod → Nat
  | sf40 => 40
  | sf60 => 60
  | sf70 => 70
  | sf80 => 80
  | sf120 => 120
  | sf140 => 140
  | sf160 => 160
  | sf240 => 240
  | sf280 => 280
  | sf320 => 320

def ofText (text : String) : Except PoolError ControlPeriod :=
  let named := [("sf40", sf40), ("sf60", sf60), ("sf70", sf70), ("sf80", sf80), ("sf120", sf120),
    ("sf140", sf140), ("sf160", sf160), ("sf240", sf240), ("sf280", sf280), ("sf320", sf320)]
  match named.lookup text with
  | some p => .ok p
  | none => .error (.unsupportedPeriod text)

end ControlPeriod

inductive CyclicPrefix where
  | normal
  | extended
deriving Repr, DecidableEq

def CyclicPrefix.ofText (text : String) : Except PoolError CyclicPrefix :=
  match [("normal", CyclicPrefix.normal), ("extended", CyclicPrefix.extended)].lookup text with
  | some p => .ok p
  | none => .error (.unsupportedCyclicPrefix text)

/-- The share of the path loss that power control compensates, in tenths. -/
structure Alpha where
  tenths : Nat
deriving Repr, DecidableEq

namespace Alpha

def ofText (text : String) : Except PoolError Alpha :=
  let named := [("al0", 0), ("al04", 4), ("al05", 5), ("al06", 6), ("al07", 7), ("al08", 8), ("al09", 9),
    ("al1", 10)]
  match named.lookup text with
  | some n => .ok ⟨n⟩
  | none => .error (.unsupportedAlpha text)

def value {α : Type} [Scalar α] (a : Alpha) : α := Scalar.ofNat a.tenths / 10.0

end Alpha

structure PatternSubset where
  one : Bool
  two : Bool
  four : Bool
deriving Repr, DecidableEq

namespace PatternSubset

def all : PatternSubset := ⟨true, true, true⟩

def allowsWeight (s : PatternSubset) : Nat → Bool
  | 1 => s.one
  | 2 => s.two
  | 4 => s.four
  | _ => false

/-- Three characters, `1` where the weight is allowed. -/
def ofText (text : String) : Except PoolError PatternSubset :=
  match text.toList with
  | [a, b, c] =>
    if [a, b, c].all fun x => x = '0' || x = '1' then .ok ⟨a = '1', b = '1', c = '1'⟩
    else .error (.invalidPatternSubset text)
  | _ => .error (.invalidPatternSubset text)

end PatternSubset

/-! ## Records -/

/-- Where a channel lies: two clusters of PRBs at the ends of a range, in the subframes of a bitmap. -/
structure TimeFrequency where
  prbNum : Nat
  prbStart : Nat
  prbEnd : Nat
  /-- Where the first period begins, in subframes from the start of the ring. -/
  offset : Nat := 0
  bitmap : SubframeBitmap
deriving Repr, DecidableEq

structure Hopping where
  parameter : Nat := 0
  subbands : Nat := 1
  rbOffset : Nat := 0
deriving Repr, DecidableEq

structure TxPower where
  alpha : Alpha
  p0 : Int
deriving Repr, DecidableEq

inductive DataPool where
  /-- The network assigns resources. Every subframe after the control subframes carries data. -/
  | scheduled (bandwidthRbs : Nat) (mcs : Option Nat)
  /-- The nodes select resources on their own. -/
  | ueSelected (area : TimeFrequency) (patterns : PatternSubset) (controlPower dataPower : TxPower)
deriving Repr, DecidableEq

structure PoolRecord where
  controlPrefix : CyclicPrefix
  period : ControlPeriod
  control : TimeFrequency
  dataPrefix : CyclicPrefix
  hopping : Hopping := {}
  data : DataPool
deriving Repr, DecidableEq

/-! ## Reading -/

def Value.asRuled {β : Type} (ofText : String → Except PoolError β) (v : Value) : Except Refusal β :=
  match v with
  | .str s => (ofText s).mapError fun e => .rule e.message
  | _ => .error .shape

def TimeFrequency.ofValue (v : Value) : Except Refusal TimeFrequency := do
  let prbNum : Field Nat := ⟨"prb_num", Value.asWord 16⟩
  let prbStart : Field Nat := ⟨"prb_start", Value.asWord 16⟩
  let prbEnd : Field Nat := ⟨"prb_end", Value.asWord 16⟩
  let offset : Field Nat := ⟨"offset", Value.asWord 32⟩
  let bitmap : Field SubframeBitmap := ⟨"subframe_bitmap", Value.asRuled SubframeBitmap.ofText⟩
  let r ← Record.ofValue .json [prbNum.check, prbStart.check, prbEnd.check, offset.check, bitmap.check] v
  return { prbNum := ← r.get prbNum, prbStart := ← r.get prbStart, prbEnd := ← r.get prbEnd,
           offset := ← r.getD offset 0, bitmap := ← r.get bitmap }

def Hopping.ofValue (v : Value) : Except Refusal Hopping := do
  let parameter : Field Nat := ⟨"hopping_parameter", Value.asWord 16⟩
  let subbands : Field Nat := ⟨"num_subbands", Value.asWord 8⟩
  let rbOffset : Field Nat := ⟨"rb_offset", Value.asWord 16⟩
  let r ← Record.ofValue .json [parameter.check, subbands.check, rbOffset.check] v
  return { parameter := ← r.getD parameter 0, subbands := ← r.getD subbands 1, rbOffset := ← r.getD rbOffset 0 }

def TxPower.ofValue (v : Value) : Except Refusal TxPower := do
  let alpha : Field Alpha := ⟨"alpha", Value.asRuled Alpha.ofText⟩
  let p0 : Field Int := ⟨"p0", Value.asIntIn (-32768) 32768⟩
  let r ← Record.ofValue .json [alpha.check, p0.check] v
  return { alpha := ← r.get alpha, p0 := ← r.get p0 }

def DataPool.scheduledOfValue (v : Value) : Except Refusal DataPool := do
  let bandwidthRbs : Field Nat := ⟨"bandwidth_rbs", Value.asWord 16⟩
  let mcs : Field (Option Nat) := ⟨"mcs", Value.asOption (Value.asWord 8)⟩
  let r ← Record.ofValue .json [bandwidthRbs.check, mcs.check] v
  return .scheduled (← r.get bandwidthRbs) (← r.getD mcs none)

def DataPool.ueSelectedOfValue (v : Value) : Except Refusal DataPool := do
  let area : Field TimeFrequency := ⟨"data_tf_resource_config", TimeFrequency.ofValue⟩
  let patterns : Field PatternSubset := ⟨"trpt_subset", Value.asRuled PatternSubset.ofText⟩
  let controlPower : Field TxPower := ⟨"sc_tx_parameters", TxPower.ofValue⟩
  let dataPower : Field TxPower := ⟨"data_tx_parameters", TxPower.ofValue⟩
  let r ← Record.ofValue .json [area.check, patterns.check, controlPower.check, dataPower.check] v
  return .ueSelected (← r.get area) (← r.getD patterns .all) (← r.get controlPower) (← r.get dataPower)

namespace PoolRecord

/-- The part of a record that both kinds of pool share. -/
def sharedOfValue (data : DataPool) (v : Value) : Except Refusal PoolRecord := do
  let controlPrefix : Field CyclicPrefix := ⟨"sc_cp_len", Value.asRuled CyclicPrefix.ofText⟩
  let period : Field ControlPeriod := ⟨"sc_period", Value.asRuled ControlPeriod.ofText⟩
  let control : Field TimeFrequency := ⟨"sc_tf_resource_config", TimeFrequency.ofValue⟩
  let dataPrefix : Field CyclicPrefix := ⟨"data_cp_len", Value.asRuled CyclicPrefix.ofText⟩
  let hopping : Field Hopping := ⟨"data_hopping_config", Hopping.ofValue⟩
  let r ← Record.ofValue .json
    [controlPrefix.check, period.check, control.check, dataPrefix.check, hopping.check] v
  return { controlPrefix := ← r.get controlPrefix, period := ← r.get period, control := ← r.get control,
           dataPrefix := ← r.get dataPrefix, hopping := ← r.getD hopping {}, data }

/-- An object whose entry `type` names the kind of pool. It is read whole first, then the entries of its kind, then
the shared ones. -/
def ofValue (v : Value) : Except Refusal PoolRecord :=
  match v with
  | .object entries =>
    if !v.readable then .error .shape
    else
      match entries.filter fun (name, _) => name = "type" with
      | [(_, .str "scheduled")] => do sharedOfValue (← DataPool.scheduledOfValue v) v
      | [(_, .str "ue_selected")] => do sharedOfValue (← DataPool.ueSelectedOfValue v) v
      | _ => .error .shape
  | _ => .error .shape

end PoolRecord

end Sidelink
