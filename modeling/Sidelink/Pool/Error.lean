import Sidelink.Fault

/-!
# What is wrong with a pool record
-/

namespace Sidelink

inductive PoolError where
  | unsupportedPeriod (text : String)
  | unsupportedCyclicPrefix (text : String)
  | unsupportedAlpha (text : String)
  | inconsistentBitmapSize (size : Nat)
  | invalidBitmapCharacter (c : Char)
  | invalidPatternSubset (text : String)
  | invalidPrbRange (start stop count : Nat)
  | emptyControlPool
  | emptyDataPool
  | invalidSubbands (count : Nat)
  | nominalPowerOutOfRange (p0 : Int)
  | controlResourceOutOfRange (n available : Nat)
  | rbRangeOutOfPool (start count available : Nat)
  | fault (f : Fault)
deriving Repr, DecidableEq

instance : OfFault PoolError := ⟨.fault⟩

namespace PoolError

def message : PoolError → String
  | unsupportedPeriod s => s!"unsupported sidelink period '{s}'"
  | unsupportedCyclicPrefix s => s!"unsupported cyclic prefix length '{s}'"
  | unsupportedAlpha s => s!"unsupported power control alpha '{s}'"
  | inconsistentBitmapSize n => s!"inconsistent bitmap size: expected 40 bits, got {n}"
  | invalidBitmapCharacter c => s!"invalid bitmap character '{c}', only '0' and '1' are allowed"
  | invalidPatternSubset s => s!"invalid T-RPT subset '{s}', expected 3 bits"
  | invalidPrbRange start stop count => s!"invalid PRB range: start {start}, end {stop}, count {count}"
  | emptyControlPool => "control pool has no subframe or fewer than 2 PRBs"
  | emptyDataPool => "data pool has no subframe or PRB"
  | invalidSubbands n => s!"number of hopping sub-bands must be 1, 2 or 4, got {n}"
  | nominalPowerOutOfRange p0 => s!"nominal power p0 {p0} dBm outside -126..=31"
  | controlResourceOutOfRange n available => s!"PSCCH resource {n} outside pool of {available} resources"
  | rbRangeOutOfPool start count available =>
    s!"RB range start {start} length {count} exceeds the {available} PRBs of the data pool"
  | fault _ => "arithmetic fault"

end PoolError

end Sidelink
