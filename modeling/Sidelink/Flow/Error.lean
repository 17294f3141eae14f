import Sidelink.TransportBlock
import Sidelink.Slot

/-!
# What keeps a packet from being scheduled
-/

namespace Sidelink

inductive FlowError where
  | emptyWindow (now : Slot) (t1 t2 : Nat)
  | noCandidate
  | notEnoughSubchannels (needed available : Nat)
  | intervalNotAllowed (ms : Nat)
  | sizing (e : SizingError)
  | fault (f : Fault)
deriving Repr, DecidableEq

instance : OfFault FlowError := ⟨.fault⟩

namespace FlowError

def message : FlowError → String
  | emptyWindow now t1 t2 => s!"selection window [n+{t1}, n+{t2}] at {now} contains no PSSCH resource"
  | noCandidate => "candidate set is empty"
  | notEnoughSubchannels needed available =>
    s!"reservation needs {needed} sub-channels but the pool only has {available}"
  | intervalNotAllowed ms => s!"resource reservation interval {ms} ms is not allowed"
  | sizing e => e.message
  | fault _ => "arithmetic fault"

/-- A sizing error as an error of the flow. A fault stays one. -/
def ofSizing : SizingError → FlowError
  | .fault f => .fault f
  | e => .sizing e

end FlowError

end Sidelink
