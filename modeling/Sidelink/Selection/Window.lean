import Sidelink.Flow.Error
import Sidelink.Flow.Params
import Sidelink.Pool.Basic
import Sidelink.Resource

/-!
# Selection windows

A packet may be sent in the data slots from `t1` to `t2` after its arrival, on any run of neighbouring sub-channels
that is long enough.
-/

namespace Sidelink

structure Request where
  now : Slot
  nowUs : Nat
  /-- The delay budget of the packet. -/
  pdbMs : Nat
  /-- The sub-channels needed. -/
  needed : Nat
  /-- The interval of the reservation, zero for a single occasion. -/
  rriMs : Nat
  /-- The occasions that the reservation will have. -/
  counter : Nat
deriving Repr, DecidableEq

variable {α : Type}

def dataSlots (pool : ResourcePool) (now : Slot) (t1 t2 : Nat) : List Slot :=
  ((List.range' t1 (t2 + 1 - t1)).map (now + ·)).filter pool.isDataSlot

/-- Every resource of the window, slot by slot and from the lowest sub-channel up. -/
def selectionWindow (pool : ResourcePool) (params : FlowParams α) (request : Request) :
    Except FlowError (List Resource) :=
  let available := pool.subchannelCount params.subchannelSize
  let needed := max request.needed 1
  let t2 := params.t2 request.pdbMs
  if available < needed then .error (.notEnoughSubchannels needed available)
  else
    match dataSlots pool request.now params.t1 t2 with
    | [] => .error (.emptyWindow request.now params.t1 t2)
    | slots =>
      .ok (slots.flatMap fun slot => (List.range (available - needed + 1)).map fun start => ⟨slot, start, needed⟩)

end Sidelink
