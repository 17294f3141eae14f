import Sidelink.Slot

/-!
# Resources

A resource is one slot and a run of neighbouring sub-channels in it.
-/

namespace Sidelink

structure Resource where
  slot : Slot
  /-- The first sub-channel. -/
  start : Nat
  /-- The number of sub-channels. -/
  count : Nat
deriving Repr, DecidableEq

namespace Resource

def subchannels (r : Resource) : List Nat := List.range' r.start r.count

def covers (r : Resource) (subchannel : Nat) : Bool := r.start ≤ subchannel && subchannel < r.start + r.count

def rbStart (r : Resource) (size : Nat) : Nat := r.start * size

def rbCount (r : Resource) (size : Nat) : Nat := r.count * size

def shifted (r : Resource) (slots : Nat) : Resource := { r with slot := r.slot + slots }

def text (r : Resource) : String := s!"SF({r.slot}) sub-channels {r.start}..{r.start + r.count}"

/-- The resource, if its ends are 16-bit words in sub-channels and in RBs. -/
def checked {ε : Type} [OfFault ε] (r : Resource) (size : Nat) : Except ε Resource := do
  let _ ← word16 (r.start + r.count)
  let _ ← word16 (r.rbStart size)
  let _ ← word16 (r.rbCount size)
  return r

@[simp] theorem mem_subchannels {r : Resource} {c : Nat} : c ∈ r.subchannels ↔ r.covers c = true := by
  simp [subchannels, covers, List.mem_range'_1]

end Resource

end Sidelink
