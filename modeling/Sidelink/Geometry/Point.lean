import Sidelink.Scalar

/-!
# Points and boxes

A point of the plane in metres, and a box with sides along the axes that contains its border.
-/

namespace Sidelink

structure Point (α : Type) where
  x : α
  y : α
deriving Repr, DecidableEq

def Point.distance {α : Type} [Analysis α] (p q : Point α) : α := Analysis.hypot (p.x - q.x) (p.y - q.y)

structure Box (α : Type) where
  x1 : α
  x2 : α
  y1 : α
  y2 : α
deriving Repr, DecidableEq

namespace Box

variable {α : Type} [Scalar α]

def contains (b : Box α) (p : Point α) : Bool :=
  decide (b.x1 ≤ p.x) && decide (p.x ≤ b.x2) && decide (b.y1 ≤ p.y) && decide (p.y ≤ b.y2)

/-- A box with a side that does not run upward has no inside. -/
def isDegenerate (b : Box α) : Bool := decide (b.x2 ≤ b.x1) || decide (b.y2 ≤ b.y1)

end Box

end Sidelink
