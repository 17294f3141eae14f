import Sidelink.Geometry.Polygon

/-!
# Regions

A transmitter polygon and a receiver polygon pick the nodes that statistics count. Enabling boxes, while they are
in force, pick the nodes that take part. A polygon that is not set holds every point.
-/

namespace Sidelink

inductive PolygonRole where
  | tx
  | rx
deriving Repr, DecidableEq

inductive RegionError (α : Type) where
  | tooFewVertices (role : PolygonRole) (count : Nat)
  | degenerateBox (index : Nat) (box : Box α)
deriving Repr, DecidableEq

def PolygonRole.name : PolygonRole → String
  | tx => "tx"
  | rx => "rx"

def RegionError.message {α : Type} (text : α → String) : RegionError α → String
  | tooFewVertices role n => s!"{role.name} polygon needs at least 3 vertices, got {n}"
  | degenerateBox i b =>
    s!"bounding box {i} is degenerate: x1 " ++ text b.x1 ++ " must be < x2 " ++ text b.x2 ++ " and y1 " ++ text b.y1
      ++ " must be < y2 " ++ text b.y2

structure Region (α : Type) where
  txPolygon : Option (Polygon α) := none
  rxPolygon : Option (Polygon α) := none
  boxes : List (Box α) := []
  boxesInForce : Bool := false

namespace Region

variable {α : Type} [Scalar α]

def setPolygon (r : Region α) (role : PolygonRole) (vertices : List (Point α)) :
    Except (RegionError α) (Region α) :=
  match Polygon.ofVertices? vertices with
  | none => .error (.tooFewVertices role vertices.length)
  | some p =>
    match role with
    | .tx => .ok { r with txPolygon := some p }
    | .rx => .ok { r with rxPolygon := some p }

/-- Replaces all boxes, unless one of them is degenerate. -/
def setBoxes (r : Region α) (boxes : List (Box α)) : Except (RegionError α) (Region α) :=
  match boxes.zipIdx.find? fun (b, _) => b.isDegenerate with
  | some (b, i) => .error (.degenerateBox i b)
  | none => .ok { r with boxes }

def isInside (r : Region α) (role : PolygonRole) (p : Point α) : Bool :=
  match role with
  | .tx => r.txPolygon.all (·.contains p)
  | .rx => r.rxPolygon.all (·.contains p)

def isEnabled (r : Region α) (p : Point α) : Bool := !r.boxesInForce || r.boxes.any (·.contains p)

end Region

end Sidelink
