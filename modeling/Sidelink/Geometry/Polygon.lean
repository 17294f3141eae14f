import Sidelink.Geometry.Point

/-!
# Polygons

A closed polygon of three or more vertices. A point on an edge is inside. Any other point is inside when a ray
from it to the right crosses an odd number of edges.
-/

namespace Sidelink

structure Polygon (α : Type) where
  vertices : List (Point α)
  three_le : 3 ≤ vertices.length

namespace Polygon

variable {α : Type} [Scalar α]

def ofVertices? (vertices : List (Point α)) : Option (Polygon α) :=
  if h : 3 ≤ vertices.length then some ⟨vertices, h⟩ else none

/-- The edges in order, the last one leading back to the first vertex. -/
def edges (vertices : List (Point α)) : List (Point α × Point α) :=
  vertices.zip (vertices.tail ++ vertices.head?.toList)

/-- Twice the signed area of the triangle. It is zero on a line. -/
def turn (a b c : Point α) : α := (b.y - a.y) * (c.x - b.x) - (b.x - a.x) * (c.y - b.y)

/-- Neither a turn to the left nor one to the right. -/
def aligned (a b c : Point α) : Bool :=
  let t := turn a b c
  !decide (0.0 < t) && !decide (t < 0.0)

def between (a b c : Point α) : Bool :=
  decide (Scalar.smaller a.x c.x ≤ b.x) && decide (b.x ≤ Scalar.larger a.x c.x) &&
    decide (Scalar.smaller a.y c.y ≤ b.y) && decide (b.y ≤ Scalar.larger a.y c.y)

def onEdge (p : Point α) (edge : Point α × Point α) : Bool :=
  aligned edge.1 p edge.2 && between edge.1 p edge.2

/-- Whether the ray to the right of `p` crosses the edge from `u` to `v`. Of its two ends an edge holds the lower
one only, so a ray through a vertex counts once. -/
def crosses (p : Point α) (edge : Point α × Point α) : Bool :=
  let (u, v) := edge
  decide (p.y < v.y) != decide (p.y < u.y) &&
    decide (p.x < v.x + (p.y - v.y) * (u.x - v.x) / (u.y - v.y))

def contains (polygon : Polygon α) (p : Point α) : Bool :=
  let es := edges polygon.vertices
  es.any (onEdge p) || es.foldl (fun inside e => if crosses p e then !inside else inside) false

end Polygon

end Sidelink
