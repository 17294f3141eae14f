import Sidelink.Geometry.Region
import Sidelink.Pool.Basic
import Sidelink.Propagation.Params

/-!
# Scenes

A scene places the nodes in a rectangular world and describes the pool, the propagation and the regions in which
receptions count.
-/

namespace Sidelink

structure NodeSpec (α : Type) where
  id : Nat
  position : Point α
  /-- In metres per second. -/
  velocity : Point α
  txPowerDbm : α

structure RegionSpec (α : Type) where
  txPolygon : Option (List (Point α)) := none
  rxPolygon : Option (List (Point α)) := none
  boxes : List (Box α) := []
  /-- Only nodes inside a box take part. -/
  boxesInForce : Bool := false

structure Scene (α : Type) where
  topLeft : Point α
  bottomRight : Point α
  nodes : List (NodeSpec α)
  pool : PoolRecord
  propagation : PropagationParams α
  regions : RegionSpec α

inductive SceneError (α : Type) where
  | fileRead
  | parse (detail : Option String)
  | worldBounds (topLeft bottomRight : Point α)
  | noNodes
  | tooManyNodes (count : Nat)
  | duplicateNode (id : Nat)
  | nodeOutside (id : Nat) (position : Point α)
  | velocityNotFinite (id : Nat)
  | txPowerOutOfRange (id : Nat) (dbm : α)
  | pool (e : PoolError)
  | regions (e : RegionError α)

def maxNodes : Nat := 10000

def SceneError.message {α : Type} (text : α → String) (e : SceneError α) : String :=
  let pair (p : Point α) := "(" ++ text p.x ++ ", " ++ text p.y ++ ")"
  let invalid (s : String) := "Validation error: " ++ s
  match e with
  | fileRead => "Failed to read file"
  | parse detail => detail.getD "Failed to parse JSON"
  | worldBounds p q =>
    invalid ("World bounds invalid: top-left " ++ pair p ++ " must be left of and above bottom-right " ++ pair q)
  | noNodes => invalid "Scene must contain at least one node"
  | tooManyNodes n => invalid s!"Too many nodes: {n} (maximum: {maxNodes})"
  | duplicateNode id => invalid s!"Duplicate node_id: {id}"
  | nodeOutside id p => invalid (s!"Node {id} position " ++ pair p ++ " is outside the world")
  | velocityNotFinite id => invalid s!"Node {id} velocity must be finite"
  | txPowerOutOfRange id dbm => invalid (s!"Node {id} tx_power_dbm " ++ text dbm ++ " out of range [-50, 50]")
  | pool e => invalid ("Invalid resource pool: " ++ e.message)
  | regions e => invalid ("Invalid regions: " ++ e.message text)

namespace Scene

variable {α : Type} [Scalar α]

def width (s : Scene α) : α := s.bottomRight.x - s.topLeft.x

def height (s : Scene α) : α := s.bottomRight.y - s.topLeft.y

def contains (s : Scene α) (p : Point α) : Bool :=
  decide (s.topLeft.x ≤ p.x) && decide (p.x ≤ s.bottomRight.x) &&
    decide (s.topLeft.y ≤ p.y) && decide (p.y ≤ s.bottomRight.y)

/-- A coordinate brought back into a span from `low` on. -/
def wrapAxis (v low span : α) : α := if 0.0 < span then low + Scalar.remEuclid (v - low) span else v

/-- A point that left the world, come back on the other side. -/
def wrap (s : Scene α) (p : Point α) : Point α :=
  ⟨wrapAxis p.x s.topLeft.x s.width, wrapAxis p.y s.topLeft.y s.height⟩

def resourcePool (s : Scene α) : Except PoolError ResourcePool := ResourcePool.ofRecord s.pool

def region (s : Scene α) : Except (RegionError α) (Region α) := do
  let r : Region α := {}
  let r ← match s.regions.txPolygon with
    | some vertices => r.setPolygon .tx vertices
    | none => pure r
  let r ← match s.regions.rxPolygon with
    | some vertices => r.setPolygon .rx vertices
    | none => pure r
  let r ← r.setBoxes s.regions.boxes
  return if s.regions.boxesInForce then { r with boxesInForce := true } else r

/-! ## Rules -/

/-- The first rule that a node breaks, the numbers before it being `seen`. -/
def checkNode (s : Scene α) (seen : List Nat) (n : NodeSpec α) : Except (SceneError α) Unit := do
  if seen.contains n.id then throw (.duplicateNode n.id)
  if ¬ s.contains n.position then throw (.nodeOutside n.id n.position)
  if ¬ (Scalar.isFinite n.velocity.x ∧ Scalar.isFinite n.velocity.y) then throw (.velocityNotFinite n.id)
  if ¬ ((-50.0 : α) ≤ n.txPowerDbm ∧ n.txPowerDbm ≤ 50.0) then throw (.txPowerOutOfRange n.id n.txPowerDbm)

def checkNodes (s : Scene α) : List Nat → List (NodeSpec α) → Except (SceneError α) Unit
  | _, [] => .ok ()
  | seen, n :: rest => do
    s.checkNode seen n
    checkNodes s (n.id :: seen) rest

def validate (s : Scene α) : Except (SceneError α) Unit := do
  if s.width ≤ 0.0 ∨ s.height < 0.0 then throw (.worldBounds s.topLeft s.bottomRight)
  if s.nodes.isEmpty then throw .noNodes
  if maxNodes < s.nodes.length then throw (.tooManyNodes s.nodes.length)
  s.checkNodes [] s.nodes
  let _ ← s.resourcePool.mapError .pool
  let _ ← s.region.mapError .regions

end Scene

end Sidelink
