import Sidelink.Data.Json
import Sidelink.Scene.Basic

/-!
# Scenes as records
-/

namespace Sidelink

def Point.ofValue (v : Value) : Except Refusal (Point Float) := do
  let x : Field Float := ⟨"x", Value.asFloat⟩
  let y : Field Float := ⟨"y", Value.asFloat⟩
  let r ← Record.ofValue .json [x.check, y.check] v
  return ⟨← r.get x, ← r.get y⟩

def Box.ofValue (v : Value) : Except Refusal (Box Float) := do
  let x1 : Field Float := ⟨"x1", Value.asFloat⟩
  let x2 : Field Float := ⟨"x2", Value.asFloat⟩
  let y1 : Field Float := ⟨"y1", Value.asFloat⟩
  let y2 : Field Float := ⟨"y2", Value.asFloat⟩
  let r ← Record.ofValue .json [x1.check, x2.check, y1.check, y2.check] v
  return ⟨← r.get x1, ← r.get x2, ← r.get y1, ← r.get y2⟩

/-- A node stands still and sends at 23 dBm unless the record says otherwise. -/
def NodeSpec.ofValue (v : Value) : Except Refusal (NodeSpec Float) := do
  let id : Field Nat := ⟨"node_id", Value.asWord 32⟩
  let position : Field (Point Float) := ⟨"position", Point.ofValue⟩
  let velocity : Field (Point Float) := ⟨"velocity", Point.ofValue⟩
  let txPowerDbm : Field Float := ⟨"tx_power_dbm", Value.asFloat⟩
  let r ← Record.ofValue .json [id.check, position.check, velocity.check, txPowerDbm.check] v
  return ⟨← r.get id, ← r.get position, ← r.getD velocity ⟨0.0, 0.0⟩, ← r.getD txPowerDbm 23.0⟩

def RegionSpec.ofValue (v : Value) : Except Refusal (RegionSpec Float) := do
  let polygon := Value.asOption (Value.asList Point.ofValue)
  let txPolygon : Field (Option (List (Point Float))) := ⟨"tx_polygon", polygon⟩
  let rxPolygon : Field (Option (List (Point Float))) := ⟨"rx_polygon", polygon⟩
  let boxes : Field (List (Box Float)) := ⟨"bounding_boxes", Value.asList Box.ofValue⟩
  let boxesInForce : Field Bool := ⟨"enable_checker", Value.asBool⟩
  let r ← Record.ofValue .json [txPolygon.check, rxPolygon.check, boxes.check, boxesInForce.check] v
  return ⟨← r.getD txPolygon none, ← r.getD rxPolygon none, ← r.getD boxes [], ← r.getD boxesInForce false⟩

namespace Scene

/-- The most containers that may stand one in another where a record is read whole. -/
def maxDepth : Nat := 127

def poolOfValue (v : Value) : Except Refusal PoolRecord :=
  if maxDepth < 1 + v.depth then .error .shape else PoolRecord.ofValue v

def ofValue (v : Value) : Except Refusal (Scene Float) := do
  let topLeft : Field (Point Float) := ⟨"world_top_left", Point.ofValue⟩
  let bottomRight : Field (Point Float) := ⟨"world_bottom_right", Point.ofValue⟩
  let nodes : Field (List (NodeSpec Float)) := ⟨"nodes", Value.asList NodeSpec.ofValue⟩
  let pool : Field PoolRecord := ⟨"pool", poolOfValue⟩
  let propagation : Field (PropagationParams Float) := ⟨"propagation", PropagationParams.ofValue⟩
  let regions : Field (RegionSpec Float) := ⟨"regions", RegionSpec.ofValue⟩
  let r ← Record.ofValue .json
    [topLeft.check, bottomRight.check, nodes.check, pool.check, propagation.check, regions.check] v
  return {
    topLeft := ← r.get topLeft
    bottomRight := ← r.get bottomRight
    nodes := ← r.get nodes
    pool := ← r.get pool
    propagation := ← r.getD propagation (.ofScenario .highway)
    regions := ← r.getD regions {} }

def refused : Refusal → SceneError Float
  | .shape => .parse none
  | .rule m => .parse (some m)

/-- The scene that a text describes, if it keeps all rules. What is wrong with the part before a place where the text
is not right in form counts first. -/
def ofJson (text : String) : Except (SceneError Float) (Scene Float) := do
  let (v, complete) := Json.readPart text
  let s ← (ofValue v).mapError refused
  if !complete then throw (.parse none)
  s.validate
  return s

end Scene

end Sidelink
