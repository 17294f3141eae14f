import Sidelink.Simulation.World

/-!
# Movement

Nodes move by their velocity. One that would leave the world comes back on its other side, or departs. Then every
link is evaluated anew.
-/

namespace Sidelink.World

variable {α γ : Type} [Analysis α] [RandomSource γ]

def ahead (n : Node α) (seconds : α) : Point α :=
  ⟨n.position.x + n.velocity.x * seconds, n.position.y + n.velocity.y * seconds⟩

/-- Where a node is after a move, if it stays in the world. -/
def moved? (s : Setup α) (seconds : α) (n : Node α) : Option (Point α) :=
  let next := ahead n seconds
  if s.scene.contains next then some next
  else if s.config.simulation.wrap then some (s.scene.wrap next)
  else none

def moveAll (w : World α γ) : World α γ :=
  let seconds : α := Scalar.ofNat w.setup.config.simulation.mobilityIntervalMs / 1000.0
  let departed := (w.nodes.filter fun n => (moved? w.setup seconds n).isNone).map (·.id)
  let nodes := w.nodes.map fun n => { n with position := (moved? w.setup seconds n).getD n.position }
  let w := departed.foldl (fun w id => (w.removeNode id).2) { w with nodes }
  let position? (id : Nat) := (w.node? id).map (·.position)
  let (links, g) := w.shared.links.refresh position? w.shared.source
  let (_, agenda) := w.agenda.scheduleIn w.setup.mobilityUs .mobility .mobility
  { w with agenda, shared := { w.shared with links, source := g } }

end Sidelink.World
