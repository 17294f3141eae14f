import Sidelink.Agenda
import Sidelink.BlockError.Attempt
import Sidelink.Propagation.Link
import Sidelink.Scene.Basic
import Sidelink.Simulation.Trace
import Sidelink.Traffic.Generator

/-!
# The world of a run

All state of a run: the agenda, the nodes with their flows, the links between them, the random source and what is
counted. It is built from a configuration and a scene, with the first events put down.
-/

namespace Sidelink

inductive Event where
  /-- Evaluates the transmissions of the last slot. -/
  | reception
  | mobility
  /-- The timer of a node fires. -/
  | traffic (node : Nat)
  /-- Hands packets to the flows and collects the transmissions of a slot. -/
  | mac
  | report
deriving Repr, DecidableEq

def Event.phase : Event → Phase
  | reception => .reception
  | mobility => .mobility
  | traffic _ => .traffic
  | mac => .mac
  | report => .report

/-- A packet as others know it. -/
structure BlockKey where
  transmitter : Nat
  packet : Nat
deriving Repr, DecidableEq

/-- By the transmitter, then by the packet. -/
abbrev BlockKey.order : BlockKey → BlockKey → Ordering := compareLex (compareOn transmitter) (compareOn packet)

/-- What a receiver keeps of a packet between its attempts. -/
structure BlockState (α : Type) where
  /-- The levels of the attempts so far. -/
  levels : List α
  outcome : ReceptionOutcome
  firstUs : Nat

structure Node (α : Type) where
  id : Nat
  position : Point α
  /-- In metres per second. -/
  velocity : Point α
  txPowerDbm : α
  flow : Flow α
  generator : Generator α
  /-- Packets that have not reached the flow, the oldest first. -/
  arrivals : List Packet := []
  /-- The ticket of the traffic timer. -/
  timer : Nat
  blocks : Std.TreeMap BlockKey (BlockState α) BlockKey.order := ∅

structure OnAir (α : Type) where
  node : Nat
  position : Point α
  txPowerDbm : α
  tx : Transmission

inductive SimulationError (α : Type) where
  | config (e : ConfigError α)
  | pool (e : PoolError)
  | region (e : RegionError α)
  | flow (e : FlowError)
  | blockError (e : BlockErrorFailure)
  | slot (e : SlotError α)
  | fault (f : Fault)

instance {α : Type} : OfFault (SimulationError α) := ⟨.fault⟩

namespace SimulationError

variable {α : Type}

def message (text : α → String) : SimulationError α → String
  | config e => e.message text
  | pool e => e.message
  | region e => e.message text
  | flow e => e.message
  | blockError e => e.message
  | slot e => e.message text
  | fault _ => "arithmetic fault"

/-- Errors of the parts as errors of the run. A fault stays one. -/
def ofConfig : ConfigError α → SimulationError α
  | .fault f => .fault f
  | e => .config e

def ofPool : PoolError → SimulationError α
  | .fault f => .fault f
  | e => .pool e

def ofFlow : FlowError → SimulationError α
  | .fault f => .fault f
  | e => .flow e

def ofBlockError : BlockErrorFailure → SimulationError α
  | .fault f => .fault f
  | e => .blockError e

def ofSlot : SlotError α → SimulationError α
  | .fault f => .fault f
  | e => .slot e

end SimulationError

/-- What does not change during a run. -/
structure Setup (α : Type) where
  config : Config α
  scene : Scene α
  pool : ResourcePool
  region : Region α
  numerology : Numerology
  /-- The time between moves of the nodes. -/
  mobilityUs : Nat
  reportUs : Nat

/-- What all nodes share: their links, the random source, and the records of the run. -/
structure Shared (α γ : Type) where
  links : LinkTable α
  source : γ
  stats : RunStats α
  trace : Trace α

structure World (α γ : Type) where
  setup : Setup α
  agenda : Agenda Event
  /-- By ascending number. -/
  nodes : List (Node α)
  nextPacket : Nat
  shared : Shared α γ
  onAir : List (OnAir α)

namespace World

variable {α γ : Type}

def nowUs (w : World α γ) : Nat := w.agenda.now

def node? (w : World α γ) (id : Nat) : Option (Node α) := w.nodes.find? fun n => n.id = id

def setNode (w : World α γ) (n : Node α) : World α γ :=
  { w with nodes := w.nodes.map fun m => if m.id = n.id then n else m }

/-- The counters of all flows, those of departed nodes included. -/
def flowStats (w : World α γ) : FlowStats :=
  w.nodes.foldl (fun s n => s.merge n.flow.stats) w.shared.stats.departedFlows

/-- Takes a node out with its timer, its packets and its links. False if there is none of this number. -/
def removeNode (w : World α γ) (id : Nat) : Bool × World α γ :=
  match w.node? id with
  | none => (false, w)
  | some n =>
    let (_, agenda) := w.agenda.cancel n.timer
    let flow := n.flow.teardown
    let stats := { w.shared.stats with
      departedFlows := w.shared.stats.departedFlows.merge flow.stats
      expired := w.shared.stats.expired + n.arrivals.length
      departedNodes := w.shared.stats.departedNodes + 1 }
    (true, { w with
      agenda
      nodes := w.nodes.filter fun m => m.id ≠ id
      shared := { w.shared with stats, links := w.shared.links.forget id }
      onAir := w.onAir.filter fun a => a.node ≠ id })

/-! ## The beginning -/

variable [RandomSource γ]

/-- The nodes of a scene in its order, each with its generator and a timer put down. -/
def placeNodes (params : FlowParams α) (generators : List (Nat × Generator α)) :
    List (NodeSpec α) → Agenda Event → γ → List (Node α) × Agenda Event × γ
  | [], agenda, g => ([], agenda, g)
  | spec :: rest, agenda, g =>
    match generators.lookup spec.id with
    | none => placeNodes params generators rest agenda g
    | some generator =>
      let (delay, g) := generator.firstDelayUs g
      let (timer, agenda) := agenda.scheduleAt delay .traffic (.traffic spec.id)
      let node : Node α :=
        { id := spec.id, position := spec.position, velocity := spec.velocity, txPowerDbm := spec.txPowerDbm
          flow := { params }, generator, timer }
      let (nodes, agenda, g) := placeNodes params generators rest agenda g
      (node :: nodes, agenda, g)

/-- The world at the start, given how the random source follows from its seed. -/
def start [Scalar α] (config : Config α) (scene : Scene α) (trace : Trace α) (sourceOfSeed : Nat → γ) :
    Except (SimulationError α) (World α γ) := do
  config.validate.mapError .ofConfig
  let params ← config.flowParams.mapError SimulationError.ofConfig
  let numerology ← config.numerology.mapError SimulationError.ofConfig
  let pool ← scene.resourcePool.mapError SimulationError.ofPool
  let region ← scene.region.mapError SimulationError.region
  let g := sourceOfSeed (config.simulation.seed ^^^ config.simulation.run)
  let model ← config.traffic.model.mapError SimulationError.ofConfig
  let (generators, g) ←
    (assignTraffic model config.traffic (scene.nodes.map (·.id)) g).mapError SimulationError.ofConfig
  let (nodes, agenda, g) := placeNodes params generators scene.nodes {} g
  let mobilityUs ← word64 (config.simulation.mobilityIntervalMs * 1000)
  let reportUs ← word64 (config.simulation.reportIntervalMs * 1000)
  let (_, agenda) := agenda.scheduleAt 0 .reception .reception
  let (_, agenda) := agenda.scheduleAt 0 .mac .mac
  let (_, agenda) := agenda.scheduleAt mobilityUs .mobility .mobility
  let (_, agenda) := agenda.scheduleAt reportUs .report .report
  return {
    setup := { config, scene, pool, region, numerology, mobilityUs, reportUs }
    agenda
    nodes := nodes.mergeSort fun a b => a.id ≤ b.id
    nextPacket := 0
    shared := { links := .ofParams scene.propagation, source := g, stats := { binM := config.simulation.prrBinM }, trace }
    onAir := [] }

end World

end Sidelink
