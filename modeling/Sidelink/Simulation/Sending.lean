import Sidelink.Simulation.Reception

/-!
# Packets on their way out

When its timer fires, a node's generator may put a packet in the queue of arrivals. In each slot the arrivals go to
the flow, and what the flow sends goes on the air until the next slot.
-/

namespace Sidelink

def arrivalCapacity : Nat := 16

variable {α γ : Type} [Analysis α] [RandomSource γ]

namespace World

/-- Adds a packet to the arrivals of a node. When there are too many the oldest is dropped. -/
def arrive (w : World α γ) (n : Node α) (size : Nat) : World α γ :=
  let t := w.setup.config.traffic
  let packet : Packet := ⟨w.nextPacket, size, n.generator.trafficType, t.pdbMs, t.rriMs, w.nowUs⟩
  let full := arrivalCapacity ≤ n.arrivals.length
  let waiting := if full then n.arrivals.drop 1 else n.arrivals
  let stats := w.shared.stats
  let stats := { stats with
    expired := if full then stats.expired + 1 else stats.expired
    generated := stats.generated + 1 }
  { w.setNode { n with arrivals := waiting ++ [packet] } with
    nextPacket := w.nextPacket + 1
    shared := { w.shared with stats } }

/-- Lets the generator of a node give a packet, if the node takes part. -/
def generate (w : World α γ) (n : Node α) : World α γ :=
  if w.setup.region.isEnabled n.position then
    let (size, generator, g) := n.generator.onTimer w.nowUs n.position n.velocity w.shared.source
    let n := { n with generator }
    let w := { w.setNode n with shared := { w.shared with source := g } }
    match size with
    | some size => w.arrive n size
    | none => w
  else w

def rearm (w : World α γ) (n : Node α) : Stepped (SimulationError α) (World α γ) :=
  match n.generator.nextDelayUs (ε := SimulationError α) w.shared.source with
  | .error e => (.error e, w)
  | .ok (delay, g) =>
    let (timer, agenda) := w.agenda.scheduleIn delay .traffic (.traffic n.id)
    (.ok (), { w.setNode { n with timer } with agenda, shared := { w.shared with source := g } })

def fireTimer (id : Nat) (w : World α γ) : Stepped (SimulationError α) (World α γ) :=
  match w.node? id with
  | none => (.ok (), w)
  | some n =>
    let w := w.generate n
    match w.node? id with
    | none => (.ok (), w)
    | some n => w.rearm n

end World

namespace AtNode

/-- Hands a packet to the flow, and keeps a row of the reservation if one was made. -/
def handOver (s : Setup α) (now : Slot) (nowUs : Nat) (p : Packet) (r : AtNode α γ) :
    Stepped (SimulationError α) (AtNode α γ) :=
  let before := r.node.flow.stats.selections
  let (decision, flow, g) := r.node.flow.enqueue now nowUs p s.pool r.shared.source
  let r := { r with node := { r.node with flow } }.withSource g
  match decision with
  | .error e => (.error (.ofFlow e), r)
  | .ok (.scheduled _ trigger) =>
    match flow.reservation with
    | some reservation =>
      if before < flow.stats.selections then
        let row := reservation.row nowUs r.node.id trigger
        (.ok (), { r with shared := { r.shared with trace := r.shared.trace.selection row } })
      else (.ok (), r)
    | none => (.ok (), r)
  | .ok .dropped => (.ok (), r)

/-- Takes the next arrival to the flow, unless its budget is over. -/
def deliver (s : Setup α) (now : Slot) (nowUs : Nat) (p : Packet) (r : AtNode α γ) :
    Stepped (SimulationError α) (AtNode α γ) :=
  let r := { r with node := { r.node with arrivals := r.node.arrivals.drop 1 } }
  if p.generatedUs + p.pdbMs * 1000 < nowUs then
    (.ok (), r.withStats { r.shared.stats with expired := r.shared.stats.expired + 1 })
  else r.handOver s now nowUs p

def send (now : Slot) (nowUs : Nat) (r : AtNode α γ) : Option (OnAir α) × AtNode α γ :=
  let (tx, flow, g) := r.node.flow.onSlot now nowUs r.shared.source
  let r := { r with node := { r.node with flow } }.withSource g
  match tx with
  | none => (none, r)
  | some tx =>
    let stats := r.shared.stats
    let stats :=
      if tx.isRetransmission then { stats with retransmissions := stats.retransmissions + 1 }
      else { stats with transmissions := stats.transmissions + 1 }
    (some ⟨r.node.id, r.node.position, r.node.txPowerDbm, tx⟩, r.withStats stats)

end AtNode

namespace World

def serveAt (now : Slot) (id : Nat) (w : World α γ) : Stepped (SimulationError α) (World α γ) :=
  match w.node? id with
  | none => (.ok (), w)
  | some n =>
    match stepEach (AtNode.deliver w.setup now w.nowUs) n.arrivals ⟨n, w.shared⟩ with
    | (.error e, r) => (.error e, { w.setNode r.node with shared := r.shared })
    | (.ok (), r) =>
      let (sent, r) := r.send now w.nowUs
      (.ok (), { w.setNode r.node with shared := r.shared, onAir := w.onAir ++ sent.toList })

/-- Serves all flows in the current slot, by ascending number, and puts down the next slot. -/
def serveAll (w : World α γ) : Stepped (SimulationError α) (World α γ) :=
  match Slot.ofTime (α := α) w.nowUs w.setup.numerology.slotMs with
  | .error e => (.error (.ofSlot e), w)
  | .ok now =>
    match stepEach (serveAt now) (w.nodes.map (·.id)) w with
    | (.error e, w) => (.error e, w)
    | (.ok (), w) =>
      let slotUs := w.setup.numerology.slotUs
      let (_, agenda) := w.agenda.scheduleIn slotUs .reception .reception
      let (_, agenda) := agenda.scheduleIn slotUs .mac .mac
      (.ok (), { w with agenda })

end World

end Sidelink
