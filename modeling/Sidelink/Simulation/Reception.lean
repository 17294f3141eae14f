import Sidelink.Simulation.Stepwise
import Sidelink.Simulation.World

/-!
# Reception

Every transmission of the last slot is evaluated at every other node. A node that was sending itself hears nothing.
Any other one first has to decode the control message, which it then senses, and then the data, under the power of
all other transmissions that fall on the same RBs.
-/

namespace Sidelink

/-! ## Bands -/

/-- A range of RBs without its end. -/
structure Band where
  start : Nat
  stop : Nat
deriving Repr, DecidableEq

namespace Band

/-- Some RBs from a first one on. The range ends at the last 16-bit word. -/
def ofRbs (start count : Nat) : Band := ⟨start, min (start + count) 65535⟩

def overlap (a b : Band) : Nat := min a.stop b.stop - max a.start b.start

end Band

/-- A transmission and the power with which a node receives it, in mW. Its own it does not receive. -/
structure Heard (α : Type) where
  onAir : OnAir α
  powerMw : Option α

section

variable {α : Type} [Analysis α]

/-- The power that a transmission brings into a band. It is spread evenly over its own RBs. -/
def Heard.powerIn? (h : Heard α) (band : Band) : Option α :=
  let tx := h.onAir.tx
  match h.powerMw with
  | some p =>
    let shared := band.overlap (Band.ofRbs tx.rbStart tx.rbCount)
    if 0 < shared ∧ 0 < tx.rbCount then some (p * Scalar.ofNat shared / Scalar.ofNat tx.rbCount) else none
  | none => none

/-- The power of all transmissions but the one at a position, in a band. -/
def interference (heard : List (Heard α)) (skip : Nat) (band : Band) : α :=
  Scalar.sum ((heard.zipIdx.filter fun (_, j) => j ≠ skip).filterMap fun (h, _) => h.powerIn? band)

def noiseMw (s : Setup α) (rbs : Nat) : α :=
  let rbHz : α := 12.0 * Scalar.ofNat s.numerology.scsKhz * 1000.0
  dbmToMw (thermalNoiseDbm (rbHz * Scalar.ofNat rbs) s.scene.propagation.noiseFigureDb)

structure Attempt (α : Type) where
  outcome : ReceptionOutcome
  sinr : α

end

/-- A node together with what it shares with the others. -/
structure AtNode (α γ : Type) where
  node : Node α
  shared : Shared α γ

/-- How long a receiver keeps what it has of a packet, in microseconds. -/
def blockLifetimeUs : Nat := 1000000

namespace AtNode

variable {α γ : Type} [Analysis α] [RandomSource γ]

def setBlock (r : AtNode α γ) (key : BlockKey) (b : BlockState α) : AtNode α γ :=
  { r with node := { r.node with blocks := r.node.blocks.insert key b } }

def withSource (r : AtNode α γ) (g : γ) : AtNode α γ := { r with shared := { r.shared with source := g } }

def withStats (r : AtNode α γ) (s : RunStats α) : AtNode α γ := { r with shared := { r.shared with stats := s } }

def reportOf (a : OnAir α) (nowUs rbs : Nat) (signalMw : α) : Except (SimulationError α) (Report α) := do
  let subcarriers ← word16 (rbs * 12)
  return {
    node := a.node, slot := a.tx.slot, receivedUs := nowUs, rbStart := a.tx.rbStart, rbCount := rbs
    rsrpDbm := mwToDbm (signalMw / Scalar.ofNat subcarriers)
    rriMs := a.tx.rriMs, counter := a.tx.counter, isRetransmission := a.tx.isRetransmission }

def hear (r : AtNode α γ) (a : OnAir α) (nowUs rbs : Nat) (signalMw : α) :
    Except (SimulationError α) (AtNode α γ) := do
  let report ← reportOf a nowUs rbs signalMw
  let flow ← (r.node.flow.sense report).mapError SimulationError.ofFlow
  return { r with node := { r.node with flow } }

def decodeData (s : Setup α) (r : AtNode α γ) (a : OnAir α) (key : BlockKey) (nowUs rbs : Nat) (los : Bool)
    (failure : ReceptionOutcome) (sinr : α) : Except (SimulationError α) (Attempt α) × AtNode α γ :=
  let block := r.node.blocks.getD key ⟨[], failure, nowUs⟩
  let r := r.setBlock key block
  match BlockError.evaluate (s.config.phy.linkCurves.dataChannel los rbs) a.tx.mcs sinr block.levels with
  | .error e => (.error (.ofBlockError e), r)
  | .ok evaluation =>
    let r := r.setBlock key { block with levels := block.levels ++ [sinr] }
    let (lost, g) := evaluation.isLost r.shared.source
    (.ok ⟨if lost then failure else .success, sinr⟩, r.withSource g)

def controlLost (s : Setup α) (los : Bool) (sinr : α) (g : γ) : Except (SimulationError α) (Bool × γ) := do
  if s.config.phy.controlErrorModel then
    let evaluation ← (BlockError.evaluate (s.config.phy.linkCurves.controlChannel los) 0 sinr []).mapError
      SimulationError.ofBlockError
    return evaluation.isLost g
  else return (false, g)

/-- Listens to a transmission: its control message in the first sub-channel, and then its data. -/
def listen (s : Setup α) (r : AtNode α γ) (heard : List (Heard α)) (i : Nat) (a : OnAir α) (key : BlockKey)
    (nowUs : Nat) (los : Bool) (signalMw : α) : Except (SimulationError α) (Attempt α) × AtNode α γ :=
  let rbs := max a.tx.rbCount 1
  let controlRbs := min s.config.scheduler.subchannelSize rbs
  let controlInterference := interference heard i (Band.ofRbs a.tx.rbStart controlRbs)
  let controlSignal := signalMw * Scalar.ofNat controlRbs / Scalar.ofNat rbs
  let controlSinr := controlSignal / (noiseMw s controlRbs + controlInterference)
  match controlLost s los controlSinr r.shared.source with
  | .error e => (.error e, r)
  | .ok (lost, g) =>
    let r := r.withSource g
    let dataInterference := interference heard i (Band.ofRbs a.tx.rbStart rbs)
    let failure := if 0.0 < dataInterference then ReceptionOutcome.collision else .propagation
    if lost then
      let stats := { r.shared.stats with sciFailures := r.shared.stats.sciFailures + 1 }
      (.ok ⟨failure, controlSinr⟩, r.withStats stats)
    else
      match r.hear a nowUs rbs signalMw with
      | .error e => (.error e, r)
      | .ok r => decodeData s r a key nowUs rbs los failure (signalMw / (noiseMw s rbs + dataInterference))

/-- Keeps how an attempt ended, and counts it. Only the first attempt at a packet and one that repairs it count. -/
def settle (r : AtNode α γ) (key : BlockKey) (earlier : Option ReceptionOutcome) (outcome : ReceptionOutcome)
    (nowUs : Nat) (counted : Bool) (distanceM : α) : Stepped (SimulationError α) (AtNode α γ) :=
  let block := r.node.blocks.getD key ⟨[], outcome, nowUs⟩
  let count (r : AtNode α γ) (s : Except (SimulationError α) (RunStats α)) :
      Stepped (SimulationError α) (AtNode α γ) :=
    match s with
    | .ok s => (.ok (), r.withStats s)
    | .error e => (.error e, r)
  match earlier with
  | none =>
    let r := r.setBlock key { block with outcome }
    if counted then count r (r.shared.stats.recordReception distanceM outcome) else (.ok (), r)
  | some previous =>
    if outcome = .success then
      let r := r.setBlock key { block with outcome }
      if counted then count r (r.shared.stats.recordRecovery distanceM previous) else (.ok (), r)
    else (.ok (), r)

def receive (s : Setup α) (heard : List (Heard α)) (nowUs : Nat) (transmitting countedHere : Bool)
    (entry : Heard α × Nat) (r : AtNode α γ) : Stepped (SimulationError α) (AtNode α γ) :=
  let (h, i) := entry
  let a := h.onAir
  let key : BlockKey := ⟨a.node, a.tx.packet⟩
  let earlier := r.node.blocks[key]?.map (·.outcome)
  match h.powerMw with
  | none => (.ok (), r)
  | some signalMw =>
    if earlier = some .success then (.ok (), r)
    else
      let counted := countedHere && s.region.isInside .tx a.position
      let distanceM := a.position.distance r.node.position
      let los := match r.shared.links.get? a.node r.node.id with
        | some l => l.los
        | none => true
      let (attempt, r) :=
        if transmitting then (.ok ⟨.halfDuplex, 0.0⟩, r) else listen s r heard i a key nowUs los signalMw
      match attempt with
      | .error e => (.error e, r)
      | .ok attempt =>
        match r.settle key earlier attempt.outcome nowUs counted distanceM with
        | (.error e, r) => (.error e, r)
        | (.ok (), r) =>
          if counted then
            let sinrDb := if 0.0 < attempt.sinr then 10.0 * Analysis.log10 attempt.sinr else Analysis.negInfinity
            let row : ReceptionRow α := ⟨nowUs, a.node, r.node.id, a.tx.packet, a.tx.isRetransmission, distanceM,
              sinrDb, attempt.outcome⟩
            (.ok (), { r with shared := { r.shared with trace := r.shared.trace.reception row } })
          else (.ok (), r)

def forgetBlocks (r : AtNode α γ) (nowUs : Nat) : AtNode α γ :=
  { r with node := { r.node with
      blocks := r.node.blocks.filter fun _ b => nowUs < b.firstUs + blockLifetimeUs } }

end AtNode

namespace World

variable {α γ : Type} [Analysis α] [RandomSource γ]

/-- The transmissions as a node receives them. Links that are needed are evaluated now. -/
def heardAt (n : Node α) : List (OnAir α) → Shared α γ → List (Heard α) × Shared α γ
  | [], s => ([], s)
  | a :: rest, s =>
    if a.node = n.id then
      let (heard, s) := heardAt n rest s
      (⟨a, none⟩ :: heard, s)
    else
      let (loss, links, g) := s.links.loss a.node a.position n.id n.position s.source
      let (heard, s) := heardAt n rest { s with links, source := g }
      (⟨a, some (dbmToMw (a.txPowerDbm - loss))⟩ :: heard, s)

def receiveAt (onAir : List (OnAir α)) (id : Nat) (w : World α γ) : Stepped (SimulationError α) (World α γ) :=
  match w.node? id with
  | none => (.ok (), w)
  | some node =>
    let (heard, shared) := heardAt node onAir w.shared
    let transmitting := onAir.any fun a => a.node = id
    let counted := w.setup.region.isInside .rx node.position
    let step := AtNode.receive w.setup heard w.nowUs transmitting counted
    match stepEach step heard.zipIdx ⟨node, shared⟩ with
    | (.error e, r) => (.error e, { w.setNode r.node with shared := r.shared })
    | (.ok (), r) => (.ok (), { w.setNode (r.forgetBlocks w.nowUs).node with shared := r.shared })

/-- Evaluates the transmissions of the last slot at every node, by ascending number. -/
def receiveAll (w : World α γ) : Stepped (SimulationError α) (World α γ) :=
  match w.onAir with
  | [] => (.ok (), w)
  | onAir => stepEach (receiveAt onAir) (w.nodes.map (·.id)) { w with onAir := [] }

end World

end Sidelink
