import Sidelink.Flow.Stats
import Sidelink.Selection.Draw

/-!
# Flows

A flow holds the packets and the reservation of one node. It senses from the first message or packet on. A packet
uses the reservation that is there or makes a new one. Every occasion of a reservation takes one from its counter,
whether a packet used it or not, and at zero the reservation is kept by chance or released.
-/

namespace Sidelink

structure Packet where
  id : Nat
  /-- In bytes. -/
  size : Nat
  traffic : TrafficType
  /-- The delay budget. -/
  pdbMs : Nat
  /-- The interval advertised for a reservation, zero for a single occasion. -/
  rriMs : Nat
  generatedUs : Nat
deriving Repr, DecidableEq

structure Reservation where
  /-- The next occasion. -/
  resource : Resource
  /-- The retransmission that belongs to the next occasion. -/
  retransmission : Option Resource
  /-- The occasions left. -/
  counter : Nat
  rriMs : Nat
  /-- The size of the packet served last. -/
  packetSize : Nat
  /-- The bytes that fit. -/
  reservationSize : Nat
  traffic : TrafficType
  allocation : Allocation
deriving Repr, DecidableEq

/-- The reservation at its next occasion, one less to come. -/
def Reservation.advance (r : Reservation) (intervalSlots : Nat) : Reservation :=
  { r with
    counter := r.counter - 1
    resource := r.resource.shifted intervalSlots
    retransmission := r.retransmission.map (·.shifted intervalSlots) }

structure QueuedPacket where
  packet : Packet
  initial : Resource
  retransmission : Option Resource
  initialSent : Bool
deriving Repr, DecidableEq

/-- What goes on the air in a slot. -/
structure Transmission where
  packet : Nat
  slot : Slot
  resource : Resource
  rbStart : Nat
  rbCount : Nat
  size : Nat
  mcs : Nat
  isRetransmission : Bool
  /-- The advertised interval, zero for a single occasion. -/
  rriMs : Nat
  /-- The advertised number of occasions left. -/
  counter : Nat
  generatedUs : Nat
deriving Repr, DecidableEq

inductive Decision where
  | scheduled (first : Slot) (trigger : Option Trigger)
  | dropped
deriving Repr, DecidableEq

inductive FlowPhase where
  | idle
  | sensing
  /-- While a reservation is made. -/
  | selecting
  | reserved
deriving Repr, DecidableEq

structure Flow (α : Type) where
  params : FlowParams α
  history : History α := {}
  phase : FlowPhase := .idle
  reservation : Option Reservation := none
  queued : Option QueuedPacket := none
  /-- A packet that gave way to a newer one after its first transmission and still has its second one to come. -/
  owed : Option QueuedPacket := none
  /-- The last reservation ran out and none was made since. -/
  counterExpired : Bool := false
  stats : FlowStats := {}

/-! ## Slots of a waiting packet -/

namespace QueuedPacket

def due (q : QueuedPacket) (now : Slot) : Option (Resource × Bool) :=
  if q.initialSent then
    match q.retransmission with
    | some r => if r.slot = now then some (r, true) else none
    | none => none
  else if q.initial.slot = now then some (q.initial, false)
  else none

def after (q : QueuedPacket) (now : Slot) : Option QueuedPacket :=
  let q := match q.due now with
    | some (_, true) => { q with retransmission := none }
    | some (_, false) => { q with initialSent := true }
    | none => q
  if q.initialSent && q.retransmission.isNone then none else some q

def nextSlot (q : QueuedPacket) : Slot :=
  if q.initialSent then
    match q.retransmission with
    | some r => r.slot
    | none => q.initial.slot
  else q.initial.slot

end QueuedPacket

namespace Flow

variable {α : Type}

/-- The slot of the next transmission that a packet waits for. -/
def pendingSlot (f : Flow α) : Option Slot :=
  match f.queued with
  | some q => some q.nextSlot
  | none => (f.owed.bind (·.retransmission)).map (·.slot)

/-- Sensing begins with the first message or packet. -/
def awake (f : Flow α) : Flow α := if f.phase = .idle then { f with phase := .sensing } else f

def sense (f : Flow α) (r : Report α) : Except FlowError (Flow α) := do
  let f := f.awake
  return { f with history := ← f.history.record r f.params.subchannelSize }

/-! ## Packets -/

inductive Plan where
  | reuse (r : Reservation)
  | reselect (trigger : Option Trigger)
  | drop
deriving Repr, DecidableEq

def planWith (params : FlowParams α) (r : Reservation) (now : Slot) (p : Packet) : Plan :=
  let delay := r.resource.slot.since now
  let latencyMiss := delay < params.t1 || params.slotsInMs p.pdbMs ≤ delay
  let sizeMiss := decide (r.reservationSize < p.size)
  let trigger := Trigger.classify latencyMiss sizeMiss
  match p.traffic, params.aperiodicStrategy with
  | .periodic, _ | .aperiodic, .standard =>
    match trigger with
    | none => .reuse r
    | some t => .reselect (some t)
  | .aperiodic, .aggressive => .reselect (some (trigger.getD .latency))
  | .aperiodic, .submissive =>
    if latencyMiss then .drop else if sizeMiss then .reselect (some .size) else .reuse r

/-- The plan for a packet. Without a reservation one is made. -/
def plan (f : Flow α) (now : Slot) (p : Packet) : Plan :=
  match f.reservation with
  | some r => planWith f.params r now p
  | none => .reselect (if f.counterExpired then some .counter else none)

/-- Puts a packet in the queue. One that waits for its first transmission is dropped for it. One that waits for its
second keeps that slot. -/
def queue (f : Flow α) (q : QueuedPacket) : Flow α :=
  let g := { f with queued := some q }
  match f.queued with
  | none => g
  | some old =>
    if !old.initialSent then { g with stats := { g.stats with droppedPackets := g.stats.droppedPackets + 1 } }
    else if old.retransmission.isSome then { g with owed := some old }
    else g

/-! ## Reservations -/

/-- A reservation to be made and the candidates it was drawn from. -/
structure Choice (α : Type) where
  set : CandidateSet α
  reservation : Reservation

section

variable [Analysis α]

/-- The allocation for a packet, and for the bytes that are reserved at least. -/
def sizing (params : FlowParams α) (pool : ResourcePool) (p : Packet) : Except FlowError Allocation :=
  if ¬ allowedIntervalsMs.contains p.rriMs then .error (.intervalNotAllowed p.rriMs)
  else
    let bytes := max p.size (params.reservationSize.getD 0)
    let bandwidthRbs := min pool.dataRbCount 65535
    (params.layout.allocate (α := α) bytes params.mcs params.subchannelSize bandwidthRbs).mapError FlowError.ofSizing

/-- The two resources of a packet, the earlier one first. -/
def inOrder (now : Slot) (chosen : Resource) : Option Resource → Resource × Option Resource
  | some other =>
    if other.slot.since now < chosen.slot.since now then (other, some chosen) else (chosen, some other)
  | none => (chosen, none)

variable {γ : Type} [RandomSource γ]

def newCounter (params : FlowParams α) (rriMs : Nat) (g : γ) : Nat × γ :=
  if params.dynamicScheduling || rriMs = 0 then (1, g) else drawCounter rriMs g

def choose (f : Flow α) (now : Slot) (nowUs : Nat) (p : Packet) (pool : ResourcePool) (g : γ) :
    Except FlowError (Choice α) × γ :=
  match sizing f.params pool p with
  | .error e => (.error e, g)
  | .ok allocation =>
    let (counter, g) := newCounter f.params p.rriMs g
    let request : Request := ⟨now, nowUs, p.pdbMs, allocation.subchannels, p.rriMs, counter⟩
    match candidates pool f.history f.params request with
    | .error e => (.error e, g)
    | .ok set =>
      match drawResource set.resources f.params.ranking f.history (f.params.slotsInMs 1) g with
      | (.error e, g) => (.error e, g)
      | (.ok chosen, g) =>
        let (other, g) :=
          if f.params.blindRetransmission then drawRetransmission set.resources chosen g else (none, g)
        let (resource, retransmission) := inOrder now chosen other
        let reservation : Reservation :=
          { resource, retransmission, counter, rriMs := p.rriMs, packetSize := p.size
            reservationSize := allocation.tbsBytes, traffic := p.traffic, allocation }
        (.ok ⟨set, reservation⟩, g)

def countSelection (s : FlowStats) (set : CandidateSet α) (trigger : Option Trigger) : FlowStats :=
  let s := { s with
    selections := s.selections + 1
    relaxedSelections := s.relaxedSelections + (if 0 < set.relaxations then 1 else 0)
    fallbackSelections := s.fallbackSelections + (if set.fallback then 1 else 0)
    halfDuplexSkips := s.halfDuplexSkips + (if set.halfDuplexSkipped then 1 else 0) }
  match trigger with
  | some t => s.recordTrigger t
  | none => s

/-- Makes a new reservation for a packet. If that fails the one there stays. -/
def reselect (f : Flow α) (now : Slot) (nowUs : Nat) (p : Packet) (trigger : Option Trigger) (pool : ResourcePool)
    (g : γ) : Except FlowError Decision × Flow α × γ :=
  let f := { f with phase := .selecting }
  match f.choose now nowUs p pool g with
  | (.error e, g) => (.error e, { f with phase := if f.reservation.isSome then .reserved else .sensing }, g)
  | (.ok c, g) =>
    let r := c.reservation
    let f := { f with
      stats := countSelection f.stats c.set trigger
      reservation := some r
      phase := .reserved }
    (.ok (.scheduled r.resource.slot trigger), f.queue ⟨p, r.resource, r.retransmission, false⟩, g)

def enqueue (f : Flow α) (now : Slot) (nowUs : Nat) (p : Packet) (pool : ResourcePool) (g : γ) :
    Except FlowError Decision × Flow α × γ :=
  let f := f.awake
  let f := { f with history := f.history.prune nowUs f.params.sensingWindowUs }
  match f.plan now p with
  | .drop => (.ok .dropped, { f with stats := { f.stats with droppedPackets := f.stats.droppedPackets + 1 } }, g)
  | .reuse r =>
    let f := { f with reservation := some { r with packetSize := p.size } }
    (.ok (.scheduled r.resource.slot none), f.queue ⟨p, r.resource, r.retransmission, false⟩, g)
  | .reselect trigger =>
    let f := if f.reservation.isNone then { f with counterExpired := false } else f
    f.reselect now nowUs p trigger pool g

/-! ## Slots -/

/-- A transmission as it goes on the air, with what its control message advertises. -/
def transmission (f : Flow α) (q : QueuedPacket) (r : Resource) (isRetransmission : Bool) : Transmission :=
  let (rriMs, counter) := match f.reservation with
    | some held => if f.params.dynamicScheduling then (0, 0) else (held.rriMs, held.counter)
    | none => (0, 0)
  { packet := q.packet.id, slot := r.slot, resource := r
    rbStart := r.rbStart f.params.subchannelSize, rbCount := r.rbCount f.params.subchannelSize
    size := q.packet.size, mcs := f.params.mcs, isRetransmission, rriMs, counter
    generatedUs := q.packet.generatedUs }

def queuedDue (f : Flow α) (now : Slot) : Option Transmission :=
  f.queued.bind fun q => (q.due now).map fun (r, again) => f.transmission q r again

def owedDue (f : Flow α) (now : Slot) : Option Transmission :=
  f.owed.bind fun q => q.retransmission.bind fun r =>
    if r.slot = now then some (f.transmission q r true) else none

/-- What is sent in a slot. The queued packet goes before the one that is owed. -/
def due (f : Flow α) (now : Slot) : Option Transmission := (f.queuedDue now).or (f.owedDue now)

/-- The packet whose second transmission is still owed after a slot. -/
def owedAfter (owed : Option QueuedPacket) (now : Slot) : Option QueuedPacket :=
  owed.filter fun q => match q.retransmission with
    | some r => r.slot ≠ now
    | none => false

def closeOccasion (f : Flow α) (r : Reservation) (used : Bool) (g : γ) : Flow α × γ :=
  let f := { f with stats :=
    if used then { f.stats with usedReservations := f.stats.usedReservations + 1 }
    else { f.stats with unutilizedReservations := f.stats.unutilizedReservations + 1 } }
  let interval := f.params.slotsInMs r.rriMs
  let r := r.advance interval
  if 0 < r.counter then ({ f with reservation := some r }, g)
  else
    let (keep, g) :=
      if !f.params.dynamicScheduling && 0 < interval then drawKeep f.params.keepProbability g else (false, g)
    if keep then
      let (counter, g) := drawCounter r.rriMs g
      ({ f with
          reservation := some { r with counter }
          stats := { f.stats with keptReservations := f.stats.keptReservations + 1 } }, g)
    else ({ f with reservation := none, counterExpired := true, phase := .sensing }, g)

/-- Moves on to slot `now`, and gives what is sent in it. -/
def onSlot (f : Flow α) (now : Slot) (nowUs : Nat) (g : γ) : Option Transmission × Flow α × γ :=
  let sent := f.due now
  let f := { f with queued := f.queued.bind (·.after now), owed := owedAfter f.owed now }
  let used := match sent with
    | some t => !t.isRetransmission
    | none => false
  let (f, g) := match f.reservation with
    | some r => if r.resource.slot = now then f.closeOccasion r used g else (f, g)
    | none => (f, g)
  match sent with
  | some t =>
    let f := { f with
      history := f.history.recordOwn now nowUs
      stats := { f.stats with transmissions := f.stats.transmissions + 1 } }
    (some t, f, g)
  | none => (none, f, g)

end

/-- Ends the flow. A packet that waits for its first transmission is dropped. -/
def teardown (f : Flow α) : Flow α :=
  let lost := match f.queued with
    | some q => !q.initialSent
    | none => false
  { f with
    history := {}
    phase := .idle
    reservation := none
    queued := none
    owed := none
    counterExpired := false
    stats := if lost then { f.stats with droppedPackets := f.stats.droppedPackets + 1 } else f.stats }

end Flow

end Sidelink
