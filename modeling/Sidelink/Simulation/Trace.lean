import Sidelink.Flow.Basic
import Sidelink.Simulation.Statistics

/-!
# Traces

A row for each selection and for each counted reception. A file that cannot be written is left out, and the run goes
on without it.
-/

namespace Sidelink

structure SelectionRow where
  timeUs : Nat
  node : Nat
  resource : Resource
  retransmission : Option Resource
  counter : Nat
  rriMs : Nat
  trigger : Option Trigger
deriving Repr, DecidableEq

structure ReceptionRow (α : Type) where
  timeUs : Nat
  transmitter : Nat
  receiver : Nat
  packet : Nat
  isRetransmission : Bool
  distanceM : α
  sinrDb : α
  outcome : ReceptionOutcome

namespace SelectionRow

def header : String :=
  "time_us,node,frame,subframe,subchannel_start,subchannel_count,retx_frame,retx_subframe,counter,rri_ms,trigger"

def line (r : SelectionRow) : String :=
  let again := match r.retransmission with
    | some x => [toString x.slot.frame, toString x.slot.subframe]
    | none => ["", ""]
  let trigger := match r.trigger with
    | some t => t.text
    | none => "initial"
  ",".intercalate ([toString r.timeUs, toString r.node, toString r.resource.slot.frame,
    toString r.resource.slot.subframe, toString r.resource.start, toString r.resource.count] ++ again
    ++ [toString r.counter, toString r.rriMs, trigger])

end SelectionRow

namespace ReceptionRow

def header : String := "time_us,tx_node,rx_node,packet_id,retransmission,distance_m,sinr_db,outcome"

/-- The row as text, given how scalars are written with a number of places. -/
def line {α : Type} (fixed : Nat → α → String) (r : ReceptionRow α) : String :=
  ",".intercalate [toString r.timeUs, toString r.transmitter, toString r.receiver, toString r.packet,
    (if r.isRetransmission then "1" else "0"), fixed 1 r.distanceM, fixed 2 r.sinrDb, r.outcome.label]

end ReceptionRow

structure TraceTarget where
  directory : Bool
  selections : Bool
  receptions : Bool
deriving Repr, DecidableEq

structure Trace (α : Type) where
  hasDirectory : Bool
  selections : Option (Array SelectionRow)
  receptions : Option (Array (ReceptionRow α))

namespace Trace

variable {α : Type}

def disabled : Trace α := ⟨false, none, none⟩

/-- A trace without rows. Without its directory nothing is written. -/
def ofTarget (t : TraceTarget) : Trace α :=
  if t.directory then
    ⟨true, if t.selections then some #[] else none, if t.receptions then some #[] else none⟩
  else disabled

def isActive (t : Trace α) : Bool := t.selections.isSome || t.receptions.isSome

def selection (t : Trace α) (row : SelectionRow) : Trace α := { t with selections := t.selections.map (·.push row) }

def reception (t : Trace α) (row : ReceptionRow α) : Trace α := { t with receptions := t.receptions.map (·.push row) }

/-- The lines of the two files, their headers first. -/
def selectionLines (t : Trace α) : Option (List String) :=
  t.selections.map fun rows => SelectionRow.header :: rows.toList.map SelectionRow.line

def receptionLines (t : Trace α) (fixed : Nat → α → String) : Option (List String) :=
  t.receptions.map fun rows => ReceptionRow.header :: rows.toList.map (ReceptionRow.line fixed)

end Trace

def Reservation.row (r : Reservation) (timeUs node : Nat) (trigger : Option Trigger) : SelectionRow :=
  ⟨timeUs, node, r.resource, r.retransmission, r.counter, r.rriMs, trigger⟩

end Sidelink
