import Std.Data.TreeMap
import Sidelink.Fault

/-!
# Agendas

Events to come, the earliest first. Events of one time go by phase, so that all receptions of a slot are over before
any node selects a resource in it, and events of one phase go in the order in which they were put down. A ticket
cancels an event that has not come up yet.
-/

namespace Sidelink

inductive Phase where
  | reception
  | mobility
  | traffic
  | mac
  | report
deriving Repr, DecidableEq

def Phase.rank : Phase → Nat
  | reception => 0
  | mobility => 1
  | traffic => 2
  | mac => 3
  | report => 4

/-- When an event comes up. No two events have the same ticket. -/
structure Moment where
  /-- In microseconds. -/
  time : Nat
  phase : Phase
  ticket : Nat
deriving Repr, DecidableEq

def Moment.before (a b : Moment) : Bool :=
  a.time < b.time || a.time = b.time &&
    (a.phase.rank < b.phase.rank || a.phase.rank = b.phase.rank && a.ticket < b.ticket)

structure Agenda (ε : Type) where
  /-- The time of the last event that came up. -/
  now : Nat := 0
  nextTicket : Nat := 0
  events : List (Moment × ε) := []
  /-- When the event of a ticket comes up, while it is still to come. -/
  moments : Std.TreeMap Nat Moment := ∅

namespace Agenda

variable {ε : Type}

def insertEvent (m : Moment) (e : ε) : List (Moment × ε) → List (Moment × ε)
  | [] => [(m, e)]
  | (n, f) :: rest => if n.before m then (n, f) :: insertEvent m e rest else (m, e) :: (n, f) :: rest

/-- Puts down an event and gives its ticket. A time in the past is taken as now. -/
def scheduleAt (a : Agenda ε) (time : Nat) (phase : Phase) (e : ε) : Nat × Agenda ε :=
  let m : Moment := ⟨max time a.now, phase, a.nextTicket⟩
  (a.nextTicket, { a with
    nextTicket := a.nextTicket + 1
    events := insertEvent m e a.events
    moments := a.moments.insert m.ticket m })

/-- Puts down an event some time from now. The last time there is ends the count. -/
def scheduleIn (a : Agenda ε) (delay : Nat) (phase : Phase) (e : ε) : Nat × Agenda ε :=
  a.scheduleAt (min (a.now + delay) (limit64 - 1)) phase e

/-- Takes an event off the agenda. False if it has come up or was taken off before. -/
def cancel (a : Agenda ε) (ticket : Nat) : Bool × Agenda ε :=
  match a.moments[ticket]? with
  | none => (false, a)
  | some m => (a.events.any fun (n, _) => n = m, { a with
      events := a.events.filter fun (n, _) => n ≠ m
      moments := a.moments.erase ticket })

def isPending (a : Agenda ε) (ticket : Nat) : Bool := a.moments.contains ticket

def nextTime? (a : Agenda ε) : Option Nat := a.events.head?.map fun (m, _) => m.time

def pop (a : Agenda ε) : Option ((Moment × ε) × Agenda ε) :=
  match a.events with
  | [] => none
  | (m, e) :: rest => some ((m, e), { a with now := m.time, events := rest, moments := a.moments.erase m.ticket })

def length (a : Agenda ε) : Nat := a.events.length

end Agenda

end Sidelink
