import Sidelink.Decimal.Rounded
import Sidelink.Simulation.Run

/-!
# The summary of a run

One line for each counter, then the reception ratio over all and by distance.
-/

namespace Sidelink

/-- A label and a value, the values one under the other. -/
def summaryLine (label value : String) : String :=
  label ++ String.ofList (List.replicate (25 - label.length) ' ') ++ value

def ratioText (x : Float) : String := Decimal.fixed 4 x

def ratioLine (distanceM ratio : Float) : String :=
  "  PRR @ " ++ Decimal.padLeft ' ' 7 (Decimal.fixed 1 distanceM) ++ " m  " ++ ratioText ratio

def summary (s : RunStats Float) (f : FlowStats) : List String :=
  let counters := [
    ("packets generated", s.generated),
    ("packets expired", s.expired),
    ("transmissions", s.transmissions),
    ("retransmissions", s.retransmissions),
    ("receptions ok", s.successes),
    ("  half-duplex failures", s.halfDuplexFailures),
    ("  propagation failures", s.propagationFailures),
    ("  collision failures", s.collisionFailures),
    ("  SCI failures", s.sciFailures),
    ("departed nodes", s.departedNodes),
    ("selections", f.selections),
    ("  counter reselections", f.counterReselections),
    ("  latency reselections", f.latencyReselections),
    ("  size reselections", f.sizeReselections),
    ("  latency and size", f.latencyAndSizeReselections),
    ("  relaxed threshold", f.relaxedSelections),
    ("  whole window fallback", f.fallbackSelections),
    ("reservations used", f.usedReservations),
    ("reservations unutilized", f.unutilizedReservations),
    ("reservations kept", f.keptReservations),
    ("packets dropped by MAC", f.droppedPackets)]
  let overall :=
    match s.overallRatio? with
    | some r => ratioText r
    | none => "n/a"
  counters.map (fun (label, n) => summaryLine label (toString n)) ++ [summaryLine "overall PRR" overall]
    ++ s.receptionRatios.map fun (d, r) => ratioLine d r

end Sidelink
