import Sidelink.Simulation.Movement
import Sidelink.Simulation.Sending

/-!
# Runs

Events are handled one after the other until none is left before the end.
-/

namespace Sidelink.World

variable {α γ : Type} [Analysis α] [RandomSource γ]

def report (w : World α γ) : World α γ :=
  let (_, agenda) := w.agenda.scheduleIn w.setup.reportUs .report .report
  { w with agenda }

def handle (e : Event) (w : World α γ) : Stepped (SimulationError α) (World α γ) :=
  match e with
  | .reception => w.receiveAll
  | .mobility => (.ok (), w.moveAll)
  | .traffic id => w.fireTimer id
  | .mac => w.serveAll
  | .report => (.ok (), w.report)

/-- How many more events an event can lead to before the end, itself included. Every event comes back later by at
least a microsecond, and each slot brings one evaluation with it. -/
def eventBudget (endUs : Nat) (m : Moment) : Event → Nat
  | .reception => 1
  | .mac => 2 * (endUs - m.time)
  | _ => endUs - m.time

def budget (endUs : Nat) (a : Agenda Event) : Nat := a.events.foldr (fun (m, e) n => eventBudget endUs m e + n) 0

def handleUntil (endUs : Nat) : Nat → World α γ → Stepped (SimulationError α) (World α γ)
  | 0, w => (.ok (), w)
  | fuel + 1, w =>
    match w.agenda.pop with
    | none => (.ok (), w)
    | some ((m, e), agenda) =>
      if endUs ≤ m.time then (.ok (), w)
      else
        match handle e { w with agenda } with
        | (.error e, w) => (.error e, w)
        | (.ok (), w) => handleUntil endUs fuel w

/-- Runs on from the state reached so far until a time, in milliseconds from the start. -/
def runUntil (w : World α γ) (endMs : Nat) : Stepped (SimulationError α) (World α γ) :=
  match word64 (ε := SimulationError α) (endMs * 1000) with
  | .error e => (.error e, w)
  | .ok endUs => handleUntil endUs (budget endUs w.agenda) w

def run (w : World α γ) : Stepped (SimulationError α) (World α γ) :=
  w.runUntil w.setup.config.simulation.durationMs

end Sidelink.World
