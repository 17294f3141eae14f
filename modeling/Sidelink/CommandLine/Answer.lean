import Sidelink.CommandLine.Command
import Sidelink.CommandLine.Summary
import Sidelink.Config.Record
import Sidelink.Decimal.Shortest
import Sidelink.Random.ChaCha
import Sidelink.Scene.Record

/-!
# Answers to command lines

What the program prints, how it exits, and the trace it leaves, all from the texts of the files.
-/

namespace Sidelink

def programName : String := "sidelink-sps-simulator"

def programVersion : String := "0.1.0"

def usageLine : String := "Usage: " ++ programName ++ " [OPTIONS] <SCENE> [CONFIG]"

def helpLines : List String := [
  "Sidelink V2X semi-persistent scheduling simulator",
  "",
  usageLine,
  "",
  "Arguments:",
  "  <SCENE>   Scene file (nodes, resource pool, propagation, regions)",
  "  [CONFIG]  Run configuration; all defaults when omitted",
  "",
  "Options:",
  "  -v, --verbose  Debug logging for the simulator",
  "  -h, --help     Print help",
  "  -V, --version  Print version"]

structure Answer where
  exit : Nat
  lines : List String := []
  /-- What went wrong. -/
  complaint : Option String := none
  /-- The directory of the trace and its rows. -/
  trace : Option (String × Trace Float) := none

namespace Answer

def misuse : Answer := { exit := 2, complaint := some usageLine }

def failure (complaint : String) : Answer := { exit := 1, complaint := some complaint }

def fault : Answer := { exit := 101, complaint := some "arithmetic fault" }

def ofConfigError : ConfigError Float → Answer
  | .fault _ => fault
  | e => failure (e.message Decimal.plain)

def ofSceneError : SceneError Float → Answer
  | .pool (.fault _) => fault
  | e => failure (e.message Decimal.plain)

def ofSimulationError : SimulationError Float → Answer
  | .fault _ => fault
  | e => failure (e.message Decimal.plain)

/-- The world in which a run begins, from the texts of its files, or the answer to what is wrong with them. -/
def begin (file : String → Option String) (scenePath : String) (configPath : Option String) :
    Except Answer (World Float ChaCha12) := do
  let config ←
    match configPath with
    | none =>
      let c : Config Float := .standard
      (c.validate.map fun _ => c).mapError ofConfigError
    | some path =>
      match file path with
      | none => throw (ofConfigError .fileRead)
      | some text => (Config.ofToml text).mapError ofConfigError
  let scene ←
    match file scenePath with
    | none => throw (ofSceneError .fileRead)
    | some text => (Scene.ofJson text).mapError ofSceneError
  let trace : Trace Float := .ofTarget ⟨config.simulation.traceDir.isSome, true, true⟩
  (World.start config scene trace ChaCha12.ofNat).mapError ofSimulationError

/-- The answer of a run. Rows traced before an error stay. -/
def ofRun (w : World Float ChaCha12) : Answer :=
  let (r, w) := w.run
  let answer : Answer :=
    match r with
    | .ok () => { exit := 0, lines := summary w.shared.stats w.flowStats }
    | .error e => ofSimulationError e
  { answer with trace := w.setup.config.simulation.traceDir.map (·, w.shared.trace) }

/-- The answer to a command line, given how files are read. -/
def ofArgs (file : String → Option String) (args : List String) : Answer :=
  match Command.ofArgs? args with
  | none => misuse
  | some .help => { exit := 0, lines := helpLines }
  | some .version => { exit := 0, lines := [programName ++ " " ++ programVersion] }
  | some (.simulate scene config _) =>
    match begin file scene config with
    | .error answer => answer
    | .ok w => ofRun w

end Answer

end Sidelink
