/-!
# Command lines

A scene, perhaps a configuration, and switches in any order. Words are understood from left to right, and the first
one that is not, or that asks for a text of the program, decides.
-/

namespace Sidelink

inductive Switch where
  | verbose
  | help
  | version
deriving Repr, DecidableEq

namespace Switch

def ofName? : String → Option Switch
  | "verbose" => some verbose
  | "help" => some help
  | "version" => some version
  | _ => none

def ofLetter? : Char → Option Switch
  | 'v' => some verbose
  | 'h' => some help
  | 'V' => some version
  | _ => none

end Switch

inductive Word where
  | switch (s : Switch)
  | file (path : String)
deriving Repr, DecidableEq

/-- The words of a command line, nothing standing for one that is not understood. Letters after one dash are as many
switches. After two dashes alone all are files. -/
def Word.ofArgs : List String → List (Option Word)
  | [] => []
  | "--" :: rest => rest.map fun path => some (.file path)
  | arg :: rest =>
    let words :=
      match arg.toList with
      | '-' :: '-' :: name => [(Switch.ofName? (String.ofList name)).map .switch]
      | '-' :: letter :: letters => (letter :: letters).map fun c => (Switch.ofLetter? c).map .switch
      | _ => [some (.file arg)]
    words ++ ofArgs rest

inductive Command where
  | help
  | version
  | simulate (scene : String) (config : Option String) (verbose : Bool)
deriving Repr, DecidableEq

namespace Command

/-- The command of the words that are left after some files and perhaps the verbose switch. -/
def ofWords (files : List String) (verbose : Bool) : List (Option Word) → Option Command
  | [] =>
    match files with
    | [scene] => some (.simulate scene none verbose)
    | [scene, config] => some (.simulate scene (some config) verbose)
    | _ => none
  | none :: _ => none
  | some (.switch .help) :: _ => some .help
  | some (.switch .version) :: _ => some .version
  | some (.switch .verbose) :: rest => if verbose then none else ofWords files true rest
  | some (.file path) :: rest =>
    if path.isEmpty ∨ 2 ≤ files.length then none else ofWords (files ++ [path]) verbose rest

def ofArgs? (args : List String) : Option Command := ofWords [] false (Word.ofArgs args)

def files : Command → List String
  | .simulate scene config _ => config.toList ++ [scene]
  | _ => []

end Command

end Sidelink
