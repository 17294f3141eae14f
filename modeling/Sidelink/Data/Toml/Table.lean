import Sidelink.Data.Value

/-!
# Tables that grow line by line

A table may be opened by its own header, be implied by a longer header, or be implied by a dotted key. Which of
them it was decides what a later line may add.
-/

namespace Sidelink.Toml

inductive Origin where
  | header
  /-- A longer header leads through the table. -/
  | path
  /-- A dotted key leads through the table. -/
  | dotted
deriving DecidableEq

inductive Node where
  | value (v : Value)
  | table (origin : Origin) (entries : List (String × Node))
  /-- The tables of one list, the last first. -/
  | tables (rows : List Node)

namespace Node

/-- A table that its header or its opening brace has just begun. -/
def fresh : Node := .table .header []

/-- The entries with one of them set. A new one goes to the end. -/
def put (key : String) (n : Node) (entries : List (String × Node)) : List (String × Node) :=
  if (entries.lookup key).isSome then entries.map fun e => if e.1 = key then (key, n) else e
  else entries ++ [(key, n)]

/--
Changes the node that a path leads to. Tables missing on the way are made, and a list of tables stands for its last
one. A dotted key does not lead through a table that has a header.
-/
def within (made : Origin) (change : Node → Option Node) : List String → Node → Option Node
  | [], n => change n
  | key :: path, .table origin entries => do
    let child ←
      match (entries.lookup key).getD (.table made []) with
      | .value _ => none
      | .table o es => if made = .dotted ∧ o = .header then none else within made change path (.table o es)
      | .tables [] => none
      | .tables (last :: rows) => (within made change path last).map fun row => .tables (row :: rows)
    return .table origin (put key child entries)
  | _ :: _, _ => none

/-- The way to the last part of a key, and that part. -/
def parted (path : List String) : Option (List String × String) := path.getLast?.map (path.dropLast, ·)

/-- An entry under a dotted key. It belongs to a table that the same kind of line made. -/
def entry (path : List String) (v : Value) (n : Node) : Option Node := do
  let (way, key) ← parted path
  n.within .dotted (fun
    | .table origin entries =>
      if (origin = .dotted) = (way = []) ∨ (entries.lookup key).isSome then none
      else some (.table origin (entries ++ [(key, .value v)]))
    | _ => none) way

/-- A header opens a table that none has opened before. -/
def header (path : List String) (n : Node) : Option Node := do
  let (way, key) ← parted path
  n.within .path (fun
    | .table origin entries =>
      match entries.lookup key with
      | none => some (.table origin (entries ++ [(key, fresh)]))
      | some (.table .path es) => some (.table origin (put key (.table .header es) entries))
      | some _ => none
    | _ => none) way

def row (path : List String) (n : Node) : Option Node := do
  let (way, key) ← parted path
  n.within .path (fun
    | .table origin entries =>
      match entries.lookup key with
      | none => some (.table origin (entries ++ [(key, .tables [fresh])]))
      | some (.tables rows) => some (.table origin (put key (.tables (fresh :: rows)) entries))
      | some _ => none
    | _ => none) way

def toValue : Node → Value
  | .value v => v
  | .table _ entries => .object (entries.attach.map fun ⟨(k, n), _⟩ => (k, toValue n))
  | .tables rows => .array (rows.attach.map fun ⟨n, _⟩ => toValue n).reverse
decreasing_by
  all_goals simp_wf
  · rename_i h
    have := List.sizeOf_lt_of_mem h
    simp at this
    omega
  · rename_i h
    have := List.sizeOf_lt_of_mem h
    omega

def ofEntries (entries : List (List String × Value)) : Option Value :=
  (entries.foldlM (fun n e => Node.entry e.1 e.2 n) fresh).map toValue

end Node

inductive Line where
  | entry (path : List String) (v : Value)
  | header (path : List String)
  | row (path : List String)

/-- The document so far, and the path of the table that is open. -/
structure Outline where
  root : Node := .fresh
  current : List String := []

def Outline.add (o : Outline) : Line → Option Outline
  | .entry path v => (o.root.within .path (Node.entry path v) o.current).map fun n => { o with root := n }
  | .header path => (o.root.header path).map fun n => ⟨n, path⟩
  | .row path => (o.root.row path).map fun n => ⟨n, path⟩

def Line.toValue? (lines : List Line) : Option Value :=
  (lines.foldlM Outline.add {}).map (·.root.toValue)

end Sidelink.Toml
