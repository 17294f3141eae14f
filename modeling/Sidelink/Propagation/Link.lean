import Std.Data.TreeMap
import Sidelink.Geometry.Point
import Sidelink.Propagation.Params
import Sidelink.Random.Ziggurat

/-!
# Links

The loss between two nodes is the same in both directions. It is evaluated when it is first needed and kept until
the nodes move: a path loss, a shadowing that remembers its last value, and what other vehicles block.
-/

namespace Sidelink

/-- Two nodes without order. -/
structure NodePair where
  low : Nat
  high : Nat
deriving Repr, DecidableEq

namespace NodePair

def of (a b : Nat) : NodePair := if a ≤ b then ⟨a, b⟩ else ⟨b, a⟩

def mentions (p : NodePair) (id : Nat) : Bool := p.low = id || p.high = id

/-- By the lower node, then by the higher one. -/
abbrev order : NodePair → NodePair → Ordering := compareLex (compareOn low) (compareOn high)

end NodePair

/-- The state of one link. Losses are in dB. -/
structure LinkState (α : Type) where
  distanceM : α
  los : Bool
  pathLossDb : α
  shadowingDb : α
  blockageDb : α

def LinkState.lossDb {α : Type} [Scalar α] (l : LinkState α) : α := l.pathLossDb + l.shadowingDb + l.blockageDb

structure LinkTable (α : Type) where
  params : PropagationParams α
  links : Std.TreeMap NodePair (LinkState α) NodePair.order

namespace LinkTable

variable {α : Type} [Analysis α] {γ : Type} [RandomSource γ]

def ofParams (params : PropagationParams α) : LinkTable α := ⟨params, ∅⟩

def get? (t : LinkTable α) (a b : Nat) : Option (LinkState α) := t.links[NodePair.of a b]?

def count (t : LinkTable α) : Nat := t.links.size

/-- Whether two points see each other. Only blockage on a highway is left to chance. -/
def drawLos (p : PropagationParams α) (a b : Point α) (distanceM : α) (g : γ) : Bool × γ :=
  match p.scenario with
  | .urban =>
    (decide (Scalar.abs (a.x - b.x) < p.streetWidthM) || decide (Scalar.abs (a.y - b.y) < p.streetWidthM), g)
  | .highway =>
    if p.vehicleBlockage then
      let (u, g) := Random.unit (α := α) g
      (decide (u ≤ highwayLosProbability distanceM), g)
    else (true, g)

/-- A fresh shadowing value. Without a positive deviation there is none. -/
def drawShadowing (sigma : α) (g : γ) : α × γ :=
  if Scalar.isFinite sigma && decide (0.0 < sigma) then
    let (x, g) := Random.normal? 0.0 sigma g
    (x.getD 0.0, g)
  else (0.0, g)

def drawBlockage (p : PropagationParams α) (los : Bool) (distanceM : α) (g : γ) : α × γ :=
  if p.scenario = .highway && !los then
    let far := 15.0 * Analysis.log10 (Scalar.larger distanceM minDistanceM) - 41.0
    let mean := 5.0 + Scalar.larger far 0.0
    match Random.normal? mean p.sigmaBlockageDb g with
    | (some x, g) => (Scalar.larger x 0.0, g)
    | (none, g) => (mean, g)
  else (0.0, g)

/-- The next shadowing value: the last one fades with the change of distance and the fresh one takes its place. -/
def correlated (p : PropagationParams α) (previous : Option (LinkState α)) (los : Bool) (distanceM fresh : α) : α :=
  match previous with
  | some l =>
    if l.los = los then
      let r := Analysis.exp (-(Scalar.abs (distanceM - l.distanceM)) / p.decorrelationDistanceM)
      r * l.shadowingDb + Analysis.sqrt (1.0 - r * r) * fresh
    else fresh
  | none => fresh

/-- Evaluates a link anew. The node with the lower number stands first, whichever way the link is named. -/
def update (t : LinkTable α) (a : Nat) (posA : Point α) (b : Nat) (posB : Point α) (g : γ) :
    LinkState α × LinkTable α × γ :=
  let key := NodePair.of a b
  let (p, q) := if a ≤ b then (posA, posB) else (posB, posA)
  let distanceM := p.distance q
  let (los, g) := drawLos t.params p q distanceM g
  let (fresh, g) := drawShadowing (t.params.sigmaDb los) g
  let shadowingDb := correlated t.params t.links[key]? los distanceM fresh
  let (blockageDb, g) := drawBlockage t.params los distanceM g
  let state : LinkState α :=
    { distanceM, los, shadowingDb, blockageDb
      pathLossDb := pathLossDb t.params.scenario distanceM t.params.frequencyGhz los }
  (state, { t with links := t.links.insert key state }, g)

def loss (t : LinkTable α) (a : Nat) (posA : Point α) (b : Nat) (posB : Point α) (g : γ) :
    α × LinkTable α × γ :=
  match t.get? a b with
  | some l => (l.lossDb, t, g)
  | none =>
    let (l, t, g) := t.update a posA b posB g
    (l.lossDb, t, g)

/-- Evaluates every link anew, in order, whose two nodes have a position. -/
def refresh (t : LinkTable α) (position? : Nat → Option (Point α)) (g : γ) : LinkTable α × γ :=
  t.links.keys.foldl (fun (t, g) key =>
    match position? key.low, position? key.high with
    | some p, some q =>
      let (_, t, g) := t.update key.low p key.high q g
      (t, g)
    | _, _ => (t, g)) (t, g)

def forget (t : LinkTable α) (id : Nat) : LinkTable α :=
  { t with links := t.links.filter fun key _ => !key.mentions id }

end LinkTable

end Sidelink
