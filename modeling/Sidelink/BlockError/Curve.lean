import Sidelink.BlockError.Row

/-!
# Error rate curves

A curve gives the block error rate at a signal level and never rises with it. Below its first knot every block is
lost and above its last one none is. Between two knots it is a straight line, in the linear level on a uniform grid
and in dB on free breakpoints.
-/

namespace Sidelink.BlockError

variable {α : Type}

structure Knot (α : Type) where
  db : α
  bler : α

inductive Axis (α : Type) where
  /-- Knots at `minDb + i · stepDb`, joined in linear level. -/
  | grid (minDb maxDb stepDb : α)
  /-- Knots anywhere, joined in dB. -/
  | points

structure Curve (α : Type) where
  axis : Axis α
  first : Knot α
  rest : List (Knot α)

namespace Curve

def knots (c : Curve α) : List (Knot α) := c.first :: c.rest

/-- The knot at a position, or the last one past the end. -/
def knotAt (c : Curve α) (i : Nat) : Knot α :=
  c.knots.get ⟨min i c.rest.length, by simp only [knots, List.length_cons]; omega⟩

def last (c : Curve α) : Knot α := c.knotAt c.rest.length

end Curve

section

variable [Scalar α]

/-- The running minimum of the samples, each moved into the unit interval, below a ceiling. -/
def envelopeBelow : α → List α → List α
  | _, [] => []
  | ceiling, b :: rest =>
    let low := Scalar.smaller ceiling (Scalar.clampUnit b)
    low :: envelopeBelow low rest

/-- The samples without the rises that come from noise. -/
def envelope (samples : List α) : List α := envelopeBelow 1.0 samples

/-- The curve of a table row. A row without samples has none. -/
def GridRow.curve? (row : GridRow) : Option (Curve α) :=
  let minDb : α := row.minDb.toScalar
  let maxDb : α := row.maxDb.toScalar
  let stepDb : α := row.stepDb.toScalar
  let count := Scalar.toNat (Scalar.round ((maxDb - minDb) / stepDb)) + 1
  let blers := envelope ((row.samples.take count).map Decimal.toScalar)
  match blers.zipIdx.map fun (b, i) => Knot.mk (minDb + Scalar.ofNat i * stepDb) b with
  | [] => none
  | first :: rest => some ⟨.grid minDb maxDb stepDb, first, rest⟩

/-- The curve of breakpoints. Without any there is none. -/
def PointRow.curve? (row : PointRow) : Option (Curve α) :=
  let blers := envelope (row.map fun (_, b) => b.toScalar)
  match (row.zip blers).map fun ((db, _), b) => Knot.mk db.toScalar b with
  | [] => none
  | first :: rest => some ⟨.points, first, rest⟩

end

section

variable [Analysis α]

def ofDb (db : α) : α := Analysis.tenPow (db / 10.0)

def toDb (ratio : α) : α := 10.0 * Analysis.log10 ratio

namespace Knot

def sinr (k : Knot α) : α := ofDb k.db

end Knot

namespace Curve

/-- The height at `x` of the line through `(x1, y1)` and `(x2, y2)`. -/
def line (x1 y1 x2 y2 x : α) : α := y1 + (y2 - y1) * (x - x1) / (x2 - x1)

/-- The neighbours between which a level lies. When none fit, the last two. -/
def segment? (c : Curve α) (db : α) : Option (Knot α × Knot α) :=
  let segments := c.knots.zip c.rest
  match segments.find? fun (k, l) => decide (k.db ≤ db) && decide (db < l.db) with
  | some s => some s
  | none => segments.getLast?

/-- The error rate at a level given as a ratio. Where there is no signal every block is lost. -/
def blerAt (c : Curve α) (sinr : α) : α :=
  if Scalar.isNaN sinr || decide (sinr ≤ 0.0) then 1.0
  else
    let db := toDb sinr
    match c.axis with
    | .grid minDb maxDb stepDb =>
      if db < minDb then 1.0
      else if maxDb < db then 0.0
      else
        let position := (db - minDb) / stepDb
        let i := min (Scalar.toNat (Scalar.floor position)) c.rest.length
        let j := min (Scalar.toNat (Scalar.ceil position)) c.rest.length
        if i = j then (c.knotAt i).bler
        else line (c.knotAt i).sinr (c.knotAt i).bler (c.knotAt j).sinr (c.knotAt j).bler sinr
    | .points =>
      if c.last.db ≤ db then (if db == c.last.db then c.last.bler else 0.0)
      else if db < c.first.db then 1.0
      else
        match c.segment? db with
        | some (k, l) => line k.db k.bler l.db l.bler db
        | none => 1.0

/-- The first knot at or below an error rate and the knot before it. When none is, the last knot. -/
def reach (target : α) : Option (Knot α) → Knot α → List (Knot α) → Option (Knot α) × Knot α
  | before, k, [] => (before, k)
  | before, k, l :: rest => if k.bler ≤ target then (before, k) else reach target (some k) l rest

/-- The level, as a ratio, at which the curve comes down to an error rate. -/
def sinrFor (c : Curve α) (target : α) : α :=
  match reach target none c.first c.rest with
  | (none, l) => l.sinr
  | (some k, l) =>
    if target ≤ l.bler then l.sinr
    else
      match c.axis with
      | .grid .. => line k.bler k.sinr l.bler l.sinr target
      | .points => ofDb (line k.bler k.db l.bler l.db target)

end Curve

end

end Sidelink.BlockError
