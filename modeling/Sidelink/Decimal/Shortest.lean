import Sidelink.Decimal.Rounded

/-!
# The shortest decimal of a float

The fewest digits that read back as the same float, and of those the nearest to it. The search goes over the
decimal grids from one digit on and looks at the two neighbours of the value on each.
-/

namespace Sidelink.Decimal

/-- The reals that round to `m · 2 ^ e`, in quarters of its unit. The ends belong to it when `m` is even. -/
structure Basin where
  low : Nat
  high : Nat
  closed : Bool

/-- Below a power of two the floats lie twice as close. -/
def basin (m : Nat) (e : Int) : Basin :=
  { low := if m = Binary64.hiddenBit ∧ -1074 < e then 4 * m - 1 else 4 * m - 2
    high := 4 * m + 2
    closed := m % 2 = 0 }

def Basin.contains (b : Basin) (num den : Nat) : Bool :=
  if b.closed then decide (b.low * den ≤ num) && decide (num ≤ b.high * den)
  else decide (b.low * den < num) && decide (num < b.high * den)

/-- The value's best neighbour on the grid of `10 ^ p`, if one reads back. Of two equally near the upper wins. -/
def gridPoint? (m : Nat) (e p : Int) : Option Nat :=
  let (num, den) := fraction (4 * m) e
  -- The value is `num / den` in quarters of one; a step of the grid is `4 · 10 ^ p` of them.
  let step := 4 * tens p.toNat
  let cut := tens (-p).toNat
  let down := num * cut / (den * step)
  let up := down + 1
  let (unitNum, unitDen) := fraction 1 e
  let reads (d : Nat) := (basin m e).contains (d * step * unitDen) (cut * unitNum)
  let downGap := num * cut - down * (den * step)
  let upGap := up * (den * step) - num * cut
  match reads down, reads up with
  | true, true => some (if downGap < upGap then down else up)
  | true, false => some down
  | false, true => some up
  | false, false => none

/-- Digits `d` and a power `p`, the value being near `d · 10 ^ p`. Seventeen digits always read back. -/
def shortest (m : Nat) (e : Int) : Nat × Int :=
  let (num, den) := fraction m e
  let k := leadingPower num den
  let grids := (List.range 17).map fun (i : Nat) => k - (i : Int)
  match grids.findSome? fun p => (gridPoint? m e p).map (·, p) with
  | some found => found
  | none => (scaledRound num den (16 - k), k - 16)

/-- `d · 10 ^ p` written out in full, without an exponent. -/
def positional (d : Nat) (p : Int) : String :=
  if 0 ≤ p then toString d ++ String.ofList (List.replicate p.toNat '0')
  else
    let places := (-p).toNat
    pointed places d

/-- The shortest form of a float, with no exponent and no bare point. -/
def plain (x : Float) : String :=
  match Binary64.ofFloat x with
  | .nan => "NaN"
  | .infinite negative => if negative then "-inf" else "inf"
  | .finite negative m e =>
    let sign := if negative then "-" else ""
    if m = 0 then sign ++ "0"
    else
      let (d, p) := shortest m e
      sign ++ positional d p

/-- The shortest digits of a float and their power of ten. What is not finite is no number. -/
def exponential (x : Float) : String :=
  match Binary64.ofFloat x with
  | .nan | .infinite _ => "null"
  | .finite negative m e =>
    let (d, p) := if m = 0 then (0, 0) else shortest m e
    (if negative then "-" else "") ++ s!"{d}e{p}"

end Sidelink.Decimal
