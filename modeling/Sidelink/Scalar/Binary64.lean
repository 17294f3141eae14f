import Sidelink.Fault
import Sidelink.Scalar

/-!
# Binary64

A float is a sign, a whole mantissa and a power of two. The remainder is exact, computed on that form. The
length of a vector is scaled so that no square leaves the range, and corrected by one step.
-/

namespace Sidelink

/-- What the bits of a float stand for. A finite one is `± mantissa · 2 ^ exponent`. -/
inductive Binary64 where
  | nan
  | infinite (negative : Bool)
  | finite (negative : Bool) (mantissa : Nat) (exponent : Int)
deriving Repr, DecidableEq

namespace Binary64

/-- The bit in front of the stored fraction, which is not stored. -/
def hiddenBit : Nat := 4503599627370496

def ofFloat (x : Float) : Binary64 :=
  let bits := x.toBits.toNat
  let negative := decide (limit64 ≤ 2 * bits)
  let biased : Nat := bits / hiddenBit % 2048
  let fraction := bits % hiddenBit
  if biased = 2047 then
    if fraction = 0 then .infinite negative else .nan
  else if biased = 0 then .finite negative fraction (-1074)
  else .finite negative (hiddenBit + fraction) ((biased : Int) - 1075)

/-- `± n · 2 ^ e` as a float. Exact when `n` has at most 53 bits and the power is in range. -/
def toFloat (negative : Bool) (n : Nat) (e : Int) : Float :=
  let x := Float.scaleB (Float.ofNat n) e
  if negative then -x else x

/-- The exact remainder of a quotient cut toward zero. -/
def rem (x y : Float) : Float :=
  match ofFloat x, ofFloat y with
  | .finite sx mx ex, .finite _ my ey =>
    if my = 0 then 0.0 / 0.0
    else
      let e := min ex ey
      toFloat sx ((mx <<< (ex - e).toNat) % (my <<< (ey - e).toNat)) e
  | .finite .., .infinite _ => x
  | _, _ => 0.0 / 0.0

/-- The hypotenuse over legs of like size, `small ≤ large`, after one correction of the plain square root. -/
def hypotCore (large small : Float) : Float :=
  let h := Float.sqrt (large * large + small * small)
  let t :=
    if h ≤ 2.0 * small then
      let d := h - small
      large * (2.0 * d - large) + (d - 2.0 * (large - small)) * d
    else
      let d := h - large
      2.0 * d * (large - 2.0 * small) + ((4.0 * d - small) * small + d * d)
  h - t / (2.0 * h)

def hypot (x y : Float) : Float :=
  if x.isInf || y.isInf then 1.0 / 0.0
  else if x.isNaN || y.isNaN then x + y
  else
    let large := if x.abs < y.abs then y.abs else x.abs
    let small := if x.abs < y.abs then x.abs else y.abs
    let negligible := Float.scaleB 1.0 (-54)
    let up := Float.scaleB 1.0 600
    let down := Float.scaleB 1.0 (-600)
    if Float.scaleB 1.0 511 < large then
      if small ≤ large * negligible then large + small
      else hypotCore (large * down) (small * down) * up
    else if small < Float.scaleB 1.0 (-459) then
      if small * Float.scaleB 1.0 54 ≤ large then large + small
      else hypotCore (large * up) (small * up) * down
    else if small ≤ large * negligible then large + small
    else hypotCore large small

end Binary64

instance : Scalar Float where
  ofNat := Float.ofNat
  toNat x := x.toUInt64.toNat
  floor := Float.floor
  ceil := Float.ceil
  round := Float.round
  rem := Binary64.rem
  floorLog2 x := (Float.floor (Float.log2 x)).toInt32.toInt
  twoPow := Float.scaleB 1.0
  isFinite := Float.isFinite

instance : Analysis Float where
  sqrt := Float.sqrt
  exp := Float.exp
  ln := Float.log
  log10 := Float.log10
  tenPow := Float.pow 10.0
  hypot := Binary64.hypot
  atan2 := Float.atan2
  pi := 3.141592653589793
  negInfinity := -1.0 / 0.0

end Sidelink
