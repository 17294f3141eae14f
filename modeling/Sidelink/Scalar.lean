/-!
# Scalars

Every formula of the model is written over one scalar type. The program runs it on binary64, and a law is
stated over an exact ordered field. The classes ask for no law at all: a scalar may be no number, and then
every comparison with it is false.
-/

namespace Sidelink

/-- Arithmetic, comparison and rounding. -/
class Scalar (α : Type) extends Add α, Sub α, Mul α, Div α, Neg α, LT α, LE α, BEq α, OfScientific α where
  [decLt : DecidableLT α]
  [decLe : DecidableLE α]
  /-- The scalar nearest to a count. -/
  ofNat : Nat → α
  /-- The integer part as a count. A negative scalar gives zero. -/
  toNat : α → Nat
  floor : α → α
  ceil : α → α
  /-- The nearest integer, a half going away from zero. -/
  round : α → α
  /-- What is left after division with a quotient cut toward zero; it has the sign of the dividend. -/
  rem : α → α → α
  /-- The floor of the binary logarithm of a positive scalar. -/
  floorLog2 : α → Int
  twoPow : Int → α
  isFinite : α → Bool

/-- The functions beyond field arithmetic. -/
class Analysis (α : Type) extends Scalar α where
  sqrt : α → α
  exp : α → α
  ln : α → α
  log10 : α → α
  /-- Ten to a power. -/
  tenPow : α → α
  /-- Length of the hypotenuse over two legs. -/
  hypot : α → α → α
  /-- Angle in radians of the point with this `y` and `x`. -/
  atan2 : α → α → α
  pi : α
  /-- Minus infinity, the level of no power at all. -/
  negInfinity : α

namespace Scalar

variable {α : Type} [Scalar α]

instance : DecidableLT α := decLt

instance : DecidableLE α := decLe

/-- True for a scalar that is no number. -/
def isNaN (x : α) : Bool := !(x == x)

/-- The larger of two. A scalar that is no number gives way to the other. -/
def larger (x y : α) : α := if isNaN x then y else if x < y then y else x

def smaller (x y : α) : α := if isNaN x then y else if y < x then y else x

def abs (x : α) : α := if x < 0.0 then -x else x

/-- `x` moved into the unit interval. No number stays no number. -/
def clampUnit (x : α) : α := if x < 0.0 then 0.0 else if 1.0 < x then 1.0 else x

/-- The remainder that is never negative. -/
def remEuclid (x m : α) : α :=
  let r := rem x m
  if r < 0.0 then r + abs m else r

def ofInt : Int → α
  | .ofNat n => ofNat n
  | .negSucc n => -(ofNat (n + 1))

def sum (xs : List α) : α := xs.foldl (· + ·) 0.0

/-- The order used for ranking. A scalar that is no number comes last. -/
def rankLe (x y : α) : Bool := isNaN y || decide (x ≤ y)

end Scalar

end Sidelink
