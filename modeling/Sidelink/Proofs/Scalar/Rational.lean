import Mathlib.Data.Int.Log
import Mathlib.Data.Rat.Floor
import Sidelink.Propagation.PathLoss
import Sidelink.Random.Source

/-!
# Rational scalars

Runs over the rationals can be evaluated inside a proof. Field arithmetic is exact. Of a function beyond it the values
are those at whole powers of ten, or at eighths of a turn, and in between they are joined by straight lines.
-/

namespace Sidelink

namespace Rational

/-- The integer with the quotient cut toward zero. -/
def truncate (x : ℚ) : ℤ := if x < 0 then ⌈x⌉ else ⌊x⌋

/-- Ten to a power, on the chord between whole powers. -/
def tenPow (x : ℚ) : ℚ := 10 ^ ⌊x⌋ * (1 + 9 * (x - ⌊x⌋))

def log10 (x : ℚ) : ℚ := Int.log 10 x + (x / 10 ^ Int.log 10 x - 1) / 9

/-- The root on a grid of `2⁻³²`. -/
def sqrt (x : ℚ) : ℚ := Nat.sqrt (x * 2 ^ 64).floor.toNat / 2 ^ 32

def pi : ℚ := 3.141592653589793

def atan2 (y x : ℚ) : ℚ :=
  let turn := if x = 0 ∧ y = 0 then 0 else 1 - x / (|x| + |y|)
  if y < 0 then -turn * pi / 2 else turn * pi / 2

end Rational

instance : Scalar ℚ where
  ofNat n := n
  toNat x := ⌊x⌋.toNat
  floor x := ⌊x⌋
  ceil x := ⌈x⌉
  round x := if x < 0 then ⌈x - 1 / 2⌉ else ⌊x + 1 / 2⌋
  rem x y := x - y * Rational.truncate (x / y)
  floorLog2 x := Int.log 2 x
  twoPow n := 2 ^ n
  isFinite _ := true

instance : Analysis ℚ where
  sqrt := Rational.sqrt
  exp x := Rational.tenPow (x * 0.4342944819032518)
  ln x := Rational.log10 x * 2.302585092994046
  log10 := Rational.log10
  tenPow := Rational.tenPow
  hypot x y := Rational.sqrt (x * x + y * y)
  atan2 := Rational.atan2
  pi := Rational.pi
  negInfinity := -1e9

/-- The random source that gives zeros only. -/
inductive Zeros where
  | zeros

instance : RandomSource Zeros := ⟨fun g => (0, g), fun g => (0, g)⟩

/-- A random source that gives the words of a list one after the other, and zeros when there are none left. -/
structure Script where
  words : List UInt32

instance : RandomSource Script := ⟨fun g => (g.words.headD 0, ⟨g.words.tail⟩), fun g => (0, g)⟩

example : mwToDbm (dbmToMw (-90 : ℚ)) = -90 := by decide +kernel

end Sidelink
