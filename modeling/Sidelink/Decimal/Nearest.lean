import Sidelink.Decimal.Rounded

/-!
# The float nearest to a decimal
-/

namespace Sidelink.Decimal

/-- From this power of ten on a decimal is infinite. -/
def overflowPower : Int := 310

/-- Below this power of ten a decimal is zero. -/
def underflowPower : Int := -330

/-- The float nearest to `m · 10 ^ e`. Powers far out of range are not computed. -/
def nearest (m : Nat) (e : Int) : Float :=
  let power := (digitCount m : Int) + e
  if m = 0 ∨ power < underflowPower then 0.0
  else if overflowPower < power then 1.0 / 0.0
  else Float.ofScientific m (e < 0) e.natAbs

end Sidelink.Decimal
