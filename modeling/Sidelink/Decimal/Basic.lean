import Sidelink.Scalar

/-!
# Decimal constants

Tables hold decimals as published. A table is the same for every scalar type and is converted where it is used.
-/

namespace Sidelink

/-- `mantissa · 10 ^ (-places)`. -/
structure Decimal where
  mantissa : Int
  places : Nat
deriving Repr, DecidableEq

namespace Decimal

def tens (k : Nat) : Nat := Nat.pow 10 k

instance : OfScientific Decimal where
  ofScientific m negativeExponent e :=
    if negativeExponent then ⟨m, e⟩ else ⟨(m * tens e : Nat), 0⟩

instance : Neg Decimal := ⟨fun d => ⟨-d.mantissa, d.places⟩⟩

instance : Inhabited Decimal := ⟨0, 0⟩

def toScalar {α : Type} [Scalar α] (d : Decimal) : α :=
  let x : α := OfScientific.ofScientific d.mantissa.natAbs true d.places
  if d.mantissa < 0 then -x else x

end Decimal

end Sidelink
