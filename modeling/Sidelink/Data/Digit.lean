/-!
# Digits

The digits of a notation and the numbers that runs of them stand for.
-/

namespace Sidelink.Digit

def isDecimal (c : Char) : Bool := '0' ≤ c && c ≤ '9'

/-- The value of a digit, letters of either case going on after nine. -/
def value? (base : Nat) (c : Char) : Option Nat :=
  let d :=
    if isDecimal c then c.toNat - 48
    else if 'a' ≤ c && c ≤ 'z' then c.toNat - 87
    else if 'A' ≤ c && c ≤ 'Z' then c.toNat - 55
    else base
  if d < base then some d else none

def isIn (base : Nat) (c : Char) : Bool := (value? base c).isSome

def number (base : Nat) (cs : List Char) : Nat :=
  cs.foldl (fun n c => n * base + (value? base c).getD 0) 0

end Sidelink.Digit
