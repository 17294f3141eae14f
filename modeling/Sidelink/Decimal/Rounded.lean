import Sidelink.Decimal.Basic
import Sidelink.Scalar.Binary64

/-!
# Decimals rounded to a place

A float is an exact fraction, so its decimal with a given number of places is one division of counts. A half
goes to the even neighbour.
-/

namespace Sidelink.Decimal

/-- `num / den` to the nearest count, a half to the even one. -/
def roundDiv (num den : Nat) : Nat :=
  let q := num / den
  let r := num % den
  if 2 * r < den then q else if den < 2 * r then q + 1 else q + q % 2

/-- `m · 2 ^ e` as a fraction. -/
def fraction (m : Nat) (e : Int) : Nat × Nat := (m <<< e.toNat, 1 <<< (-e).toNat)

def digitCount (n : Nat) : Nat := (toString n).length

/-- Text on the right of a field of at least `width` characters. -/
def padLeft (fill : Char) (width : Nat) (s : String) : String :=
  String.ofList (List.replicate (width - s.length) fill) ++ s

/-- The decimal exponent of a positive fraction: the largest `k` with `10 ^ k ≤ num / den`. -/
def leadingPower (num den : Nat) : Int :=
  if den ≤ num then (digitCount (num / den) : Int) - 1
  else
    let d := digitCount (den / num)
    if den ≤ num * tens (d - 1) then -((d : Int) - 1) else -(d : Int)

def scaledRound (num den : Nat) (p : Int) : Nat := roundDiv (num * tens p.toNat) (den * tens (-p).toNat)

/-- A count of hundredths, thousandths and so on with its point. -/
def pointed (places n : Nat) : String :=
  if places = 0 then toString n
  else toString (n / tens places) ++ "." ++ padLeft '0' places (toString (n % tens places))

/-- Fixed places. A negative zero keeps its sign. -/
def fixed (places : Nat) (x : Float) : String :=
  match Binary64.ofFloat x with
  | .nan => "NaN"
  | .infinite negative => if negative then "-inf" else "inf"
  | .finite negative m e =>
    let (num, den) := fraction m e
    (if negative then "-" else "") ++ pointed places (scaledRound num den places)

/-- One digit, a point, `places` more digits and the exponent. Zero has no sign. -/
def scientific (places : Nat) (x : Float) : String :=
  match Binary64.ofFloat x with
  | .nan => "nan"
  | .infinite negative => if negative then "-inf" else "inf"
  | .finite negative m e =>
    if m = 0 then pointed places 0 ++ "e0"
    else
      let (num, den) := fraction m e
      let k := leadingPower num den
      let n := scaledRound num den (places - k)
      let (n, k) := if n = tens (places + 1) then (n / 10, k + 1) else (n, k)
      (if negative then "-" else "") ++ pointed places n ++ s!"e{k}"

end Sidelink.Decimal
