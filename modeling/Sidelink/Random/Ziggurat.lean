import Sidelink.Random.Uniform
import Sidelink.Random.NormalTable
import Sidelink.Random.ExponentialTable

/-!
# Normal and exponential draws

A word picks a layer under the density and a place in it. Inside the part of the layer that lies wholly under the
density the place is the answer. Past it the density is asked, and past the lowest layer the tail is drawn.
-/

namespace Sidelink.Random

variable {γ : Type} [RandomSource γ] {α : Type} [Analysis α]

def layer (table : Array Decimal) (i : Nat) : α := (table.getD i 0.0).toScalar

def openUnit (g : γ) : α × γ :=
  let (v, g) := RandomSource.next64 g
  (Scalar.ofNat (v >>> 12).toNat * Scalar.twoPow (-52) + 1.0 - (1.0 - Scalar.twoPow (-53)), g)

/-- How far past `start` a normal tail draw lies. -/
def normalTail (start : α) : Nat → γ → α × γ
  | 0, g => (0.0, g)
  | fuel + 1, g =>
    let (o1, g) := openUnit g
    let (o2, g) := openUnit g
    let x : α := Analysis.ln o1 / start
    let y : α := Analysis.ln o2
    if -2.0 * y < x * x then normalTail start fuel g else (x, g)

def standardNormal : Nat → γ → α × γ
  | 0, g => (0.0, g)
  | fuel + 1, g =>
    let (bits, g) := RandomSource.next64 g
    let i := bits.toNat % 256
    let u : α := Scalar.ofNat (bits >>> 12).toNat * Scalar.twoPow (-51) + 2.0 - 3.0
    let x := u * layer normalEnds i
    if Scalar.abs x < layer normalEnds (i + 1) then (x, g)
    else if i = 0 then
      let start : α := layer normalEnds 1
      let (t, g) := normalTail start attempts g
      (if u < 0.0 then t - start else start - t, g)
    else
      let (o, g) := unit g
      let low : α := layer normalDensities (i + 1)
      if low + (layer normalDensities i - low) * o < Analysis.exp (-x * x / 2.0) then (x, g)
      else standardNormal fuel g

def standardExponential : Nat → γ → α × γ
  | 0, g => (0.0, g)
  | fuel + 1, g =>
    let (bits, g) := RandomSource.next64 g
    let i := bits.toNat % 256
    let u : α := Scalar.ofNat (bits >>> 12).toNat * Scalar.twoPow (-52) + 1.0 - (1.0 - Scalar.twoPow (-53))
    let x := u * layer exponentialEnds i
    if x < layer exponentialEnds (i + 1) then (x, g)
    else if i = 0 then
      let (o, g) := unit g
      (layer exponentialEnds 1 - Analysis.ln o, g)
    else
      let (o, g) := unit g
      let low : α := layer exponentialDensities (i + 1)
      if low + (layer exponentialDensities i - low) * o < Analysis.exp (-x) then (x, g)
      else standardExponential fuel g

/-- A normal draw. There is none when the deviation is not finite. -/
def normal? (mean deviation : α) (g : γ) : Option α × γ :=
  if Scalar.isFinite deviation then
    let (n, g) := standardNormal attempts g
    (some (mean + deviation * n), g)
  else (none, g)

/-- An exponential draw with the reciprocal of its rate, which scales it. -/
def exponential (scale : α) (g : γ) : α × γ :=
  let (e, g) := standardExponential attempts g
  (e * scale, g)

end Sidelink.Random
