import Sidelink.Fault
import Sidelink.Random.Source
import Sidelink.Scalar

/-!
# Uniform draws

A whole number below a bound is the upper half of a word times the bound. A draw whose lower half falls into the
uneven rest is made again. The number of attempts has an end, which no source in use ever comes near.
-/

namespace Sidelink.Random

variable {γ : Type} [RandomSource γ]

def attempts : Nat := 1000

/-- The number of words with `bits` bits. -/
def wordCount (bits : Nat) : Nat := 1 <<< bits

/-- The largest lower half that is accepted for a range of at least one: all ones below its shifted top bit. -/
def acceptZone (bits range : Nat) : Nat := (range <<< (bits - 1 - Nat.log2 range)) - 1

/-- A number below `range`, drawn from words of `bits` bits. -/
def below (bits : Nat) (word : γ → Nat × γ) (range : Nat) : Nat → γ → Nat × γ
  | 0, g => (0, g)
  | fuel + 1, g =>
    let (v, g) := word g
    let product := v * range
    if product % wordCount bits ≤ acceptZone bits range then (product / wordCount bits, g) else below bits word range fuel g

/-- A number from `low` to `high`, both such words and both possible. The full range is a bare word. -/
def uniform (bits : Nat) (word : γ → Nat × γ) (low high : Nat) (g : γ) : Nat × γ :=
  if high + 1 - low = wordCount bits then word g
  else
    let (n, g) := below bits word (high + 1 - low) attempts g
    (low + n, g)

/-- A word of the source as a count. -/
def count32 (g : γ) : Nat × γ :=
  let (v, g) := RandomSource.next32 g
  (v.toNat, g)

def count64 (g : γ) : Nat × γ :=
  let (v, g) := RandomSource.next64 g
  (v.toNat, g)

def uniform32 (low high : Nat) (g : γ) : Nat × γ := uniform 32 count32 low high g

def uniform64 (low high : Nat) (g : γ) : Nat × γ := uniform 64 count64 low high g

/-- One of the places of a list with `n` entries. Long lists take the wider word. -/
def place (n : Nat) (g : γ) : Nat × γ :=
  if n < limit32 then uniform32 0 (n - 1) g else uniform64 0 (n - 1) g

/-- An entry of a list, each with the same chance. Nothing is drawn from an empty list. -/
def choose {β : Type} (xs : List β) (g : γ) : Option β × γ :=
  match xs with
  | [] => (none, g)
  | x :: rest =>
    let (i, g) := place (rest.length + 1) g
    ((x :: rest)[i]?, g)

/-- Swaps every place from `i` down to one with a place not above it. -/
def shuffleFrom {β : Type} : Nat → Array β → γ → Array β × γ
  | 0, xs, g => (xs, g)
  | i + 1, xs, g =>
    let (j, g) := place (i + 2) g
    shuffleFrom i (xs.swapIfInBounds (i + 1) j) g

def shuffle {β : Type} (xs : List β) (g : γ) : List β × γ :=
  let (ys, g) := shuffleFrom (xs.length - 1) xs.toArray g
  (ys.toList, g)

/-- A scalar in `[0, 1)` on the grid of `2⁻⁵³`. -/
def unit {α : Type} [Scalar α] (g : γ) : α × γ :=
  let (v, g) := RandomSource.next64 g
  (Scalar.ofNat (v >>> 11).toNat * Scalar.twoPow (-53), g)

end Sidelink.Random
