import Sidelink.Random.Uniform
import Sidelink.Selection.Candidates

/-!
# Drawing from the candidates
-/

namespace Sidelink

variable {α : Type} [Analysis α] {γ : Type} [RandomSource γ]

/-- Draws the number of occasions of a reservation. Intervals below 100 ms get more of them, so that a reservation
lasts about as long. -/
def drawCounter (rriMs : Nat) (g : γ) : Nat × γ :=
  if 100 ≤ rriMs ∨ rriMs = 0 then Random.uniform32 5 15 g
  else
    let scale := 100 / max rriMs 20
    Random.uniform32 (5 * scale) (15 * scale) g

/-- Draws whether a reservation that has run out is kept. Nothing is drawn when it never is. -/
def drawKeep (probability : α) (g : γ) : Bool × γ :=
  if 0.0 < probability then
    let (u, g) := Random.unit (α := α) g
    (decide (u < probability), g)
  else (false, g)

/-- The size of the fifth that is drawn from, rounded up. -/
def bestCount (candidates : Nat) : Nat := max 1 ((candidates + 4) / 5)

/-- The candidates whose level is not above the one at the cut. -/
def best {β : Type} (ranked : List (α × β)) : List β :=
  match ranked[bestCount ranked.length - 1]? with
  | some (cut, _) => (ranked.takeWhile fun (x, _) => decide (x ≤ cut)).map Prod.snd
  | none => []

def eligible (history : History α) (slotsPerMs : Nat) (resources : List Resource) :
    Ranking → Except FlowError (List Resource)
  | .random => .ok resources
  | .lowestInterference => do
    let levels ← resources.mapM fun c => history.averageInterference (ε := FlowError) c slotsPerMs
    return best ((levels.zip resources).mergeSort fun a b => Scalar.rankLe a.1 b.1)

def drawResource (resources : List Resource) (ranking : Ranking) (history : History α) (slotsPerMs : Nat) (g : γ) :
    Except FlowError Resource × γ :=
  match eligible history slotsPerMs resources ranking with
  | .error e => (.error e, g)
  | .ok drawable =>
    match Random.choose drawable g with
    | (some c, g) => (.ok c, g)
    | (none, g) => (.error .noCandidate, g)

/-- The largest distance in slots at which a retransmission is preferred. -/
def maxRetransmissionGap : Nat := 32

/-- Draws a resource in another slot, near the first one if there is any. -/
def drawRetransmission (resources : List Resource) (initial : Resource) (g : γ) : Option Resource × γ :=
  let others := resources.filter fun c => c.slot ≠ initial.slot
  match others.filter fun c => Slot.gap c.slot initial.slot 512 ≤ maxRetransmissionGap with
  | [] => Random.choose others g
  | near => Random.choose near g

end Sidelink
