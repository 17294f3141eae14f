import Sidelink.BlockError.Channel
import Sidelink.Random.Uniform

/-!
# Attempts at a block

The error rate of an attempt follows from its level and from the last attempt at the same block. Two attempts at
different levels are combined: their rates are averaged, the newer one weighing as much more as the levels differ.
-/

namespace Sidelink.BlockError

variable {α : Type}

/-- The rate of one attempt and the level that it amounts to. -/
structure Evaluation (α : Type) where
  bler : α
  sinr : α

/-- A rate that is no number counts as a loss. -/
def sanitize [Scalar α] (bler : α) : α := if Scalar.isNaN bler then 1.0 else Scalar.clampUnit bler

variable [Analysis α]

/-- The mean of the two rates with the ratio of the levels as weight of the newer, or the newer rate alone if there
is no such ratio. -/
def combinedBler (c : Curve α) (before now : α) : α :=
  let ratio := if before < now then now / before else before / now
  if Scalar.isFinite ratio && decide (0.0 < ratio) then
    sanitize ((c.blerAt before + c.blerAt now * ratio) / (1.0 + ratio))
  else sanitize (c.blerAt now)

/-- The evaluation on a curve of an attempt at level `now`, after one at level `before` if there was one. -/
def evaluateOn (c : Curve α) (before : Option α) (now : α) : Evaluation α :=
  match before with
  | none => ⟨sanitize (c.blerAt now), now⟩
  | some p =>
    if p == now then ⟨sanitize (c.blerAt now), now⟩
    else if c.blerAt p == 1.0 && c.blerAt now == 1.0 then ⟨1.0, Scalar.larger p now⟩
    else
      let bler := combinedBler c p now
      ⟨bler, c.sinrFor bler⟩

/-- The evaluation of an attempt at level `sinr`, after earlier ones at the levels of `history`, oldest first. -/
def evaluate (channel : Channel) (mcs : Nat) (sinr : α) (history : List α) :
    Except BlockErrorFailure (Evaluation α) := do
  let c ← curve channel mcs history.length
  return evaluateOn c history.getLast? sinr

/-- The level at which the first attempt on a channel has an error rate. -/
def sinrForBler (channel : Channel) (mcs : Nat) (target : α) : Except BlockErrorFailure α := do
  let c ← curve channel mcs 0
  return c.sinrFor (sanitize target)

def Evaluation.isLost {γ : Type} [RandomSource γ] (e : Evaluation α) (g : γ) : Bool × γ :=
  let (u, g) := Random.unit (α := α) g
  (decide (u < e.bler), g)

end Sidelink.BlockError
