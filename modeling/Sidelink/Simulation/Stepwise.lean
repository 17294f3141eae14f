/-!
# Steps that can fail

A step changes a state and may end in an error. What it changed before the error stays changed.
-/

namespace Sidelink

abbrev Stepped (ε σ : Type) : Type := Except ε Unit × σ

variable {ε σ β : Type}

/-- Makes a step for each entry in turn. The first error ends it. -/
def stepEach (step : β → σ → Stepped ε σ) : List β → σ → Stepped ε σ
  | [], s => (.ok (), s)
  | x :: rest, s =>
    match step x s with
    | (.ok (), s) => stepEach step rest s
    | (.error e, s) => (.error e, s)

/-- What every step keeps is kept by all of them, whether they end in an error or not. -/
theorem stepEach_keeps {step : β → σ → Stepped ε σ} {P : σ → Prop} (hstep : ∀ x s, P s → P (step x s).2)
    (xs : List β) (s : σ) (h : P s) : P (stepEach step xs s).2 := by
  induction xs generalizing s with
  | nil => exact h
  | cons x rest ih =>
    have hx := hstep x s h
    unfold stepEach
    split <;> simp_all

end Sidelink
