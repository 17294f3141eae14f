import Sidelink.Proofs.Scalar.Order

/-!
# Scalars with infinities

The rationals with two infinities and a value that is no number. What has no sensible result gives no number, as in
binary64, and only rounding and the sign of zero are left out.
-/

namespace Sidelink

inductive Extended where
  | nan
  | infinite (negative : Bool)
  | finite (q : ℚ)

namespace Extended

def neg : Extended → Extended
  | nan => nan
  | infinite s => infinite !s
  | finite p => finite (-p)

def add : Extended → Extended → Extended
  | finite p, finite q => finite (p + q)
  | finite _, infinite s | infinite s, finite _ => infinite s
  | infinite s, infinite t => if s = t then infinite s else nan
  | nan, _ | _, nan => nan

def mul : Extended → Extended → Extended
  | finite p, finite q => finite (p * q)
  | finite p, infinite s | infinite s, finite p => if p = 0 then nan else infinite (s != decide (p < 0))
  | infinite s, infinite t => infinite (s != t)
  | nan, _ | _, nan => nan

def div : Extended → Extended → Extended
  | finite p, finite q => if q = 0 then if p = 0 then nan else infinite (decide (p < 0)) else finite (p / q)
  | finite _, infinite _ => finite 0
  | infinite s, finite q => infinite (s != decide (q < 0))
  | infinite _, infinite _ => nan
  | nan, _ | _, nan => nan

def lt : Extended → Extended → Bool
  | finite p, finite q => decide (p < q)
  | finite _, infinite s => !s
  | infinite s, finite _ => s
  | infinite s, infinite t => s && !t
  | nan, _ | _, nan => false

def eq : Extended → Extended → Bool
  | finite p, finite q => decide (p = q)
  | infinite s, infinite t => s == t
  | _, _ => false

/-- A function of finite numbers. The infinities go to given values. -/
def extend (f : ℚ → Extended) (atNegative atPositive : Extended) : Extended → Extended
  | nan => nan
  | infinite true => atNegative
  | infinite false => atPositive
  | finite p => f p

/-- A function that keeps the infinities. -/
def map (f : ℚ → ℚ) : Extended → Extended := extend (finite ∘ f) (infinite true) (infinite false)

def map₂ (f : ℚ → ℚ → ℚ) : Extended → Extended → Extended
  | finite p, finite q => finite (f p q)
  | _, _ => nan

/-- A logarithm, of which only the values at positive numbers are given. -/
def logarithm (f : ℚ → ℚ) : Extended → Extended :=
  extend (fun p => if 0 < p then finite (f p) else if p = 0 then infinite true else nan) nan (infinite false)

/-- The finite number, or zero. -/
def toRat : Extended → ℚ
  | finite p => p
  | _ => 0

end Extended

open Extended in
instance : Scalar Extended where
  add := add
  sub x y := add x (neg y)
  mul := mul
  div := div
  neg := neg
  lt x y := lt x y
  le x y := lt x y || eq x y
  beq := eq
  ofScientific m s e := finite (OfScientific.ofScientific m s e)
  decLt _ _ := inferInstanceAs (Decidable (_ = true))
  decLe _ _ := inferInstanceAs (Decidable (_ = true))
  ofNat n := finite n
  toNat x := Scalar.toNat x.toRat
  floor := map Scalar.floor
  ceil := map Scalar.ceil
  round := map Scalar.round
  rem := map₂ Scalar.rem
  floorLog2 x := Scalar.floorLog2 x.toRat
  twoPow n := finite (Scalar.twoPow n)
  isFinite
    | finite _ => true
    | _ => false

open Extended in
instance : Analysis Extended where
  sqrt := extend (fun p => if p < 0 then nan else finite (Analysis.sqrt p)) nan (infinite false)
  exp := extend (finite ∘ Analysis.exp) (finite 0) (infinite false)
  ln := logarithm Analysis.ln
  log10 := logarithm Analysis.log10
  tenPow := extend (finite ∘ Analysis.tenPow) (finite 0) (infinite false)
  hypot := map₂ Analysis.hypot
  atan2 := map₂ Analysis.atan2
  pi := finite Analysis.pi
  negInfinity := infinite true

namespace Extended

@[simp] theorem isNaN_nan : Scalar.isNaN nan = true := rfl

@[simp] theorem isNaN_infinite (s : Bool) : Scalar.isNaN (infinite s) = false := by cases s <;> rfl

@[simp] theorem isNaN_finite (p : ℚ) : Scalar.isNaN (finite p) = false := by
  simp [Scalar.isNaN, BEq.beq, eq]

theorem lt_iff (x y : Extended) : x < y ↔ lt x y = true := Iff.rfl

theorem beq_eq (x y : Extended) : (x == y) = eq x y := rfl

theorem le_iff (x y : Extended) : x ≤ y ↔ lt x y = true ∨ eq x y = true := Bool.or_eq_true_iff

@[simp] theorem finite_lt_finite (p q : ℚ) : finite p < finite q ↔ p < q := by
  simp [lt_iff, lt]

@[simp] theorem finite_le_finite (p q : ℚ) : finite p ≤ finite q ↔ p ≤ q := by
  simp [Extended.le_iff, lt, eq, le_iff_lt_or_eq]

end Extended

open Extended in
instance : Scalar.LawfulOrder Extended where
  lt_irrefl x := by
    cases x <;> simp [lt_iff, lt]
  lt_trans {x y z} := by
    cases x <;> cases y <;> cases z <;> grind [lt_iff, lt]
  lt_of_lt_of_le {x y z} := by
    cases x <;> cases y <;> cases z <;> grind [lt_iff, le_iff, lt, eq]
  le_trans {x y z} := by
    cases x <;> cases y <;> cases z <;> grind [le_iff, lt, eq]
  le_of_lt {x y} h := (le_iff x y).2 (.inl h)
  le_of_not_lt {x y} := by
    cases x <;> cases y <;> grind [lt_iff, le_iff, lt, eq, isNaN_nan]
  not_lt_of_isNaN {x y} := by
    cases x <;> cases y <;> simp [lt_iff, lt]

open Extended in
instance : Scalar.LawfulRanking Extended where
  not_le_of_isNaN {x y} h := by
    cases x <;> simp_all [le_iff, lt, eq]

open Extended in
instance : Scalar.LawfulEquality Extended where
  beq_of_le_of_le {x y} := by
    rw [beq_eq]
    cases x <;> cases y <;> grind [le_iff, lt, eq]

open Extended in
instance : Scalar.LawfulUnit Extended where
  isNaN_zero := isNaN_finite _
  isNaN_one := isNaN_finite _
  zero_le_one := by decide +kernel

open Extended in
instance : Scalar.LawfulReciprocal Extended where
  zero_le_reciprocal {x} h := by
    cases x with
    | nan => cases h
    | infinite s => exact (show (0.0 : Extended) ≤ finite 0 by decide +kernel)
    | finite p =>
      have hp : (0.0 : ℚ) < p := (finite_lt_finite _ _).1 h
      have hne : p ≠ 0 := by
        rintro rfl
        exact absurd hp (by decide +kernel)
      have hdiv : (1.0 : Extended) / finite p = finite (1.0 / p) := if_neg hne
      rw [hdiv]
      exact (finite_le_finite _ _).2 (Scalar.LawfulReciprocal.zero_le_reciprocal hp)

end Sidelink
