import Mathlib.Data.Int.Order.Basic
import Mathlib.Data.Nat.Cast.Order.Ring
import Mathlib.Data.Prod.Lex
import Mathlib.Order.Compare
import Sidelink.Proofs.Scalar.Order
import Sidelink.Scalar.Binary64

/-!
# The order of binary64

Floats are compared by sign, then by exponent and then by mantissa. Each of them but the value that is no number has a
place in this order, and the two zeros have the same one. So what is proved of scalars with a lawful order holds of the
scalars that the program runs on.
-/

namespace Sidelink

namespace Binary64

open Float.Model UnpackedFloat

/-- The side of zero, then the exponent and then the mantissa. Below zero both run downward. -/
def place? : UnpackedFloat → Option (ℤ ×ₗ ℤ ×ₗ ℤ)
  | .notANumber => none
  | .infinity .negative => some (toLex (-2, toLex (0, 0)))
  | .finite .negative m e _ => some (toLex (-1, toLex (-e, -m)))
  | .zero _ => some (toLex (0, toLex (0, 0)))
  | .finite .positive m e _ => some (toLex (1, toLex (e, m)))
  | .infinity .positive => some (toLex (2, toLex (0, 0)))

theorem compare_natCast (m n : ℕ) : compare (m : ℤ) n = compare m n := by
  rw [← cmp_eq_compare, ← cmp_eq_compare]
  exact Nat.strictMono_cast.cmp_map_eq m n

theorem compare_neg (a b : ℤ) : compare (-a) (-b) = (compare a b).swap := by
  have hanti : StrictAnti (fun x : ℤ => -x) := fun _ _ => Int.neg_lt_neg
  rw [← cmp_eq_compare, ← cmp_eq_compare, cmp_swap]
  exact hanti.cmp_map_eq a b

theorem compare_toLex (a b c a' b' c' : ℤ) : compare (toLex (a, toLex (b, c))) (toLex (a', toLex (b', c'))) =
    (compare a a').then ((compare b b').then (compare c c')) := by
  rw [Prod.Lex.compare_def]
  rfl

/-- What is no number is compared with nothing. Any two others are compared as their places are. -/
theorem compare_eq_places (x y : UnpackedFloat) : x.compare y = Option.map₂ compare (place? x) (place? y) := by
  cases x with
  | notANumber => rfl
  | infinity s =>
    cases s <;> cases y with
    | notANumber | zero => rfl
    | infinity t | finite t => cases t <;> rfl
  | zero =>
    cases y with
    | notANumber | zero => rfl
    | infinity t | finite t => cases t <;> rfl
  | finite s m e =>
    cases y with
    | notANumber | zero => cases s <;> rfl
    | infinity t => cases s <;> cases t <;> rfl
    | finite t n f =>
      cases s with
      | positive =>
        cases t with
        | positive =>
          refine congrArg some (Eq.trans ?_ (compare_toLex 1 e m 1 f n).symm)
          rw [compare_natCast]
          rfl
        | negative => rfl
      | negative =>
        cases t with
        | positive => rfl
        | negative =>
          refine congrArg some (Eq.trans ?_ (compare_toLex (-1) (-e) (-m) (-1) (-f) (-n)).symm)
          rw [compare_neg e f, compare_neg m n, compare_natCast, ← Ordering.swap_then]
          rfl

/-! ## Comparisons -/

/-- The place of the number that the bits of a float stand for. -/
def placeOf? (x : Float) : Option (ℤ ×ₗ ℤ ×ₗ ℤ) := place? x.toModel.unpack

variable {x y : Float}

theorem lt_iff_places : x < y ↔ ∃ p ∈ placeOf? x, ∃ q ∈ placeOf? y, p < q := by
  refine decide_eq_true_iff.trans ?_
  show (x.toModel.unpack.compare y.toModel.unpack == some .lt) = true ↔ _
  rw [compare_eq_places]
  unfold placeOf?
  cases place? x.toModel.unpack <;> cases place? y.toModel.unpack <;> simp [compare_lt_iff_lt]

theorem le_iff_places : x ≤ y ↔ ∃ p ∈ placeOf? x, ∃ q ∈ placeOf? y, p ≤ q := by
  refine decide_eq_true_iff.trans ?_
  show (x.toModel.unpack.compare y.toModel.unpack).any (·.isLE) = true ↔ _
  rw [compare_eq_places]
  unfold placeOf?
  cases place? x.toModel.unpack <;> cases place? y.toModel.unpack <;>
    simp [Ordering.isLE_iff_ne_gt, compare_le_iff_le]

theorem beq_iff_places : x == y ↔ ∃ p, p ∈ placeOf? x ∧ p ∈ placeOf? y := by
  show (x.toModel.unpack.compare y.toModel.unpack == some .eq) = true ↔ _
  rw [compare_eq_places]
  unfold placeOf?
  cases place? x.toModel.unpack with
  | none => simp
  | some p =>
    cases place? y.toModel.unpack with
    | none => simp
    | some q => simpa [compare_eq_iff_eq] using eq_comm

theorem isNaN_iff_places : Scalar.isNaN x = true ↔ placeOf? x = none := by
  unfold Scalar.isNaN
  rw [Bool.not_eq_true', ← Bool.not_eq_true, beq_iff_places]
  cases placeOf? x <;> simp

end Binary64

open Binary64

instance : Scalar.LawfulOrder Float where
  lt_irrefl x h := by
    obtain ⟨p, hp, q, hq, hlt⟩ := lt_iff_places.1 h
    obtain rfl := Option.mem_unique hp hq
    exact lt_irrefl p hlt
  lt_trans h h' := by
    obtain ⟨p, hp, q, hq, hlt⟩ := lt_iff_places.1 h
    obtain ⟨q', hq', r, hr, hlt'⟩ := lt_iff_places.1 h'
    obtain rfl := Option.mem_unique hq hq'
    exact lt_iff_places.2 ⟨p, hp, r, hr, hlt.trans hlt'⟩
  lt_of_lt_of_le h h' := by
    obtain ⟨p, hp, q, hq, hlt⟩ := lt_iff_places.1 h
    obtain ⟨q', hq', r, hr, hle⟩ := le_iff_places.1 h'
    obtain rfl := Option.mem_unique hq hq'
    exact lt_iff_places.2 ⟨p, hp, r, hr, hlt.trans_le hle⟩
  le_trans h h' := by
    obtain ⟨p, hp, q, hq, hle⟩ := le_iff_places.1 h
    obtain ⟨q', hq', r, hr, hle'⟩ := le_iff_places.1 h'
    obtain rfl := Option.mem_unique hq hq'
    exact le_iff_places.2 ⟨p, hp, r, hr, hle.trans hle'⟩
  le_of_lt h := by
    obtain ⟨p, hp, q, hq, hlt⟩ := lt_iff_places.1 h
    exact le_iff_places.2 ⟨p, hp, q, hq, hlt.le⟩
  le_of_not_lt {x y} hx hy h := by
    rw [← Bool.not_eq_true, isNaN_iff_places] at hx hy
    obtain ⟨p, hp⟩ := Option.ne_none_iff_exists'.1 hx
    obtain ⟨q, hq⟩ := Option.ne_none_iff_exists'.1 hy
    exact le_iff_places.2 ⟨q, hq, p, hp, not_lt.1 fun hlt => h (lt_iff_places.2 ⟨p, hp, q, hq, hlt⟩)⟩
  not_lt_of_isNaN {x y} h := by
    rw [isNaN_iff_places] at h
    constructor
    · intro hlt
      obtain ⟨p, hp, -⟩ := lt_iff_places.1 hlt
      rw [h] at hp
      cases hp
    · intro hlt
      obtain ⟨-, -, q, hq, -⟩ := lt_iff_places.1 hlt
      rw [h] at hq
      cases hq

instance : Scalar.LawfulUnit Float where
  isNaN_zero := by decide +kernel
  isNaN_one := by decide +kernel
  zero_le_one := by decide +kernel

instance : Scalar.LawfulRanking Float where
  not_le_of_isNaN h hle := by
    obtain ⟨p, hp, -⟩ := le_iff_places.1 hle
    rw [isNaN_iff_places.1 h] at hp
    cases hp

instance : Scalar.LawfulEquality Float where
  beq_of_le_of_le h h' := by
    obtain ⟨p, hp, q, hq, hle⟩ := le_iff_places.1 h
    obtain ⟨q', hq', p', hp', hle'⟩ := le_iff_places.1 h'
    obtain rfl := Option.mem_unique hp hp'
    obtain rfl := Option.mem_unique hq hq'
    obtain rfl := le_antisymm hle hle'
    exact beq_iff_places.2 ⟨p, hp, hq⟩

end Sidelink
