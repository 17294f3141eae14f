import Sidelink.Fault
import Sidelink.Proofs.Scalar.Decibel
import Sidelink.Proofs.Scalar.Extended

/-!
# Scalars that are not negative

The powers of finite levels are numbers and not negative, and so are their sums and their means. A sum may leave the
range of finite scalars, but it never becomes a value that is no number. Such values can be ranked.
-/

namespace Sidelink.Scalar

/-- A number that is not negative. It need not be finite. -/
structure Nonneg {α : Type} [Scalar α] (x : α) : Prop where
  isNaN_eq : isNaN x = false
  zero_le : 0.0 ≤ x

/-- Binary64 keeps these laws as well, since only a difference or a quotient of infinities is no number. -/
class LawfulMeans (α : Type) [Analysis α] : Prop extends LawfulRanking α where
  nonneg_zero : Nonneg (0.0 : α)
  nonneg_dbmToMw {x : α} : isFinite x = true → Nonneg (dbmToMw x)
  nonneg_add {x y : α} : Nonneg x → Nonneg y → Nonneg (x + y)
  nonneg_div_ten {x : α} : Nonneg x → Nonneg (x / 10.0)
  nonneg_div_ofNat {x : α} {n : Nat} : Nonneg x → 0 < n → n < limit16 → Nonneg (x / ofNat n)

variable {α : Type} [Analysis α] [LawfulMeans α]

open LawfulMeans

theorem Nonneg.sum {xs : List α} (h : ∀ x ∈ xs, Nonneg x) : Nonneg (Scalar.sum xs) := by
  have hfrom (start : α) (hstart : Nonneg start) : Nonneg (xs.foldl (· + ·) start) := by
    induction xs generalizing start with
    | nil => exact hstart
    | cons x rest ih =>
      obtain ⟨hx, hrest⟩ := List.forall_mem_cons.1 h
      exact ih hrest _ (nonneg_add hstart hx)
  exact hfrom _ nonneg_zero

/-! ## Ranking -/

section

variable {α : Type} [Scalar α]

theorem rankLe_iff {x y : α} : rankLe x y = true ↔ isNaN y = true ∨ x ≤ y := by
  simp [rankLe]

variable [LawfulRanking α]

open LawfulOrder LawfulRanking

theorem rankLe_trans (x y z : α) (hxy : rankLe x y = true) (hyz : rankLe y z = true) : rankLe x z = true := by
  rw [rankLe_iff] at hxy hyz ⊢
  rcases hyz with hz | hyz
  · exact .inl hz
  · rcases hxy with hy | hxy
    · exact absurd hyz (not_le_of_isNaN hy)
    · exact .inr (le_trans hxy hyz)

theorem rankLe_total (x y : α) : (rankLe x y || rankLe y x) = true := by
  rw [Bool.or_eq_true, rankLe_iff, rankLe_iff]
  cases hx : isNaN x with
  | true => exact .inr (.inl rfl)
  | false =>
    cases hy : isNaN y with
    | true => exact .inl (.inl rfl)
    | false =>
      by_cases hlt : x < y
      · exact .inl (.inr (le_of_lt hlt))
      · exact .inr (.inr (le_of_not_lt hx hy hlt))

theorem pairwise_le_of_ranked {β : Type} {xs : List (α × β)} (h : ∀ x ∈ xs, isNaN x.1 = false) :
    (xs.mergeSort fun a b => rankLe a.1 b.1).Pairwise fun a b => a.1 ≤ b.1 := by
  have hranked : (xs.mergeSort fun a b => rankLe a.1 b.1).Pairwise fun a b => rankLe a.1 b.1 = true :=
    List.pairwise_mergeSort (fun a b c => rankLe_trans a.1 b.1 c.1) (fun a b => rankLe_total a.1 b.1) xs
  refine hranked.imp_of_mem fun {a b} _ hb hle => ?_
  rw [rankLe_iff, h b (List.mem_mergeSort.1 hb)] at hle
  exact hle.resolve_left (by simp)

end

/-! ## Rationals, and rationals with infinities -/

theorem nonneg_rat {q : ℚ} : Nonneg q ↔ 0 ≤ q := by
  have hzero : (0.0 : ℚ) = 0 := by decide +kernel
  constructor
  · intro h
    rw [← hzero]
    exact h.zero_le
  · intro h
    exact ⟨by simp [isNaN], by rwa [hzero]⟩

instance : LawfulMeans ℚ where
  nonneg_zero := nonneg_rat.2 (by decide +kernel)
  nonneg_dbmToMw _ := nonneg_rat.2 (Rational.tenPow_pos _).le
  nonneg_add hx hy := nonneg_rat.2 (add_nonneg (nonneg_rat.1 hx) (nonneg_rat.1 hy))
  nonneg_div_ten hx := nonneg_rat.2 (div_nonneg (nonneg_rat.1 hx) (by decide +kernel))
  nonneg_div_ofNat hx _ _ := nonneg_rat.2 (div_nonneg (nonneg_rat.1 hx) (Nat.cast_nonneg _))

open Extended in
theorem nonneg_extended {x : Extended} : Nonneg x ↔ x = infinite false ∨ ∃ q : ℚ, 0 ≤ q ∧ x = finite q := by
  have hzero : (0.0 : Extended) = finite 0 := by
    have h : (0.0 : ℚ) = 0 := by decide +kernel
    exact congrArg finite h
  constructor
  · rintro ⟨hnan, hle⟩
    rw [hzero] at hle
    cases x with
    | nan => simp at hnan
    | infinite s =>
      cases s with
      | true => simp [Extended.le_iff, lt, eq] at hle
      | false => exact .inl rfl
    | finite q => exact .inr ⟨q, (finite_le_finite _ _).1 hle, rfl⟩
  · rintro (rfl | ⟨q, hq, rfl⟩)
    · exact ⟨isNaN_infinite _, by simp [hzero, Extended.le_iff, lt]⟩
    · exact ⟨isNaN_finite _, by rwa [hzero, finite_le_finite]⟩

open Extended in
theorem nonneg_div_finite {x : Extended} {q : ℚ} (hx : Nonneg x) (hq : 0 < q) : Nonneg (x / finite q) := by
  rw [nonneg_extended] at hx ⊢
  rcases hx with rfl | ⟨p, hp, rfl⟩
  · have hdiv : infinite false / finite q = infinite (false != decide (q < 0)) := rfl
    exact .inl (by simp [hdiv, hq.le])
  · have hdiv : finite p / finite q = finite (p / q) := if_neg hq.ne'
    exact .inr ⟨p / q, div_nonneg hp hq.le, hdiv⟩

open Extended in
instance : LawfulMeans Extended where
  nonneg_zero := nonneg_extended.2 (.inr ⟨0.0, by decide +kernel, rfl⟩)
  nonneg_dbmToMw {x} h := by
    cases x with
    | nan => cases h
    | infinite => cases h
    | finite q =>
      have hdiv : finite q / (10.0 : Extended) = finite (q / 10.0) := if_neg (by decide +kernel)
      rw [dbmToMw, hdiv]
      exact nonneg_extended.2 (.inr ⟨_, (Rational.tenPow_pos (q / 10.0)).le, rfl⟩)
  nonneg_add {x y} hx hy := by
    rw [nonneg_extended] at hx hy ⊢
    rcases hx with rfl | ⟨p, hp, rfl⟩ <;> rcases hy with rfl | ⟨q, hq, rfl⟩
    · exact .inl rfl
    · exact .inl rfl
    · exact .inl rfl
    · exact .inr ⟨p + q, add_nonneg hp hq, rfl⟩
  nonneg_div_ten hx := nonneg_div_finite hx (by decide +kernel)
  nonneg_div_ofNat hx hpos _ := nonneg_div_finite hx (Nat.cast_pos.2 hpos)

end Sidelink.Scalar
